/-!
# What a page shows

Besides its own contents a page shows three things through its surroundings: the number of units
in the cart, an alert, and another page. What was shown is kept in order.
-/

namespace Bookshop

/-- Something that a page lets its surroundings show. -/
inductive Event where
  | badge (count : Int64)
  | alert (text : String)
  | navigate (path : String)
deriving DecidableEq, Repr

namespace Event

def alerts (events : List Event) : List String :=
  events.filterMap fun
    | .alert text => some text
    | _ => none

def badge? (events : List Event) : Option Int64 :=
  (events.filterMap fun
    | .badge count => some count
    | _ => none).getLast?

def navigation? (events : List Event) : Option String :=
  (events.filterMap fun
    | .navigate path => some path
    | _ => none).getLast?

end Event

/-- Everything outside a page: the storage, the services, and what was shown so far. -/
structure Surroundings (σ τ : Type) where
  storage : σ
  network : τ
  events : List Event := []

namespace Surroundings

variable {σ τ : Type}

def emit (around : Surroundings σ τ) (event : Event) : Surroundings σ τ :=
  { around with events := around.events ++ [event] }

def storing (around : Surroundings σ τ) (access : σ → α × σ) : α × Surroundings σ τ :=
  let (answer, storage) := access around.storage
  (answer, { around with storage })

def calling (around : Surroundings σ τ) (access : τ → α × τ) : α × Surroundings σ τ :=
  let (answer, network) := access around.network
  (answer, { around with network })

end Surroundings

end Bookshop
