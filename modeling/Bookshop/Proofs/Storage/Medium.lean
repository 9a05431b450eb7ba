import Bookshop.Storage.Medium

/-!
# Media that serve a key, media that fail

What a user of one key needs of a medium is said once: in good states the accesses to the key
succeed, and each of them does to the entry of the key what it is for. Whatever is proved of such
media holds of all places that entries are kept in.

A medium can also be watched, which writes down the accesses to it, and it can be made to fail, any
access by itself.
-/

namespace Bookshop

variable {σ : Type}

/-- In the good states the medium serves the key: `entry` is what it holds under the key, and every
    access succeeds and leads to a good state. -/
structure Medium.Serves (medium : Medium σ) (key : String) (Good : σ → Prop)
    (entry : σ → Option Bytes) : Prop where
  get : ∀ {state}, Good state → medium.get key state = (.ok (entry state), state)
  set : ∀ {state} (bytes : Bytes), Good state → ∃ after,
    medium.set key bytes state = (.ok (), after) ∧ Good after ∧ entry after = some bytes
  delete : ∀ {state}, Good state → ∃ after,
    medium.delete key state = (.ok (), after) ∧ Good after ∧ entry after = none

/-- Asking for a document does to the medium what asking for its bytes does. -/
theorem Medium.load_state (medium : Medium σ) (codec : Codec α) (key : String) (state : σ) :
    (medium.load codec key state).2 = (medium.get key state).2 := by
  unfold Medium.load
  rcases medium.get key state with ⟨answer, after⟩
  cases answer with
  | error e => rfl
  | ok found =>
    cases found with
    | none => rfl
    | some bytes => cases hread : codec.read bytes <;> simp only [hread]

theorem Memory.serves (key : String) :
    Memory.medium.Serves key (fun _ => True) fun memory => memory.get? key where
  get _ := rfl
  set _ _ := ⟨_, rfl, trivial, Table.get?_insert_self _ _ _⟩
  delete _ := ⟨_, rfl, trivial, Table.get?_erase_self _ _⟩

/-! ### Keeping note of accesses -/

/-- An access to a storage medium. -/
inductive Access where
  | get (key : String)
  | set (key : String) (bytes : Bytes)
  | delete (key : String)
deriving DecidableEq, Repr

/-- The medium that also writes down the accesses, in order. -/
def Medium.logged (medium : Medium σ) : Medium (σ × List Access) where
  get key s :=
    let (answer, state) := medium.get key s.1
    (answer, state, s.2 ++ [.get key])
  set key bytes s :=
    let (answer, state) := medium.set key bytes s.1
    (answer, state, s.2 ++ [.set key bytes])
  delete key s :=
    let (answer, state) := medium.delete key s.1
    (answer, state, s.2 ++ [.delete key])

/-! ### Steady readings -/

/-- Readings of the key do not disturb each other: a second one answers what the first one did,
    whether that is an entry or a failure. -/
def Medium.Steady (medium : Medium σ) (key : String) : Prop :=
  ∀ state, (medium.get key (medium.get key state).2).1 = (medium.get key state).1

theorem Memory.steady (key : String) : Memory.medium.Steady key := fun _ => rfl

/-- Failures that stay in force do not make a medium less steady. -/
theorem Medium.Steady.withFaults {medium : Medium σ} {key : String} (h : medium.Steady key) :
    medium.withFaults.Steady key := by
  intro s
  cases hfault : s.faults.get with
  | some e => simp only [Medium.withFaults, hfault]
  | none =>
    simp only [Medium.withFaults, hfault]
    exact h s.state

/-! ### Failing accesses -/

/-- A failure that a medium has on its own, whatever is stored. -/
inductive MediumFault where
  | opening (detail : String)
  | file (cause : FileFault)
  | operation (detail : String)
deriving DecidableEq, Repr

def MediumFault.error : MediumFault → StorageError
  | .opening detail => .opening detail
  | .file cause => .file cause
  | .operation detail => .operation detail

/-- One access out of many, the next one of which has the number `s.2`. It fails if the schedule has
    a failure under its number, and then it changes nothing. -/
def failingAccess (faults : Nat → Option MediumFault) (access : σ → Except StorageError α × σ)
    (s : σ × Nat) : Except StorageError α × σ × Nat :=
  match faults s.2 with
  | some fault => (.error fault.error, s.1, s.2 + 1)
  | none => ((access s.1).1, (access s.1).2, s.2 + 1)

/-- The medium whose accesses fail as a schedule has it, each by itself. -/
def Medium.failing (faults : Nat → Option MediumFault) (medium : Medium σ) : Medium (σ × Nat) where
  get key := failingAccess faults (medium.get key)
  set key bytes := failingAccess faults (medium.set key bytes)
  delete key := failingAccess faults (medium.delete key)

end Bookshop
