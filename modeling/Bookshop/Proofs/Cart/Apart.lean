import Bookshop.Proofs.Cart.Atomic
import Bookshop.Proofs.Storage.Apart

/-!
# Carts under different keys do not interfere

Several carts may be saved in one medium, each under a key of its own, and be used in any order. All
that is done to a saved cart is made of accesses to its key, so it is a matter of that key
(`SavedCall.on_concerns`). A run of calls is then, for each key, the run of the calls to that key
alone (`runAll_alone`): the answers are the same, and so is what is stored for the key in the end.

The main statement is `carts_apart`, for carts in memory and in a folder.
-/

namespace Bookshop

variable {α β σ : Type} {Same : String → σ → σ → Prop} {key : String} {medium : Medium σ}

/-! ### Runs of calls to many keys -/

/-- A run of calls that concern one key each is, for any of the keys, the run of the calls to that
    key alone. The answers carry the keys. -/
theorem runAll_alone {keyOf : α → String} {call : α → σ → (String × β) × σ}
    (hcall : ∀ a, Concerns Same (keyOf a) (call a))
    (hkeys : ∀ a state, (call a state).1.1 = keyOf a) (calls : List α) {state state' : σ}
    (h : Same key state state') :
    let run := runAll call calls state
    let alone := runAll call (calls.filter (keyOf · = key)) state'
    run.1.filter (·.1 = key) = alone.1 ∧ Same key run.2 alone.2 := by
  induction calls generalizing state state' with
  | nil => exact ⟨rfl, h⟩
  | cons a calls ih =>
    by_cases hkey : keyOf a = key
    · subst hkey
      obtain ⟨hsame, hafter⟩ := (hcall a).own h
      obtain ⟨hanswers, hlast⟩ := ih hafter
      simp only [runAll, List.filter_cons, hkeys, decide_true, if_true]
      exact ⟨by rw [hanswers, hsame], hlast⟩
    · -- The call is not one of those that run alone, and the key does not notice it.
      have hafter := (hcall a).others (Ne.symm hkey) h
      obtain ⟨hanswers, hlast⟩ := ih hafter
      simp only [runAll, List.filter_cons, hkeys, hkey, decide_false, Bool.false_eq_true, if_false]
      exact ⟨hanswers, hlast⟩

/-! ### Calls to saved carts -/

/-- All that can be asked of a saved cart: the uses, and the figures of the cart shown. -/
inductive CartRequest where
  | use (use : Use)
  | total
  | unitCount
deriving DecidableEq, Repr

inductive CartReply where
  | answer (answer : Answer)
  | total (amount : Money)
  | unitCount (units : Int64)

/-- A request to the cart that is saved under a key. -/
structure SavedCall where
  key : String
  request : CartRequest
deriving DecidableEq, Repr

/-- What the call gives, under its key. -/
def SavedCall.on (medium : Medium σ) (call : SavedCall) (state : σ) : (String × CartReply) × σ :=
  let saved : SavedCart σ := ⟨medium, call.key⟩
  match call.request with
  | .use use =>
    let (answer, state) := use.onSaved saved state
    ((call.key, .answer answer), state)
  | .total =>
    let (amount, state) := saved.total state
    ((call.key, .total amount), state)
  | .unitCount =>
    let (units, state) := saved.unitCount state
    ((call.key, .unitCount units), state)

theorem SavedCall.key_on (medium : Medium σ) (call : SavedCall) (state : σ) :
    (call.on medium state).1.1 = call.key := by
  unfold on
  cases call.request with
  | use use => rfl
  | total => rfl
  | unitCount => rfl

/-! ### Saved carts -/

namespace SavedCart

/-- What keeping a cart answers, from what the medium answers. -/
def kept (cart : Cart) : Except StorageError Unit → Except CartError Cart
  | .ok () => .ok cart
  | .error e => .error (.storage e)

theorem keep_eq_kept (saved : SavedCart σ) (cart : Cart) (state : σ) :
    saved.keep cart state =
      (kept cart (saved.medium.set saved.key (SavedLines.codec.write ⟨cart.lines⟩) state).1,
        (saved.medium.set saved.key (SavedLines.codec.write ⟨cart.lines⟩) state).2) := by
  unfold keep save Medium.save
  dsimp only
  rcases saved.medium.set saved.key (SavedLines.codec.write ⟨cart.lines⟩) state with ⟨answer, after⟩
  cases answer with
  | ok _ => rfl
  | error e => rfl

/-- What discarding answers, from what the medium answers. -/
def discarded : Except StorageError Unit → Except CartError Unit
  | .ok () => .ok ()
  | .error e => .error (.storage e)

theorem discard_eq_discarded (saved : SavedCart σ) (state : σ) :
    saved.discard state =
      (discarded (saved.medium.delete saved.key state).1,
        (saved.medium.delete saved.key state).2) := by
  unfold discard
  rcases saved.medium.delete saved.key state with ⟨answer, after⟩
  cases answer with
  | ok _ => rfl
  | error e => rfl

/-- What is done with the cart that was read. -/
def edited (saved : SavedCart σ) (edit : Cart → Except CartError (Option Cart)) :
    Except CartError Cart → σ → Except CartError Cart × σ
  | .error e => fun state => (.error e, state)
  | .ok cart =>
    match edit cart with
    | .error e => fun state => (.error e, state)
    | .ok none => fun state => (.ok cart, state)
    | .ok (some changed) => saved.keep changed

theorem change_eq_edited (saved : SavedCart σ) (edit : Cart → Except CartError (Option Cart))
    (state : σ) :
    saved.change edit state = saved.edited edit (saved.load state).1 (saved.load state).2 := by
  unfold change
  rcases saved.load state with ⟨answer, after⟩
  cases answer with
  | error e => rfl
  | ok cart =>
    dsimp only [edited]
    cases edit cart with
    | error e => rfl
    | ok changed? => cases changed? <;> rfl

section Concerns

variable (hmedium : medium.KeepsApart Same)
include hmedium

theorem load_concerns (key : String) :
    Concerns Same key (⟨medium, key⟩ : SavedCart σ).load := by
  rw [funext (load_eq_loaded ⟨medium, key⟩)]
  exact (hmedium.get key).map Cart.loaded

theorem current_concerns (key : String) :
    Concerns Same key (⟨medium, key⟩ : SavedCart σ).current := by
  rw [funext (current_eq_ofAnswer ⟨medium, key⟩)]
  exact (hmedium.get key).map Cart.ofAnswer

theorem keep_concerns (key : String) (cart : Cart) :
    Concerns Same key ((⟨medium, key⟩ : SavedCart σ).keep cart) := by
  rw [funext (keep_eq_kept ⟨medium, key⟩ cart)]
  exact (hmedium.set key _).map (kept cart)

theorem change_concerns (key : String) (edit : Cart → Except CartError (Option Cart)) :
    Concerns Same key ((⟨medium, key⟩ : SavedCart σ).change edit) := by
  rw [funext (change_eq_edited ⟨medium, key⟩ edit)]
  apply (load_concerns hmedium key).bind
  intro answer
  cases answer with
  | error e => exact .answer _
  | ok cart =>
    dsimp only [edited]
    cases edit cart with
    | error e => exact .answer _
    | ok changed? =>
      cases changed? with
      | none => exact .answer _
      | some changed => exact keep_concerns hmedium key changed

theorem discard_concerns (key : String) :
    Concerns Same key (⟨medium, key⟩ : SavedCart σ).discard := by
  rw [funext (discard_eq_discarded ⟨medium, key⟩)]
  exact (hmedium.delete key).map discarded

end Concerns

end SavedCart

theorem Use.onSaved_concerns (hmedium : medium.KeepsApart Same) (key : String) (use : Use) :
    Concerns Same key (use.onSaved ⟨medium, key⟩) := by
  rcases use.kinds with ⟨change, hchange⟩ | rfl | rfl
  · rw [funext (Use.onSaved_change hchange ⟨medium, key⟩)]
    exact (SavedCart.change_concerns hmedium key change.outcome).map Answer.changed
  · exact (SavedCart.discard_concerns hmedium key).map Answer.discarded
  · exact (SavedCart.current_concerns hmedium key).map Answer.shown

theorem SavedCall.on_concerns (hmedium : medium.KeepsApart Same) (call : SavedCall) :
    Concerns Same call.key (call.on medium) := by
  obtain ⟨key, request⟩ := call
  have hcurrent := SavedCart.current_concerns hmedium key
  cases request with
  | use use =>
    exact (use.onSaved_concerns hmedium key).map fun answer => (key, CartReply.answer answer)
  | total => exact hcurrent.map fun cart => (key, CartReply.total cart.total)
  | unitCount => exact hcurrent.map fun cart => (key, CartReply.unitCount cart.unitCount)

/-! ### Runs -/

/-- The calls to each key do not interfere with those to any other: they are answered as if they had
    run alone, and leave under the key what they would have left alone. A key without calls reads as
    it did before. -/
structure RunApart (medium : Medium σ) (calls : List SavedCall) (start : σ) : Prop where
  answers : ∀ key, (runAll (SavedCall.on medium) calls start).1.filter (·.1 = key) =
    (runAll (SavedCall.on medium) (calls.filter (·.key = key)) start).1
  entries : ∀ key, (medium.get key (runAll (SavedCall.on medium) calls start).2).1 =
    (medium.get key (runAll (SavedCall.on medium) (calls.filter (·.key = key)) start).2).1
  untouched : ∀ key, (∀ call ∈ calls, call.key ≠ key) →
    (medium.get key (runAll (SavedCall.on medium) calls start).2).1 = (medium.get key start).1

theorem runApart_of_keepsApart (hmedium : medium.KeepsApart Same) (calls : List SavedCall)
    {start : σ} (hstart : ∀ key, Same key start start) : RunApart medium calls start := by
  have halone (key : String) := runAll_alone (SavedCall.on_concerns hmedium)
    (SavedCall.key_on medium) calls (hstart key)
  have hentries (key : String) := ((hmedium.get key).own (halone key).2).1
  refine ⟨fun key => (halone key).1, hentries, ?_⟩
  intro key hcalls
  have hnone : calls.filter (·.key = key) = [] := by
    rw [List.filter_eq_nil_iff]
    intro call hcall
    simpa using hcalls call hcall
  rw [hentries key, hnone]
  rfl

/-- **Carts under different keys do not interfere.** In memory and in a folder, whatever is stored
    there before, calls to carts under any keys come in any order. For each key the answers of the
    calls to it, and what is stored under it in the end, are those of a run of these calls alone,
    and what is stored under a key without calls stays as it is. The keys are arbitrary texts, and
    names that the operating system does not take are no exception. -/
theorem carts_apart (calls : List SavedCall) :
    (∀ memory : Memory, RunApart Memory.medium calls memory) ∧
      ∀ (location : Location) (disk : FileSystem), location.number < disk.folders.size →
        RunApart (FileSystem.mediumAt location) calls disk := by
  constructor
  · intro memory
    exact runApart_of_keepsApart Memory.keepsApart calls fun _ => rfl
  · intro location disk hlocation
    apply runApart_of_keepsApart (FileSystem.keepsApart location)
    intro key
    exact ⟨hlocation, hlocation, .refl key _⟩

/-- A folder in which another folder has the name of the file of one key, which therefore cannot be
    read. The calls to the cart under another key go on as if there were no others. -/
theorem carts_apart_folder_in_the_way :
    let atlas : Product := ⟨⟨"A"⟩, "Atlas", none, none, ⟨250⟩⟩
    let disk := (FileSystem.empty.addFolder "shop" 0).addFolder "atlas.json" 1
    let medium := FileSystem.mediumAt ⟨1, "shop"⟩
    let calls : List SavedCall := [⟨"cart", .use (.add atlas 2)⟩, ⟨"atlas", .use (.add atlas 1)⟩,
      ⟨"cart", .unitCount⟩, ⟨"atlas", .use .discard⟩, ⟨"cart", .total⟩]
    1 < disk.folders.size ∧ (medium.get "atlas" disk).1 = .error (.file .isFolder) ∧
      RunApart medium calls disk ∧
      (runAll (SavedCall.on medium) calls disk).1.filter (·.1 = "cart") =
        (runAll (SavedCall.on medium)
          [⟨"cart", .use (.add atlas 2)⟩, ⟨"cart", .unitCount⟩, ⟨"cart", .total⟩] disk).1 := by
  intro atlas disk medium calls
  have hlocation : 1 < disk.folders.size := by decide
  have hrun : RunApart medium calls disk := (carts_apart calls).2 ⟨1, "shop"⟩ disk hlocation
  exact ⟨hlocation, rfl, hrun, hrun.answers "cart"⟩

end Bookshop
