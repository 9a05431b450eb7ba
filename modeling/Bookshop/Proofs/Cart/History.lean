import Bookshop.Proofs.Cart.Addition
import Mathlib.Data.List.DropRight
import Mathlib.Data.List.Induction
import Mathlib.Logic.Function.Basic

/-!
# What the history says of the lines

The steps that a cart has been through, with those that were refused, say what its lines are. A line
goes back to one addition: the first that succeeded after the last removal of its product. It has the
name and the price of that addition, and its quantity is what the additions and updates since then
make of it (`Traced`). Lines stand in the order of these additions, and a product has a line exactly
when there is one.

What a call does to the lines is said once (`Effect`). After one more call the history still tells of
the lines (`Tells.call`), so it does for every run from the empty cart (`history_tells_lines`).
-/

namespace Bookshop.Cart

/-! ### Histories -/

/-- A call and whether it succeeded. To remove a product that has no line succeeds, too. -/
structure Step where
  change : Change
  succeeded : Bool
deriving DecidableEq, Repr

namespace Step

/-- The quantity that a successful addition adds to a product. -/
def added? (code : ProductCode) : Step → Option Int64
  | ⟨.add other _ _ quantity, true⟩ => if other = code then some quantity else none
  | _ => none

/-- The positive quantity that a successful update gives to a product. -/
def set? (code : ProductCode) : Step → Option Int64
  | ⟨.update other quantity, true⟩ =>
    if other = code ∧ 0 < quantity.toInt then some quantity else none
  | _ => none

/-- Is the step a successful removal of the product? To update to a quantity that is not positive is
    to remove. -/
def removes (code : ProductCode) : Step → Bool
  | ⟨.update other quantity, true⟩ => other = code ∧ quantity.toInt ≤ 0
  | ⟨.remove other, true⟩ => other = code
  | _ => false

/-- What the step makes of the quantity of a product. -/
def units (code : ProductCode) (before : Int) (step : Step) : Int :=
  match step.set? code with
  | some quantity => quantity.toInt
  | none => before + ((step.added? code).map Int64.toInt).getD 0

end Step

namespace Change

def step (change : Change) (cart : Cart) : Step := ⟨change, (change.outcome cart).isOk⟩

/-- The steps that calls are, one after the other. -/
def history : List Change → Cart → List Step
  | [], _ => []
  | change :: changes, cart => change.step cart :: history changes (change.apply cart)

end Change

/-- The steps after the last removal of a product. -/
def sinceRemoval (code : ProductCode) (history : List Step) : List Step :=
  history.rtakeWhile fun step => !step.removes code

/-- The quantity that steps make of a first one: the last quantity that was set, or the first one if
    none was, and all that was added after it. -/
def unitsAfter (code : ProductCode) (first : Int64) (steps : List Step) : Int :=
  ((steps.filterMap (Step.set? code)).getLastD first).toInt +
    (((steps.rtakeWhile fun step => (step.set? code).isNone).filterMap
      (Step.added? code)).map Int64.toInt).sum

/-- The line goes back to the step at the index. -/
structure Traced (history : List Step) (index : Nat) (line : Line) : Prop where
  /-- The step added the product, under the name and at the price that the line has. The quantity is
      what the steps since then make of the quantity that was added. -/
  created : ∃ first,
    history[index]? = some ⟨.add line.code line.name line.price first, true⟩ ∧
      line.quantity.toInt = unitsAfter line.code first (history.drop (index + 1))
  /-- Between the last removal of the product and the step it was not added. -/
  first : ∀ step ∈ sinceRemoval line.code (history.take index), step.added? line.code = none
  /-- It was not removed after the step. -/
  kept : ∀ step ∈ history.drop (index + 1), step.removes line.code = false

/-- The history tells of the lines: each goes back to a step, in order, and a product without a line
    was not added since its last removal. -/
structure Tells (history : List Step) (lines : List Line) (created : ProductCode → Nat) : Prop where
  traced : ∀ line ∈ lines, Traced history (created line.code) line
  ordered : lines.Pairwise fun line other => created line.code < created other.code
  absent : ∀ code ∉ lines.map Line.code, ∀ step ∈ sinceRemoval code history,
    step.added? code = none

variable {cart : Cart} {code : ProductCode} {lines : List Line} {line : Line} {past : List Step}
  {step : Step} {index : Nat} {created : ProductCode → Nat}

/-! ### One step more -/

theorem Change.applyAll_concat (changes : List Change) (change : Change) (cart : Cart) :
    applyAll (changes ++ [change]) cart = change.apply (applyAll changes cart) := by
  rw [applyAll, List.foldl_append]
  rfl

theorem Change.history_concat (changes : List Change) (change : Change) (cart : Cart) :
    history (changes ++ [change]) cart =
      history changes cart ++ [change.step (applyAll changes cart)] := by
  induction changes generalizing cart with
  | nil => rfl
  | cons first changes ih =>
    rw [List.cons_append, history, history, ih, List.cons_append]
    rfl

theorem Step.units_of_none {before : Int} (hset : step.set? code = none)
    (hadded : step.added? code = none) : step.units code before = before := by
  simp [units, hset, hadded]

theorem unitsAfter_concat (first : Int64) (steps : List Step) (step : Step) :
    unitsAfter code first (steps ++ [step]) = step.units code (unitsAfter code first steps) := by
  cases hset : step.set? code with
  | some quantity => simp [unitsAfter, Step.units, hset]
  | none =>
    cases hadded : step.added? code with
    | some quantity => simp [unitsAfter, Step.units, hset, hadded, Int.add_assoc]
    | none => simp [unitsAfter, Step.units, hset, hadded]

theorem sinceRemoval_concat (code : ProductCode) (past : List Step) (step : Step) :
    sinceRemoval code (past ++ [step]) =
      if step.removes code then [] else sinceRemoval code past ++ [step] := by
  rw [sinceRemoval, List.rtakeWhile_concat]
  cases step.removes code with
  | true => rfl
  | false => rfl

/-- Steps that do not remove the product are all since its last removal. -/
theorem sinceRemoval_append {steps : List Step} (h : ∀ step ∈ steps, step.removes code = false) :
    sinceRemoval code (past ++ steps) = sinceRemoval code past ++ steps := by
  rw [sinceRemoval, List.rtakeWhile, List.reverse_append, List.takeWhile_append_of_pos]
  · rw [List.reverse_append, List.reverse_reverse, sinceRemoval, List.rtakeWhile]
  · intro step hstep
    rw [h step (List.mem_reverse.1 hstep)]
    rfl

theorem not_added_concat (h : ∀ step ∈ sinceRemoval code past, step.added? code = none)
    (hstep : step.removes code = true ∨ step.added? code = none) :
    ∀ later ∈ sinceRemoval code (past ++ [step]), later.added? code = none := by
  intro later hlater
  rw [sinceRemoval_concat] at hlater
  split at hlater
  · cases hlater
  · next hkept =>
    rcases List.mem_append.1 hlater with hlater | hlater
    · exact h later hlater
    · rw [List.mem_singleton.1 hlater]
      exact hstep.resolve_left hkept

theorem Traced.index_lt (h : Traced past index line) : index < past.length := by
  obtain ⟨first, hget, -⟩ := h.created
  exact (List.getElem?_eq_some_iff.1 hget).1

/-- A line that is not removed goes back to where it did, with what the step makes of it. -/
theorem Traced.concat (h : Traced past index line) (hkept : step.removes line.code = false)
    {quantity : Int64} (hquantity : quantity.toInt = step.units line.code line.quantity.toInt) :
    Traced (past ++ [step]) index { line with quantity } := by
  have hlt : index < past.length := h.index_lt
  have hdrop : (past ++ [step]).drop (index + 1) = past.drop (index + 1) ++ [step] :=
    List.drop_append_of_le_length hlt
  obtain ⟨⟨first, hget, hunits⟩, hfirst, hsince⟩ := h
  refine ⟨⟨first, ?_, ?_⟩, ?_, ?_⟩
  · rw [List.getElem?_append_left hlt]
    exact hget
  · rw [hdrop, unitsAfter_concat, ← hunits]
    exact hquantity
  · rw [List.take_append_of_le_length (Nat.le_of_lt hlt)]
    exact hfirst
  · intro later hlater
    rw [hdrop] at hlater
    rcases List.mem_append.1 hlater with hlater | hlater
    · exact hsince later hlater
    · rw [List.mem_singleton.1 hlater]
      exact hkept

/-! ### What a step does -/

/-- What a step does to the lines of a cart. -/
inductive Effect (cart : Cart) : Step → List Line → Prop where
  | refused (change : Change) : Effect cart ⟨change, false⟩ cart.lines
  | added {code : ProductCode} (name : String) (price : Money) {quantity sum : Int64}
      (hsum : sum.toInt = cart.quantityOf code + quantity.toInt) :
      Effect cart ⟨.add code name price quantity, true⟩ (place code name price sum cart.lines)
  | set (code : ProductCode) {quantity : Int64} (hpositive : 0 < quantity.toInt) :
      Effect cart ⟨.update code quantity, true⟩ (withQuantity code quantity cart.lines)
  | emptied (code : ProductCode) {quantity : Int64} (hquantity : quantity.toInt ≤ 0) :
      Effect cart ⟨.update code quantity, true⟩ (cart.lines.filter (·.code ≠ code))
  | removed (code : ProductCode) :
      Effect cart ⟨.remove code, true⟩ (cart.lines.filter (·.code ≠ code))

/-- A call that is refused leaves the lines as they were. -/
theorem Effect.of_error {change : Change} {e : CartError} (h : change.outcome cart = .error e) :
    Effect cart (change.step cart) (change.apply cart).lines := by
  have hstep : change.step cart = ⟨change, false⟩ := by rw [Change.step, h]; rfl
  rw [hstep, Change.apply_of_error h]
  exact .refused change

/-- What a call leads to if it is not refused. -/
theorem Effect.of_ok {change : Change} {changed? : Option Cart}
    (h : change.outcome cart = .ok changed?)
    (heffect : Effect cart ⟨change, true⟩ (changed?.getD cart).lines) :
    Effect cart (change.step cart) (change.apply cart).lines := by
  have hstep : change.step cart = ⟨change, true⟩ := by rw [Change.step, h]; rfl
  rw [hstep, Change.apply_of_ok h]
  exact heffect

theorem remove_lines {changed? : Option Cart} (h : cart.remove code = .ok changed?) :
    (changed?.getD cart).lines = cart.lines.filter (·.code ≠ code) := by
  unfold remove at h
  simp only at h
  split at h
  · next hlength =>
    cases h
    exact (List.filter_eq_self.2 (List.length_filter_eq_length_iff.1 hlength)).symm
  · split at h
    · cases h
    · next hcommit =>
      cases h
      exact (commit_eq_ok_iff.1 hcommit).1

theorem update_lines (hcart : cart.Valid) {quantity : Int64} (hpositive : 0 < quantity.toInt)
    {changed? : Option Cart} (h : cart.update code quantity = .ok changed?) :
    (changed?.getD cart).lines = withQuantity code quantity cart.lines := by
  by_cases hwithin : quantity.toInt ≤ 9999
  · by_cases hmem : code ∈ cart.lines.map Line.code
    · rw [update_of_present hcart ⟨hpositive, hwithin⟩ hmem] at h
      cases hcommit : commit (withQuantity code quantity cart.lines) with
      | error e =>
        rw [hcommit] at h
        cases h
      | ok changed =>
        rw [hcommit] at h
        cases h
        exact (commit_eq_ok_iff.1 hcommit).1
    · rw [update_of_absent ⟨hpositive, hwithin⟩ hmem] at h
      cases h
      exact (withQuantity_of_absent quantity hmem).symm
  · rw [update_of_above (by omega)] at h
    cases h

/-- **One step.** Whatever call a valid cart gets, this is what it does to the lines. -/
theorem Change.step_effect (change : Change) (hcart : cart.Valid) :
    Effect cart (change.step cart) (change.apply cart).lines := by
  cases houtcome : change.outcome cart with
  | error e => exact .of_error houtcome
  | ok changed? =>
    refine .of_ok houtcome ?_
    cases change with
    | add code name price quantity =>
      rw [outcome] at houtcome
      cases hadd : cart.add code name price quantity with
      | error e =>
        rw [hadd] at houtcome
        cases houtcome
      | ok changed =>
        rw [hadd] at houtcome
        cases houtcome
        obtain ⟨-, sum, hsum, -, hcommit⟩ := (add_eq_ok_iff hcart).1 hadd
        rw [Option.getD_some, (commit_eq_ok_iff.1 hcommit).1]
        exact .added name price hsum
    | update code quantity =>
      by_cases hpositive : 0 < quantity.toInt
      · rw [update_lines hcart hpositive houtcome]
        exact .set code hpositive
      · have hquantity : quantity.toInt ≤ 0 := by omega
        rw [outcome, update_of_not_positive hquantity] at houtcome
        rw [remove_lines houtcome]
        exact .emptied code hquantity
    | remove code =>
      rw [remove_lines houtcome]
      exact .removed code

/-! ### What keeps a history telling -/

/-- A step that removes nothing and makes no new line. -/
theorem Tells.map (h : Tells past lines created) {f : Line → Line}
    (hf : ∀ line ∈ lines, ∃ quantity : Int64, f line = { line with quantity } ∧
      quantity.toInt = step.units line.code line.quantity.toInt)
    (hkept : ∀ code, step.removes code = false)
    (habsent : ∀ code ∉ lines.map Line.code, step.added? code = none) :
    Tells (past ++ [step]) (lines.map f) created := by
  have hcode : ∀ line ∈ lines, (f line).code = line.code := by
    intro line hline
    obtain ⟨quantity, heq, -⟩ := hf line hline
    rw [heq]
  have hcodes : (lines.map f).map Line.code = lines.map Line.code := by
    rw [List.map_map]
    exact List.map_congr_left hcode
  refine ⟨?_, ?_, ?_⟩
  · intro other hother
    obtain ⟨line, hline, rfl⟩ := List.mem_map.1 hother
    obtain ⟨quantity, heq, hquantity⟩ := hf line hline
    rw [heq]
    exact (h.traced line hline).concat (hkept line.code) hquantity
  · rw [List.pairwise_map]
    refine h.ordered.imp_of_mem ?_
    intro line other hline hother hlt
    rw [hcode line hline, hcode other hother]
    exact hlt
  · intro code hcode
    rw [hcodes] at hcode
    exact not_added_concat (h.absent code hcode) (.inr (habsent code hcode))

/-- A step that gives a quantity to a product, or passes over a product without a line. -/
theorem Tells.withQuantity (h : Tells past lines created) {quantity : Int64}
    (hquantity : ∀ line ∈ lines, line.code = code →
      quantity.toInt = step.units code line.quantity.toInt)
    (hothers : ∀ other ≠ code, step.set? other = none ∧ step.added? other = none)
    (hkept : ∀ code, step.removes code = false)
    (habsent : code ∉ lines.map Line.code → step.added? code = none) :
    Tells (past ++ [step]) (Cart.withQuantity code quantity lines) created := by
  refine h.map ?_ hkept ?_
  · intro line hline
    by_cases hcode : line.code = code
    · refine ⟨quantity, if_pos hcode, ?_⟩
      rw [hcode]
      exact hquantity line hline hcode
    · obtain ⟨hset, hadded⟩ := hothers line.code hcode
      exact ⟨line.quantity, if_neg hcode, (Step.units_of_none hset hadded).symm⟩
  · intro other hother
    by_cases hcode : other = code
    · subst hcode
      exact habsent hother
    · exact (hothers other hcode).2

/-- A step that removes a product and does nothing to others. -/
theorem Tells.filter (h : Tells past lines created) (hremoves : step.removes code = true)
    (hothers : ∀ other ≠ code, step.removes other = false)
    (hquiet : ∀ code, step.set? code = none ∧ step.added? code = none) :
    Tells (past ++ [step]) (lines.filter (·.code ≠ code)) created := by
  refine ⟨?_, h.ordered.sublist List.filter_sublist, ?_⟩
  · intro line hline
    obtain ⟨hmem, hne⟩ := List.mem_filter.1 hline
    obtain ⟨hset, hadded⟩ := hquiet line.code
    exact (h.traced line hmem).concat (hothers line.code (by simpa using hne))
      (Step.units_of_none hset hadded).symm
  · intro other hother
    by_cases hcode : other = code
    · subst hcode
      have hnone := sinceRemoval_concat other past step
      rw [if_pos hremoves] at hnone
      rw [hnone]
      exact fun _ hlater => nomatch hlater
    · refine not_added_concat (h.absent other ?_) (.inr (hquiet other).2)
      intro hmem
      obtain ⟨line, hline, rfl⟩ := List.mem_map.1 hmem
      exact hother (List.mem_map_of_mem (List.mem_filter.2 ⟨hline, by simpa using hcode⟩))

/-- An addition to a product without a line is where the new line goes back to. -/
theorem Tells.append (h : Tells past lines created) {name : String} {price : Money}
    {quantity : Int64} (habsent : code ∉ lines.map Line.code) :
    Tells (past ++ [⟨.add code name price quantity, true⟩])
      (lines ++ [⟨code, name, price, quantity⟩])
      (Function.update created code past.length) := by
  have hne : ∀ line ∈ lines, line.code ≠ code :=
    fun line hline hcode => habsent (hcode ▸ List.mem_map_of_mem hline)
  have hold : ∀ line ∈ lines,
      Function.update created code past.length line.code = created line.code :=
    fun line hline => Function.update_of_ne (hne line hline) _ _
  have hquiet : ∀ other ≠ code,
      Step.added? other ⟨.add code name price quantity, true⟩ = none :=
    fun other hother => if_neg hother.symm
  refine ⟨?_, ?_, ?_⟩
  · intro line hline
    rcases List.mem_append.1 hline with hline | hline
    · rw [hold line hline]
      exact (h.traced line hline).concat rfl
        (Step.units_of_none rfl (hquiet line.code (hne line hline))).symm
    · obtain rfl := List.mem_singleton.1 hline
      have hdrop (step : Step) : (past ++ [step]).drop (past.length + 1) = [] := by simp
      rw [Function.update_self]
      refine ⟨⟨quantity, by simp, ?_⟩, ?_, ?_⟩
      · rw [hdrop]
        simp [unitsAfter]
      · rw [List.take_left]
        exact h.absent code habsent
      · rw [hdrop]
        exact fun _ hlater => nomatch hlater
  · refine List.pairwise_append.2 ⟨?_, List.pairwise_singleton _ _, ?_⟩
    · refine h.ordered.imp_of_mem ?_
      intro line other hline hother hlt
      rw [hold line hline, hold other hother]
      exact hlt
    · intro line hline other hother
      rw [List.mem_singleton.1 hother, hold line hline, Function.update_self]
      exact (h.traced line hline).index_lt
  · intro other hother
    simp only [List.map_append, List.mem_append, not_or, List.map_cons, List.map_nil,
      List.mem_singleton] at hother
    exact not_added_concat (h.absent other hother.1) (.inr (hquiet other hother.2))

/-- One more call, and the history still tells of the lines. -/
theorem Tells.call (h : Tells past cart.lines created) (hcart : cart.Valid) (change : Change) :
    ∃ created, Tells (past ++ [change.step cart]) (change.apply cart).lines created := by
  have heffect := change.step_effect hcart
  generalize change.step cart = step, (change.apply cart).lines = lines at heffect
  cases heffect with
  | refused change =>
    suffices hsame : Tells (past ++ [⟨change, false⟩]) (cart.lines.map id) created by
      rw [List.map_id] at hsame
      exact ⟨created, hsame⟩
    refine h.map ?_ ?_ ?_
    · intro line _
      refine ⟨line.quantity, rfl, (Step.units_of_none ?_ ?_).symm⟩
      · cases change <;> rfl
      · cases change <;> rfl
    · cases change <;> exact fun _ => rfl
    · cases change <;> exact fun _ _ => rfl
  | @added code name price quantity sum hsum =>
    by_cases hmem : code ∈ cart.lines.map Line.code
    · refine ⟨created, ?_⟩
      rw [place, if_pos hmem]
      refine h.withQuantity ?_ ?_ (fun _ => rfl) (absurd hmem)
      · intro line hline hcode
        subst hcode
        rw [hsum, quantityOf_of_mem hcart hline]
        simp [Step.units, Step.set?, Step.added?]
      · exact fun other hother => ⟨rfl, if_neg hother.symm⟩
    · rw [quantityOf_of_absent hmem, Int.zero_add] at hsum
      obtain rfl : sum = quantity := Int64.toInt_inj.1 hsum
      rw [place, if_neg hmem]
      exact ⟨_, h.append hmem⟩
  | @set code quantity hpositive =>
    refine ⟨created, h.withQuantity ?_ ?_ ?_ (fun _ => rfl)⟩
    · intro line hline hcode
      simp [Step.units, Step.set?, hpositive]
    · exact fun other hother => ⟨if_neg fun hand => hother hand.1.symm, rfl⟩
    · intro other
      simp [Step.removes, hpositive]
  | @emptied code quantity hquantity =>
    refine ⟨created, h.filter ?_ ?_ ?_⟩
    · simp [Step.removes, hquantity]
    · intro other hother
      simp [Step.removes, hother.symm]
    · intro other
      refine ⟨if_neg ?_, rfl⟩
      rintro ⟨-, hpositive⟩
      omega
  | removed code =>
    refine ⟨created, h.filter ?_ ?_ ?_⟩
    · simp [Step.removes]
    · intro other hother
      simp [Step.removes, hother.symm]
    · exact fun other => ⟨rfl, rfl⟩

theorem tells_run (changes : List Change) :
    ∃ created, Tells (Change.history changes empty) (Change.applyAll changes empty).lines created := by
  induction changes using List.reverseRecOn with
  | nil => exact ⟨fun _ => 0, by simp [Change.applyAll, empty], by simp [Change.applyAll, empty], by
      simp [Change.history, sinceRemoval]⟩
  | append_singleton changes change ih =>
    obtain ⟨created, h⟩ := ih
    rw [Change.history_concat, Change.applyAll_concat]
    exact h.call (Change.applyAll_valid changes empty_valid) change

/-- A line goes back to a step since the last removal of its product. -/
theorem Traced.mem_sinceRemoval (h : Traced past index line) :
    ∃ step ∈ sinceRemoval line.code past, (step.added? line.code).isSome := by
  obtain ⟨⟨first, hget, -⟩, -, hkept⟩ := h
  obtain ⟨hlt, heq⟩ := List.getElem?_eq_some_iff.1 hget
  have hsplit : past.take index ++ past.drop index = past := List.take_append_drop ..
  rw [List.drop_eq_getElem_cons hlt, heq] at hsplit
  rw [← hsplit, sinceRemoval_append]
  · exact ⟨_, List.mem_append_right _ List.mem_cons_self, by simp [Step.added?]⟩
  · intro step hstep
    rcases List.mem_cons.1 hstep with rfl | hstep
    · rfl
    · exact hkept step hstep

/-- **Prices are frozen, and lines stand in the order in which they were made.** Whatever calls a
    cart has been through since it was empty, refused ones included, each of its lines goes back to
    the first addition of its product that succeeded after the last removal of it. The line has the
    name and the price of that addition. Its quantity is the one that was set last since then, or that
    of the addition, and all that was added afterwards. The lines stand in the order of these
    additions, and a product has a line exactly when it was added since its last removal. -/
theorem history_tells_lines (changes : List Change) :
    let history := Change.history changes empty
    let cart := Change.applyAll changes empty
    ∃ created : ProductCode → Nat,
      (∀ line ∈ cart.lines, Traced history (created line.code) line) ∧
      (cart.lines.Pairwise fun line other => created line.code < created other.code) ∧
      ∀ code, code ∈ cart.lines.map Line.code ↔
        ∃ step ∈ sinceRemoval code history, (step.added? code).isSome := by
  intro history cart
  obtain ⟨created, htraced, hordered, habsent⟩ := tells_run changes
  refine ⟨created, htraced, hordered, ?_⟩
  intro code
  constructor
  · intro hmem
    obtain ⟨line, hline, rfl⟩ := List.mem_map.1 hmem
    exact (htraced line hline).mem_sinceRemoval
  · rintro ⟨step, hstep, hadded⟩
    by_contra hmem
    rw [habsent code hmem step hstep] at hadded
    cases hadded

/-- The first product keeps its price when it is added again at another; the second goes back to the
    addition after its removal. -/
example :
    Change.applyAll [.add ⟨"A"⟩ "Atlas" ⟨250⟩ 2, .add ⟨"B"⟩ "Bible" ⟨100⟩ 1, .update ⟨"A"⟩ 5,
        .add ⟨"A"⟩ "Map" ⟨999⟩ 1, .update ⟨"B"⟩ 0, .add ⟨"B"⟩ "Bible" ⟨120⟩ 3] empty =
      ⟨[⟨⟨"A"⟩, "Atlas", ⟨250⟩, 6⟩, ⟨⟨"B"⟩, "Bible", ⟨120⟩, 3⟩], ⟨1860⟩⟩ := by decide

end Bookshop.Cart
