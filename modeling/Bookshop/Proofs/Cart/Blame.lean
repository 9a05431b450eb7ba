import Bookshop.Proofs.Cart.Quantity
import Mathlib.Data.Nat.Find
import Mathlib.Order.Bounds.Defs

/-!
# Which line from outside is to blame

Lines that come from outside are looked at one after the other, and the first that offends is
reported. What a line is reported for depends on the line and on the codes before it (`offence?`),
so the lines in front of an offender only have to pass. Whether all lines pass does not depend on
the order of looking: the lines are orderly exactly when none of them offends
(`orderly_iff_not_offends`).

The main statement is `ofLines_outcome`: lines from outside make a cart, or the least offender is
blamed, or the total is refused.
-/

namespace Bookshop.Cart

variable {line : Line} {lines : List Line} {index : Nat}

/-! ### Offenders -/

/-- The line at the index has a quantity that no line may have, or the code of an earlier line. -/
def Offends (lines : List Line) (index : Nat) : Prop :=
  ∃ line, lines[index]? = some line ∧
    (¬ GoodQuantity line.quantity ∨ line.code ∈ (lines.take index).map Line.code)

/-- What a line is reported for, after lines with the given codes. -/
def offence? (before : List ProductCode) (line : Line) : Option CartDefect :=
  match checkQuantity line.quantity with
  | .error cause => some (.quantity line.code cause)
  | .ok () => if line.code ∈ before then some (.duplicate line.code) else none

theorem offence?_of_not_positive (before : List ProductCode) (h : line.quantity.toInt ≤ 0) :
    offence? before line = some (.quantity line.code (.notPositive line.quantity)) := by
  have hle : line.quantity ≤ 0 := Int64.le_iff_toInt_le.2 h
  rw [offence?, checkQuantity, if_pos hle]

theorem offence?_of_above (before : List ProductCode) (h : 9999 < line.quantity.toInt) :
    offence? before line = some (.quantity line.code (.aboveLimit line.quantity 9999)) := by
  rw [offence?, checkQuantity_of_above h]

theorem offence?_of_repeated {before : List ProductCode} (hgood : GoodQuantity line.quantity)
    (h : line.code ∈ before) : offence? before line = some (.duplicate line.code) := by
  rw [offence?, checkQuantity_eq_ok_iff.2 hgood]
  exact if_pos h

/-! ### The first offender -/

theorem defect?_cons (before : List ProductCode) (line : Line) (lines : List Line) :
    defect? before (line :: lines) =
      (offence? before line).or (defect? (line.code :: before) lines) := by
  rw [defect?, offence?]
  cases checkQuantity line.quantity with
  | error cause => rfl
  | ok _ =>
    dsimp only
    split
    · rfl
    · rfl

/-- Lines that pass are only remembered by their codes. -/
theorem defect?_append {before : List ProductCode} {front : List Line}
    (h : defect? before front = none) (lines : List Line) :
    defect? before (front ++ lines) = defect? ((front.map Line.code).reverse ++ before) lines := by
  induction front generalizing before with
  | nil => rfl
  | cons line front ih =>
    rw [defect?_cons, Option.or_eq_none_iff] at h
    rw [List.cons_append, defect?_cons, h.1, Option.none_or, ih h.2, List.map_cons,
      List.reverse_cons, List.append_assoc, List.singleton_append]

theorem offends_take {count : Nat} (h : Offends (lines.take count) index) :
    index < count ∧ Offends lines index := by
  obtain ⟨line, hline, hoffence⟩ := h
  obtain ⟨hlt, hget⟩ := List.getElem?_eq_some_iff.1 hline
  rw [List.length_take] at hlt
  have hcount : index < count := by omega
  rw [List.getElem?_take_of_lt hcount] at hline
  rw [List.take_take, Nat.min_eq_left (Nat.le_of_lt hcount)] at hoffence
  exact ⟨hcount, line, hline, hoffence⟩

/-- Lines are orderly when none of them offends. -/
theorem orderly_iff_not_offends : Orderly lines ↔ ∀ index, ¬ Offends lines index := by
  constructor
  · rintro ⟨hdistinct, hquantities⟩ index ⟨line, hline, hquantity | hrepeated⟩
    · exact hquantity (hquantities line (List.mem_of_getElem? hline))
    · obtain ⟨hlt, rfl⟩ := List.getElem?_eq_some_iff.1 hline
      rw [← List.take_append_drop index lines, List.map_append, List.nodup_append] at hdistinct
      have hmem : lines[index] ∈ lines.drop index := by
        rw [List.drop_eq_getElem_cons hlt]
        exact List.mem_cons_self
      exact hdistinct.2.2 _ hrepeated _ (List.mem_map_of_mem hmem) rfl
  · intro hnone
    constructor
    · rw [List.nodup_iff_pairwise_ne, List.pairwise_iff_getElem]
      intro i j hi hj hlt heq
      rw [List.length_map] at hi hj
      rw [List.getElem_map, List.getElem_map] at heq
      refine hnone j ⟨lines[j], List.getElem?_eq_getElem hj, .inr ?_⟩
      rw [← heq]
      exact List.mem_map_of_mem (List.mem_take_iff_getElem.2 ⟨i, by omega, rfl⟩)
    · intro line hline
      by_contra hquantity
      obtain ⟨index, hindex⟩ := List.mem_iff_getElem?.1 hline
      exact hnone index ⟨line, hindex, .inl hquantity⟩

/-- The least offender is reported, for what it is reported for after the lines before it. -/
theorem ofLines_of_isLeast (h : IsLeast {i | Offends lines i} index) {defect : CartDefect}
    (hline : lines[index]? = some line)
    (hdefect : offence? ((lines.take index).map Line.code).reverse line = some defect) :
    ofLines lines = .error (.invalid defect) := by
  have hfront : defect? [] (lines.take index) = none := by
    refine (defect?_eq_none_iff [] _).2 ⟨orderly_iff_not_offends.2 ?_, by simp⟩
    intro earlier hearlier
    obtain ⟨hlt, hoffends⟩ := offends_take hearlier
    exact absurd (h.2 hoffends) (by omega)
  obtain ⟨hlt, rfl⟩ := List.getElem?_eq_some_iff.1 hline
  have hfound : defect? [] lines = some defect := by
    rw [← List.take_append_drop index lines, defect?_append hfront, List.drop_eq_getElem_cons hlt,
      defect?_cons, List.append_nil, hdefect, Option.some_or]
  rw [ofLines, hfound]

/-- Some line offends, or the lines are only asked for their total. -/
theorem ofLines_cases (lines : List Line) :
    (¬ Orderly lines ∧ ∃ defect, ofLines lines = .error (.invalid defect)) ∨
      Orderly lines ∧ ofLines lines = commit lines := by
  have horderly := defect?_eq_none_iff [] lines
  cases hdefect : defect? [] lines with
  | none => exact .inr ⟨(horderly.1 hdefect).1, by rw [ofLines, hdefect]⟩
  | some defect =>
    refine .inl ⟨?_, defect, by rw [ofLines, hdefect]⟩
    intro h
    rw [horderly.2 ⟨h, by simp⟩] at hdefect
    cases hdefect

theorem exists_isLeast_offends (h : ∃ index, Offends lines index) :
    ∃ index, IsLeast {i | Offends lines i} index := by
  classical
  exact ⟨Nat.find h, Nat.find_spec h, fun other hother => Nat.find_min' h hother⟩

/-! ### The three outcomes -/

theorem ofLines_eq_ok_iff {cart : Cart} :
    ofLines lines = .ok cart ↔ Orderly lines ∧ commit lines = .ok cart := by
  rcases ofLines_cases lines with ⟨hnot, defect, hdefect⟩ | ⟨horderly, hresult⟩
  · rw [hdefect]
    constructor
    · intro h
      cases h
    · intro h
      exact absurd h.1 hnot
  · rw [hresult]
    exact ⟨fun h => ⟨horderly, h⟩, fun h => h.2⟩

theorem exists_ofLines_iff :
    (∃ cart, ofLines lines = .ok cart) ↔ Orderly lines ∧ Line.Summable lines := by
  constructor
  · rintro ⟨cart, hcart⟩
    obtain ⟨horderly, hlines⟩ := ofLines_eq_ok_iff.1 hcart
    exact ⟨horderly, (commit_eq_ok_iff.1 hlines).2.1⟩
  · rintro ⟨horderly, hsummable⟩
    obtain ⟨total, -, hmade⟩ := (commit_leadsTo lines).accepted hsummable
    exact ⟨_, ofLines_eq_ok_iff.2 ⟨horderly, hmade⟩⟩

theorem ofLines_eq_overflow_iff :
    ofLines lines = .error .overflow ↔ Orderly lines ∧ ¬ Line.Summable lines := by
  rcases ofLines_cases lines with ⟨hnot, defect, hdefect⟩ | ⟨horderly, hresult⟩
  · rw [hdefect]
    constructor
    · intro h
      cases h
    · intro h
      exact absurd h.1 hnot
  · rw [hresult]
    constructor
    · intro hoverflow
      refine ⟨horderly, ?_⟩
      intro hsummable
      obtain ⟨total, -, hmade⟩ := (commit_leadsTo lines).accepted hsummable
      cases hmade.symm.trans hoverflow
    · rintro ⟨-, hsummable⟩
      exact (commit_leadsTo lines).refused hsummable

/-- **What lines from outside make.** They make a cart exactly when their quantities are good, their
    codes are distinct and they have a total; it has the lines as they are, and their exact sum. If
    some line has a bad quantity or the code of an earlier line, the one of least index is blamed:
    for its quantity when that is bad, whatever its code, and otherwise for being repeated. That the
    total overflows is reported exactly when no line is to blame and there is no total. -/
theorem ofLines_outcome (lines : List Line) :
    let result := ofLines lines
    ((∃ cart, result = .ok cart) ↔
      (∀ line ∈ lines, GoodQuantity line.quantity) ∧ (lines.map Line.code).Nodup ∧
        Line.Summable lines) ∧
    (∀ cart, result = .ok cart →
      cart.lines = lines ∧ cart.total.cents.toInt = Line.worthOf lines) ∧
    ((∃ index, Offends lines index) → ∃ index line,
      IsLeast {i | Offends lines i} index ∧ lines[index]? = some line ∧
        (line.quantity.toInt ≤ 0 →
          result = .error (.invalid (.quantity line.code (.notPositive line.quantity)))) ∧
        (9999 < line.quantity.toInt →
          result = .error (.invalid (.quantity line.code (.aboveLimit line.quantity 9999)))) ∧
        (GoodQuantity line.quantity → result = .error (.invalid (.duplicate line.code)))) ∧
    (result = .error .overflow ↔ (∀ index, ¬ Offends lines index) ∧ ¬ Line.Summable lines) := by
  intro result
  refine ⟨?_, ?_, ?_, ?_⟩
  · rw [exists_ofLines_iff]
    constructor
    · rintro ⟨horderly, hsummable⟩
      exact ⟨horderly.quantities, horderly.distinct, hsummable⟩
    · rintro ⟨hquantities, hdistinct, hsummable⟩
      exact ⟨⟨hdistinct, hquantities⟩, hsummable⟩
  · intro cart hcart
    obtain ⟨hlines, -, htotal⟩ := commit_eq_ok_iff.1 (ofLines_eq_ok_iff.1 hcart).2
    exact ⟨hlines, htotal⟩
  · intro hoffends
    obtain ⟨index, hleast⟩ := exists_isLeast_offends hoffends
    obtain ⟨line, hline, hoffence⟩ := hleast.1
    refine ⟨index, line, hleast, hline, ?_, ?_, ?_⟩
    · intro h
      exact ofLines_of_isLeast hleast hline (offence?_of_not_positive _ h)
    · intro h
      exact ofLines_of_isLeast hleast hline (offence?_of_above _ h)
    · intro hgood
      have hrepeated : line.code ∈ (lines.take index).map Line.code :=
        hoffence.resolve_left (not_not_intro hgood)
      exact ofLines_of_isLeast hleast hline
        (offence?_of_repeated hgood (List.mem_reverse.2 hrepeated))
  · rw [← orderly_iff_not_offends]
    exact ofLines_eq_overflow_iff

/-- The second line is repeated and has too many units; the third has none. -/
example :
    ofLines [⟨⟨"A"⟩, "Atlas", ⟨250⟩, 1⟩, ⟨⟨"A"⟩, "Atlas", ⟨250⟩, 10000⟩, ⟨⟨"B"⟩, "Bible", ⟨9⟩, 0⟩] =
      .error (.invalid (.quantity ⟨"A"⟩ (.aboveLimit 10000 9999))) := by decide

end Bookshop.Cart
