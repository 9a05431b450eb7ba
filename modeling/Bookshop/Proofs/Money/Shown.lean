import Bookshop.Money
import Bookshop.Proofs.Json.Reading
import Bookshop.Proofs.Json.Written
import Mathlib.Tactic

/-!
# Amounts as they are shown

In documents an amount is a number of units that went through a double, and there large amounts may
drift. What is shown is made of the cents themselves, digit by digit, so it is exact for every
amount down to the least one, whose magnitude is no word. It is spelled as numerals are in JSON, and
read as such a numeral it gives the cents back.

The main statement is `text_exact`.
-/

namespace Bookshop

/-! ### Decimal numbers as texts -/

namespace Numeral

/-- The number that is spelled, without any rounding. -/
def value (n : Numeral) : ℚ :=
  (if n.negative then -1 else 1) *
    (ofDigits n.whole + ofDigits n.fraction / 10 ^ n.fraction.length) * 10 ^ n.exponent.getD 0

/-- The text shows the numeral with so many digits behind a point, and without an exponent. In front
    of the point there is a minus sign if the numeral is negative, and no zero precedes other
    digits. -/
structure ShownAs (n : Numeral) (places : Nat) (text : String) : Prop where
  text_eq :
    text = (if n.negative then "-" else "") ++ digitText n.whole ++ "." ++ digitText n.fraction
  wellFormed : n.WellFormed
  places_eq : n.fraction.length = places
  exponent_eq : n.exponent = none

theorem encodeChar_digitChar {d : Nat} (h : d < 10) :
    Utf8.encodeChar (digitChar d) = [digitByte d] := by
  have all : ∀ m ∈ List.range 10, Utf8.encodeChar (digitChar m) = [digitByte m] := by decide
  exact all d (List.mem_range.2 h)

theorem encode_digitText {ds : List Nat} (h : ∀ d ∈ ds, d < 10) :
    Utf8.encode (digitText ds) = ds.map digitByte := by
  rw [Utf8.encode, digitText, String.toList_ofList]
  induction ds with
  | nil => rfl
  | cons d ds ih =>
    have hrest := ih fun other hother => h other (List.mem_cons_of_mem d hother)
    rw [List.map_cons, List.flatMap_cons, encodeChar_digitChar (h d List.mem_cons_self), hrest]
    rfl

variable {n : Numeral} {places : Nat} {text : String}

/-- The bytes of the text are those that the numeral has in a document. -/
theorem ShownAs.encode_eq (h : n.ShownAs places text) (hplaces : 0 < places) :
    Utf8.encode text = n.spell := by
  have hsign : Utf8.encode (if n.negative then "-" else "") =
      if n.negative then [0x2D] else [] := by
    split
    · rfl
    · rfl
  have hpoint : Utf8.encode "." = [0x2E] := rfl
  have hfraction : n.fraction.isEmpty = false := by
    rw [List.isEmpty_eq_false_iff]
    intro hnil
    rw [← h.places_eq, hnil] at hplaces
    exact absurd hplaces (Nat.lt_irrefl 0)
  rw [h.text_eq, spell, spellFraction, hfraction, h.exponent_eq]
  simp only [Utf8.encode_append, hsign, hpoint, encode_digitText h.wellFormed.whole_lt,
    encode_digitText h.wellFormed.fraction_lt, spellExponent, Bool.false_eq_true, if_false,
    List.append_nil, List.append_assoc, List.singleton_append]

/-- A text that shows a numeral is read as that numeral. -/
theorem ShownAs.read_eq (h : n.ShownAs places text) (hplaces : 0 < places) :
    Json.read (Utf8.encode text) = ⟨.number n, true⟩ := by
  have hwellFormed : (Json.number n).WellFormed := h.wellFormed
  rw [h.encode_eq hplaces]
  exact Json.read_spell hwellFormed

/-- Without its point the numeral counts units of the last place. -/
theorem ShownAs.value_mul (h : n.ShownAs places text) :
    n.value * 10 ^ places =
      (if n.negative then -1 else 1) * (ofDigits (n.whole ++ n.fraction) : ℚ) := by
  have hjoined : ofDigits (n.whole ++ n.fraction) =
      ofDigits n.whole * 10 ^ places + ofDigits n.fraction := by
    rw [← h.places_eq, ← appendDigits_eq, ofDigits, appendDigits_append, ofDigits]
  rw [value, h.exponent_eq, h.places_eq, hjoined, Option.getD_none, zpow_zero, mul_one, mul_assoc,
    add_mul, div_mul_cancel₀ _ (by positivity)]
  push_cast
  rfl

end Numeral

/-! ### Amounts -/

namespace Money

/-- The numeral that an amount is shown as. -/
def numeral (amount : Money) : Numeral :=
  let magnitude := amount.cents.toInt.natAbs
  ⟨amount.isNegative, digits (magnitude / 100), [magnitude % 100 / 10, magnitude % 100 % 10], none⟩

theorem numeral_negative_iff {amount : Money} :
    amount.numeral.negative = true ↔ amount.cents.toInt < 0 := by
  rw [numeral, isNegative, decide_eq_true_eq, Int64.lt_iff_toInt_lt, Int64.toInt_zero]

theorem numeral_shownAs (amount : Money) : amount.numeral.ShownAs 2 amount.text where
  text_eq := rfl
  wellFormed := by
    refine ⟨fun d hd => lt_of_mem_digits hd, ?_, digits_leading _⟩
    intro d hd
    simp only [numeral, List.mem_cons, List.not_mem_nil, or_false] at hd
    omega
  places_eq := rfl
  exponent_eq := rfl

/-- The digits of the numeral, without the point, are those of the magnitude. -/
theorem ofDigits_numeral (amount : Money) :
    ofDigits (amount.numeral.whole ++ amount.numeral.fraction) = amount.cents.toInt.natAbs := by
  have hunits := ofDigits_digits (amount.cents.toInt.natAbs / 100)
  rw [ofDigits] at hunits
  rw [ofDigits, appendDigits_append, numeral, hunits]
  simp only [appendDigits, List.foldl_cons, List.foldl_nil]
  omega

/-- The numeral is worth a hundredth of the cents. -/
theorem value_numeral (amount : Money) : amount.numeral.value * 100 = amount.cents.toInt := by
  have hvalue := amount.numeral_shownAs.value_mul
  have hhundred : (10 : ℚ) ^ 2 = 100 := by norm_num
  rw [ofDigits_numeral, hhundred] at hvalue
  rw [hvalue, Nat.cast_natAbs]
  rcases Int.lt_or_le amount.cents.toInt 0 with hnegative | hnonneg
  · rw [if_pos (numeral_negative_iff.2 hnegative), abs_of_neg hnegative, Int.cast_neg, neg_one_mul,
      neg_neg]
  · have hplus : ¬ amount.numeral.negative = true :=
      mt numeral_negative_iff.1 (Int.not_lt.2 hnonneg)
    rw [if_neg hplus, abs_of_nonneg hnonneg, one_mul]

/-- **What is shown is exact.** An amount is shown as a decimal number with exactly two digits behind
    the point, with a minus sign exactly when it is negative and without a needless zero in front of
    other digits. Read as a number, one hundred times it is the cents. So no two amounts are shown
    alike. -/
theorem text_exact (amount : Money) :
    (∃ numeral : Numeral, numeral.ShownAs 2 amount.text ∧
      (numeral.negative = true ↔ amount.cents.toInt < 0) ∧
      Json.read (Utf8.encode amount.text) = ⟨.number numeral, true⟩ ∧
      numeral.value * 100 = amount.cents.toInt) ∧
    ∀ other : Money, other.text = amount.text → other = amount := by
  constructor
  · exact ⟨amount.numeral, amount.numeral_shownAs, numeral_negative_iff,
      amount.numeral_shownAs.read_eq (by decide), amount.value_numeral⟩
  · -- The text is read as one numeral only, and that is worth the cents of both.
    intro other htext
    have hread := amount.numeral_shownAs.read_eq (by decide)
    rw [← htext, other.numeral_shownAs.read_eq (by decide)] at hread
    have hnumeral : other.numeral = amount.numeral := by
      injection hread with htree
      injection htree
    have hcents : (other.cents.toInt : ℚ) = amount.cents.toInt := by
      rw [← value_numeral, hnumeral, value_numeral]
    exact eq_of_cents (by exact_mod_cast hcents)

example : (Money.mk Int64.minValue).text = "-92233720368547758.08" := by decide +kernel

end Money

end Bookshop
