import Bookshop.Json.Quoted
import Bookshop.Proofs.Text.Utf8

/-!
# JSON strings round trip

Resolving the escapes of an escaped string gives its bytes back, whatever they are. Together with
the round trip of UTF-8 every text is read back from its raw string.
-/

namespace Bookshop.Quoted

theorem hexValue?_hexDigit {n : Nat} (h : n < 16) : hexValue? (hexDigit n) = some n := by
  have all : ∀ m ∈ List.range 16, hexValue? (hexDigit m) = some m := by decide
  exact all n (List.mem_range.2 h)

theorem unit?_hexDigit {n : Nat} (h : n < 256) :
    unit? 0x30 0x30 (hexDigit (n / 16)) (hexDigit (n % 16)) = some n := by
  unfold unit?
  rw [hexValue?_hexDigit (by omega), hexValue?_hexDigit (by omega)]
  simp only [show hexValue? 0x30 = some 0 from rfl, Option.bind_eq_bind, Option.bind_some,
    Option.pure_def, Option.some.injEq]
  omega

theorem encodeChar_ofNat {n : Nat} (h : n < 0x80) :
    Utf8.encodeChar (Char.ofNat n) = [.ofNat n] := by
  have hvalid : n.isValidChar := Or.inl (by omega)
  have hnat : (Char.ofNat n).toNat = n := by
    rw [Char.ofNat, dif_pos hvalid]
    rfl
  unfold Utf8.encodeChar
  simp only [hnat]
  rw [if_pos h]

theorem unescape?_plain {b : UInt8} (h : b ≠ 0x5C) (rest : Bytes) :
    unescape? (b :: rest) = (b :: ·) <$> unescape? rest := by
  rw [unescape?.eq_def]
  simp only [if_pos h]

theorem unescape?_simple {e c : UInt8} (hu : e ≠ 0x75) (h : simpleEscape? e = some c)
    (rest : Bytes) : unescape? (0x5C :: e :: rest) = (c :: ·) <$> unescape? rest := by
  rw [unescape?.eq_def]
  simp only [ne_eq, not_true_eq_false, if_false, if_pos hu, h]
  rfl

theorem unescape?_unit {h₁ h₂ h₃ h₄ : UInt8} {n : Nat} (h : unit? h₁ h₂ h₃ h₄ = some n)
    (hn : n < 0xD800) (rest : Bytes) :
    unescape? (0x5C :: 0x75 :: h₁ :: h₂ :: h₃ :: h₄ :: rest) =
      (Utf8.encodeChar (Char.ofNat n) ++ ·) <$> unescape? rest := by
  have hlow : isLow n = false := by simp [isLow]; omega
  have hhigh : isHigh n = false := by simp [isHigh]; omega
  rw [unescape?.eq_def]
  simp only [ne_eq, not_true_eq_false, if_false, h, Option.bind_eq_bind, Option.bind_some, hlow,
    hhigh, Bool.false_eq_true]

/-- How a byte is written: with a letter that stands for it, with the number of a control character,
    or as it is. -/
theorem escapeByte_cases (b : UInt8) :
    (∃ e, escapeByte b = [0x5C, e] ∧ e ≠ 0x75 ∧ simpleEscape? e = some b) ∨
    (b.toNat < 32 ∧ escapeByte b =
      [0x5C, 0x75, 0x30, 0x30, hexDigit (b.toNat / 16), hexDigit (b.toNat % 16)]) ∨
    (b ≠ 0x22 ∧ b ≠ 0x5C ∧ ¬ b < 0x20) ∧ escapeByte b = [b] := by
  unfold escapeByte
  split
  · next h => exact .inl ⟨_, rfl, by decide, by rw [h]; rfl⟩
  split
  · next h => exact .inl ⟨_, rfl, by decide, by rw [h]; rfl⟩
  split
  · next h => exact .inl ⟨_, rfl, by decide, by rw [h]; rfl⟩
  split
  · next h => exact .inl ⟨_, rfl, by decide, by rw [h]; rfl⟩
  split
  · next h => exact .inl ⟨_, rfl, by decide, by rw [h]; rfl⟩
  split
  · next h => exact .inl ⟨_, rfl, by decide, by rw [h]; rfl⟩
  split
  · next h => exact .inl ⟨_, rfl, by decide, by rw [h]; rfl⟩
  split
  · next hcontrol => exact .inr (.inl ⟨UInt8.lt_iff_toNat_lt.1 hcontrol, rfl⟩)
  · next hquote hbackslash _ _ _ _ _ hcontrol =>
    exact .inr (.inr ⟨⟨hquote, hbackslash, hcontrol⟩, rfl⟩)

/-- An escaped byte is read as that byte, wherever it stands. -/
theorem unescape?_escapeByte (b : UInt8) (rest : Bytes) :
    unescape? (escapeByte b ++ rest) = (b :: ·) <$> unescape? rest := by
  rcases escapeByte_cases b with ⟨e, heq, hunit, hsimple⟩ | ⟨hcontrol, heq⟩ |
    ⟨⟨-, hbackslash, -⟩, heq⟩
  · rw [heq]
    exact unescape?_simple hunit hsimple rest
  · have hunit := unit?_hexDigit (n := b.toNat) (by omega)
    rw [heq]
    refine (unescape?_unit hunit (by omega) rest).trans ?_
    rw [encodeChar_ofNat (by omega), UInt8.ofNat_toNat]
    rfl
  · rw [heq]
    exact unescape?_plain hbackslash rest

/-- Escaping loses nothing. -/
theorem unescape?_escape (bytes : Bytes) : unescape? (escape bytes) = some bytes := by
  induction bytes with
  | nil => rfl
  | cons b bytes ih =>
    rw [escape, List.flatMap_cons, unescape?_escapeByte]
    rw [escape] at ih
    rw [ih]
    rfl

/-- **Round trip.** The raw string of a text is read as that text. -/
@[simp] theorem toText?_ofText (text : String) : toText? (ofText text) = some text := by
  rw [toText?, ofText, unescape?_escape]
  exact Utf8.decode?_encode text

end Bookshop.Quoted
