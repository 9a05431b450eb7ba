import Bookshop.Proofs.Json.Grammar

/-!
# What is written is text

The bytes of a tree are UTF-8 as far as the strings in it are, and what a text is escaped to is
UTF-8. Only ASCII is escaped, and what it is escaped to is ASCII again, so no character is torn.
-/

namespace Bookshop

namespace Utf8

def IsUtf8 (bytes : Bytes) : Prop := ∃ text, encode text = bytes

variable {bytes bytes' : Bytes}

theorem isUtf8_nil : IsUtf8 [] := ⟨"", rfl⟩

theorem encode_append (text text' : String) :
    encode (text ++ text') = encode text ++ encode text' := by
  rw [encode, String.toList_append, List.flatMap_append, encode, encode]

theorem IsUtf8.append (h : IsUtf8 bytes) (h' : IsUtf8 bytes') : IsUtf8 (bytes ++ bytes') := by
  obtain ⟨text, rfl⟩ := h
  obtain ⟨text', rfl⟩ := h'
  exact ⟨text ++ text', encode_append text text'⟩

theorem isUtf8_encodeChar (c : Char) : IsUtf8 (encodeChar c) := by
  refine ⟨String.ofList [c], ?_⟩
  rw [encode, String.toList_ofList, List.flatMap_singleton]

theorem isUtf8_ascii {b : UInt8} (h : b.toNat < 0x80) : IsUtf8 [b] := by
  have hchar := isUtf8_encodeChar (Char.ofNat b.toNat)
  rwa [Quoted.encodeChar_ofNat h, UInt8.ofNat_toNat] at hchar

theorem IsUtf8.cons {b : UInt8} (hb : b.toNat < 0x80) (h : IsUtf8 bytes) : IsUtf8 (b :: bytes) :=
  (isUtf8_ascii hb).append h

theorem isUtf8_of_ascii (h : ∀ b ∈ bytes, b.toNat < 0x80) : IsUtf8 bytes := by
  induction bytes with
  | nil => exact isUtf8_nil
  | cons b bytes ih =>
    have hrest := ih fun other hother => h other (List.mem_cons_of_mem _ hother)
    exact .cons (h b List.mem_cons_self) hrest

theorem isUtf8_flatMap {chars : List Char} {f : Char → Bytes} (h : ∀ c, IsUtf8 (f c)) :
    IsUtf8 (chars.flatMap f) := by
  induction chars with
  | nil => exact isUtf8_nil
  | cons c chars ih =>
    rw [List.flatMap_cons]
    exact (h c).append ih

/-- The bytes of a character that is not ASCII are none of ASCII. -/
theorem le_of_mem_encodeChar {c : Char} (h : 0x80 ≤ c.toNat) {b : UInt8} (hb : b ∈ encodeChar c) :
    0x80 ≤ b.toNat := by
  have hvalid := char_toNat_valid c
  have hsmall (n : Nat) (hn : n < 256) : (UInt8.ofNat n).toNat = n :=
    UInt8.toNat_ofNat_of_lt' hn
  unfold encodeChar at hb
  simp only [if_neg (Nat.not_lt.2 h)] at hb
  split at hb
  · simp only [List.mem_cons, List.not_mem_nil, or_false] at hb
    rcases hb with rfl | rfl <;> rw [hsmall _ (by omega)] <;> omega
  split at hb
  · simp only [List.mem_cons, List.not_mem_nil, or_false] at hb
    rcases hb with rfl | rfl | rfl <;> rw [hsmall _ (by omega)] <;> omega
  · simp only [List.mem_cons, List.not_mem_nil, or_false] at hb
    rcases hb with rfl | rfl | rfl | rfl <;> rw [hsmall _ (by omega)] <;> omega

end Utf8

namespace Quoted

theorem escapeByte_of_ascii {b : UInt8} (h : b.toNat < 0x80) :
    ∀ e ∈ escapeByte b, e.toNat < 0x80 := by
  have hall : ∀ n ∈ List.range 128, ∀ e ∈ escapeByte (.ofNat n), e.toNat < 0x80 := by decide +kernel
  have hb := hall b.toNat (List.mem_range.2 h)
  rwa [UInt8.ofNat_toNat] at hb

theorem escapeByte_of_le {b : UInt8} (h : 0x80 ≤ b.toNat) : escapeByte b = [b] := by
  have hall : ∀ n ∈ List.range 256, 0x80 ≤ n → escapeByte (.ofNat n) = [.ofNat n] := by
    decide +kernel
  have hb := hall b.toNat (List.mem_range.2 b.toNat_lt) h
  rwa [UInt8.ofNat_toNat] at hb

/-- What a text is escaped to is a text again. -/
theorem isUtf8_ofText (text : String) : Utf8.IsUtf8 (ofText text) := by
  rw [ofText, escape, Utf8.encode, List.flatMap_assoc]
  apply Utf8.isUtf8_flatMap
  intro c
  rcases Nat.lt_or_ge c.toNat 0x80 with hascii | hwide
  · have hone := encodeChar_ofNat hascii
    rw [Char.ofNat_toNat] at hone
    rw [hone, List.flatMap_singleton]
    apply Utf8.isUtf8_of_ascii
    apply escapeByte_of_ascii
    rwa [UInt8.toNat_ofNat_of_lt' (Nat.lt_trans hascii (by decide))]
  · have hplain : (Utf8.encodeChar c).flatMap escapeByte = Utf8.encodeChar c := by
      rw [List.flatMap_def, List.map_congr_left fun b hb =>
        escapeByte_of_le (Utf8.le_of_mem_encodeChar hwide hb)]
      exact List.flatMap_singleton' _
    rw [hplain]
    exact Utf8.isUtf8_encodeChar c

end Quoted

namespace Json

open Utf8 (IsUtf8)

theorem isUtf8_spellString {raw : Bytes} (h : IsUtf8 raw) : IsUtf8 (spellString raw) :=
  .cons (by decide) (h.append (Utf8.isUtf8_ascii (by decide)))

/-- The tree can be spelled, and what it is spelled as is text. -/
structure Writable (json : Json) : Prop where
  wellFormed : json.WellFormed
  isUtf8 : IsUtf8 json.spell

theorem writable_text (text : String) : (Json.text text).Writable where
  wellFormed := rawString_ofText text
  isUtf8 := isUtf8_spellString (Quoted.isUtf8_ofText text)

/-- A record can be written when its members have texts for names and can be written themselves. -/
theorem writable_record {members : List Member}
    (h : ∀ member ∈ members, (∃ name, Quoted.ofText name = member.1) ∧ member.2.Writable) :
    (Json.record members true).Writable where
  wellFormed := by
    refine ⟨rfl, membersWellFormed_iff.2 ?_⟩
    intro member hmember
    obtain ⟨⟨name, hname⟩, hvalue⟩ := h member hmember
    exact ⟨hname ▸ rawString_ofText name, hvalue.wellFormed⟩
  isUtf8 := by
    have hmembers : IsUtf8 (spellMembers members) := by
      induction members with
      | nil => exact Utf8.isUtf8_nil
      | cons member members ih =>
        obtain ⟨⟨name, hname⟩, hvalue⟩ := h member List.mem_cons_self
        have hrest := ih fun other hother => h other (List.mem_cons_of_mem _ hother)
        have hfirst : IsUtf8 (spellString member.1 ++ 0x3A :: member.2.spell) :=
          (isUtf8_spellString (hname ▸ Quoted.isUtf8_ofText name)).append
            (.cons (by decide) hvalue.isUtf8)
        cases members with
        | nil => exact hfirst
        | cons next members => exact hfirst.append (.cons (by decide) hrest)
    exact .cons (by decide) (hmembers.append (Utf8.isUtf8_ascii (by decide)))

end Json

end Bookshop
