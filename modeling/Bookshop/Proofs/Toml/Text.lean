import Mathlib.Data.List.Forall2
import Bookshop.Toml.Printer
import Bookshop.Toml.Text

/-!
# Texts between double quotes

A character of a text stands between double quotes as it is, as the letter of an escape, or by its
number in four or eight digits; which of these is chosen counts for nothing. `SpelledAs` says so
without saying how texts are read, and what is written is one of the spellings.
-/

namespace Bookshop.Toml

/-! ### Spellings -/

/-- The number that the digits stand for when they go on from a number. -/
def codeFrom? : Nat → List Char → Option Nat
  | value, [] => some value
  | value, d :: ds => (hexValue? d).bind fun x => codeFrom? (16 * value + x) ds

/-- The text between double quotes that stands for a character. -/
inductive CharSpelledAs (c : Char) : List Char → Prop where
  | plain (hquote : c ≠ '"') (hbackslash : c ≠ '\\') (hplain : isPlain c = true) :
      CharSpelledAs c [c]
  | letter {e : Char} (hletter : escape? e = some c) : CharSpelledAs c ['\\', e]
  | short {ds : List Char} (hlength : ds.length = 4) (hcode : codeFrom? 0 ds = some c.toNat) :
      CharSpelledAs c ('\\' :: 'u' :: ds)
  | long {ds : List Char} (hlength : ds.length = 8) (hcode : codeFrom? 0 ds = some c.toNat) :
      CharSpelledAs c ('\\' :: 'U' :: ds)

/-- The characters are spelled one after another. -/
def CharsSpelledAs (chars : List Char) (cs : List Char) : Prop :=
  ∃ pieces, List.Forall₂ CharSpelledAs chars pieces ∧ cs = pieces.flatten

/-- The text is spelled on one line between double quotes. -/
def TextSpelledAs (value : String) (cs : List Char) : Prop :=
  ∃ inside, CharsSpelledAs value.toList inside ∧ cs = '"' :: inside ++ ['"']

/-! ### Reading -/

theorem closing?_quote (rest : List Char) : closing? false '"' ('"' :: rest) = some ([], rest) := by
  simp [closing?]

theorem closing?_of_ne {c : Char} (h : c ≠ '"') (rest : List Char) :
    closing? false '"' (c :: rest) = none := by
  simp [closing?, h]

theorem charOf?_toNat (c : Char) : charOf? c.toNat = some c := by
  have hvalid : c.toNat.isValidChar := c.valid
  rw [charOf?, if_pos hvalid, Char.ofNat_toNat]

/-- An escape letter is none of the two that begin a number. -/
theorem ne_of_escape? {e c : Char} (h : escape? e = some c) : e ≠ 'u' ∧ e ≠ 'U' := by
  constructor
  · rintro rfl
    cases h
  · rintro rfl
    cases h

/-- The digits of a number are read to the last one that is due. -/
theorem basicFrom_code {c : Char} {ds : List Char} {value : Nat}
    (hcode : codeFrom? value ds = some c.toNat) (hne : ds ≠ []) (rest : List Char) :
    basicFrom false (.code ds.length value) (ds ++ rest) =
      push c (basicFrom false .plain rest) := by
  induction ds generalizing value with
  | nil => exact absurd rfl hne
  | cons d ds ih =>
    simp only [codeFrom?, Option.bind_eq_some_iff] at hcode
    obtain ⟨x, hx, hcode⟩ := hcode
    rw [List.cons_append, basicFrom]
    simp only [hx, List.length_cons, Nat.add_sub_cancel]
    by_cases hlast : ds = []
    · subst hlast
      obtain hlast : 16 * value + x = c.toNat := Option.some.inj hcode
      rw [hlast, charOf?_toNat]
      rfl
    · have hdue : 1 < ds.length + 1 := by
        have := List.length_pos_iff.2 hlast
        omega
      rw [if_pos hdue]
      exact ih hcode hlast

theorem basicFrom_char {c : Char} {piece : List Char} (h : CharSpelledAs c piece)
    (rest : List Char) :
    basicFrom false .plain (piece ++ rest) = push c (basicFrom false .plain rest) := by
  have hbackslash (cs : List Char) :
      basicFrom false .plain ('\\' :: cs) = basicFrom false .escape cs := by
    rw [basicFrom, closing?_of_ne (by decide)]
    rfl
  cases h with
  | plain hquote hbackslash hplain =>
    rw [List.singleton_append, basicFrom, closing?_of_ne hquote]
    simp only [hbackslash, hplain, if_false, Bool.true_or, if_true]
  | letter hletter =>
    obtain ⟨hu, hU⟩ := ne_of_escape? hletter
    rw [List.cons_append, hbackslash, List.cons_append, List.nil_append, basicFrom]
    simp only [hu, hU, if_false, hletter]
  | @short ds hlength hcode =>
    have hne : ds ≠ [] := List.ne_nil_of_length_eq_add_one hlength
    rw [List.cons_append, hbackslash, List.cons_append, basicFrom, if_pos rfl, ← hlength]
    exact basicFrom_code hcode hne rest
  | @long ds hlength hcode =>
    have hne : ds ≠ [] := List.ne_nil_of_length_eq_add_one hlength
    have hshort : ¬ 'U' = 'u' := by decide
    rw [List.cons_append, hbackslash, List.cons_append, basicFrom, if_neg hshort, if_pos rfl,
      ← hlength]
    exact basicFrom_code hcode hne rest

theorem basicFrom_chars {chars cs : List Char} (h : CharsSpelledAs chars cs) (rest : List Char) :
    basicFrom false .plain (cs ++ '"' :: rest) = some (chars, rest) := by
  obtain ⟨pieces, hpieces, rfl⟩ := h
  induction hpieces with
  | nil =>
    rw [List.flatten_nil, List.nil_append, basicFrom, closing?_quote]
  | cons hpiece _ ih =>
    rw [List.flatten_cons, List.append_assoc, basicFrom_char hpiece, ih]
    rfl

/-- No spelling of a character begins with a quote. -/
theorem CharSpelledAs.exists_head {c : Char} {piece : List Char} (h : CharSpelledAs c piece) :
    ∃ first rest, piece = first :: rest ∧ first ≠ '"' := by
  cases h with
  | plain hquote => exact ⟨c, [], rfl, hquote⟩
  | letter => exact ⟨_, _, rfl, by decide⟩
  | short => exact ⟨_, _, rfl, by decide⟩
  | long => exact ⟨_, _, rfl, by decide⟩

theorem CharsSpelledAs.eq_nil_or_head {chars cs : List Char} (h : CharsSpelledAs chars cs) :
    cs = [] ∨ ∃ first rest, cs = first :: rest ∧ first ≠ '"' := by
  obtain ⟨pieces, hpieces, rfl⟩ := h
  cases hpieces with
  | nil => exact .inl rfl
  | cons hpiece _ =>
    obtain ⟨first, rest, rfl, hfirst⟩ := hpiece.exists_head
    exact .inr ⟨first, _, rfl, hfirst⟩

/-- A text is read as it is spelled, unless a third quote follows the two of an empty one. -/
theorem text?_of_spelled {value : String} {cs : List Char} (h : TextSpelledAs value cs)
    {rest : List Char} (hrest : rest.head? ≠ some '"') :
    text? (cs ++ rest) = some (value, rest) := by
  obtain ⟨inside, hinside, rfl⟩ := h
  have hquoted : quoted? ('"' :: (inside ++ '"' :: rest)) = some (value, rest) := by
    simp only [quoted?, basicFrom_chars hinside, Option.map_some, String.ofList_toList]
  have hlines : ∀ cs, inside ++ '"' :: rest ≠ '"' :: '"' :: cs := by
    intro cs heq
    rcases hinside.eq_nil_or_head with rfl | ⟨first, others, rfl, hfirst⟩
    · obtain ⟨-, rfl⟩ := List.cons.inj heq
      exact hrest rfl
    · exact hfirst (List.cons.inj heq).1
  have hwhole : '"' :: inside ++ ['"'] ++ rest = '"' :: (inside ++ '"' :: rest) := by simp
  rw [hwhole, text?.eq_def]
  split
  · next heq => exact absurd (List.cons.inj heq).2 (hlines _)
  · next heq => exact absurd (List.cons.inj heq).1 (by decide)
  · exact hquoted

/-! ### Writing -/

theorem charSpelledAs_writeChar (c : Char) : CharSpelledAs c (writeChar c) := by
  unfold writeChar
  split
  · next hquote =>
    subst hquote
    exact .letter rfl
  split
  · next hbackslash =>
    subst hbackslash
    exact .letter rfl
  split
  · next hquote hbackslash hplain => exact .plain hquote hbackslash hplain
  · next hcontrol =>
    -- What may not stand as it is has a number below 128.
    have hsmall : c.toNat < 128 := by
      rw [isPlain, Bool.or_eq_true, not_or, Bool.and_eq_true, not_and, decide_eq_true_eq,
        decide_eq_true_eq, decide_eq_true_eq, Classical.not_not] at hcontrol
      by_cases hspace : ' ' ≤ c
      · rw [hcontrol.2 hspace]
        decide
      · have hlt : c.toNat < 32 := Nat.lt_of_not_le hspace
        omega
    refine .short rfl ?_
    have hhigh : c.toNat / 4096 = 0 ∧ c.toNat / 256 % 16 = 0 ∧ c.toNat / 16 % 16 < 16 ∧
        c.toNat % 16 < 16 := by omega
    simp only [codeFrom?, hexValue?_hexChar, hhigh, Option.bind_some, Nat.zero_lt_succ,
      Option.some.injEq]
    omega

theorem textSpelledAs_writeText (value : String) : TextSpelledAs value (writeText value) := by
  refine ⟨value.toList.flatMap writeChar, ⟨value.toList.map writeChar, ?_, rfl⟩, rfl⟩
  rw [List.forall₂_map_right_iff, List.forall₂_same]
  exact fun c _ => charSpelledAs_writeChar c

end Bookshop.Toml
