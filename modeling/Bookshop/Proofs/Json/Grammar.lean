import Bookshop.Json.Reader
import Bookshop.Proofs.Json.Quoted
import Bookshop.Proofs.Text.Digits

/-!
# Trees and their texts

A tree is well-formed when every part of it can be spelled. It has many texts: spaces may stand
around each of its parts, and the exponent of a numeral may be spelled in several ways. The texts
are told by the grammar of JSON, `IsText`, which says nothing about how they are read. What a
well-formed tree is written as is one of its texts.
-/

namespace Bookshop

/-! ### Well-formed trees -/

/-- The numeral is spelled as JSON asks: digits below ten and no leading zero before others. -/
structure Numeral.WellFormed (n : Numeral) : Prop where
  whole_lt : ∀ d ∈ n.whole, d < 10
  fraction_lt : ∀ d ∈ n.fraction, d < 10
  leading : n.whole = [0] ∨ ∃ d ds, n.whole = d :: ds ∧ d ≠ 0

namespace Json

/-- Raw strings: no bare quote, backslash or control character, and only whole escapes. -/
inductive RawString : Bytes → Prop where
  | nil : RawString []
  | plain {b : UInt8} {rest : Bytes} (hquote : b ≠ 0x22) (hbackslash : b ≠ 0x5C)
      (hcontrol : ¬ b < 0x20) (hrest : RawString rest) : RawString (b :: rest)
  | letter {e : UInt8} {rest : Bytes} (hletter : (Quoted.simpleEscape? e).isSome)
      (hunit : e ≠ 0x75) (hrest : RawString rest) : RawString (0x5C :: e :: rest)
  | unit {h₁ h₂ h₃ h₄ : UInt8} {rest : Bytes} (hfirst : (Quoted.hexValue? h₁).isSome)
      (hsecond : (Quoted.hexValue? h₂).isSome) (hthird : (Quoted.hexValue? h₃).isSome)
      (hfourth : (Quoted.hexValue? h₄).isSome) (hrest : RawString rest) :
      RawString (0x5C :: 0x75 :: h₁ :: h₂ :: h₃ :: h₄ :: rest)

mutual

/-- Every part of the tree can be spelled: nothing is cut off or open. -/
def WellFormed : Json → Prop
  | .null => True
  | .bool _ => True
  | .number numeral => numeral.WellFormed
  | .string raw => RawString raw
  | .list items closed => closed = true ∧ ItemsWellFormed items
  | .record members closed => closed = true ∧ MembersWellFormed members
  | .cut => False

def ItemsWellFormed : List Json → Prop
  | [] => True
  | item :: items => WellFormed item ∧ ItemsWellFormed items

def MembersWellFormed : List (Bytes × Json) → Prop
  | [] => True
  | (name, value) :: members =>
    RawString name ∧ WellFormed value ∧ MembersWellFormed members

end

theorem itemsWellFormed_iff {items : List Json} :
    ItemsWellFormed items ↔ ∀ item ∈ items, WellFormed item := by
  induction items with
  | nil => simp [ItemsWellFormed]
  | cons item items ih => simp [ItemsWellFormed, ih]

theorem membersWellFormed_iff {members : List Member} :
    MembersWellFormed members ↔ ∀ member ∈ members, RawString member.1 ∧ WellFormed member.2 := by
  induction members with
  | nil => simp [MembersWellFormed]
  | cons member members ih => simp [MembersWellFormed, ih, and_assoc]

/-- Escaped bytes are a raw string. -/
theorem rawString_escapeByte (b : UInt8) {rest : Bytes} (h : RawString rest) :
    RawString (Quoted.escapeByte b ++ rest) := by
  have hdigit {n : Nat} (hn : n < 16) : (Quoted.hexValue? (Quoted.hexDigit n)).isSome := by
    rw [Quoted.hexValue?_hexDigit hn]
    rfl
  rcases Quoted.escapeByte_cases b with ⟨e, heq, hunit, hsimple⟩ | ⟨hcontrol, heq⟩ |
    ⟨⟨hquote, hbackslash, hcontrol⟩, heq⟩
  · rw [heq]
    exact .letter (by rw [hsimple]; rfl) hunit h
  · rw [heq]
    exact .unit rfl rfl (hdigit (by omega)) (hdigit (by omega)) h
  · rw [heq]
    exact .plain hquote hbackslash hcontrol h

theorem rawString_escape (bytes : Bytes) : RawString (Quoted.escape bytes) := by
  induction bytes with
  | nil => exact .nil
  | cons b bytes ih =>
    rw [Quoted.escape, List.flatMap_cons]
    exact rawString_escapeByte b ih

theorem rawString_ofText (text : String) : RawString (Quoted.ofText text) := rawString_escape _

end Json

/-! ### Texts of numerals -/

namespace Numeral

/-- The bytes spell the exponent, from its mark on. Its digits may begin with zeros. -/
inductive ExponentSpelledAs : Option Int → Bytes → Prop where
  | none : ExponentSpelledAs none []
  | unsigned {mark : UInt8} {ds : List Nat} (hmark : mark = 0x65 ∨ mark = 0x45) (hne : ds ≠ [])
      (hds : ∀ d ∈ ds, d < 10) :
      ExponentSpelledAs (some (ofDigits ds)) (mark :: ds.map digitByte)
  | plus {mark : UInt8} {ds : List Nat} (hmark : mark = 0x65 ∨ mark = 0x45) (hne : ds ≠ [])
      (hds : ∀ d ∈ ds, d < 10) :
      ExponentSpelledAs (some (ofDigits ds)) (mark :: 0x2B :: ds.map digitByte)
  | minus {mark : UInt8} {ds : List Nat} (hmark : mark = 0x65 ∨ mark = 0x45) (hne : ds ≠ [])
      (hds : ∀ d ∈ ds, d < 10) :
      ExponentSpelledAs (some (-(ofDigits ds : Int))) (mark :: 0x2D :: ds.map digitByte)

/-- The bytes spell the numeral. Only the exponent can be spelled in several ways. -/
structure SpelledAs (n : Numeral) (bytes : Bytes) : Prop where
  wellFormed : n.WellFormed
  bytes_eq : ∃ exponent, ExponentSpelledAs n.exponent exponent ∧
    bytes = (if n.negative then [0x2D] else []) ++ n.whole.map digitByte ++
      spellFraction n.fraction ++ exponent

theorem exponentSpelledAs_spellExponent (exponent : Option Int) :
    ExponentSpelledAs exponent (spellExponent exponent) := by
  cases exponent with
  | none => exact .none
  | some e =>
    have hds : ∀ d ∈ digits e.natAbs, d < 10 := fun d hd => lt_of_mem_digits hd
    have hvalue : ofDigits (digits e.natAbs) = e.natAbs := ofDigits_digits e.natAbs
    by_cases hnegative : e < 0
    · have hminus := ExponentSpelledAs.minus (.inl rfl) (digits_ne_nil e.natAbs) hds
      rw [hvalue, show -(e.natAbs : Int) = e by omega] at hminus
      rw [spellExponent, if_pos hnegative]
      exact hminus
    · have hplus := ExponentSpelledAs.plus (.inl rfl) (digits_ne_nil e.natAbs) hds
      rw [hvalue, show (e.natAbs : Int) = e by omega] at hplus
      rw [spellExponent, if_neg hnegative]
      exact hplus

theorem spelledAs_spell {n : Numeral} (h : n.WellFormed) : n.SpelledAs n.spell where
  wellFormed := h
  bytes_eq := ⟨_, exponentSpelledAs_spellExponent n.exponent, rfl⟩

end Numeral

/-! ### Texts of trees -/

namespace Json

/-- Spaces, tabs and ends of lines, in any number. -/
def Blank (bytes : Bytes) : Prop := ∀ b ∈ bytes, isSpace b = true

instance (bytes : Bytes) : Decidable (Blank bytes) :=
  List.decidableBAll (isSpace · = true) bytes

theorem blank_nil : Blank [] := nofun

/-- The bytes spell the name of a member, up to the colon. -/
def NameSpelledAs (name bytes : Bytes) : Prop :=
  RawString name ∧ ∃ before after, Blank before ∧ Blank after ∧
    bytes = before ++ spellString name ++ after ++ [0x3A]

mutual

/-- The bytes spell the value, with no space before or after it. -/
inductive SpelledAs : Json → Bytes → Prop where
  | null : SpelledAs .null [0x6E, 0x75, 0x6C, 0x6C]
  | true : SpelledAs (.bool true) [0x74, 0x72, 0x75, 0x65]
  | false : SpelledAs (.bool false) [0x66, 0x61, 0x6C, 0x73, 0x65]
  | number {n : Numeral} {bytes : Bytes} (h : n.SpelledAs bytes) : SpelledAs (.number n) bytes
  | string {raw : Bytes} (h : RawString raw) : SpelledAs (.string raw) (spellString raw)
  | emptyList {spaces : Bytes} (h : Blank spaces) :
      SpelledAs (.list [] true) (0x5B :: spaces ++ [0x5D])
  | list {items : List Json} {inside : Bytes} (h : ItemsSpelledAs items inside) :
      SpelledAs (.list items true) (0x5B :: inside ++ [0x5D])
  | emptyRecord {spaces : Bytes} (h : Blank spaces) :
      SpelledAs (.record [] true) (0x7B :: spaces ++ [0x7D])
  | record {members : List (Bytes × Json)} {inside : Bytes}
      (h : MembersSpelledAs members inside) :
      SpelledAs (.record members true) (0x7B :: inside ++ [0x7D])

/-- The bytes spell one value or more, with commas between them. -/
inductive ItemsSpelledAs : List Json → Bytes → Prop where
  | last {item : Json} {before body after : Bytes} (hbefore : Blank before)
      (hitem : SpelledAs item body) (hafter : Blank after) :
      ItemsSpelledAs [item] (before ++ body ++ after)
  | cons {item : Json} {items : List Json} {before body after rest : Bytes}
      (hbefore : Blank before) (hitem : SpelledAs item body) (hafter : Blank after)
      (hrest : ItemsSpelledAs items rest) :
      ItemsSpelledAs (item :: items) (before ++ body ++ after ++ 0x2C :: rest)

/-- The bytes spell one member or more, with commas between them. -/
inductive MembersSpelledAs : List (Bytes × Json) → Bytes → Prop where
  | last {name : Bytes} {value : Json} {start before body after : Bytes}
      (hname : NameSpelledAs name start) (hbefore : Blank before) (hvalue : SpelledAs value body)
      (hafter : Blank after) :
      MembersSpelledAs [(name, value)] (start ++ (before ++ body ++ after))
  | cons {name : Bytes} {value : Json} {members : List (Bytes × Json)}
      {start before body after rest : Bytes} (hname : NameSpelledAs name start)
      (hbefore : Blank before) (hvalue : SpelledAs value body) (hafter : Blank after)
      (hrest : MembersSpelledAs members rest) :
      MembersSpelledAs ((name, value) :: members)
        (start ++ (before ++ body ++ after) ++ 0x2C :: rest)

end

/-- The bytes are a text of the tree: they spell it, with any spaces around it. -/
def IsText (json : Json) (bytes : Bytes) : Prop :=
  ∃ before body after, Blank before ∧ SpelledAs json body ∧ Blank after ∧
    bytes = before ++ body ++ after

/-! ### What is written -/

theorem nameSpelledAs_spell {name : Bytes} (h : RawString name) :
    NameSpelledAs name (spellString name ++ [0x3A]) :=
  ⟨h, [], [], blank_nil, blank_nil, by simp⟩

mutual

/-- A well-formed tree is spelled as it is written; the recursion is that of the tree. -/
theorem spelledAs_spell : ∀ json : Json, json.WellFormed → SpelledAs json json.spell
  | .null, _ => .null
  | .bool true, _ => .true
  | .bool false, _ => .false
  | .number _, h => .number (Numeral.spelledAs_spell h)
  | .string _, h => .string h
  | .list items _, h => by
    obtain ⟨rfl, hitems⟩ := h
    by_cases hne : items = []
    · subst hne
      exact .emptyList blank_nil
    · exact .list (itemsSpelledAs_spell items hne hitems)
  | .record members _, h => by
    obtain ⟨rfl, hmembers⟩ := h
    by_cases hne : members = []
    · subst hne
      exact .emptyRecord blank_nil
    · exact .record (membersSpelledAs_spell members hne hmembers)

theorem itemsSpelledAs_spell : ∀ items : List Json, items ≠ [] → ItemsWellFormed items →
    ItemsSpelledAs items (spellItems items)
  | [], hne, _ => absurd rfl hne
  | [item], _, h => by
    have hlast := ItemsSpelledAs.last blank_nil (spelledAs_spell item h.1) blank_nil
    simpa [spellItems] using hlast
  | item :: next :: items, _, h => by
    have hcons := ItemsSpelledAs.cons blank_nil (spelledAs_spell item h.1) blank_nil
      (itemsSpelledAs_spell (next :: items) (List.cons_ne_nil _ _) h.2)
    simpa [spellItems] using hcons

theorem membersSpelledAs_spell : ∀ members : List (Bytes × Json), members ≠ [] →
    MembersWellFormed members → MembersSpelledAs members (spellMembers members)
  | [], hne, _ => absurd rfl hne
  | [(_, value)], _, h => by
    obtain ⟨hname, hvalue, -⟩ := h
    have hlast := MembersSpelledAs.last (nameSpelledAs_spell hname) blank_nil
      (spelledAs_spell value hvalue) blank_nil
    simpa [spellMembers] using hlast
  | (_, value) :: next :: members, _, h => by
    obtain ⟨hname, hvalue, hmembers⟩ := h
    have hcons := MembersSpelledAs.cons (nameSpelledAs_spell hname) blank_nil
      (spelledAs_spell value hvalue) blank_nil
      (membersSpelledAs_spell (next :: members) (List.cons_ne_nil _ _) hmembers)
    simpa [spellMembers] using hcons

end

theorem isText_spell {json : Json} (h : json.WellFormed) : json.IsText json.spell :=
  ⟨[], json.spell, [], blank_nil, spelledAs_spell json h, blank_nil, by simp⟩

end Json

end Bookshop
