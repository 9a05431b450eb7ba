import Bookshop.Proofs.Json.Grammar

/-!
# Reading texts

The machine that reads JSON is driven over a text of a tree. A value that was read completely
leaves the machine `Settled`: it takes the next byte as one that follows the value. Most values end
with a byte of their own; a numeral does not, so a settled machine may still be inside one, and only
bytes that cannot continue a numeral tell the two apart.

The main statement is `read_text`: every text of a tree, whatever spaces are in it, is read as that
tree, and as a document that is complete. So is what a well-formed tree is written as (`read_spell`).
-/

namespace Bookshop

namespace Json

/-! ### Strings -/

theorem step_escapeDigit {b : UInt8} (h : (Quoted.hexValue? b).isSome) (isName : Bool)
    (raw : Bytes) (due : Nat) (stack : List Frame) :
    step (.reading (.string isName raw (.digits due)) stack) b =
      .reading (.string isName (b :: raw) (if due ≤ 1 then .none else .digits (due - 1)))
        stack := by
  simp only [step, stepString, h, if_true]

/-- Inside a string the machine gathers a raw string as it stands. -/
theorem foldl_step_rawString {raw : Bytes} (h : RawString raw) (isName : Bool) (before : Bytes)
    (stack : List Frame) :
    raw.foldl step (.reading (.string isName before .none) stack) =
      .reading (.string isName (raw.reverse ++ before) .none) stack := by
  induction h generalizing before with
  | nil => rfl
  | plain hquote hbackslash hcontrol _ ih =>
    rw [List.foldl_cons]
    simp only [step, stepString, if_neg hquote, if_neg hbackslash, if_neg hcontrol]
    rw [ih, List.reverse_cons, List.append_assoc, List.singleton_append]
  | @letter e rest hletter hunit _ ih =>
    have hfirst : step (.reading (.string isName before .none) stack) 0x5C =
        .reading (.string isName (0x5C :: before) .begun) stack := rfl
    have hsecond : step (.reading (.string isName (0x5C :: before) .begun) stack) e =
        .reading (.string isName (e :: 0x5C :: before) .none) stack := by
      simp [step, stepString, isEscapeLetter, hletter, hunit]
    rw [List.foldl_cons, List.foldl_cons, hfirst, hsecond, ih]
    simp
  | @unit h₁ h₂ h₃ h₄ rest hfirst hsecond hthird hfourth _ ih =>
    simp only [List.foldl_cons]
    have hbegun : step (step (.reading (.string isName before .none) stack) 0x5C) 0x75 =
        .reading (.string isName (0x75 :: 0x5C :: before) (.digits 4)) stack := rfl
    rw [hbegun, step_escapeDigit hfirst, if_neg (by decide), step_escapeDigit hsecond,
      if_neg (by decide), step_escapeDigit hthird, if_neg (by decide), step_escapeDigit hfourth,
      if_pos (by decide), ih]
    simp

/-! ### Numerals -/

theorem digitOf?_digitByte {d : Nat} (h : d < 10) : digitOf? (Numeral.digitByte d) = some d := by
  have all : ∀ m ∈ List.range 10, digitOf? (Numeral.digitByte m) = some m := by decide
  exact all d (List.mem_range.2 h)

theorem step_numeral {n next : OpenNumeral} {b : UInt8} (h : n.next? b = some next)
    (stack : List Frame) :
    step (.reading (.numeral n) stack) b = .reading (.numeral next) stack := by
  simp only [step, stepNumeral, h]

/-- Digits move the numeral on as long as each of them does. -/
theorem foldl_step_digits {ds : List Nat} {f : List Nat → OpenNumeral}
    (hnext : ∀ seen, ∀ d ∈ ds, (f seen).next? (Numeral.digitByte d) = some (f (seen ++ [d])))
    (seen : List Nat) (stack : List Frame) :
    (ds.map Numeral.digitByte).foldl step (.reading (.numeral (f seen)) stack) =
      .reading (.numeral (f (seen ++ ds))) stack := by
  induction ds generalizing seen with
  | nil => rw [List.append_nil]; rfl
  | cons d ds ih =>
    have hrest : ∀ seen, ∀ e ∈ ds,
        (f seen).next? (Numeral.digitByte e) = some (f (seen ++ [e])) := by
      intro seen e he
      exact hnext seen e (List.mem_cons_of_mem d he)
    rw [List.map_cons, List.foldl_cons, step_numeral (hnext seen d List.mem_cons_self), ih hrest,
      List.append_assoc, List.singleton_append]

theorem foldl_step_whole {ds : List Nat} (hds : ∀ d ∈ ds, d < 10) (negative : Bool)
    (whole : List Nat) (stack : List Frame) :
    (ds.map Numeral.digitByte).foldl step
        (.reading (.numeral ⟨.whole, negative, whole, [], false, 0⟩) stack) =
      .reading (.numeral ⟨.whole, negative, ds.reverse ++ whole, [], false, 0⟩) stack := by
  apply foldl_step_digits (f := fun seen =>
    ⟨.whole, negative, seen.reverse ++ whole, [], false, 0⟩) _ [] stack
  intro seen d hd
  simp [OpenNumeral.next?, digitOf?_digitByte (hds d hd)]

theorem foldl_step_fraction {ds : List Nat} (hds : ∀ d ∈ ds, d < 10) (negative : Bool)
    (whole fraction : List Nat) (stack : List Frame) :
    (ds.map Numeral.digitByte).foldl step
        (.reading (.numeral ⟨.fraction, negative, whole, fraction, false, 0⟩) stack) =
      .reading (.numeral ⟨.fraction, negative, whole, ds.reverse ++ fraction, false, 0⟩) stack := by
  apply foldl_step_digits (f := fun seen =>
    ⟨.fraction, negative, whole, seen.reverse ++ fraction, false, 0⟩) _ [] stack
  intro seen d hd
  simp [OpenNumeral.next?, digitOf?_digitByte (hds d hd)]

theorem foldl_step_exponent {ds : List Nat} (hds : ∀ d ∈ ds, d < 10) (n : OpenNumeral)
    (hphase : n.phase = .exponent) (stack : List Frame) :
    (ds.map Numeral.digitByte).foldl step (.reading (.numeral n) stack) =
      .reading (.numeral { n with exponent := appendDigits n.exponent ds }) stack := by
  apply foldl_step_digits (f := fun seen =>
    { n with exponent := appendDigits n.exponent seen }) _ [] stack
  intro seen d hd
  simp [OpenNumeral.next?, hphase, digitOf?_digitByte (hds d hd), appendDigits]

/-- The phase of a numeral after the first digit of its whole part. -/
def wholePhase (d : Nat) : NumeralPhase := if d = 0 then .leadingZero else .whole

theorem lt_ten_cases {d : Nat} (h : d < 10) :
    d = 0 ∨ d = 1 ∨ d = 2 ∨ d = 3 ∨ d = 4 ∨ d = 5 ∨ d = 6 ∨ d = 7 ∨ d = 8 ∨ d = 9 := by omega

theorem step_value_digit {d : Nat} (h : d < 10) (orEnd : Bool) (stack : List Frame) :
    step (.reading (.value orEnd) stack) (Numeral.digitByte d) =
      .reading (.numeral ⟨wholePhase d, false, [d], [], false, 0⟩) stack := by
  rcases lt_ten_cases h with rfl | rfl | rfl | rfl | rfl | rfl | rfl | rfl | rfl | rfl
  all_goals cases orEnd <;> rfl

theorem step_sign_digit {d : Nat} (h : d < 10) (stack : List Frame) :
    step (.reading (.numeral ⟨.sign, true, [], [], false, 0⟩) stack) (Numeral.digitByte d) =
      .reading (.numeral ⟨wholePhase d, true, [d], [], false, 0⟩) stack := by
  rcases lt_ten_cases h with rfl | rfl | rfl | rfl | rfl | rfl | rfl | rfl | rfl | rfl
  all_goals rfl

/-- The whole part of a numeral, with its sign. -/
theorem foldl_step_signed {n : Numeral} (h : n.WellFormed) (orEnd : Bool) (stack : List Frame) :
    ∃ phase, (phase = .leadingZero ∨ phase = .whole) ∧
      ((if n.negative then [0x2D] else []) ++ n.whole.map Numeral.digitByte).foldl step
          (.reading (.value orEnd) stack) =
        .reading (.numeral ⟨phase, n.negative, n.whole.reverse, [], false, 0⟩) stack := by
  obtain ⟨negative, whole, fraction, exponent⟩ := n
  obtain ⟨hwhole, -, hleading⟩ := h
  simp only at hwhole hleading ⊢
  -- Up to the first digit the sign makes the only difference.
  have hfirst {d : Nat} (hd : d < 10) (ds : List Nat) :
      ((if negative then [0x2D] else []) ++ (d :: ds).map Numeral.digitByte).foldl step
          (.reading (.value orEnd) stack) =
        (ds.map Numeral.digitByte).foldl step
          (.reading (.numeral ⟨wholePhase d, negative, [d], [], false, 0⟩) stack) := by
    cases negative with
    | false =>
      simp only [Bool.false_eq_true, if_false, List.nil_append, List.map_cons, List.foldl_cons,
        step_value_digit hd]
    | true =>
      have hsign : step (.reading (.value orEnd) stack) 0x2D =
          .reading (.numeral ⟨.sign, true, [], [], false, 0⟩) stack := by cases orEnd <;> rfl
      simp only [if_true, List.cons_append, List.nil_append, List.map_cons, List.foldl_cons, hsign,
        step_sign_digit hd]
  rcases hleading with rfl | ⟨d, ds, rfl, hd⟩
  · exact ⟨.leadingZero, .inl rfl, hfirst (by decide) []⟩
  · refine ⟨.whole, .inr rfl, ?_⟩
    rw [hfirst (hwhole d (by simp)), wholePhase, if_neg hd,
      foldl_step_whole fun e he => hwhole e (by simp [he])]
    simp

/-- The fraction of a numeral, if it has one. -/
theorem foldl_step_spellFraction {ds : List Nat} (hds : ∀ d ∈ ds, d < 10) {phase : NumeralPhase}
    (hphase : phase = .leadingZero ∨ phase = .whole) (negative : Bool) (whole : List Nat)
    (stack : List Frame) :
    ∃ next, (next = .leadingZero ∨ next = .whole ∨ next = .fraction) ∧
      (Numeral.spellFraction ds).foldl step
          (.reading (.numeral ⟨phase, negative, whole, [], false, 0⟩) stack) =
        .reading (.numeral ⟨next, negative, whole, ds.reverse, false, 0⟩) stack := by
  cases ds with
  | nil => exact ⟨phase, by rcases hphase with rfl | rfl <;> simp, rfl⟩
  | cons d ds =>
    have hpoint : OpenNumeral.next? ⟨phase, negative, whole, [], false, 0⟩ 0x2E =
        some ⟨.point, negative, whole, [], false, 0⟩ := by rcases hphase with rfl | rfl <;> rfl
    have hdigit : OpenNumeral.next? ⟨.point, negative, whole, [], false, 0⟩
        (Numeral.digitByte d) = some ⟨.fraction, negative, whole, [d], false, 0⟩ := by
      simp [OpenNumeral.next?, digitOf?_digitByte (hds d (by simp))]
    refine ⟨.fraction, .inr (.inr rfl), ?_⟩
    simp only [Numeral.spellFraction, List.isEmpty_cons, Bool.false_eq_true, if_false,
      List.map_cons, List.foldl_cons]
    rw [step_numeral hpoint, step_numeral hdigit,
      foldl_step_fraction fun e he => hds e (by simp [he])]
    simp

/-- After its mark and its sign the digits of an exponent come. -/
theorem foldl_step_exponentDigits {ds : List Nat} (hne : ds ≠ []) (hds : ∀ d ∈ ds, d < 10)
    {phase : NumeralPhase} (hphase : phase = .exponentMark ∨ phase = .exponentSign)
    (negative minus : Bool) (whole fraction : List Nat) (stack : List Frame) :
    (ds.map Numeral.digitByte).foldl step
        (.reading (.numeral ⟨phase, negative, whole, fraction, minus, 0⟩) stack) =
      .reading (.numeral ⟨.exponent, negative, whole, fraction, minus, ofDigits ds⟩) stack := by
  cases ds with
  | nil => exact absurd rfl hne
  | cons d ds =>
    have hdigit : OpenNumeral.next? ⟨phase, negative, whole, fraction, minus, 0⟩
        (Numeral.digitByte d) =
          some ⟨.exponent, negative, whole, fraction, minus, 10 * 0 + d⟩ := by
      rcases hphase with rfl | rfl
      all_goals simp [OpenNumeral.next?, digitOf?_digitByte (hds d (by simp))]
    rw [List.map_cons, List.foldl_cons, step_numeral hdigit,
      foldl_step_exponent (fun x hx => hds x (by simp [hx])) _ rfl]
    rfl

/-- The exponent of a numeral, if it has one. -/
theorem foldl_step_spelledExponent {exponent : Option Int} {bytes : Bytes}
    (h : Numeral.ExponentSpelledAs exponent bytes) {phase : NumeralPhase}
    (hphase : phase = .leadingZero ∨ phase = .whole ∨ phase = .fraction) (negative : Bool)
    (whole fraction : List Nat) (stack : List Frame) :
    ∃ m : OpenNumeral, m.mayEnd = true ∧
      m.numeral = ⟨negative, whole.reverse, fraction.reverse, exponent⟩ ∧
      bytes.foldl step (.reading (.numeral ⟨phase, negative, whole, fraction, false, 0⟩) stack) =
        .reading (.numeral m) stack := by
  have hmarked {mark : UInt8} (hmark : mark = 0x65 ∨ mark = 0x45) :
      OpenNumeral.next? ⟨phase, negative, whole, fraction, false, 0⟩ mark =
        some ⟨.exponentMark, negative, whole, fraction, false, 0⟩ := by
    rcases hmark with rfl | rfl <;> rcases hphase with rfl | rfl | rfl <;> rfl
  cases h with
  | none =>
    refine ⟨⟨phase, negative, whole, fraction, false, 0⟩, ?_, ?_, rfl⟩
    · rcases hphase with rfl | rfl | rfl <;> rfl
    · rcases hphase with rfl | rfl | rfl <;> rfl
  | @unsigned mark ds hmark hne hds =>
    refine ⟨⟨.exponent, negative, whole, fraction, false, ofDigits ds⟩, rfl, rfl, ?_⟩
    rw [List.foldl_cons, step_numeral (hmarked hmark),
      foldl_step_exponentDigits hne hds (.inl rfl)]
  | @plus mark ds hmark hne hds =>
    have hsign : OpenNumeral.next? ⟨.exponentMark, negative, whole, fraction, false, 0⟩ 0x2B =
        some ⟨.exponentSign, negative, whole, fraction, false, 0⟩ := rfl
    refine ⟨⟨.exponent, negative, whole, fraction, false, ofDigits ds⟩, rfl, rfl, ?_⟩
    rw [List.foldl_cons, List.foldl_cons, step_numeral (hmarked hmark), step_numeral hsign,
      foldl_step_exponentDigits hne hds (.inr rfl)]
  | @minus mark ds hmark hne hds =>
    have hsign : OpenNumeral.next? ⟨.exponentMark, negative, whole, fraction, false, 0⟩ 0x2D =
        some ⟨.exponentSign, negative, whole, fraction, true, 0⟩ := rfl
    refine ⟨⟨.exponent, negative, whole, fraction, true, ofDigits ds⟩, rfl, rfl, ?_⟩
    rw [List.foldl_cons, List.foldl_cons, step_numeral (hmarked hmark), step_numeral hsign,
      foldl_step_exponentDigits hne hds (.inr rfl)]

/-- A spelled numeral is read as that numeral, in a state in which it may end. -/
theorem foldl_step_numeral {n : Numeral} {bytes : Bytes} (h : n.SpelledAs bytes) (orEnd : Bool)
    (stack : List Frame) :
    ∃ m : OpenNumeral, m.mayEnd = true ∧ m.numeral = n ∧
      bytes.foldl step (.reading (.value orEnd) stack) = .reading (.numeral m) stack := by
  obtain ⟨exponent, hspelled, rfl⟩ := h.bytes_eq
  obtain ⟨phase, hphase, hwhole⟩ := foldl_step_signed h.wellFormed orEnd stack
  obtain ⟨next, hnext, hfraction⟩ :=
    foldl_step_spellFraction h.wellFormed.fraction_lt hphase n.negative n.whole.reverse stack
  obtain ⟨m, hend, hnumeral, hexponent⟩ :=
    foldl_step_spelledExponent hspelled hnext n.negative n.whole.reverse n.fraction.reverse stack
  refine ⟨m, hend, by simpa using hnumeral, ?_⟩
  rw [List.foldl_append, List.foldl_append, hwhole, hfraction, hexponent]

/-! ### Settled machines -/

/-- Bytes that no numeral goes on with. -/
def EndsNumeral (b : UInt8) : Prop := digitOf? b = none ∧ b ≠ 0x2E ∧ b ≠ 0x65 ∧ b ≠ 0x45

instance (b : UInt8) : Decidable (EndsNumeral b) := by
  unfold EndsNumeral
  infer_instance

/-- The machine has read a value: the next byte, unless it could continue a numeral, is one that
    follows the value, and the end of the text is the end after the value. -/
structure Settled (value : Json) (stack : List Frame) (machine : Machine) : Prop where
  step_eq : ∀ {b}, EndsNumeral b → step machine b = stepAfter value stack b
  finish_eq : finish machine = finish (.reading (.after value) stack)

theorem settled_after (value : Json) (stack : List Frame) :
    Settled value stack (.reading (.after value) stack) := ⟨fun _ => rfl, rfl⟩

/-- A numeral that may end does not go on with a byte that ends numerals. -/
theorem next?_of_endsNumeral {m : OpenNumeral} (hend : m.mayEnd = true) {b : UInt8}
    (hb : EndsNumeral b) : m.next? b = none := by
  obtain ⟨hdigit, hpoint, he, hE⟩ := hb
  have hmark : (b == 0x65 || b == 0x45) = false := by simp [he, hE]
  obtain ⟨phase, negative, whole, fraction, exponentNegative, exponent⟩ := m
  cases phase <;> simp_all [OpenNumeral.next?, OpenNumeral.mayEnd]

theorem settled_numeral {m : OpenNumeral} (hend : m.mayEnd = true) (stack : List Frame) :
    Settled (.number m.numeral) stack (.reading (.numeral m) stack) where
  step_eq hb := by
    simp only [step, stepNumeral, next?_of_endsNumeral hend hb, hend, hb.1, Option.isNone_none,
      Bool.and_self, if_true]
  finish_eq := by
    cases stack <;> simp [finish, breakOff, hend]

/-! ### Spaces -/

/-- A machine that passes over spaces passes over any number of them. -/
theorem foldl_step_blank {spaces : Bytes} (h : Blank spaces) {machine : Machine}
    (hstep : ∀ b, isSpace b = true → step machine b = machine) :
    spaces.foldl step machine = machine := by
  induction spaces with
  | nil => rfl
  | cons b spaces ih =>
    rw [List.foldl_cons, hstep b (h b List.mem_cons_self)]
    exact ih fun b hb => h b (List.mem_cons_of_mem _ hb)

theorem foldl_step_blank_value {spaces : Bytes} (h : Blank spaces) (orEnd : Bool)
    (stack : List Frame) :
    spaces.foldl step (.reading (.value orEnd) stack) = .reading (.value orEnd) stack :=
  foldl_step_blank h fun _ hb => by simp only [step, stepValue, hb, if_true]

theorem foldl_step_blank_name {spaces : Bytes} (h : Blank spaces) (orEnd : Bool)
    (stack : List Frame) :
    spaces.foldl step (.reading (.name orEnd) stack) = .reading (.name orEnd) stack :=
  foldl_step_blank h fun _ hb => by simp only [step, stepName, hb, if_true]

theorem stepAfter_of_isSpace {b : UInt8} (h : isSpace b = true) (value : Json)
    (stack : List Frame) : stepAfter value stack b = .reading (.after value) stack := if_pos h

theorem foldl_step_blank_after {spaces : Bytes} (h : Blank spaces) (value : Json)
    (stack : List Frame) :
    spaces.foldl step (.reading (.after value) stack) = .reading (.after value) stack :=
  foldl_step_blank h fun _ hb => stepAfter_of_isSpace hb value stack

theorem endsNumeral_of_isSpace {b : UInt8} (h : isSpace b = true) : EndsNumeral b := by
  simp only [isSpace, Bool.or_eq_true, beq_iff_eq] at h
  rcases h with ((rfl | rfl) | rfl) | rfl <;> decide

/-- Spaces leave a settled machine settled. -/
theorem Settled.foldl_step {value : Json} {stack : List Frame} {machine : Machine}
    (h : Settled value stack machine) {spaces : Bytes} (hspaces : Blank spaces) :
    Settled value stack (spaces.foldl step machine) := by
  cases spaces with
  | nil => exact h
  | cons b spaces =>
    have hb := hspaces b List.mem_cons_self
    have hrest : Blank spaces := fun c hc => hspaces c (List.mem_cons_of_mem _ hc)
    rw [List.foldl_cons, h.step_eq (endsNumeral_of_isSpace hb), stepAfter_of_isSpace hb,
      foldl_step_blank_after hrest]
    exact settled_after value stack

/-! ### Strings, lists and records -/

theorem foldl_step_string {raw : Bytes} (h : RawString raw) (orEnd : Bool) (stack : List Frame) :
    (spellString raw).foldl step (.reading (.value orEnd) stack) =
      .reading (.after (.string raw)) stack := by
  have hopen : step (.reading (.value orEnd) stack) 0x22 =
      .reading (.string false [] .none) stack := by cases orEnd <;> rfl
  rw [spellString, List.cons_append, List.foldl_cons, hopen, List.foldl_append,
    foldl_step_rawString h, List.append_nil]
  simp [step, stepString, closeString]

theorem foldl_step_name {name bytes : Bytes} (h : NameSpelledAs name bytes) (orEnd : Bool)
    (members : List Member) (stack : List Frame) :
    bytes.foldl step (.reading (.name orEnd) (.record members :: stack)) =
      .reading (.value false) (.member members name :: stack) := by
  obtain ⟨hname, before, after, hbefore, hafter, rfl⟩ := h
  have hopen : step (.reading (.name orEnd) (.record members :: stack)) 0x22 =
      .reading (.string true [] .none) (.record members :: stack) := rfl
  have hclose : step (.reading (.string true name.reverse .none) (.record members :: stack)) 0x22 =
      .reading .colon (.member members name :: stack) := by
    simp [step, stepString, closeString]
  have hspaces : after.foldl step (.reading .colon (.member members name :: stack)) =
      .reading .colon (.member members name :: stack) :=
    foldl_step_blank hafter fun _ hb => by simp only [step, stepColon, hb, if_true]
  simp only [spellString, List.cons_append, List.foldl_cons, List.foldl_append, hopen,
    foldl_step_blank_name hbefore, foldl_step_rawString hname, List.append_nil, hclose,
    List.foldl_nil, hspaces]
  rfl

/-! ### Texts -/

/-- Where a value is due, spaces around it make no difference. -/
theorem settled_padded {value : Json} {before body after : Bytes} {orEnd : Bool}
    {stack : List Frame} (hbefore : Blank before) (hafter : Blank after)
    (h : Settled value stack (body.foldl step (.reading (.value orEnd) stack))) :
    Settled value stack
      ((before ++ body ++ after).foldl step (.reading (.value orEnd) stack)) := by
  rw [List.foldl_append, List.foldl_append, foldl_step_blank_value hbefore]
  exact h.foldl_step hafter

mutual

/-- A value that is spelled where one is due is read as that value. The recursion is that of the
    grammar. -/
theorem SpelledAs.settled : ∀ {json : Json} {bytes : Bytes}, SpelledAs json bytes →
    ∀ orEnd stack, Settled json stack (bytes.foldl step (.reading (.value orEnd) stack))
  | _, _, .null, orEnd, stack => by
    cases orEnd <;> exact settled_after .null stack
  | _, _, .true, orEnd, stack => by
    cases orEnd <;> exact settled_after (.bool true) stack
  | _, _, .false, orEnd, stack => by
    cases orEnd <;> exact settled_after (.bool false) stack
  | _, _, .number h, orEnd, stack => by
    obtain ⟨m, hend, rfl, hread⟩ := foldl_step_numeral h orEnd stack
    rw [hread]
    exact settled_numeral hend stack
  | _, _, .string h, orEnd, stack => by
    rw [foldl_step_string h]
    exact settled_after _ stack
  | _, _, .emptyList h, orEnd, stack => by
    have hopen : step (.reading (.value orEnd) stack) 0x5B =
        .reading (.value true) (.list [] :: stack) := by cases orEnd <;> rfl
    rw [List.cons_append, List.foldl_cons, hopen, List.foldl_append, foldl_step_blank_value h]
    exact settled_after (.list [] true) stack
  | _, _, .list h, orEnd, stack => by
    have hopen : step (.reading (.value orEnd) stack) 0x5B =
        .reading (.value true) (.list [] :: stack) := by cases orEnd <;> rfl
    rw [List.cons_append, List.foldl_cons, hopen, h.foldl_step]
    exact settled_after _ stack
  | _, _, .emptyRecord h, orEnd, stack => by
    have hopen : step (.reading (.value orEnd) stack) 0x7B =
        .reading (.name true) (.record [] :: stack) := by cases orEnd <;> rfl
    rw [List.cons_append, List.foldl_cons, hopen, List.foldl_append, foldl_step_blank_name h]
    exact settled_after (.record [] true) stack
  | _, _, .record h, orEnd, stack => by
    have hopen : step (.reading (.value orEnd) stack) 0x7B =
        .reading (.name true) (.record [] :: stack) := by cases orEnd <;> rfl
    rw [List.cons_append, List.foldl_cons, hopen, h.foldl_step]
    exact settled_after _ stack

theorem ItemsSpelledAs.foldl_step : ∀ {items : List Json} {bytes : Bytes},
    ItemsSpelledAs items bytes → ∀ (orEnd : Bool) (before : List Json) (stack : List Frame),
    (bytes ++ [0x5D]).foldl step (.reading (.value orEnd) (.list before :: stack)) =
      .reading (.after (.list (before.reverse ++ items) true)) stack
  | _, _, .last hbefore hitem hafter, orEnd, seen, stack => by
    have hread := settled_padded hbefore hafter (hitem.settled orEnd (.list seen :: stack))
    rw [List.foldl_append, List.foldl_cons, hread.step_eq (by decide)]
    simp [stepAfter, isSpace]
  | _, _, @ItemsSpelledAs.cons item _ _ _ _ _ hbefore hitem hafter hrest, orEnd, seen, stack => by
    have hread := settled_padded hbefore hafter (hitem.settled orEnd (.list seen :: stack))
    have hcomma : stepAfter item (.list seen :: stack) 0x2C =
        .reading (.value false) (.list (item :: seen) :: stack) := rfl
    rw [List.append_assoc, List.foldl_append, List.cons_append, List.foldl_cons,
      hread.step_eq (by decide), hcomma, hrest.foldl_step]
    simp

theorem MembersSpelledAs.foldl_step : ∀ {members : List (Bytes × Json)} {bytes : Bytes},
    MembersSpelledAs members bytes →
    ∀ (orEnd : Bool) (before : List Member) (stack : List Frame),
    (bytes ++ [0x7D]).foldl step (.reading (.name orEnd) (.record before :: stack)) =
      .reading (.after (.record (before.reverse ++ members) true)) stack
  | _, _, @MembersSpelledAs.last name _ _ _ _ _ hname hbefore hvalue hafter, orEnd, seen, stack => by
    have hread := settled_padded hbefore hafter
      (hvalue.settled false (.member seen name :: stack))
    rw [List.append_assoc, List.foldl_append, foldl_step_name hname, List.foldl_append,
      List.foldl_cons, hread.step_eq (by decide)]
    simp [stepAfter, isSpace]
  | _, _, @MembersSpelledAs.cons name value _ _ _ _ _ _ hname hbefore hvalue hafter hrest, orEnd,
      seen, stack => by
    have hread := settled_padded hbefore hafter
      (hvalue.settled false (.member seen name :: stack))
    have hcomma : stepAfter value (.member seen name :: stack) 0x2C =
        .reading (.name false) (.record ((name, value) :: seen) :: stack) := rfl
    rw [List.append_assoc, List.append_assoc, List.foldl_append, foldl_step_name hname,
      List.foldl_append, List.cons_append, List.foldl_cons, hread.step_eq (by decide), hcomma,
      hrest.foldl_step]
    simp

end

/-- **Reading texts.** Every text of a tree is read as that tree, to its end. -/
theorem read_text {json : Json} {bytes : Bytes} (h : json.IsText bytes) :
    read bytes = ⟨json, true⟩ := by
  obtain ⟨before, body, after, hbefore, hbody, hafter, rfl⟩ := h
  rw [read, start, (settled_padded hbefore hafter (hbody.settled false [])).finish_eq]
  rfl

/-- **Reading what was written.** The bytes of a well-formed tree are read as that tree, to their
    end. -/
theorem read_spell {json : Json} (h : json.WellFormed) : read json.spell = ⟨json, true⟩ :=
  read_text (isText_spell h)

end Json

end Bookshop
