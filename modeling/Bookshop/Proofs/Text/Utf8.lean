import Bookshop.Text.Utf8

/-!
# UTF-8 round trip

The bytes of a text spell that text and no other. Reading follows the bytes of one character at a
time: the leading byte announces a range that the next byte lies in because characters are neither
surrogates nor above U+10FFFF, and the last byte completes the number of the character. The same
ranges see to it that nothing else is read: bytes that are read as a text are the bytes of it.
-/

namespace Bookshop.Utf8

/-! ### Following bytes -/

theorem toNat_following {x : Nat} (hx : x < 64) : (UInt8.ofNat (0x80 + x)).toNat = 0x80 + x :=
  UInt8.toNat_ofNat_of_lt' (by simp only [UInt8.size]; omega)

theorem decodeFrom_last {payload seen low high x : Nat} (hx : x < 64) (hlow : low ≤ 0x80 + x)
    (hhigh : 0x80 + x ≤ high) (index : Nat) (rest : Bytes) :
    decodeFrom index (some ⟨payload, seen, 1, low, high⟩) (.ofNat (0x80 + x) :: rest) =
      (Char.ofNat (payload * 64 + x) :: ·) <$> decodeFrom (index + 1) none rest := by
  rw [decodeFrom]
  simp only [toNat_following hx]
  rw [if_neg (by simp; omega), if_pos (Nat.le_refl 1), Nat.add_sub_cancel_left]

theorem decodeFrom_more {payload seen due low high x : Nat} (hx : x < 64)
    (hlow : low ≤ 0x80 + x) (hhigh : 0x80 + x ≤ high) (index : Nat) (rest : Bytes) :
    decodeFrom index (some ⟨payload, seen, due + 2, low, high⟩) (.ofNat (0x80 + x) :: rest) =
      decodeFrom (index + 1) (some ⟨payload * 64 + x, seen + 1, due + 1, 0x80, 0xBF⟩) rest := by
  rw [decodeFrom]
  simp only [toNat_following hx]
  rw [if_neg (by simp; omega), if_neg (by omega), Nat.add_sub_cancel_left]
  rfl

theorem decodeFrom_lead {byte : UInt8} {following n low high : Nat}
    (h : lead? byte = some ⟨following + 1, n, low, high⟩) (index : Nat) (rest : Bytes) :
    decodeFrom index none (byte :: rest) =
      decodeFrom (index + 1) (some ⟨n, 1, following + 1, low, high⟩) rest := by
  rw [decodeFrom]
  simp only [h]

/-! ### Leading bytes -/

theorem lead?_ascii {n : Nat} (h : n < 0x80) : lead? (.ofNat n) = some ⟨0, n, 0, 0⟩ := by
  have hbyte : (UInt8.ofNat n).toNat = n := UInt8.toNat_ofNat_of_lt' (by
    simp only [UInt8.size]; omega)
  unfold lead?
  simp only [hbyte]
  rw [if_pos h]

theorem lead?_two {x : Nat} (hlow : 2 ≤ x) (hhigh : x < 32) :
    lead? (.ofNat (0xC0 + x)) = some ⟨1, x, 0x80, 0xBF⟩ := by
  have hbyte : (UInt8.ofNat (0xC0 + x)).toNat = 0xC0 + x := UInt8.toNat_ofNat_of_lt' (by
    simp only [UInt8.size]; omega)
  unfold lead?
  simp only [hbyte]
  rw [if_neg (by omega), if_neg (by omega), if_pos (by omega), Nat.add_sub_cancel_left]

/-- The range after a leading byte of three leaves out overlong forms and surrogates. -/
theorem lead?_three {x y : Nat} (hx : x < 16) (hy : y < 64) (hlong : x = 0 → 32 ≤ y)
    (hsurrogate : x = 13 → y < 32) :
    ∃ low high, lead? (.ofNat (0xE0 + x)) = some ⟨2, x, low, high⟩ ∧
      low ≤ 0x80 + y ∧ 0x80 + y ≤ high := by
  have hbyte : (UInt8.ofNat (0xE0 + x)).toNat = 0xE0 + x := UInt8.toNat_ofNat_of_lt' (by
    simp only [UInt8.size]; omega)
  unfold lead?
  simp only [hbyte]
  rw [if_neg (by omega), if_neg (by omega), if_neg (by omega)]
  by_cases hzero : x = 0
  · subst hzero
    exact ⟨0xA0, 0xBF, by simp, by omega, by omega⟩
  · rw [if_neg (by omega)]
    by_cases hthirteen : x = 13
    · subst hthirteen
      exact ⟨0x80, 0x9F, by simp, by omega, by omega⟩
    · rw [if_neg (by omega), if_pos (by omega), Nat.add_sub_cancel_left]
      exact ⟨0x80, 0xBF, rfl, by omega, by omega⟩

/-- The range after a leading byte of four leaves out overlong forms and numbers that are too
    large. -/
theorem lead?_four {x y : Nat} (hx : x < 5) (hy : y < 64) (hlong : x = 0 → 16 ≤ y)
    (hlarge : x = 4 → y < 16) :
    ∃ low high, lead? (.ofNat (0xF0 + x)) = some ⟨3, x, low, high⟩ ∧
      low ≤ 0x80 + y ∧ 0x80 + y ≤ high := by
  have hbyte : (UInt8.ofNat (0xF0 + x)).toNat = 0xF0 + x := UInt8.toNat_ofNat_of_lt' (by
    simp only [UInt8.size]; omega)
  unfold lead?
  simp only [hbyte]
  rw [if_neg (by omega), if_neg (by omega), if_neg (by omega), if_neg (by omega),
    if_neg (by omega), if_neg (by omega)]
  by_cases hzero : x = 0
  · subst hzero
    exact ⟨0x90, 0xBF, by simp, by omega, by omega⟩
  · rw [if_neg (by omega)]
    by_cases hfour : x = 4
    · subst hfour
      exact ⟨0x80, 0x8F, by simp, by omega, by omega⟩
    · rw [if_pos (by omega), Nat.add_sub_cancel_left]
      exact ⟨0x80, 0xBF, rfl, by omega, by omega⟩

/-! ### Characters and texts -/

/-- A character is never a surrogate and never above the last code point. -/
theorem char_toNat_valid (c : Char) : c.toNat < 0xD800 ∨ (0xDFFF < c.toNat ∧ c.toNat < 0x110000) :=
  c.valid

/-- The bytes of a character are read as it, wherever they stand. -/
theorem decodeFrom_encodeChar (c : Char) (index : Nat) (rest : Bytes) :
    decodeFrom index none (encodeChar c ++ rest) =
      (c :: ·) <$> decodeFrom (index + (encodeChar c).length) none rest := by
  have hvalid := char_toNat_valid c
  have hchar : Char.ofNat c.toNat = c := Char.ofNat_toNat c
  unfold encodeChar
  simp only
  generalize c.toNat = n at hvalid hchar
  subst hchar
  split
  · next hone =>
    simp only [List.cons_append, List.nil_append]
    rw [decodeFrom]
    simp only [lead?_ascii hone, List.length_singleton]
  split
  · next htwo =>
    have hlead := lead?_two (x := n / 64) (by omega) (by omega)
    simp only [List.cons_append, List.nil_append]
    rw [decodeFrom_lead hlead, decodeFrom_last (Nat.mod_lt n (by omega)) (by omega) (by omega),
      show n / 64 * 64 + n % 64 = n by omega]
    rfl
  split
  · next hthree =>
    obtain ⟨low, high, hlead, hlow, hhigh⟩ := lead?_three (x := n / 4096) (y := n / 64 % 64)
      (by omega) (by omega) (by omega) (by omega)
    simp only [List.cons_append, List.nil_append]
    rw [decodeFrom_lead hlead, decodeFrom_more (Nat.mod_lt _ (by omega)) hlow hhigh,
      decodeFrom_last (Nat.mod_lt n (by omega)) (by omega) (by omega),
      show (n / 4096 * 64 + n / 64 % 64) * 64 + n % 64 = n by omega]
    rfl
  · obtain ⟨low, high, hlead, hlow, hhigh⟩ := lead?_four (x := n / 262144) (y := n / 4096 % 64)
      (by omega) (by omega) (by omega) (by omega)
    simp only [List.cons_append, List.nil_append]
    rw [decodeFrom_lead hlead, decodeFrom_more (Nat.mod_lt _ (by omega)) hlow hhigh,
      decodeFrom_more (Nat.mod_lt _ (by omega)) (by omega) (by omega),
      decodeFrom_last (Nat.mod_lt n (by omega)) (by omega) (by omega),
      show ((n / 262144 * 64 + n / 4096 % 64) * 64 + n / 64 % 64) * 64 + n % 64 = n by omega]
    rfl

theorem decodeFrom_flatMap_encodeChar (cs : List Char) (index : Nat) :
    decodeFrom index none (cs.flatMap encodeChar) = .ok cs := by
  induction cs generalizing index with
  | nil => rfl
  | cons c cs ih =>
    rw [List.flatMap_cons, decodeFrom_encodeChar, ih]
    rfl

/-- **Round trip.** The bytes of a text spell it. -/
@[simp] theorem decode_encode (text : String) : decode (encode text) = .ok text := by
  unfold decode encode
  rw [decodeFrom_flatMap_encodeChar]
  exact congrArg Except.ok text.ofList_toList

@[simp] theorem decode?_encode (text : String) : decode? (encode text) = some text := by
  rw [decode?, decode_encode]
  rfl

/-- Different texts have different bytes. -/
theorem encode_injective {a b : String} (h : encode a = encode b) : a = b := by
  have hdecode := congrArg decode? h
  simpa using hdecode

/-! ### What is read is written so -/

section Pending

variable {payload seen due low high index : Nat} {bytes : Bytes} {cs : List Char}

theorem of_decodeFrom_last
    (h : decodeFrom index (some ⟨payload, seen, 1, low, high⟩) bytes = .ok cs) :
    ∃ byte rest others, bytes = byte :: rest ∧ low ≤ byte.toNat ∧ byte.toNat ≤ high ∧
      cs = Char.ofNat (payload * 64 + (byte.toNat - 0x80)) :: others ∧
      decodeFrom (index + 1) none rest = .ok others := by
  cases bytes with
  | nil => simp [decodeFrom] at h
  | cons byte rest =>
    simp only [decodeFrom, Nat.le_refl, if_true] at h
    split at h
    · cases h
    · next hrange =>
      cases hrest : decodeFrom (index + 1) none rest with
      | error fault =>
        rw [hrest] at h
        cases h
      | ok others =>
        rw [hrest] at h
        cases h
        simp only [Bool.or_eq_true, decide_eq_true_eq] at hrange
        exact ⟨byte, rest, others, rfl, by omega, by omega, rfl, hrest⟩

theorem of_decodeFrom_more
    (h : decodeFrom index (some ⟨payload, seen, due + 2, low, high⟩) bytes = .ok cs) :
    ∃ byte rest, bytes = byte :: rest ∧ low ≤ byte.toNat ∧ byte.toNat ≤ high ∧
      decodeFrom (index + 1)
        (some ⟨payload * 64 + (byte.toNat - 0x80), seen + 1, due + 1, 0x80, 0xBF⟩) rest =
          .ok cs := by
  cases bytes with
  | nil => simp [decodeFrom] at h
  | cons byte rest =>
    simp only [decodeFrom] at h
    split at h
    · cases h
    · next hrange =>
      rw [if_neg (by omega)] at h
      simp only [Bool.or_eq_true, decide_eq_true_eq] at hrange
      exact ⟨byte, rest, rfl, by omega, by omega, h⟩

end Pending

/-- What a leading byte announces: the payload is the rest of it, and the range of the next byte
    leaves out overlong forms, surrogates and numbers that are too large. -/
theorem of_lead? {byte : UInt8} {following n low high : Nat}
    (h : lead? byte = some ⟨following, n, low, high⟩) :
    (following = 0 ∧ byte.toNat = n ∧ n < 0x80) ∨
    (following = 1 ∧ byte.toNat = 0xC0 + n ∧ 2 ≤ n ∧ n < 32 ∧ 0x80 ≤ low ∧ high ≤ 0xBF) ∨
    (following = 2 ∧ byte.toNat = 0xE0 + n ∧ n < 16 ∧ 0x80 ≤ low ∧ high ≤ 0xBF ∧
      (n = 0 → 0xA0 ≤ low) ∧ (n = 13 → high ≤ 0x9F)) ∨
    (following = 3 ∧ byte.toNat = 0xF0 + n ∧ n < 5 ∧ 0x80 ≤ low ∧ high ≤ 0xBF ∧
      (n = 0 → 0x90 ≤ low) ∧ (n = 4 → high ≤ 0x8F)) := by
  unfold lead? at h
  simp only at h
  repeat' split at h
  all_goals simp only [Option.some.injEq, Lead.mk.injEq, reduceCtorEq] at h
  all_goals omega

/-! The bytes of a character, from the payloads of the bytes. -/

section Encode

variable {a b c d : UInt8} {n x y z : Nat}

theorem toNat_ofNat (h : n.isValidChar) : (Char.ofNat n).toNat = n := by
  rw [Char.ofNat, dif_pos h]
  rfl

theorem eq_ofNat (h : a.toNat = n) : UInt8.ofNat n = a := by rw [← h, UInt8.ofNat_toNat]

theorem encodeChar_one (hn : n < 0x80) (ha : a.toNat = n) : encodeChar (.ofNat n) = [a] := by
  simp only [encodeChar, toNat_ofNat (Or.inl (by omega : n < 0xD800))]
  rw [if_pos hn, eq_ofNat ha]

theorem encodeChar_two (hlong : 2 ≤ n) (hn : n < 32) (hx : x < 64) (ha : a.toNat = 0xC0 + n)
    (hb : b.toNat = 0x80 + x) : encodeChar (.ofNat (n * 64 + x)) = [a, b] := by
  simp only [encodeChar, toNat_ofNat (Or.inl (by omega : n * 64 + x < 0xD800))]
  rw [if_neg (by omega), if_pos (by omega), eq_ofNat (a := a) (by omega),
    eq_ofNat (a := b) (by omega)]

theorem encodeChar_three (hn : n < 16) (hx : x < 64) (hy : y < 64) (hlong : n = 0 → 32 ≤ x)
    (hsurrogate : n = 13 → x < 32) (ha : a.toNat = 0xE0 + n) (hb : b.toNat = 0x80 + x)
    (hc : c.toNat = 0x80 + y) : encodeChar (.ofNat ((n * 64 + x) * 64 + y)) = [a, b, c] := by
  have hvalid : ((n * 64 + x) * 64 + y).isValidChar := by
    simp only [Nat.isValidChar]
    omega
  simp only [encodeChar, toNat_ofNat hvalid]
  rw [if_neg (by omega), if_neg (by omega), if_pos (by omega), eq_ofNat (a := a) (by omega),
    eq_ofNat (a := b) (by omega), eq_ofNat (a := c) (by omega)]

theorem encodeChar_four (hn : n < 5) (hx : x < 64) (hy : y < 64) (hz : z < 64)
    (hlong : n = 0 → 16 ≤ x) (hlarge : n = 4 → x < 16) (ha : a.toNat = 0xF0 + n)
    (hb : b.toNat = 0x80 + x) (hc : c.toNat = 0x80 + y) (hd : d.toNat = 0x80 + z) :
    encodeChar (.ofNat (((n * 64 + x) * 64 + y) * 64 + z)) = [a, b, c, d] := by
  have hvalid : (((n * 64 + x) * 64 + y) * 64 + z).isValidChar := by
    simp only [Nat.isValidChar]
    omega
  simp only [encodeChar, toNat_ofNat hvalid]
  rw [if_neg (by omega), if_neg (by omega), if_neg (by omega), eq_ofNat (a := a) (by omega),
    eq_ofNat (a := b) (by omega), eq_ofNat (a := c) (by omega), eq_ofNat (a := d) (by omega)]

end Encode

/-- Bytes that are read from the start of a character on begin with the bytes of the first
    character read. -/
theorem of_decodeFrom_cons {index : Nat} {byte : UInt8} {rest : Bytes} {cs : List Char}
    (h : decodeFrom index none (byte :: rest) = .ok cs) :
    ∃ c others after next, byte :: rest = encodeChar c ++ after ∧ cs = c :: others ∧
      decodeFrom next none after = .ok others := by
  rw [decodeFrom] at h
  cases hlead : lead? byte with
  | none =>
    rw [hlead] at h
    cases h
  | some lead =>
    rw [hlead] at h
    obtain ⟨following, n, low, high⟩ := lead
    rcases of_lead? hlead with ⟨rfl, hbyte, hn⟩ | ⟨rfl, hbyte, hlong, hn, hlow, hhigh⟩ |
      ⟨rfl, hbyte, hn, hlow, hhigh, hlong, hsurrogate⟩ |
      ⟨rfl, hbyte, hn, hlow, hhigh, hlong, hlarge⟩
    · simp only at h
      cases hrest : decodeFrom (index + 1) none rest with
      | error fault =>
        rw [hrest] at h
        cases h
      | ok others =>
        rw [hrest] at h
        cases h
        refine ⟨Char.ofNat n, others, rest, index + 1, ?_, rfl, hrest⟩
        rw [encodeChar_one hn hbyte, List.singleton_append]
    · obtain ⟨second, after, others, rfl, hsecond, hsecond', rfl, hrest⟩ := of_decodeFrom_last h
      refine ⟨_, others, after, _, ?_, rfl, hrest⟩
      rw [encodeChar_two (a := byte) (b := second) hlong hn (by omega) hbyte (by omega)]
      rfl
    · obtain ⟨second, rest, rfl, hsecond, hsecond', h⟩ := of_decodeFrom_more h
      obtain ⟨third, after, others, rfl, hthird, hthird', rfl, hrest⟩ := of_decodeFrom_last h
      refine ⟨_, others, after, _, ?_, rfl, hrest⟩
      rw [encodeChar_three (a := byte) (b := second) (c := third) hn (by omega) (by omega)
        (by omega) (by omega) hbyte (by omega) (by omega)]
      rfl
    · obtain ⟨second, rest, rfl, hsecond, hsecond', h⟩ := of_decodeFrom_more h
      obtain ⟨third, rest, rfl, hthird, hthird', h⟩ := of_decodeFrom_more h
      obtain ⟨fourth, after, others, rfl, hfourth, hfourth', rfl, hrest⟩ := of_decodeFrom_last h
      refine ⟨_, others, after, _, ?_, rfl, hrest⟩
      rw [encodeChar_four (a := byte) (b := second) (c := third) (d := fourth) hn (by omega)
        (by omega) (by omega) (by omega) (by omega) hbyte (by omega) (by omega) (by omega)]
      rfl

/-- The induction is on the characters read, since a character may have several bytes. -/
theorem flatMap_encodeChar_of_decodeFrom {index : Nat} {bytes : Bytes} {cs : List Char}
    (h : decodeFrom index none bytes = .ok cs) : cs.flatMap encodeChar = bytes := by
  induction cs generalizing index bytes with
  | nil =>
    cases bytes with
    | nil => rfl
    | cons byte rest =>
      obtain ⟨c, others, after, next, -, hcs, -⟩ := of_decodeFrom_cons h
      cases hcs
  | cons c cs ih =>
    cases bytes with
    | nil => cases h
    | cons byte rest =>
      obtain ⟨c', others, after, next, hbytes, hcs, hafter⟩ := of_decodeFrom_cons h
      cases hcs
      rw [List.flatMap_cons, ih hafter, hbytes]

/-- **Only the bytes of a text are read as it.** -/
theorem decode_eq_ok_iff {bytes : Bytes} {text : String} :
    decode bytes = .ok text ↔ encode text = bytes := by
  constructor
  · intro h
    unfold decode at h
    cases hdecode : decodeFrom 0 none bytes with
    | error fault =>
      rw [hdecode] at h
      cases h
    | ok cs =>
      rw [hdecode] at h
      cases h
      rw [encode, String.toList_ofList]
      exact flatMap_encodeChar_of_decodeFrom hdecode
  · rintro rfl
    exact decode_encode text

end Bookshop.Utf8
