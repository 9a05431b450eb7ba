import Bookshop.Proofs.Text.Utf8
import Bookshop.Storage.FileName

/-!
# File names tell their keys

A byte of a key that is kept is no underscore, so the first character of what is left of a name
tells whether one or three characters stand for the next byte. So different keys have different
files. The name of a key has its only point before the ending, except that of the empty key, which
begins with it; in both cases the temporary file tells the key too, and it is no file of a key.
-/

namespace Bookshop

namespace FileName

/-! ### Escaping -/

theorem toNat_ofNat_byte (b : UInt8) : (Char.ofNat b.toNat).toNat = b.toNat := by
  have hlt := b.toNat_lt
  have hvalid : b.toNat.isValidChar := Or.inl (by omega)
  rw [Char.ofNat, dif_pos hvalid]
  rfl

theorem hexChar_inj {m n : Nat} (hm : m < 16) (hn : n < 16) (h : hexChar m = hexChar n) :
    m = n := by
  have hvalue := congrArg hexValue? h
  rw [hexValue?_hexChar hm, hexValue?_hexChar hn] at hvalue
  exact Option.some.inj hvalue

/-- A byte is kept, and then it is neither an underscore nor a point, or it is written with an
    underscore and its number. -/
theorem escapeByte_cases (b : UInt8) :
    (escapeByte b = [Char.ofNat b.toNat] ∧ Char.ofNat b.toNat ≠ '_' ∧ Char.ofNat b.toNat ≠ '.') ∨
      escapeByte b = ['_', hexChar (b.toNat / 16), hexChar (b.toNat % 16)] := by
  unfold escapeByte
  cases hkept : isKept b with
  | true =>
    left
    refine ⟨rfl, ?_, ?_⟩
    · intro h
      have hnumber := congrArg Char.toNat h
      rw [toNat_ofNat_byte] at hnumber
      simp [isKept, hnumber] at hkept
    · intro h
      have hnumber := congrArg Char.toNat h
      rw [toNat_ofNat_byte] at hnumber
      simp [isKept, hnumber] at hkept
  | false => exact .inr rfl

/-- What stands for a byte can be told from the characters that follow it. -/
theorem escapeByte_append_injective {b c : UInt8} {rest rest' : List Char}
    (h : escapeByte b ++ rest = escapeByte c ++ rest') : b = c ∧ rest = rest' := by
  rcases escapeByte_cases b with ⟨hb, hplain, -⟩ | hb
  · rcases escapeByte_cases c with ⟨hc, -, -⟩ | hc
    · rw [hb, hc] at h
      obtain ⟨hchar, hrest⟩ := List.cons.inj h
      have hnumber := congrArg Char.toNat hchar
      rw [toNat_ofNat_byte, toNat_ofNat_byte] at hnumber
      exact ⟨UInt8.toNat_inj.1 hnumber, hrest⟩
    · rw [hb, hc] at h
      exact absurd (List.cons.inj h).1 hplain
  · rcases escapeByte_cases c with ⟨hc, hplain, -⟩ | hc
    · rw [hb, hc] at h
      exact absurd (List.cons.inj h).1.symm hplain
    · rw [hb, hc] at h
      simp only [List.cons_append, List.nil_append, List.cons.injEq, true_and] at h
      obtain ⟨hhigh, hlow, hrest⟩ := h
      have hblt := b.toNat_lt
      have hclt := c.toNat_lt
      have hdiv := hexChar_inj (by omega) (by omega) hhigh
      have hmod := hexChar_inj (by omega) (by omega) hlow
      exact ⟨UInt8.toNat_inj.1 (by omega), hrest⟩

theorem flatMap_escapeByte_injective {bs cs : Bytes}
    (h : bs.flatMap escapeByte = cs.flatMap escapeByte) : bs = cs := by
  have hne (b : UInt8) : escapeByte b ≠ [] := by
    rcases escapeByte_cases b with ⟨hb, -, -⟩ | hb <;> simp [hb]
  induction bs generalizing cs with
  | nil =>
    cases cs with
    | nil => rfl
    | cons c cs => simp [hne] at h
  | cons b bs ih =>
    cases cs with
    | nil => simp [hne] at h
    | cons c cs =>
      rw [List.flatMap_cons, List.flatMap_cons] at h
      obtain ⟨rfl, hrest⟩ := escapeByte_append_injective h
      rw [ih hrest]

theorem escape_injective {key other : String} (h : escape key = escape other) : key = other :=
  Utf8.encode_injective (flatMap_escapeByte_injective h)

theorem point_not_mem_escape (key : String) : '.' ∉ escape key := by
  intro h
  obtain ⟨b, -, hb⟩ := List.mem_flatMap.1 h
  have hhex (n : Nat) (hn : n < 16) : hexChar n ≠ '.' := by
    have hall : ∀ m ∈ List.range 16, hexChar m ≠ '.' := by decide
    exact hall n (List.mem_range.2 hn)
  have hlt := b.toNat_lt
  rcases escapeByte_cases b with ⟨heq, -, hpoint⟩ | heq
  · rw [heq] at hb
    exact hpoint (List.mem_singleton.1 hb).symm
  · rw [heq] at hb
    simp only [List.mem_cons, List.not_mem_nil, or_false] at hb
    rcases hb with hb | hb | hb
    · exact absurd hb (by decide)
    · exact hhex _ (by omega) hb.symm
    · exact hhex _ (by omega) hb.symm

/-! ### Files of keys -/

theorem toList_ofKey (key : String) : (ofKey key).toList = escape key ++ ".json".toList :=
  String.toList_ofList

/-- **Different keys have different files.** -/
theorem ofKey_injective {key other : String} (h : ofKey key = ofKey other) : key = other := by
  have hlist := congrArg String.toList h
  rw [toList_ofKey, toList_ofKey, List.append_left_inj] at hlist
  exact escape_injective hlist

/-! ### Temporary files -/

/-- The name of a key without its ending; that of the empty key is all ending. -/
theorem stem_ofKey (key : String) :
    stem (ofKey key).toList = if escape key = [] then ".json".toList else escape key := by
  have hreverse : (ofKey key).toList.reverse =
      ['n', 'o', 's', 'j'] ++ '.' :: (escape key).reverse := by
    rw [toList_ofKey, List.reverse_append, show ".json".toList = ['.', 'j', 's', 'o', 'n'] by decide]
    rfl
  have hbefore : ((ofKey key).toList.reverse.dropWhile (· ≠ '.')).drop 1 =
      (escape key).reverse := by
    rw [hreverse]
    simp
  unfold stem
  rw [hbefore]
  simp only [List.isEmpty_reverse, List.isEmpty_iff, List.reverse_reverse]
  split
  · next hempty => rw [toList_ofKey, hempty, List.nil_append]
  · rfl

theorem toList_temporary (name : String) :
    (temporary name).toList = stem name.toList ++ ".json.tmp".toList := String.toList_ofList

theorem temporary_ofKey_injective {key other : String}
    (h : temporary (ofKey key) = temporary (ofKey other)) : key = other := by
  have hlist := congrArg String.toList h
  rw [toList_temporary, toList_temporary, List.append_left_inj, stem_ofKey, stem_ofKey] at hlist
  have hpoint : '.' ∈ ".json".toList := by decide
  split at hlist
  · next hkey =>
    split at hlist
    · next hother => exact escape_injective (hkey.trans hother.symm)
    · rw [hlist] at hpoint
      exact absurd hpoint (point_not_mem_escape other)
  · split at hlist
    · rw [← hlist] at hpoint
      exact absurd hpoint (point_not_mem_escape key)
    · exact escape_injective hlist

/-- A temporary file has not the name of any key: their last letters differ. -/
theorem temporary_ne_ofKey (name key : String) : temporary name ≠ ofKey key := by
  intro h
  have hlast := congrArg (fun text : String => text.toList.getLast?) h
  have htemporary : ".json.tmp".toList = ['.', 'j', 's', 'o', 'n', '.', 't', 'm', 'p'] := by decide
  have hfile : ".json".toList = ['.', 'j', 's', 'o', 'n'] := by decide
  simp [temporary, ofKey, htemporary, hfile, List.getLast?_append] at hlast

end FileName

end Bookshop
