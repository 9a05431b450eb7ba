import Bookshop.Proofs.Storage.FileName
import Bookshop.Storage.PathText

/-!
# Names of keys in a folder

The name of a key goes to the file system behind the path text of a folder. A text without slashes
is one step of a path, so such a name leads to an entry of the folder and nowhere else, unless it is
one of the two names that stay on the spot or lead up. The names of keys are made of a few harmless
characters, whatever the keys are.

The main statement is `names_tell_keys`: the names of keys, and the names of their temporary files,
are all different and all lead to entries of the folder.
-/

namespace Bookshop

/-! ### Steps of a path -/

theorem pieces_append_mark (isMark : Char → Bool) {mark : Char} (h : isMark mark = true)
    (before after : List Char) :
    pieces isMark (before ++ mark :: after) = pieces isMark before ++ pieces isMark after := by
  induction before with
  | nil => simp only [List.nil_append, pieces, h, if_true, List.cons_append]
  | cons c before ih =>
    simp only [List.cons_append, pieces]
    split
    · rw [ih, List.cons_append]
    · cases hbefore : pieces isMark before with
      | nil => exact absurd hbefore (pieces_ne_nil isMark before)
      | cons piece others => simp only [ih, hbefore, List.cons_append]

theorem pieces_of_no_mark {isMark : Char → Bool} {cs : List Char}
    (h : ∀ c ∈ cs, isMark c = false) : pieces isMark cs = [cs] := by
  induction cs with
  | nil => rfl
  | cons c cs ih =>
    have hrest := ih fun other hother => h other (List.mem_cons_of_mem c hother)
    simp only [pieces, h c List.mem_cons_self, hrest, Bool.false_eq_true, if_false]

namespace PathText

/-- A slash ends one step and begins another. -/
theorem steps_of_slash {text before after : String}
    (h : text.toList = before.toList ++ '/' :: after.toList) :
    steps text = steps before ++ steps after := by
  have hmark : decide ('/' = '/') = true := by decide
  simp only [steps, h, pieces_append_mark (· = '/') hmark, List.map_append, List.filter_append]

theorem steps_of_no_slash {text : String} (hslash : '/' ∉ text.toList) (hne : text ≠ "") :
    steps text = [text] := by
  have hmark : ∀ c ∈ text.toList, decide (c = '/') = false := by
    intro c hc
    rw [decide_eq_false_iff_not]
    rintro rfl
    exact hslash hc
  simp [steps, pieces_of_no_mark hmark, String.ofList_toList, hne]

theorem isAbsolute_of_no_slash {text : String} (hslash : '/' ∉ text.toList) :
    isAbsolute text = false := by
  simp only [isAbsolute, decide_eq_false_iff_not]
  intro hhead
  exact hslash (List.mem_of_head? hhead)

/-- Joined to the path text of any folder the name is one more step, which neither stays on the spot
    nor leads up. The way starts where the path text of the folder does. -/
structure IsEntry (name : String) : Prop where
  ne_here : name ≠ "."
  ne_above : name ≠ ".."
  steps_join : ∀ folder, steps (join folder name) = steps folder ++ [name]
  isAbsolute_join : ∀ folder, isAbsolute (join folder name) = isAbsolute folder

theorem isEntry_of_no_slash {name : String} (hslash : '/' ∉ name.toList) (hne : name ≠ "")
    (hhere : name ≠ ".") (habove : name ≠ "..") : IsEntry name where
  ne_here := hhere
  ne_above := habove
  steps_join folder := by
    have hname := steps_of_no_slash hslash hne
    unfold join
    rw [isAbsolute_of_no_slash hslash, Bool.false_or]
    split
    · next hempty =>
      rw [String.isEmpty_iff.1 hempty, hname]
      rfl
    split
    · next hlast =>
      -- The slash that the path text ends with ends its last step.
      obtain ⟨front, hfolder⟩ := List.getLast?_eq_some_iff.1 hlast
      have hfront : folder.toList = (String.ofList front).toList ++ '/' :: "".toList := by
        rw [hfolder, String.toList_ofList]
        rfl
      have hjoined : (folder ++ name).toList =
          (String.ofList front).toList ++ '/' :: name.toList := by
        rw [String.toList_append, hfolder, String.toList_ofList, List.append_assoc]
        rfl
      have hnothing : steps "" = [] := by decide
      rw [steps_of_slash hfront, steps_of_slash hjoined, hname, hnothing, List.append_nil]
    · have hjoined : (folder ++ "/" ++ name).toList = folder.toList ++ '/' :: name.toList := by
        rw [String.toList_append, String.toList_append, List.append_assoc]
        rfl
      rw [steps_of_slash hjoined, hname]
  isAbsolute_join folder := by
    unfold join
    rw [isAbsolute_of_no_slash hslash, Bool.false_or]
    split
    · next hempty =>
      rw [String.isEmpty_iff.1 hempty, isAbsolute_of_no_slash hslash]
      rfl
    · next hfilled =>
      have hne : folder.toList ≠ [] := by
        intro hnil
        exact hfilled (String.isEmpty_iff.2 (String.toList_eq_nil_iff.1 hnil))
      have hhead (rest : List Char) : (folder.toList ++ rest).head? = folder.toList.head? := by
        rw [List.head?_append, List.head?_eq_some_head hne, Option.some_or]
      split
      · simp only [isAbsolute, String.toList_append, hhead]
      · simp only [isAbsolute, String.toList_append, List.append_assoc, hhead]

end PathText

namespace FileName

/-! ### Characters of names -/

/-- The characters that names of keys are made of, up to their ending. -/
def IsStemChar (c : Char) : Prop := c.isAlphanum = true ∨ c = '-' ∨ c = '_'

instance (c : Char) : Decidable (IsStemChar c) := instDecidableOr

theorem isStemChar_of_isKept {b : UInt8} (h : isKept b = true) :
    IsStemChar (Char.ofNat b.toNat) := by
  have hall : ∀ n ∈ List.range 256, isKept (.ofNat n) = true → IsStemChar (Char.ofNat n) := by
    decide +kernel
  apply hall b.toNat (List.mem_range.2 b.toNat_lt)
  rwa [UInt8.ofNat_toNat]

theorem isStemChar_hexChar {n : Nat} (h : n < 16) : IsStemChar (hexChar n) := by
  have hall : ∀ m ∈ List.range 16, IsStemChar (hexChar m) := by decide
  exact hall n (List.mem_range.2 h)

theorem isStemChar_of_mem_escape {key : String} {c : Char} (h : c ∈ escape key) :
    IsStemChar c := by
  obtain ⟨b, -, hb⟩ := List.mem_flatMap.1 h
  have hlt := b.toNat_lt
  unfold escapeByte at hb
  split at hb
  · next hkept =>
    rw [List.mem_singleton.1 hb]
    exact isStemChar_of_isKept hkept
  · simp only [List.mem_cons, List.not_mem_nil, or_false] at hb
    rcases hb with rfl | rfl | rfl
    · exact .inr (.inr rfl)
    · exact isStemChar_hexChar (by omega)
    · exact isStemChar_hexChar (by omega)

theorem slash_not_mem_escape (key : String) : '/' ∉ escape key :=
  fun h => absurd (isStemChar_of_mem_escape h) (by decide)

/-! ### Entries of the folder -/

/-- A name with a letter in its ending is none of the two that are not entries. -/
theorem isEntry_of_ending {name : String} {stem ending : List Char}
    (h : name.toList = stem ++ ending) (hstem : '/' ∉ stem) (hending : '/' ∉ ending)
    (hletter : 'n' ∈ ending) : PathText.IsEntry name := by
  have hmem : 'n' ∈ name.toList := by
    rw [h]
    exact List.mem_append_right _ hletter
  apply PathText.isEntry_of_no_slash
  · rw [h, List.mem_append, not_or]
    exact ⟨hstem, hending⟩
  all_goals
    rintro rfl
    exact absurd hmem (by decide)

theorem ofKey_isEntry (key : String) : PathText.IsEntry (ofKey key) :=
  isEntry_of_ending (toList_ofKey key) (slash_not_mem_escape key) (by decide) (by decide)

theorem temporary_isEntry (key : String) : PathText.IsEntry (temporary (ofKey key)) := by
  apply isEntry_of_ending (toList_temporary (ofKey key)) ?_ (by decide) (by decide)
  rw [stem_ofKey]
  split
  · decide
  · exact slash_not_mem_escape key

/-- **Names tell keys and stay in the folder.** The name of a key consists of letters, digits,
    hyphens and underscores and the ending `.json`. Two keys have one name only if they are the same
    bytes; likewise they have one temporary name only then, the name of the empty key, which is
    nothing but ending, included. No temporary name is the name of any key. Behind the path text of
    any folder, every such name leads to an entry of that folder. -/
theorem names_tell_keys (key other : String) :
    (∃ stem : List Char, (∀ c ∈ stem, IsStemChar c) ∧ (ofKey key).toList = stem ++ ".json".toList) ∧
      (ofKey key = ofKey other ↔ Utf8.encode key = Utf8.encode other) ∧
      (temporary (ofKey key) = temporary (ofKey other) ↔ Utf8.encode key = Utf8.encode other) ∧
      temporary (ofKey key) ≠ ofKey other ∧
      PathText.IsEntry (ofKey key) ∧ PathText.IsEntry (temporary (ofKey key)) := by
  refine ⟨⟨escape key, fun c hc => isStemChar_of_mem_escape hc, toList_ofKey key⟩, ?_, ?_,
    temporary_ne_ofKey _ other, ofKey_isEntry key, temporary_isEntry key⟩
  · constructor
    · intro h
      rw [ofKey_injective h]
    · intro h
      rw [Utf8.encode_injective h]
  · constructor
    · intro h
      rw [temporary_ofKey_injective h]
    · intro h
      rw [Utf8.encode_injective h]

example : temporary (ofKey "a.b/ü") = "a_2Eb_2F_C3_BC.json.tmp" := by decide

end FileName

end Bookshop
