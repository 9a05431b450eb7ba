import Bookshop.Proofs.Storage.FileName
import Bookshop.Storage.Folder

/-!
# Keys in a folder

The file of a key and its temporary file have different names, so writing in two steps comes to
putting the value into the file of the key. Folders among the entries are never touched.
-/

namespace Bookshop

namespace Folder

/-- The files of a key may be used: their names are not too long, and no folder has one of them. -/
structure Accepts (folder : Folder) (key : String) : Prop where
  fileFits : FileName.isTooLong (FileName.ofKey key) = false
  temporaryFits : FileName.isTooLong (FileName.temporary (FileName.ofKey key)) = false
  fileFree : ∀ number, folder.get? (FileName.ofKey key) ≠ some (.folder number)
  temporaryFree : ∀ number,
    folder.get? (FileName.temporary (FileName.ofKey key)) ≠ some (.folder number)

def entry (key : String) (folder : Folder) : Option Bytes :=
  match folder.get? (FileName.ofKey key) with
  | some (.file bytes) => some bytes
  | _ => none

/-- The same names stand for the same folders. -/
def SameFolders (before after : Folder) : Prop :=
  ∀ name number, after.get? name = some (.folder number) ↔ before.get? name = some (.folder number)

variable {folder after : Folder} {key : String}

theorem Accepts.of_sameFolders (h : folder.Accepts key) (hsame : folder.SameFolders after) :
    Accepts after key where
  fileFits := h.fileFits
  temporaryFits := h.temporaryFits
  fileFree number hfolder := h.fileFree number ((hsame _ _).1 hfolder)
  temporaryFree number hfolder := h.temporaryFree number ((hsame _ _).1 hfolder)

/-- Putting a file in a place where no folder is keeps the folders. -/
theorem sameFolders_insert {name : String}
    (hfree : ∀ number, folder.get? name ≠ some (.folder number))
    (bytes : Bytes) : folder.SameFolders (folder.insert name (.file bytes)) := by
  intro other number
  rw [Table.get?_insert]
  split
  · next h =>
    subst h
    simp [hfree number]
  · rfl

theorem sameFolders_erase {name : String}
    (hfree : ∀ number, folder.get? name ≠ some (.folder number)) :
    folder.SameFolders (folder.erase name) := by
  intro other number
  rw [Table.get?_erase]
  split
  · next h =>
    subst h
    simp [hfree number]
  · rfl

theorem SameFolders.trans {middle : Folder} (h : folder.SameFolders middle)
    (h' : middle.SameFolders after) : folder.SameFolders after :=
  fun name number => (h' name number).trans (h name number)

theorem SameFolders.free (h : folder.SameFolders after) {name : String}
    (hfree : ∀ number, folder.get? name ≠ some (.folder number)) (number : Nat) :
    after.get? name ≠ some (.folder number) :=
  fun hfolder => hfree number ((h name number).1 hfolder)

/-! ### Accesses -/

/-- Reading an entry leaves the folder as it is. -/
theorem medium_get_state (key : String) (folder : Folder) :
    (medium.get key folder).2 = folder := by
  simp only [medium]
  split
  · rfl
  · rfl

theorem medium_get (h : folder.Accepts key) :
    medium.get key folder = (.ok (folder.entry key), folder) := by
  have hfree := h.fileFree
  simp only [medium, readFile, h.fileFits, Bool.false_eq_true, if_false, entry]
  cases hentry : folder.get? (FileName.ofKey key) with
  | none => rfl
  | some found =>
    cases found with
    | file bytes => rfl
    | folder number => exact absurd hentry (hfree number)

theorem stage_eq (h : folder.Accepts key) (bytes : Bytes) :
    stage key bytes folder =
      .ok (folder.insert (FileName.temporary (FileName.ofKey key)) (.file bytes)) := by
  -- That no folder is in the way settles which case of the access applies.
  have hfree := h.temporaryFree
  simp only [stage, writeFile, h.temporaryFits, Bool.false_eq_true, if_false]

theorem publish_eq (h : folder.Accepts key) {bytes : Bytes}
    (hstaged : folder.get? (FileName.temporary (FileName.ofKey key)) = some (.file bytes)) :
    publish key folder =
      .ok ((folder.erase (FileName.temporary (FileName.ofKey key))).insert (FileName.ofKey key)
        (.file bytes)) := by
  have hfree := h.fileFree
  simp only [publish, renameFile, h.temporaryFits, h.fileFits, Bool.or_self, Bool.false_eq_true,
    if_false, hstaged]

/-- Writing a key puts the value into its file and keeps the folders. -/
theorem medium_set (h : folder.Accepts key) (bytes : Bytes) :
    ∃ after, medium.set key bytes folder = (.ok (), after) ∧ folder.SameFolders after ∧
      after.entry key = some bytes := by
  have hstaged := sameFolders_insert h.temporaryFree bytes
  have hstagedAccepts := h.of_sameFolders hstaged
  have herased := sameFolders_erase hstagedAccepts.temporaryFree
  refine ⟨_, ?_, (hstaged.trans herased).trans
    (sameFolders_insert (herased.free hstagedAccepts.fileFree) bytes), ?_⟩
  · simp only [medium, stage_eq h]
    rw [publish_eq hstagedAccepts (Table.get?_insert_self _ _ _)]
    rfl
  · simp only [entry, Table.get?_insert_self]

theorem medium_delete (h : folder.Accepts key) :
    ∃ after, medium.delete key folder = (.ok (), after) ∧ folder.SameFolders after ∧
      after.entry key = none := by
  have hfree := h.fileFree
  cases hentry : folder.get? (FileName.ofKey key) with
  | none =>
    refine ⟨folder, ?_, fun _ _ => Iff.rfl, by simp only [entry, hentry]⟩
    simp only [medium, removeFile, h.fileFits, Bool.false_eq_true, if_false, hentry, commit]
  | some found =>
    cases found with
    | folder number => exact absurd hentry (hfree number)
    | file bytes =>
      refine ⟨folder.erase (FileName.ofKey key), ?_, sameFolders_erase hfree, ?_⟩
      · simp only [medium, removeFile, h.fileFits, Bool.false_eq_true, if_false, hentry, commit]
      · simp only [entry, Table.get?_erase_self]

end Folder

end Bookshop
