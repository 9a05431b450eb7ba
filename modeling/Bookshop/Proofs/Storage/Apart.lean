import Bookshop.Proofs.Storage.FileSystem
import Bookshop.Proofs.Storage.Writers

/-!
# Keys do not interfere

What an access to a key answers, and what it does to the key, depends on nothing but what is stored
for that key, and no other key is touched (`Concerns`). What is stored for a key in a folder is its
file and its temporary file, which no other key shares. This holds whether accesses succeed or not: a
name that is too long, or a folder in the way, is a matter of one key, too.

Accesses that concern a key compose, so all that is made of the accesses of a medium concerns the
key, as long as they do (`Medium.KeepsApart`).
-/

namespace Bookshop

section Accesses

variable {α β σ : Type} {Same : String → σ → σ → Prop} {key : String}

/-- The access is a matter of the key. In states that are the same for the key it answers the same
    and leads to states that are the same for it; for every other key it changes nothing. -/
structure Concerns (Same : String → σ → σ → Prop) (key : String) (access : σ → α × σ) : Prop where
  own : ∀ {state state'}, Same key state state' →
    (access state).1 = (access state').1 ∧ Same key (access state).2 (access state').2
  others : ∀ {other state state'}, other ≠ key → Same other state state' →
    Same other (access state).2 state'

namespace Concerns

theorem answer (a : α) : Concerns Same key fun state => (a, state) where
  own h := ⟨rfl, h⟩
  others _ h := h

theorem bind {access : σ → α × σ} {next : α → σ → β × σ} (h : Concerns Same key access)
    (hnext : ∀ a, Concerns Same key (next a)) :
    Concerns Same key fun state => next (access state).1 (access state).2 where
  own hsame := by
    obtain ⟨hanswer, hafter⟩ := h.own hsame
    rw [hanswer]
    exact (hnext _).own hafter
  others hother hsame := (hnext _).others hother (h.others hother hsame)

theorem map {access : σ → α × σ} (h : Concerns Same key access) (f : α → β) :
    Concerns Same key fun state => (f (access state).1, (access state).2) :=
  h.bind fun a => answer (f a)

end Concerns

/-- The accesses of the medium to a key are a matter of that key. -/
structure Medium.KeepsApart (medium : Medium σ) (Same : String → σ → σ → Prop) : Prop where
  get : ∀ key, Concerns Same key (medium.get key)
  set : ∀ key bytes, Concerns Same key (medium.set key bytes)
  delete : ∀ key, Concerns Same key (medium.delete key)

end Accesses

variable {key other : String}

/-! ### Memory -/

namespace Memory

def SameEntry (key : String) (memory memory' : Memory) : Prop :=
  memory.get? key = memory'.get? key

theorem set_concerns (key : String) (bytes : Bytes) :
    Concerns SameEntry key (Memory.medium.set key bytes) where
  own {memory memory'} _ := by
    refine ⟨rfl, ?_⟩
    change (memory.insert key bytes).get? key = (memory'.insert key bytes).get? key
    rw [Table.get?_insert_self, Table.get?_insert_self]
  others {other memory memory'} hother h := by
    change (memory.insert key bytes).get? other = memory'.get? other
    rw [Table.get?_insert, if_neg hother]
    exact h

theorem delete_concerns (key : String) : Concerns SameEntry key (Memory.medium.delete key) where
  own {memory memory'} _ := by
    refine ⟨rfl, ?_⟩
    change (memory.erase key).get? key = (memory'.erase key).get? key
    rw [Table.get?_erase_self, Table.get?_erase_self]
  others {other memory memory'} hother h := by
    change (memory.erase key).get? other = memory'.get? other
    rw [Table.get?_erase, if_neg hother]
    exact h

theorem keepsApart : Memory.medium.KeepsApart SameEntry where
  get _ := { own := fun h => ⟨congrArg Except.ok h, h⟩, others := fun _ h => h }
  set := set_concerns
  delete := delete_concerns

end Memory

/-! ### Folders -/

namespace Folder

/-- The folders have the same under the names of the files of a key. -/
structure SameFiles (key : String) (folder folder' : Folder) : Prop where
  file : folder.fileOf key = folder'.fileOf key
  temporary : folder.temporaryOf key = folder'.temporaryOf key

variable {folder folder' : Folder}

theorem SameFiles.refl (key : String) (folder : Folder) : SameFiles key folder folder := ⟨rfl, rfl⟩

/-- The folder without the file of a key. -/
def removed (key : String) (folder : Folder) : Folder := folder.erase (FileName.ofKey key)

theorem fileOf_removed (key other : String) (folder : Folder) :
    (folder.removed key).fileOf other = if other = key then none else folder.fileOf other := by
  rw [fileOf, removed, Table.get?_erase]
  by_cases h : other = key
  · rw [if_pos h, h, if_pos rfl]
  · rw [if_neg h, if_neg fun heq => h (FileName.ofKey_injective heq), fileOf]

theorem temporaryOf_removed (key other : String) (folder : Folder) :
    (folder.removed key).temporaryOf other = folder.temporaryOf other := by
  rw [temporaryOf, removed, Table.get?_erase, if_neg (FileName.temporary_ne_ofKey _ _), temporaryOf]

/-! ### Steps and the files of their own key -/

theorem SameFiles.staged (h : SameFiles key folder folder') (bytes : Bytes) :
    SameFiles key (folder.staged key bytes) (folder'.staged key bytes) where
  file := by rw [fileOf_staged, fileOf_staged, h.file]
  temporary := by rw [temporaryOf_staged, temporaryOf_staged, h.temporary]

theorem SameFiles.published (h : SameFiles key folder folder') (bytes : Bytes) :
    SameFiles key (folder.published key bytes) (folder'.published key bytes) where
  file := by rw [fileOf_published, fileOf_published, h.file]
  temporary := by rw [temporaryOf_published, temporaryOf_published, h.temporary]

theorem SameFiles.removed (h : SameFiles key folder folder') :
    SameFiles key (folder.removed key) (folder'.removed key) where
  file := by rw [fileOf_removed, fileOf_removed, h.file]
  temporary := by rw [temporaryOf_removed, temporaryOf_removed, h.temporary]

/-! ### Steps and the files of another key -/

theorem SameFiles.staged_other (h : SameFiles other folder folder') (hother : other ≠ key)
    (bytes : Bytes) : SameFiles other (folder.staged key bytes) folder' where
  file := by rw [fileOf_staged, h.file]
  temporary := by rw [temporaryOf_staged, if_neg hother, h.temporary]

theorem SameFiles.published_other (h : SameFiles other folder folder') (hother : other ≠ key)
    (bytes : Bytes) : SameFiles other (folder.published key bytes) folder' where
  file := by rw [fileOf_published, if_neg hother, h.file]
  temporary := by rw [temporaryOf_published, if_neg hother, h.temporary]

theorem SameFiles.removed_other (h : SameFiles other folder folder') (hother : other ≠ key) :
    SameFiles other (folder.removed key) folder' where
  file := by rw [fileOf_removed, if_neg hother, h.file]
  temporary := by rw [temporaryOf_removed, h.temporary]

/-! ### What the steps answer -/

theorem stage_cases (h : SameFiles key folder folder') (bytes : Bytes) :
    (∃ cause, stage key bytes folder = .error cause ∧ stage key bytes folder' = .error cause) ∨
      stage key bytes folder = .ok (folder.staged key bytes) ∧
        stage key bytes folder' = .ok (folder'.staged key bytes) := by
  have hsame : folder.get? _ = folder'.get? _ := h.temporary
  unfold stage writeFile
  rw [hsame]
  split
  · exact .inl ⟨_, rfl, rfl⟩
  · split
    · exact .inl ⟨_, rfl, rfl⟩
    · exact .inr ⟨rfl, rfl⟩

theorem publish_cases (h : SameFiles key folder folder') :
    (∃ cause, publish key folder = .error cause ∧ publish key folder' = .error cause) ∨
      ∃ bytes, publish key folder = .ok (folder.published key bytes) ∧
        publish key folder' = .ok (folder'.published key bytes) := by
  have hsame : folder.get? _ = folder'.get? _ := h.temporary
  have hsame' : folder.get? _ = folder'.get? _ := h.file
  unfold publish renameFile
  rw [hsame, hsame']
  split
  · exact .inl ⟨_, rfl, rfl⟩
  · split
    · exact .inl ⟨_, rfl, rfl⟩
    · exact .inl ⟨_, rfl, rfl⟩
    · exact .inl ⟨_, rfl, rfl⟩
    · exact .inr ⟨_, rfl, rfl⟩

theorem removeFile_cases (h : SameFiles key folder folder') :
    (∃ cause, removeFile (FileName.ofKey key) folder = .error cause ∧
        removeFile (FileName.ofKey key) folder' = .error cause) ∨
      removeFile (FileName.ofKey key) folder = .ok folder ∧
        removeFile (FileName.ofKey key) folder' = .ok folder' ∨
      removeFile (FileName.ofKey key) folder = .ok (folder.removed key) ∧
        removeFile (FileName.ofKey key) folder' = .ok (folder'.removed key) := by
  have hsame : folder.get? _ = folder'.get? _ := h.file
  unfold removeFile
  rw [hsame]
  split
  · exact .inl ⟨_, rfl, rfl⟩
  · split
    · exact .inr (.inl ⟨rfl, rfl⟩)
    · exact .inr (.inr ⟨rfl, rfl⟩)
    · exact .inl ⟨_, rfl, rfl⟩

theorem get_concerns (key : String) : Concerns SameFiles key (medium.get key) where
  own h := by
    rw [medium_get_state, medium_get_state]
    exact ⟨(medium_get_congr h.file.symm).symm, h⟩
  others _ h := by
    rw [medium_get_state]
    exact h

theorem set_concerns (key : String) (bytes : Bytes) :
    Concerns SameFiles key (medium.set key bytes) where
  own {folder folder'} h := by
    rcases stage_cases h bytes with ⟨cause, hstage, hstage'⟩ | ⟨hstage, hstage'⟩
    · simp only [medium, hstage, hstage']
      exact ⟨trivial, h⟩
    · have hstaged := h.staged bytes
      simp only [medium, hstage, hstage']
      rcases publish_cases hstaged with ⟨cause, hpublish, hpublish'⟩ | ⟨bytes, hpublish, hpublish'⟩
      · simp only [hpublish, hpublish', commit]
        exact ⟨trivial, hstaged⟩
      · simp only [hpublish, hpublish', commit]
        exact ⟨trivial, hstaged.published bytes⟩
  others {other folder folder'} hother h := by
    rcases stage_cases (.refl key folder) bytes with ⟨cause, hstage, -⟩ | ⟨hstage, -⟩
    · simp only [medium, hstage]
      exact h
    · have hstaged := h.staged_other hother bytes
      simp only [medium, hstage]
      rcases publish_cases (.refl key (folder.staged key bytes)) with ⟨cause, hpublish, -⟩ |
        ⟨bytes, hpublish, -⟩
      · simp only [hpublish, commit]
        exact hstaged
      · simp only [hpublish, commit]
        exact hstaged.published_other hother bytes

theorem delete_concerns (key : String) : Concerns SameFiles key (medium.delete key) where
  own {folder folder'} h := by
    unfold medium
    rcases removeFile_cases h with ⟨cause, hremove, hremove'⟩ | ⟨hremove, hremove'⟩ |
      ⟨hremove, hremove'⟩
    · simp only [hremove, hremove']
      exact ⟨rfl, h⟩
    · simp only [hremove, hremove']
      exact ⟨rfl, h⟩
    · simp only [hremove, hremove']
      exact ⟨rfl, h.removed⟩
  others {other folder folder'} hother h := by
    unfold medium
    rcases removeFile_cases (.refl key folder) with ⟨cause, hremove, -⟩ | ⟨hremove, -⟩ |
      ⟨hremove, -⟩
    · simp only [hremove]
      exact h
    · simp only [hremove]
      exact h
    · simp only [hremove]
      exact h.removed_other hother

end Folder

/-! ### File systems -/

namespace FileSystem

variable {location : Location}

/-- The folder at the location is there in both file systems, with the same files of the key. -/
structure SameFilesAt (location : Location) (key : String) (system system' : FileSystem) :
    Prop where
  lt : location.number < system.folders.size
  lt' : location.number < system'.folders.size
  files : Folder.SameFiles key (system.folder location.number) (system'.folder location.number)

/-- What concerns a key in a folder concerns it in the file system. -/
theorem reach_concerns {α : Type} {access : Folder → Except StorageError α × Folder}
    (h : Concerns Folder.SameFiles key access) (name : String) :
    Concerns (SameFilesAt location) key fun system => reach location name system access where
  own {system system'} hsame := by
    obtain ⟨hanswer, hafter⟩ := h.own hsame.files
    unfold reach
    split
    · exact ⟨rfl, hsame⟩
    · refine ⟨hanswer, ⟨?_, ?_, ?_⟩⟩
      · simpa [lift] using hsame.lt
      · simpa [lift] using hsame.lt'
      · simpa only [lift, folder_setFolder hsame.lt, folder_setFolder hsame.lt', if_true] using
          hafter
  others {other system system'} hother hsame := by
    unfold reach
    split
    · exact hsame
    · refine ⟨?_, hsame.lt', ?_⟩
      · simpa [lift] using hsame.lt
      · simpa only [lift, folder_setFolder hsame.lt, if_true] using h.others hother hsame.files

theorem keepsApart (location : Location) :
    (mediumAt location).KeepsApart (SameFilesAt location) := by
  constructor
  · intro key
    simp only [mediumAt]
    exact reach_concerns (Folder.get_concerns key) _
  · intro key bytes
    simp only [mediumAt]
    exact reach_concerns (Folder.set_concerns key bytes) _
  · intro key
    simp only [mediumAt]
    exact reach_concerns (Folder.delete_concerns key) _

end FileSystem

end Bookshop
