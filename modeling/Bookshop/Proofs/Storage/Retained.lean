import Bookshop.Proofs.Storage.Replacement
import Bookshop.Storage.Premises

/-!
# What failures leave

A medium retains a view of its states when reading an entry leaves the view and writing one leaves
it, too, unless it succeeds. All that is in memory is retained. A folder retains the files of keys,
here and in all other folders; what a failed writing may leave behind is a temporary file, which no
key is read from. So everything that a shop keeps is retained at either of its places.
-/

namespace Bookshop

variable {σ κ : Type}

/-- Reading leaves the view of the state, and so does a writing that fails. -/
structure Medium.Retains (medium : Medium σ) (view : σ → κ) : Prop where
  get : ∀ key state, view (medium.get key state).2 = view state
  set : ∀ key bytes state {e}, (medium.set key bytes state).1 = .error e →
    view (medium.set key bytes state).2 = view state

/-- What fails by schedule is given up before it begins. -/
theorem Medium.Retains.failing {medium : Medium σ} {view : σ → κ} (h : medium.Retains view)
    (faults : Nat → Option MediumFault) : (medium.failing faults).Retains fun s => view s.1 where
  get key s := by
    simp only [Medium.failing, failingAccess]
    split
    · rfl
    · exact h.get key s.1
  set key bytes s e hset := by
    cases hfault : faults s.2 with
    | some fault => simp only [Medium.failing, failingAccess, hfault]
    | none =>
      simp only [Medium.failing, failingAccess, hfault] at hset ⊢
      exact h.set key bytes s.1 hset

theorem Memory.retains (view : Memory → κ) : Memory.medium.Retains view where
  get _ _ := rfl
  set _ _ _ _ hset := nomatch hset

/-! ### Folders -/

namespace Folder

/-- A writing that fails leaves at most a temporary file behind. -/
theorem sameButTemporary_set {key : String} {bytes : Bytes} {folder : Folder} {e : StorageError}
    (h : (medium.set key bytes folder).1 = .error e) :
    SameButTemporary key folder (medium.set key bytes folder).2 := by
  cases hstage : stage key bytes folder with
  | error cause =>
    simp only [medium, hstage]
    exact .refl key folder
  | ok staged =>
    simp only [medium, hstage] at h ⊢
    cases hpublish : publish key staged with
    | error cause => exact sameButTemporary_stage hstage
    | ok published =>
      rw [hpublish] at h
      cases h

end Folder

namespace FileSystem

/-- The files of keys in all folders, by the numbers of these. -/
def keyFiles (system : FileSystem) (number : Nat) (key : String) : Option FolderEntry :=
  (system.folder number).fileOf key

/-- The files of keys are what they were if they are so in the one folder that was changed. -/
theorem keyFiles_setFolder {system : FileSystem} {number : Nat} {folder : Folder}
    (h : ∀ key, folder.fileOf key = (system.folder number).fileOf key) :
    (system.setFolder number folder).keyFiles = system.keyFiles := by
  funext other key
  rcases Nat.lt_or_ge number system.folders.size with hlt | hge
  · rw [keyFiles, folder_setFolder hlt]
    split
    · next heq => rw [h key, keyFiles, heq]
    · rfl
  · have hnone : system.setFolder number folder = system := by
      rw [setFolder, Array.setIfInBounds_eq_of_size_le hge]
    rw [hnone]

theorem mediumAt_retains (location : Location) : (mediumAt location).Retains keyFiles where
  get key system := by rw [mediumAt_get_state]
  set key bytes system e hset := by
    simp only [mediumAt, reach, lift] at hset ⊢
    split at hset
    · next hlong => rw [if_pos hlong]
    · next hfits =>
      rw [if_neg hfits]
      dsimp only at hset ⊢
      exact keyFiles_setFolder (Folder.sameButTemporary_set hset).fileOf

end FileSystem

/-! ### Premises -/

/-- Everything that is stored under keys on the premises, in memory and in all folders. -/
def Premises.kept (premises : Premises) : Memory × (Nat → String → Option FolderEntry) :=
  (premises.memory, premises.disk.keyFiles)

/-- What is stored on the premises is retained, wherever it is stored. -/
theorem Place.retains (place : Place) : place.medium.Retains Premises.kept := by
  cases place with
  | memory =>
    have hmemory (premises : Premises) :=
      Memory.retains fun memory => (memory, premises.disk.keyFiles)
    exact {
      get := fun key premises => (hmemory premises).get key premises.memory
      set := fun key bytes premises _ hset =>
        (hmemory premises).set key bytes premises.memory hset }
  | folder location =>
    have hdisk := FileSystem.mediumAt_retains location
    constructor
    · intro key premises
      simp only [Place.medium, Premises.kept, hdisk.get key premises.disk]
    · intro key bytes premises e hset
      simp only [Place.medium] at hset
      simp only [Place.medium, Premises.kept, hdisk.set key bytes premises.disk hset]

end Bookshop
