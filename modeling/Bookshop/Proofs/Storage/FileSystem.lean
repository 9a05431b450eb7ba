import Bookshop.Proofs.Storage.Folder
import Bookshop.Proofs.Storage.Medium
import Bookshop.Storage.FileSystem

/-!
# Opening folders again

The folders of a file system form a tree that only grows: creating folders on a way, and writing or
deleting files anywhere, keep every step that led to a folder. So a folder that was opened once is
opened again by the same text, at the same location and without any change, and in between it serves
its keys as a medium.
-/

namespace Bookshop

namespace FileSystem

/-! ### Numbers of folders -/

/-- Every number in the file system is that of a folder. -/
structure WellFormed (system : FileSystem) : Prop where
  root : 0 < system.folders.size
  above_size : system.above.size = system.folders.size
  above_lt : ∀ number < system.folders.size,
    system.above.getD number 0 < system.folders.size
  inner_lt : ∀ number < system.folders.size, ∀ name inner,
    (system.folder number).get? name = some (.folder inner) → inner < system.folders.size

theorem empty_wellFormed : empty.WellFormed where
  root := by decide
  above_size := rfl
  above_lt number h := by
    obtain rfl : number = 0 := by simp [empty] at h; exact h
    decide
  inner_lt number h name inner hinner := by
    obtain rfl : number = 0 := by simp [empty] at h; exact h
    cases hinner

/-- The folders of the first file system are folders of the second one, and the ways between them
    are the same. -/
structure Extends (before after : FileSystem) : Prop where
  size_le : before.folders.size ≤ after.folders.size
  above_eq : ∀ number < before.folders.size,
    after.above.getD number 0 = before.above.getD number 0
  inner : ∀ number < before.folders.size, ∀ name inner,
    (before.folder number).get? name = some (.folder inner) →
      (after.folder number).get? name = some (.folder inner)

variable {system before after : FileSystem}

theorem Extends.refl (system : FileSystem) : system.Extends system :=
  ⟨Nat.le_refl _, fun _ _ => rfl, fun _ _ _ _ h => h⟩

theorem Extends.trans {middle : FileSystem} (h : before.Extends middle)
    (h' : middle.Extends after) : before.Extends after where
  size_le := Nat.le_trans h.size_le h'.size_le
  above_eq number hnumber := by
    rw [h'.above_eq number (Nat.lt_of_lt_of_le hnumber h.size_le), h.above_eq number hnumber]
  inner number hnumber name inner hinner :=
    h'.inner number (Nat.lt_of_lt_of_le hnumber h.size_le) name inner
      (h.inner number hnumber name inner hinner)

/-! ### Single steps -/

theorem step_eq_ok_iff {name : String} {number next : Nat} :
    system.step name number = .ok next ↔
      name = "." ∧ next = number ∨
      name = ".." ∧ next = system.above.getD number 0 ∨
      (name ≠ "." ∧ name ≠ ".." ∧ FileName.isTooLong name = false) ∧
        (system.folder number).get? name = some (.folder next) := by
  unfold step
  split
  · next hspot =>
    subst hspot
    constructor
    · intro h
      cases h
      exact .inl ⟨rfl, rfl⟩
    · rintro (⟨-, rfl⟩ | ⟨hup, -⟩ | ⟨⟨hspot, -⟩, -⟩)
      · rfl
      · exact absurd hup (by decide)
      · exact absurd rfl hspot
  split
  · next hspot hup =>
    subst hup
    constructor
    · intro h
      cases h
      exact .inr (.inl ⟨rfl, rfl⟩)
    · rintro (⟨hspot, -⟩ | ⟨-, rfl⟩ | ⟨⟨-, hup, -⟩, -⟩)
      · exact absurd hspot (by decide)
      · rfl
      · exact absurd rfl hup
  split
  · next hspot hup hlong => simp [hspot, hup, hlong]
  · next hspot hup hlong =>
    cases hentry : (system.folder number).get? name with
    | none => simp [hspot, hup]
    | some found => cases found <;> simp [hspot, hup, hlong]

theorem step_eq_noSuchFolder {name : String} {number : Nat}
    (h : system.step name number = .error .noSuchFolder) :
    (name ≠ "." ∧ name ≠ ".." ∧ FileName.isTooLong name = false) ∧
      (system.folder number).get? name = none := by
  unfold step at h
  split at h
  · cases h
  split at h
  · cases h
  split at h
  · cases h
  · next hspot hup hlong =>
    refine ⟨⟨hspot, hup, by simpa using hlong⟩, ?_⟩
    cases hentry : (system.folder number).get? name with
    | none => rfl
    | some found =>
      rw [hentry] at h
      cases found <;> cases h

theorem WellFormed.step_lt (hsystem : system.WellFormed) {name : String} {number next : Nat}
    (hnumber : number < system.folders.size) (h : system.step name number = .ok next) :
    next < system.folders.size := by
  rcases step_eq_ok_iff.1 h with ⟨-, rfl⟩ | ⟨-, rfl⟩ | ⟨-, hentry⟩
  · exact hnumber
  · exact hsystem.above_lt number hnumber
  · exact hsystem.inner_lt number hnumber name next hentry

theorem Extends.step (h : before.Extends after) {name : String} {number next : Nat}
    (hnumber : number < before.folders.size) (hstep : before.step name number = .ok next) :
    after.step name number = .ok next := by
  rw [step_eq_ok_iff] at hstep ⊢
  rw [h.above_eq number hnumber]
  rcases hstep with hspot | hup | ⟨hname, hentry⟩
  · exact .inl hspot
  · exact .inr (.inl hup)
  · exact .inr (.inr ⟨hname, h.inner number hnumber name next hentry⟩)

/-! ### Changes -/

theorem folder_setFolder {number : Nat} (h : number < system.folders.size) (folder : Folder)
    (other : Nat) :
    (system.setFolder number folder).folder other =
      if other = number then folder else system.folder other := by
  unfold setFolder FileSystem.folder
  simp only [Array.getD_eq_getD_getElem?, Array.getElem?_setIfInBounds]
  by_cases hother : number = other
  · subst hother
    simp [h]
  · simp [hother, Ne.symm hother]

@[simp] theorem size_setFolder (number : Nat) (folder : Folder) :
    (system.setFolder number folder).folders.size = system.folders.size := by
  simp [setFolder]

@[simp] theorem above_setFolder (number : Nat) (folder : Folder) :
    (system.setFolder number folder).above = system.above := rfl

theorem setFolder_folder (system : FileSystem) (number : Nat) :
    system.setFolder number (system.folder number) = system := by
  unfold setFolder FileSystem.folder
  congr 1
  apply Array.ext
  · simp
  · intro i hi hi'
    rw [Array.getElem_setIfInBounds]
    split
    · next heq =>
      subst heq
      simp [hi']
    · rfl

theorem setFolder_setFolder (system : FileSystem) (number : Nat) (folder later : Folder) :
    (system.setFolder number folder).setFolder number later = system.setFolder number later := by
  simp [setFolder, Array.setIfInBounds_setIfInBounds]

/-- Changes to the files of a folder extend the file system. -/
theorem extends_setFolder {number : Nat} (hnumber : number < system.folders.size) {folder : Folder}
    (h : (system.folder number).SameFolders folder) :
    system.Extends (system.setFolder number folder) where
  size_le := by simp
  above_eq _ _ := rfl
  inner other _ name inner hinner := by
    rw [folder_setFolder hnumber]
    split
    · next heq =>
      subst heq
      exact (h name inner).2 hinner
    · exact hinner

theorem WellFormed.setFolder (hsystem : system.WellFormed) {number : Nat}
    (hnumber : number < system.folders.size) {folder : Folder}
    (h : (system.folder number).SameFolders folder) :
    (system.setFolder number folder).WellFormed where
  root := by simpa using hsystem.root
  above_size := by simpa using hsystem.above_size
  above_lt other hother := by simpa using hsystem.above_lt other (by simpa using hother)
  inner_lt other hother name inner hinner := by
    rw [size_setFolder] at hother ⊢
    rw [folder_setFolder hnumber] at hinner
    split at hinner
    · next heq =>
      subst heq
      exact hsystem.inner_lt other hother name inner ((h name inner).1 hinner)
    · exact hsystem.inner_lt other hother name inner hinner

/-! ### New folders -/

@[simp] theorem size_addFolder (name : String) (number : Nat) :
    (system.addFolder name number).folders.size = system.folders.size + 1 := by
  simp [addFolder]

theorem folder_addFolder {name : String} {number : Nat} (h : number < system.folders.size)
    {other : Nat} (hother : other < system.folders.size) :
    (system.addFolder name number).folder other =
      if other = number then (system.folder number).insert name (.folder system.folders.size)
      else system.folder other := by
  have hold := folder_setFolder h
    ((system.folder number).insert name (.folder system.folders.size)) other
  rw [← hold]
  unfold addFolder FileSystem.folder
  have hne : ¬ other = system.folders.size := Nat.ne_of_lt hother
  simp [Array.getElem?_push, setFolder, hne]

theorem folder_addFolder_new (name : String) (number : Nat) :
    (system.addFolder name number).folder system.folders.size = Table.empty := by
  unfold addFolder FileSystem.folder
  simp [Array.getElem_push, setFolder]

theorem above_addFolder (hsystem : system.WellFormed) (name : String) (number : Nat) {other : Nat}
    (hother : other < system.folders.size) :
    (system.addFolder name number).above.getD other 0 = system.above.getD other 0 := by
  have hne : ¬ other = system.above.size := by
    rw [hsystem.above_size]
    exact Nat.ne_of_lt hother
  simp [addFolder, Array.getElem?_push, hne]

/-- A new folder where nothing has the name extends the file system. -/
theorem extends_addFolder (hsystem : system.WellFormed) {name : String} {number : Nat}
    (hnumber : number < system.folders.size) (hnone : (system.folder number).get? name = none) :
    system.Extends (system.addFolder name number) where
  size_le := by simp
  above_eq other hother := above_addFolder hsystem name number hother
  inner other hother key inner hinner := by
    rw [folder_addFolder hnumber hother]
    split
    · next heq =>
      subst heq
      rw [Table.get?_insert]
      split
      · next hkey =>
        rw [hkey, hnone] at hinner
        cases hinner
      · exact hinner
    · exact hinner

theorem WellFormed.addFolder (hsystem : system.WellFormed) (name : String) {number : Nat}
    (hnumber : number < system.folders.size) : (system.addFolder name number).WellFormed where
  root := by simp
  above_size := by simp [FileSystem.addFolder, hsystem.above_size]
  above_lt other hother := by
    rw [size_addFolder] at hother ⊢
    by_cases hnew : other = system.folders.size
    · have habove : (system.addFolder name number).above.getD other 0 = number := by
        simp [FileSystem.addFolder, hnew, ← hsystem.above_size]
      omega
    · have hold : other < system.folders.size := by omega
      rw [above_addFolder hsystem name number hold]
      have := hsystem.above_lt other hold
      omega
  inner_lt other hother key inner hinner := by
    rw [size_addFolder] at hother ⊢
    by_cases hnew : other = system.folders.size
    · rw [hnew, folder_addFolder_new] at hinner
      cases hinner
    · have hold : other < system.folders.size := by omega
      rw [folder_addFolder hnumber hold] at hinner
      split at hinner
      · rw [Table.get?_insert] at hinner
        split at hinner
        · cases hinner
          omega
        · have := hsystem.inner_lt number hnumber key inner hinner
          omega
      · have := hsystem.inner_lt other hold key inner hinner
        omega

/-! ### Ways -/

/-- The steps lead from the first folder to the second one. -/
inductive Leads (system : FileSystem) : List String → Nat → Nat → Prop where
  | here (number : Nat) : Leads system [] number number
  | step {name : String} {names : List String} {number next last : Nat}
      (hstep : system.step name number = .ok next) (hrest : Leads system names next last) :
      Leads system (name :: names) number last

theorem Leads.extends (h : before.Extends after) (hbefore : before.WellFormed)
    {names : List String} {number last : Nat} (hleads : before.Leads names number last)
    (hnumber : number < before.folders.size) : after.Leads names number last := by
  induction hleads with
  | here number => exact .here number
  | step hstep _ ih => exact .step (h.step hnumber hstep) (ih (hbefore.step_lt hnumber hstep))

theorem Leads.append {names others : List String} {number middle last : Nat}
    (h : system.Leads names number middle) (h' : system.Leads others middle last) :
    system.Leads (names ++ others) number last := by
  induction h with
  | here number => exact h'
  | step hstep _ ih => exact .step hstep (ih h')

/-- The way to the last step, and that step. -/
theorem Leads.of_append {names others : List String} {number last : Nat}
    (h : system.Leads (names ++ others) number last) :
    ∃ middle, system.Leads names number middle ∧ system.Leads others middle last := by
  induction names generalizing number with
  | nil => exact ⟨number, .here number, h⟩
  | cons name names ih =>
    cases h with
    | step hstep hrest =>
      obtain ⟨middle, hfirst, hsecond⟩ := ih hrest
      exact ⟨middle, .step hstep hfirst, hsecond⟩

/-- What entering a folder, following steps or following a way leaves behind when it succeeds: a
    grown file system in which the steps lead to the folder. -/
structure Reached (before after : FileSystem) (names : List String) (number last : Nat) : Prop where
  wellFormed : after.WellFormed
  extend : before.Extends after
  lt : last < after.folders.size
  leads : after.Leads names number last

theorem enter_ok (hbefore : before.WellFormed) {name : String} {number next : Nat}
    (hnumber : number < before.folders.size) (h : enter name number before = (.ok next, after)) :
    Reached before after [name] number next := by
  unfold enter at h
  cases hstep : before.step name number with
  | ok reached =>
    rw [hstep] at h
    cases h
    exact ⟨hbefore, .refl before, hbefore.step_lt hnumber hstep, .step hstep (.here _)⟩
  | error cause =>
    rw [hstep] at h
    cases cause with
    | noSuchFolder =>
      cases h
      obtain ⟨hname, hnone⟩ := step_eq_noSuchFolder hstep
      refine ⟨hbefore.addFolder name hnumber, extends_addFolder hbefore hnumber hnone, by simp, ?_⟩
      refine .step (step_eq_ok_iff.2 (.inr (.inr ⟨hname, ?_⟩))) (.here _)
      rw [folder_addFolder hnumber hnumber, if_pos rfl, Table.get?_insert_self]
    | _ => cases h

theorem enterAll_ok (hbefore : before.WellFormed) {names : List String} {number last : Nat}
    (hnumber : number < before.folders.size)
    (h : enterAll names number before = (.ok last, after)) :
    Reached before after names number last := by
  induction names generalizing before number with
  | nil =>
    cases h
    exact ⟨hbefore, .refl _, hnumber, .here _⟩
  | cons name names ih =>
    rw [enterAll] at h
    split at h
    · next next middle henter =>
      have hfirst := enter_ok hbefore hnumber henter
      have hrest := ih hfirst.wellFormed hfirst.lt h
      refine ⟨hrest.wellFormed, hfirst.extend.trans hrest.extend, hrest.lt, ?_⟩
      exact (hfirst.leads.extends hrest.extend hfirst.wellFormed
        (Nat.lt_of_lt_of_le hnumber hfirst.extend.size_le)).append hrest.leads
    · cases h

theorem enterAll_of_leads {names : List String} {number last : Nat}
    (h : system.Leads names number last) : enterAll names number system = (.ok last, system) := by
  induction h with
  | here number => rfl
  | step hstep _ ih => simp only [enterAll, enter, hstep, ih]

/-- Following a way leads along its moves: its steps without those on the spot. -/
theorem follow_ok (hbefore : before.WellFormed) {names : List String} {number last : Nat}
    (hnumber : number < before.folders.size)
    (h : follow names number before = (.ok last, after)) :
    Reached before after (names.filter (· ≠ ".")) number last := by
  unfold follow at h
  simp only at h
  generalize names.filter (· ≠ ".") = moves at h ⊢
  split at h
  · -- The last move is not created, but taken where the others have led.
    split at h
    · next middle system henter =>
      have hreached := enterAll_ok hbefore hnumber henter
      rcases List.eq_nil_or_concat moves with rfl | ⟨others, name, rfl⟩
      · cases h
        exact hreached
      · simp only [List.concat_eq_append, List.dropLast_concat, List.getLast?_append,
          List.getLast?_singleton, Option.some_or] at h hreached ⊢
        obtain ⟨hstep, rfl⟩ := Prod.mk.inj h
        exact ⟨hreached.wellFormed, hreached.extend, hreached.wellFormed.step_lt hreached.lt hstep,
          hreached.leads.append (.step hstep (.here last))⟩
    · cases h
  · exact enterAll_ok hbefore hnumber h

/-- A way whose moves lead to a folder is followed to it without any change. -/
theorem follow_of_leads {names : List String} {number last : Nat}
    (h : system.Leads (names.filter (· ≠ ".")) number last) :
    follow names number system = (.ok last, system) := by
  unfold follow
  simp only
  generalize names.filter (· ≠ ".") = moves at h ⊢
  split
  · rcases List.eq_nil_or_concat moves with rfl | ⟨others, name, rfl⟩
    · cases h
      rfl
    · rw [List.concat_eq_append] at h ⊢
      obtain ⟨middle, hfirst, hlast⟩ := h.of_append
      cases hlast with
      | step hstep hrest =>
        cases hrest
        simp only [List.dropLast_concat, enterAll_of_leads hfirst, List.getLast?_append,
          List.getLast?_singleton, Option.some_or, hstep]
  · exact enterAll_of_leads h

/-! ### Opening -/

/-- **A folder that was opened can be opened again.** It is a folder of a well-formed file system,
    and in every extension of that the same text opens the same location and changes nothing. -/
theorem openFolder_again {text : String} {current location : Location}
    (hbefore : before.WellFormed) (hcurrent : current.number < before.folders.size)
    (h : openFolder text current before = (.ok location, after)) :
    after.WellFormed ∧ location.number < after.folders.size ∧
      ∀ later, after.Extends later → openFolder text current later = (.ok location, later) := by
  unfold openFolder at h
  simp only at h
  split at h
  · cases h
  next htext =>
  split at h
  · cases h
  next hlong =>
  split at h
  · next number system hfollow =>
    cases h
    have hstart :
        (if PathText.isAbsolute text then 0 else current.number) < before.folders.size := by
      split
      · exact hbefore.root
      · exact hcurrent
    have hreached := follow_ok hbefore hstart hfollow
    refine ⟨hreached.wellFormed, hreached.lt, ?_⟩
    intro later hextends
    have hleads := hreached.leads.extends hextends hreached.wellFormed
      (Nat.lt_of_lt_of_le hstart hreached.extend.size_le)
    unfold openFolder
    simp only [htext, hlong, Bool.false_eq_true, if_false, follow_of_leads hleads]
  · cases h

/-! ### The folder as a medium -/

/-- The operating system takes the names of the files of a key at a location: no name and no path to
    one is too long, and none of the names is that of a folder. -/
structure Accepts (location : Location) (key : String) (system : FileSystem) : Prop where
  files : (system.folder location.number).Accepts key
  filePath : PathText.isTooLong (PathText.join location.text (FileName.ofKey key)) = false
  temporaryPath : PathText.isTooLong
    (PathText.join location.text (FileName.temporary (FileName.ofKey key))) = false

def entry (location : Location) (key : String) (system : FileSystem) : Option Bytes :=
  (system.folder location.number).entry key

/-- The states of a folder in use: the file system has grown from the one in which it was opened,
    and the names of its files are taken. -/
structure InUse (location : Location) (key : String) (opened system : FileSystem) : Prop where
  wellFormed : system.WellFormed
  extend : opened.Extends system
  accepts : Accepts location key system

theorem InUse.setFolder {location : Location} {key : String} {opened : FileSystem}
    (h : InUse location key opened system) (hlocation : location.number < opened.folders.size)
    {folder : Folder} (hsame : (system.folder location.number).SameFolders folder) :
    InUse location key opened (system.setFolder location.number folder) := by
  have hnumber := Nat.lt_of_lt_of_le hlocation h.extend.size_le
  have hfiles : ((system.setFolder location.number folder).folder location.number).Accepts key := by
    rw [folder_setFolder hnumber, if_pos rfl]
    exact h.accepts.files.of_sameFolders hsame
  exact ⟨h.wellFormed.setFolder hnumber hsame, h.extend.trans (extends_setFolder hnumber hsame),
    hfiles, h.accepts.filePath, h.accepts.temporaryPath⟩

theorem entry_setFolder {location : Location} (h : location.number < system.folders.size)
    (key : String) (folder : Folder) :
    entry location key (system.setFolder location.number folder) = folder.entry key := by
  rw [entry, folder_setFolder h, if_pos rfl]

/-- A folder in use serves the key. -/
theorem mediumAt_serves {location : Location} (key : String) {opened : FileSystem}
    (hlocation : location.number < opened.folders.size) :
    (mediumAt location).Serves key (InUse location key opened) (entry location key) where
  get {system} h := by
    simp only [mediumAt, reach, h.accepts.filePath, Bool.false_eq_true, if_false, lift,
      Folder.medium_get h.accepts.files, setFolder_folder]
    rfl
  set {system} bytes h := by
    obtain ⟨folder, hset, hsame, hentry⟩ := Folder.medium_set h.accepts.files bytes
    have hnumber := Nat.lt_of_lt_of_le hlocation h.extend.size_le
    refine ⟨system.setFolder location.number folder, ?_, h.setFolder hlocation hsame, ?_⟩
    · simp only [mediumAt, reach, h.accepts.temporaryPath, Bool.false_eq_true, if_false, lift, hset]
    · rw [entry_setFolder hnumber, hentry]
  delete {system} h := by
    obtain ⟨folder, hdelete, hsame, hentry⟩ := Folder.medium_delete h.accepts.files
    have hnumber := Nat.lt_of_lt_of_le hlocation h.extend.size_le
    refine ⟨system.setFolder location.number folder, ?_, h.setFolder hlocation hsame, ?_⟩
    · simp only [mediumAt, reach, h.accepts.filePath, Bool.false_eq_true, if_false, lift, hdelete]
    · rw [entry_setFolder hnumber, hentry]

/-- Reading an entry leaves the file system as it is. -/
theorem mediumAt_get_state (location : Location) (key : String) (system : FileSystem) :
    ((mediumAt location).get key system).2 = system := by
  simp only [mediumAt, reach]
  split
  · rfl
  · simp only [lift, Folder.medium_get_state, setFolder_folder]

theorem mediumAt_steady (location : Location) (key : String) :
    (mediumAt location).Steady key := by
  intro system
  rw [mediumAt_get_state]

end FileSystem

end Bookshop
