import Mathlib.Logic.Relation
import Bookshop.Proofs.Storage.Apart

/-!
# All or nothing

A value is written under a key in two steps, and the call may be looked at between them, it may be cut
off there, and each step may fail, be it for what is in the way in the folder or for a reason that
lies outside of it. Up to the moment in which the temporary file gets the name of the file of the key,
the folder differs from what it was in the temporary file at most (`SameButTemporary`), which no key
is read from. That moment gives the key the whole value and no other key anything. What may happen is
a step relation (`WriteStep`), and each step keeps what is so of the phase that the call has come to
(`Done`).

The main statement is `writing_all_or_nothing`, about folders with any content.
-/

namespace Bookshop

namespace FileName

/-- The name of the temporary file goes on from that of the file. -/
theorem ofKey_prefix_temporary (key : String) :
    (ofKey key).toList <+: (temporary (ofKey key)).toList := by
  rw [toList_temporary, stem_ofKey, toList_ofKey]
  split
  · next hempty =>
    rw [hempty]
    exact ⟨".json.tmp".toList, rfl⟩
  · have htemporary : ".json.tmp".toList = ".json".toList ++ ".tmp".toList := by decide
    rw [htemporary, ← List.append_assoc]
    exact List.prefix_append _ _

theorem ofKey_ne_nil (key : String) : (ofKey key).toList ≠ [] := by
  rw [toList_ofKey]
  exact List.append_ne_nil_of_right_ne_nil _ (by decide)

end FileName

namespace PathText

/-- What goes on from a name stands in the same place of a path. -/
theorem prefix_join (base : String) {name longer : String} (hname : name.toList ≠ [])
    (h : name.toList <+: longer.toList) :
    (join base name).toList <+: (join base longer).toList := by
  have habsolute : isAbsolute longer = isAbsolute name := by
    obtain ⟨first, others, hfirst⟩ := List.exists_cons_of_ne_nil hname
    obtain ⟨rest, hrest⟩ := h
    simp only [isAbsolute, ← hrest, hfirst, List.cons_append, List.head?_cons]
  unfold join
  rw [habsolute]
  split
  · exact h
  split
  · simpa using h
  · simpa using h

theorem isTooLong_of_prefix {path longer : String} (h : path.toList <+: longer.toList)
    (hlong : isTooLong longer = false) : isTooLong path = false := by
  obtain ⟨rest, hrest⟩ := h
  have hlength : (Utf8.encode path).length ≤ (Utf8.encode longer).length := by
    rw [Utf8.encode, Utf8.encode, ← hrest, List.flatMap_append, List.length_append]
    exact Nat.le_add_right _ _
  have hfits := of_decide_eq_false hlong
  exact decide_eq_false (by omega)

/-- Where the path of the temporary file is accepted, that of the file is. -/
theorem isTooLong_ofKey {base key : String}
    (h : isTooLong (join base (FileName.temporary (FileName.ofKey key))) = false) :
    isTooLong (join base (FileName.ofKey key)) = false :=
  isTooLong_of_prefix
    (prefix_join base (FileName.ofKey_ne_nil key) (FileName.ofKey_prefix_temporary key)) h

end PathText

/-! ### The temporary file -/

namespace Folder

variable {before middle after : Folder} {key other : String} {bytes : Bytes}

/-- The folders differ at most in what has the name of the temporary file of a key. -/
def SameButTemporary (key : String) (before after : Folder) : Prop :=
  ∀ name, name ≠ FileName.temporary (FileName.ofKey key) → after.get? name = before.get? name

theorem SameButTemporary.refl (key : String) (folder : Folder) : SameButTemporary key folder folder :=
  fun _ _ => rfl

theorem SameButTemporary.trans (h : SameButTemporary key before middle)
    (h' : SameButTemporary key middle after) : SameButTemporary key before after :=
  fun name hname => (h' name hname).trans (h name hname)

/-- A temporary file is no file of a key. -/
theorem SameButTemporary.fileOf (h : SameButTemporary key before after) (other : String) :
    after.fileOf other = before.fileOf other :=
  h _ (FileName.temporary_ne_ofKey _ _).symm

/-! ### What the steps leave -/

theorem stage_eq_ok (h : stage key bytes before = .ok after) : after = before.staged key bytes := by
  rcases stage_cases (.refl key before) bytes with ⟨cause, hstage, -⟩ | ⟨hstage, -⟩
  · rw [hstage] at h
    cases h
  · rw [hstage] at h
    exact (Except.ok.inj h).symm

theorem sameButTemporary_stage (h : stage key bytes before = .ok after) :
    SameButTemporary key before after := by
  intro name hname
  rw [stage_eq_ok h, staged, Table.get?_insert, if_neg hname]

/-- A rename that succeeds brings what the temporary file held, and the file has a name that is not
    too long. -/
theorem publish_eq_ok (h : publish key before = .ok after) :
    FileName.isTooLong (FileName.ofKey key) = false ∧
      ∃ bytes, before.temporaryOf key = some (.file bytes) ∧ after = before.published key bytes := by
  unfold publish renameFile at h
  split at h
  · cases h
  · next hfits =>
    rw [Bool.or_eq_true, not_or, Bool.not_eq_true, Bool.not_eq_true] at hfits
    refine ⟨hfits.2, ?_⟩
    split at h
    · cases h
    · cases h
    · cases h
    · next bytes htemporary _ =>
      exact ⟨bytes, htemporary, (Except.ok.inj h).symm⟩

end Folder

/-- The call is over, and the value has been written. -/
def WritePhase.isPublished : WritePhase → Bool
  | .ended (.ok ()) => true
  | _ => false

namespace FileSystem

variable {location : Location} {call : WriteCall} {before moment after : FileSystem} {key : String}

/-! ### What keys read as -/

/-- What a key reads as in the folder at a location. -/
def reading (location : Location) (system : FileSystem) (key : String) :
    Except StorageError (Option Bytes) :=
  ((mediumAt location).get key system).1

/-- The file of a key settles what the key reads as. -/
theorem reading_congr
    (h : (after.folder location.number).fileOf key = (before.folder location.number).fileOf key) :
    reading location after key = reading location before key := by
  simp only [reading, mediumAt, reach]
  split
  · rfl
  · simp only [lift]
    exact Folder.medium_get_congr h

theorem reading_of_fileOf {bytes : Bytes}
    (hpath : PathText.isTooLong (PathText.join location.text (FileName.ofKey key)) = false)
    (hfits : FileName.isTooLong (FileName.ofKey key) = false)
    (h : (after.folder location.number).fileOf key = some (.file bytes)) :
    reading location after key = .ok (some bytes) := by
  simp only [reading, mediumAt, reach, hpath, Bool.false_eq_true, if_false, lift]
  exact Folder.medium_get_of_fileOf hfits h

/-! ### Steps of a call -/

/-- What may come next in a call that writes a value in the folder at a location. Each of the two
    steps does in the folder what it is for, or it fails, for whatever reason. While the first step
    is under way, and when a step fails, anything may come to stand in the place of the temporary
    file. -/
inductive WriteStep (location : Location) (call : WriteCall) :
    WritePhase × FileSystem → WritePhase × FileSystem → Prop where
  | touch {system : FileSystem} {folder : Folder}
      (htouched : Folder.SameButTemporary call.key (system.folder location.number) folder) :
      WriteStep location call (.waiting, system) (.waiting, system.setFolder location.number folder)
  | stage {system : FileSystem} {folder : Folder}
      (hpath : PathText.isTooLong
        (PathText.join location.text (FileName.temporary (FileName.ofKey call.key))) = false)
      (hstage : Folder.stage call.key call.bytes (system.folder location.number) = .ok folder) :
      WriteStep location call (.waiting, system) (.staged, system.setFolder location.number folder)
  | failToStage {system : FileSystem} {folder : Folder} (e : StorageError)
      (htouched : Folder.SameButTemporary call.key (system.folder location.number) folder) :
      WriteStep location call (.waiting, system)
        (.ended (.error e), system.setFolder location.number folder)
  | publish {system : FileSystem} {folder : Folder}
      (hpublish : Folder.publish call.key (system.folder location.number) = .ok folder) :
      WriteStep location call (.staged, system)
        (.ended (.ok ()), system.setFolder location.number folder)
  | failToPublish {system : FileSystem} {folder : Folder} (e : StorageError)
      (htouched : Folder.SameButTemporary call.key (system.folder location.number) folder) :
      WriteStep location call (.staged, system)
        (.ended (.error e), system.setFolder location.number folder)

/-- The steps of a call, from its beginning in a file system on. -/
def WriteRun (location : Location) (call : WriteCall) (before : FileSystem)
    (s : WritePhase × FileSystem) : Prop :=
  Relation.ReflTransGen (WriteStep location call) (.waiting, before) s

/-! ### What the steps keep -/

/-- The call has touched nothing but its temporary file. -/
structure Unpublished (location : Location) (call : WriteCall) (before moment : FileSystem) :
    Prop where
  lt : location.number < moment.folders.size
  touched : Folder.SameButTemporary call.key (before.folder location.number)
    (moment.folder location.number)

/-- The file of the key has the whole value, and the other files of keys are as they were. -/
structure Published (location : Location) (call : WriteCall) (before moment : FileSystem) :
    Prop where
  pathFits : PathText.isTooLong (PathText.join location.text (FileName.ofKey call.key)) = false
  nameFits : FileName.isTooLong (FileName.ofKey call.key) = false
  fileOf : ∀ key, (moment.folder location.number).fileOf key =
    if key = call.key then some (.file call.bytes) else (before.folder location.number).fileOf key

/-- The call is between its steps: the temporary file has the value. -/
structure Staged (location : Location) (call : WriteCall) (before moment : FileSystem) : Prop
    extends Unpublished location call before moment where
  pathFits : PathText.isTooLong
    (PathText.join location.text (FileName.temporary (FileName.ofKey call.key))) = false
  temporaryOf : (moment.folder location.number).temporaryOf call.key = some (.file call.bytes)

/-- What the call has done when it has come to a phase. -/
def Done (location : Location) (call : WriteCall) (before : FileSystem) :
    WritePhase × FileSystem → Prop
  | (.waiting, moment) => Unpublished location call before moment
  | (.staged, moment) => Staged location call before moment
  | (.ended (.error _), moment) => Unpublished location call before moment
  | (.ended (.ok ()), moment) => Published location call before moment

theorem Unpublished.touch (h : Unpublished location call before moment) {folder : Folder}
    (htouched : Folder.SameButTemporary call.key (moment.folder location.number) folder) :
    Unpublished location call before (moment.setFolder location.number folder) where
  lt := by rw [size_setFolder]; exact h.lt
  touched := by
    rw [folder_setFolder h.lt, if_pos rfl]
    exact h.touched.trans htouched

theorem Unpublished.stage (h : Unpublished location call before moment) {folder : Folder}
    (hpath : PathText.isTooLong
      (PathText.join location.text (FileName.temporary (FileName.ofKey call.key))) = false)
    (hstage : Folder.stage call.key call.bytes (moment.folder location.number) = .ok folder) :
    Staged location call before (moment.setFolder location.number folder) where
  toUnpublished := h.touch (Folder.sameButTemporary_stage hstage)
  pathFits := hpath
  temporaryOf := by
    rw [folder_setFolder h.lt, if_pos rfl, Folder.stage_eq_ok hstage, Folder.temporaryOf_staged,
      if_pos rfl]

theorem Staged.publish (h : Staged location call before moment) {folder : Folder}
    (hpublish : Folder.publish call.key (moment.folder location.number) = .ok folder) :
    Published location call before (moment.setFolder location.number folder) := by
  obtain ⟨hfits, bytes, htemporary, rfl⟩ := Folder.publish_eq_ok hpublish
  rw [h.temporaryOf] at htemporary
  cases htemporary
  refine ⟨PathText.isTooLong_ofKey h.pathFits, hfits, fun key => ?_⟩
  rw [folder_setFolder h.lt, if_pos rfl, Folder.fileOf_published, h.touched.fileOf]

theorem Done.step {s s' : WritePhase × FileSystem} (h : Done location call before s)
    (hstep : WriteStep location call s s') : Done location call before s' := by
  cases hstep with
  | touch htouched => exact Unpublished.touch h htouched
  | stage hpath hstage => exact Unpublished.stage h hpath hstage
  | failToStage e htouched => exact Unpublished.touch h htouched
  | publish hpublish => exact Staged.publish h hpublish
  | failToPublish e htouched => exact (Staged.toUnpublished h).touch htouched

theorem WriteRun.done {s : WritePhase × FileSystem}
    (hlocation : location.number < before.folders.size) (h : WriteRun location call before s) :
    Done location call before s := by
  induction h with
  | refl => exact ⟨hlocation, .refl _ _⟩
  | tail _ hstep ih => exact ih.step hstep

theorem Unpublished.reading (h : Unpublished location call before moment) (key : String) :
    reading location moment key = reading location before key :=
  reading_congr (h.touched.fileOf key)

theorem Published.reading (h : Published location call before moment) (key : String) :
    reading location moment key =
      if key = call.key then .ok (some call.bytes) else reading location before key := by
  have hfile := h.fileOf key
  split
  · next hkey =>
    subst hkey
    rw [if_pos rfl] at hfile
    exact reading_of_fileOf h.pathFits h.nameFits hfile
  · next hkey =>
    rw [if_neg hkey] at hfile
    exact reading_congr hfile

/-- What a call has done settles what every key reads as. -/
theorem Done.reading {phase : WritePhase} (h : Done location call before (phase, moment))
    (key : String) :
    reading location moment key =
      if phase.isPublished ∧ key = call.key then .ok (some call.bytes)
      else reading location before key := by
  match phase, h with
  | .waiting, h => simpa [WritePhase.isPublished] using Unpublished.reading h key
  | .staged, h => simpa [WritePhase.isPublished] using Unpublished.reading h.toUnpublished key
  | .ended (.error _), h => simpa [WritePhase.isPublished] using Unpublished.reading h key
  | .ended (.ok ()), h => simpa [WritePhase.isPublished] using Published.reading h key

/-! ### The call as a whole -/

/-- A call to the medium is a run to its end. -/
theorem writeRun_set {bytes : Bytes} {result : Except StorageError Unit}
    (hlocation : location.number < before.folders.size)
    (h : (mediumAt location).set key bytes before = (result, after)) :
    WriteRun location ⟨key, bytes⟩ before (.ended result, after) := by
  have huntouched := Folder.SameButTemporary.refl key
  simp only [mediumAt, reach] at h
  split at h
  · cases h
    have hstep : WriteStep location ⟨key, bytes⟩ (.waiting, before) _ :=
      .failToStage (.file .nameTooLong) (huntouched _)
    rw [setFolder_folder] at hstep
    exact .single hstep
  · next hpath =>
    rw [Bool.not_eq_true] at hpath
    simp only [lift, Folder.medium] at h
    cases hstage : Folder.stage key bytes (before.folder location.number) with
    | error cause =>
      rw [hstage] at h
      cases h
      exact .single (.failToStage _ (huntouched _))
    | ok staged =>
      have hfirst : WriteRun location ⟨key, bytes⟩ before
          (.staged, before.setFolder location.number staged) := .single (.stage hpath hstage)
      have hstaged : (before.setFolder location.number staged).folder location.number = staged := by
        rw [folder_setFolder hlocation, if_pos rfl]
      simp only [hstage] at h
      rw [← hstaged] at h
      cases hpublish : Folder.publish key
          ((before.setFolder location.number staged).folder location.number) with
      | error cause =>
        rw [hpublish] at h
        cases h
        have hlast : WriteStep location ⟨key, bytes⟩
            (.staged, before.setFolder location.number staged) _ :=
          .failToPublish (.file cause) (huntouched _)
        rw [setFolder_setFolder] at hlast
        exact hfirst.tail hlast
      | ok folder =>
        rw [hpublish] at h
        cases h
        have hlast : WriteStep location ⟨key, bytes⟩
            (.staged, before.setFolder location.number staged) _ :=
          .publish hpublish
        rw [setFolder_setFolder] at hlast
        exact hfirst.tail hlast

/-- Writing a value is all or nothing, whatever is in the folder. At every moment of the call, and
    after it, every key reads as it did before, until the temporary file gets the name of the file;
    from then on the key reads as the whole value, and every other key as it did. A call that
    succeeds has come so far, and one that fails has not. -/
theorem writing_all_or_nothing (location : Location) (key : String) (bytes : Bytes)
    (before : FileSystem) (hlocation : location.number < before.folders.size) :
    (∀ phase moment, WriteRun location ⟨key, bytes⟩ before (phase, moment) → ∀ other,
      reading location moment other =
        if phase.isPublished ∧ other = key then .ok (some bytes)
        else reading location before other) ∧
    ∀ result after, (mediumAt location).set key bytes before = (result, after) →
      WriteRun location ⟨key, bytes⟩ before (.ended result, after) :=
  ⟨fun _ _ hrun => (hrun.done hlocation).reading, fun _ _ => writeRun_set hlocation⟩

/-- In the folder are a temporary file that somebody left, a folder with the name of a file and one
    with the name of a temporary file. The first key is written; the second step fails for the next
    key, which leaves a temporary file behind, and the first step for the last. -/
theorem writing_all_or_nothing_hostile :
    let folder : Folder := ⟨[("cart.json", .file [1]), ("cart.json.tmp", .file [9]),
      ("wish.json", .folder 1), ("list.json", .file [2]), ("list.json.tmp", .folder 1)]⟩
    let before : FileSystem := ⟨#[folder, Table.empty], #[0, 0]⟩
    (∃ after, (mediumAt root).set "cart" [3, 4] before = (.ok (), after) ∧ ∀ key,
      reading root after key =
        if key = "cart" then .ok (some [3, 4]) else reading root before key) ∧
    (∃ after, (mediumAt root).set "wish" [3, 4] before = (.error (.file .isFolder), after) ∧
      (after.folder 0).temporaryOf "wish" = some (.file [3, 4]) ∧
      ∀ key, reading root after key = reading root before key) ∧
    ∃ after, (mediumAt root).set "list" [3, 4] before = (.error (.file .isFolder), after) ∧
      ∀ key, reading root after key = reading root before key := by
  intro folder before
  have hread (key : String) {result : Except StorageError Unit} {after : FileSystem}
      (hset : (mediumAt root).set key [3, 4] before = (result, after)) (other : String) :
      reading root after other = if (WritePhase.ended result).isPublished ∧ other = key then
        .ok (some [3, 4]) else reading root before other := by
    obtain ⟨hmoments, hruns⟩ := writing_all_or_nothing root key [3, 4] before (by decide)
    exact hmoments _ _ (hruns _ _ hset) other
  have hset (key : String)
      (hpath : PathText.isTooLong (FileName.temporary (FileName.ofKey key)) = false) :
      (mediumAt root).set key [3, 4] before =
        lift 0 before (Folder.medium.set key [3, 4] folder) := by
    have hempty : root.text.isEmpty = true := rfl
    have hnumber : root.number = 0 := rfl
    have hfolder : before.folder 0 = folder := rfl
    simp only [mediumAt, reach, PathText.join, hempty, Bool.or_true, if_true, hpath,
      Bool.false_eq_true, if_false, hnumber, hfolder]
  have hwish : Folder.medium.set "wish" [3, 4] folder =
      (.error (.file .isFolder), folder.staged "wish" [3, 4]) := by
    have hstage : Folder.stage "wish" [3, 4] folder = .ok (folder.staged "wish" [3, 4]) := rfl
    have hpublish : Folder.publish "wish" (folder.staged "wish" [3, 4]) = .error .isFolder := rfl
    simp only [Folder.medium, hstage, hpublish, Folder.commit]
  have hlist : Folder.medium.set "list" [3, 4] folder = (.error (.file .isFolder), folder) := rfl
  have hcart : Folder.medium.set "cart" [3, 4] folder =
      (.ok (), (folder.staged "cart" [3, 4]).published "cart" [3, 4]) := rfl
  have hsetCart := hset "cart" (by decide)
  have hsetWish := hset "wish" (by decide)
  have hsetList := hset "list" (by decide)
  rw [hcart] at hsetCart
  rw [hwish] at hsetWish
  rw [hlist] at hsetList
  refine ⟨⟨_, hsetCart, fun key => ?_⟩, ⟨_, hsetWish, by decide +kernel, fun key => ?_⟩,
    _, hsetList, fun key => ?_⟩
  · rw [hread "cart" hsetCart key]
    simp only [WritePhase.isPublished, true_and]
  · rw [hread "wish" hsetWish key]
    simp only [WritePhase.isPublished, Bool.false_eq_true, false_and, if_false]
  · rw [hread "list" hsetList key]
    simp only [WritePhase.isPublished, Bool.false_eq_true, false_and, if_false]

end FileSystem

end Bookshop
