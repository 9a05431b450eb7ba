import Mathlib.Logic.ExistsUnique
import Bookshop.Proofs.Run
import Bookshop.Proofs.Storage.FileSystem

/-!
# A folder is a memory

A folder that is used by one store alone holds one file for each entry and nothing else: it is the
image of a memory, `Memory.filed`. Each call to the store in the folder answers what it answers in
memory, and leaves the image of what it leaves in memory. Opening the folder again finds it as it is.

The main statement is `folder_serves_as_memory`, about every run of calls and re-openings.
-/

namespace Bookshop

/-! ### The image of a memory -/

/-- The folder that keeps the entries of a memory, each in the file of its key. -/
def Memory.filed (memory : Memory) : Folder :=
  ⟨memory.entries.map fun entry => (FileName.ofKey entry.1, .file entry.2)⟩

namespace Memory

variable (memory : Memory)

theorem get?_filed (key : String) :
    memory.filed.get? (FileName.ofKey key) = (memory.get? key).map FolderEntry.file := by
  obtain ⟨entries⟩ := memory
  induction entries with
  | nil => rfl
  | cons entry entries ih =>
    by_cases h : entry.1 = key
    · simp [filed, Table.get?, h]
    · have hname : FileName.ofKey entry.1 ≠ FileName.ofKey key :=
        fun heq => h (FileName.ofKey_injective heq)
      simpa [filed, Table.get?, h, hname] using ih

theorem get?_filed_of_ne {name : String} (h : ∀ key, FileName.ofKey key ≠ name) :
    memory.filed.get? name = none := by
  simp [filed, Table.get?, List.find?_eq_none, h]

theorem filed_erase (key : String) :
    memory.filed.erase (FileName.ofKey key) = filed (memory.erase key) := by
  unfold filed Table.erase
  rw [List.filter_map]
  refine congrArg (fun entries : List (String × Bytes) => Table.mk (entries.map _))
    (List.filter_congr ?_)
  intro entry _
  by_cases h : entry.1 = key
  · simp [h]
  · have hname : FileName.ofKey entry.1 ≠ FileName.ofKey key :=
      fun heq => h (FileName.ofKey_injective heq)
    simp [h, hname]

theorem filed_insert (key : String) (bytes : Bytes) :
    memory.filed.insert (FileName.ofKey key) (.file bytes) = filed (memory.insert key bytes) := by
  rw [Table.insert, filed_erase]
  rfl

/-- The names in the image of a memory are those of the files of its keys. -/
theorem get?_filed_eq_some_iff {name : String} {entry : FolderEntry} :
    memory.filed.get? name = some entry ↔
      ∃ key bytes, name = FileName.ofKey key ∧ entry = .file bytes ∧
        memory.get? key = some bytes := by
  constructor
  · intro h
    by_cases hkey : ∃ key, FileName.ofKey key = name
    · obtain ⟨key, rfl⟩ := hkey
      rw [get?_filed] at h
      obtain ⟨bytes, hbytes, rfl⟩ := Option.map_eq_some_iff.1 h
      exact ⟨key, bytes, rfl, rfl, hbytes⟩
    · have hnone := memory.get?_filed_of_ne fun key heq => hkey ⟨key, heq⟩
      rw [hnone] at h
      cases h
  · rintro ⟨key, bytes, rfl, rfl, hbytes⟩
    rw [get?_filed, hbytes]
    rfl

theorem nodup_keys_filed {memory : Memory} (h : memory.keys.Nodup) :
    memory.filed.keys.Nodup := by
  have hkeys : memory.filed.keys = memory.keys.map FileName.ofKey := by
    simp [filed, Table.keys]
  rw [hkeys]
  exact List.Pairwise.map FileName.ofKey (fun _ _ hne heq => hne (FileName.ofKey_injective heq)) h

theorem filed_ne_folder (name : String) (number : Nat) :
    memory.filed.get? name ≠ some (.folder number) := by
  intro h
  obtain ⟨key, bytes, -, hentry, -⟩ := memory.get?_filed_eq_some_iff.1 h
  cases hentry

end Memory

namespace Folder

variable (memory : Memory) {key : String}

/-! ### Accesses to the image -/

theorem get_filed (hfile : FileName.isTooLong (FileName.ofKey key) = false) :
    medium.get key memory.filed = (.ok (memory.get? key), memory.filed) := by
  simp only [medium, readFile, hfile, Bool.false_eq_true, if_false, memory.get?_filed]
  cases memory.get? key <;> rfl

/-- Writing goes through the temporary file, which is gone afterwards. -/
theorem set_filed (hfile : FileName.isTooLong (FileName.ofKey key) = false)
    (htemporary : FileName.isTooLong (FileName.temporary (FileName.ofKey key)) = false)
    (bytes : Bytes) :
    medium.set key bytes memory.filed = (.ok (), Memory.filed (memory.insert key bytes)) := by
  have haccepts : memory.filed.Accepts key :=
    ⟨hfile, htemporary, memory.filed_ne_folder _, memory.filed_ne_folder _⟩
  have hstaged := haccepts.of_sameFolders (sameFolders_insert haccepts.temporaryFree bytes)
  have hnone : memory.filed.get? (FileName.temporary (FileName.ofKey key)) = none :=
    memory.get?_filed_of_ne fun other heq => FileName.temporary_ne_ofKey _ other heq.symm
  simp only [medium, stage_eq haccepts, publish_eq hstaged (Table.get?_insert_self _ _ _),
    Table.erase_insert_self, Table.erase_eq_self hnone, memory.filed_insert, commit]

theorem delete_filed (hfile : FileName.isTooLong (FileName.ofKey key) = false) :
    medium.delete key memory.filed = (.ok (), Memory.filed (memory.erase key)) := by
  simp only [medium, removeFile, hfile, Bool.false_eq_true, if_false, memory.get?_filed]
  cases hentry : memory.get? key with
  | none =>
    rw [Table.erase_eq_self hentry]
    rfl
  | some bytes =>
    simp only [Option.map_some, commit, memory.filed_erase]

end Folder

/-! ### Calls -/

/-- A call to a store of bytes. -/
inductive StoreCall where
  | set (key : String) (bytes : Bytes)
  | get (key : String)
  | delete (key : String)
  | contains (key : String)
  /-- The store is opened again. -/
  | reopen
deriving DecidableEq, Repr

inductive StoreAnswer where
  | done (result : Except StorageError Unit)
  | found (result : Except StorageError (Option Bytes))
  | present (result : Except StorageError Bool)
deriving Repr

namespace StoreCall

variable {σ : Type}

/-- What a call does to a store that is kept open. There is nothing to do to open it again. -/
def onMedium (medium : Medium σ) (call : StoreCall) (state : σ) : StoreAnswer × σ :=
  match call with
  | .set key bytes => ((.done (medium.set key bytes state).1), (medium.set key bytes state).2)
  | .get key => ((.found (medium.get key state).1), (medium.get key state).2)
  | .delete key => ((.done (medium.delete key state).1), (medium.delete key state).2)
  | .contains key => ((.present (medium.contains key state).1), (medium.contains key state).2)
  | .reopen => (.done (.ok ()), state)

/-- What a call does to the store in the folder that was opened last. The store is opened again by
    the text of its folder, seen from the current one. -/
def onFolder (text : String) (current : Location) (call : StoreCall)
    (state : Location × FileSystem) : StoreAnswer × Location × FileSystem :=
  match call with
  | .reopen =>
    match FileSystem.openFolder text current state.2 with
    | (.ok location, disk) => (.done (.ok ()), location, disk)
    | (.error e, disk) => (.done (.error e), state.1, disk)
  | call =>
    let (answer, disk) := call.onMedium (FileSystem.mediumAt state.1) state.2
    (answer, state.1, disk)

theorem onFolder_call (text : String) (current : Location) {call : StoreCall}
    (h : call ≠ .reopen) (state : Location × FileSystem) :
    call.onFolder text current state =
      ((call.onMedium (FileSystem.mediumAt state.1) state.2).1, state.1,
        (call.onMedium (FileSystem.mediumAt state.1) state.2).2) := by
  unfold onFolder
  cases call with
  | reopen => exact absurd rfl h
  | _ => dsimp only

theorem onFolder_reopen {text : String} {current location : Location} {after : FileSystem}
    (state : Location × FileSystem)
    (h : FileSystem.openFolder text current state.2 = (.ok location, after)) :
    StoreCall.reopen.onFolder text current state = (.done (.ok ()), location, after) := by
  unfold onFolder
  dsimp only
  rw [h]

/-- The operating system takes the name, and the path to it from the folder. -/
def NameFits (location : Location) (name : String) : Prop :=
  FileName.isTooLong name = false ∧ PathText.isTooLong (PathText.join location.text name) = false

instance (location : Location) (name : String) : Decidable (NameFits location name) := by
  unfold NameFits
  infer_instance

/-- The operating system takes the names that the call uses. -/
def Fits (location : Location) : StoreCall → Prop
  | .set key _ => NameFits location (FileName.ofKey key) ∧
      NameFits location (FileName.temporary (FileName.ofKey key))
  | .get key => NameFits location (FileName.ofKey key)
  | .delete key => NameFits location (FileName.ofKey key)
  | .contains key => NameFits location (FileName.ofKey key)
  | .reopen => True

instance (location : Location) (call : StoreCall) : Decidable (call.Fits location) := by
  cases call <;> unfold Fits <;> infer_instance

end StoreCall

/-! ### The folder that keeps a memory -/

/-- The file system with the image of a memory as the folder at a location. -/
def FileSystem.keeping (opened : FileSystem) (location : Location) (memory : Memory) : FileSystem :=
  opened.setFolder location.number memory.filed

namespace FileSystem

variable {opened : FileSystem} {location : Location} {memory : Memory} {key : String}

theorem folder_keeping (h : location.number < opened.folders.size) (memory : Memory) :
    (opened.keeping location memory).folder location.number = memory.filed := by
  rw [keeping, folder_setFolder h, if_pos rfl]

theorem keeping_empty (h : opened.folder location.number = Table.empty) :
    opened.keeping location Table.empty = opened := by
  have hempty : Memory.filed Table.empty = opened.folder location.number := by
    rw [h]
    rfl
  rw [keeping, hempty, setFolder_folder]

/-- The image of a memory holds no folders, so in the place of an empty folder it extends the file
    system. -/
theorem extends_keeping (hlocation : location.number < opened.folders.size)
    (hempty : opened.folder location.number = Table.empty) (memory : Memory) :
    opened.Extends (opened.keeping location memory) := by
  apply extends_setFolder hlocation
  intro name number
  rw [hempty]
  simp [memory.filed_ne_folder]

/-- An access to a name that fits is one to the folder. -/
theorem reach_keeping (hlocation : location.number < opened.folders.size) {name : String}
    (hname : PathText.isTooLong (PathText.join location.text name) = false)
    {access : Folder → Except StorageError α × Folder} {answer : Except StorageError α}
    {after : Memory} (haccess : access memory.filed = (answer, after.filed)) :
    reach location name (opened.keeping location memory) access =
      (answer, opened.keeping location after) := by
  simp only [reach, hname, Bool.false_eq_true, if_false, folder_keeping hlocation, haccess, lift]
  rw [keeping, setFolder_setFolder, keeping]

end FileSystem

/-! ### Simulation -/

/-- The store was opened at the location, whose folder is the image of a memory. -/
structure Keeps (location : Location) (opened : FileSystem) (state : Location × FileSystem)
    (memory : Memory) : Prop where
  location_eq : state.1 = location
  disk_eq : state.2 = opened.keeping location memory
  nodup : memory.keys.Nodup

/-- One call, a re-opening included, answers what it answers in memory and keeps what it leaves. -/
theorem StoreCall.onFolder_eq {text : String} {current location : Location} {opened : FileSystem}
    (hlocation : location.number < opened.folders.size)
    (hempty : opened.folder location.number = Table.empty)
    (hopen : ∀ later, opened.Extends later →
      FileSystem.openFolder text current later = (.ok location, later))
    {call : StoreCall} (hcall : call.Fits location) {state : Location × FileSystem}
    {memory : Memory} (h : Keeps location opened state memory) :
    ∃ after, call.onFolder text current state = ((call.onMedium Memory.medium memory).1, after) ∧
      Keeps location opened after (call.onMedium Memory.medium memory).2 := by
  obtain ⟨opening, disk⟩ := state
  obtain ⟨hopening, hkept, hnodup⟩ := h
  obtain rfl : opening = location := hopening
  obtain rfl : disk = opened.keeping opening memory := hkept
  cases call with
  | set key bytes =>
    obtain ⟨⟨hname, -⟩, htemporary, hpath⟩ := hcall
    have hset := FileSystem.reach_keeping hlocation hpath
      (Folder.set_filed memory hname htemporary bytes)
    refine ⟨(_, _), ?_, rfl, rfl, Table.nodup_keys_insert hnodup key bytes⟩
    simp only [onFolder_call, ne_eq, reduceCtorEq, not_false_eq_true, onMedium,
      FileSystem.mediumAt, hset]
    rfl
  | get key =>
    obtain ⟨hname, hpath⟩ := hcall
    have hget := FileSystem.reach_keeping hlocation hpath
      (Folder.get_filed memory hname)
    refine ⟨(_, _), ?_, rfl, rfl, hnodup⟩
    simp only [onFolder_call, ne_eq, reduceCtorEq, not_false_eq_true, onMedium,
      FileSystem.mediumAt, hget]
    rfl
  | delete key =>
    obtain ⟨hname, hpath⟩ := hcall
    have hdelete := FileSystem.reach_keeping hlocation hpath
      (Folder.delete_filed memory hname)
    refine ⟨(_, _), ?_, rfl, rfl, Table.nodup_keys_erase hnodup key⟩
    simp only [onFolder_call, ne_eq, reduceCtorEq, not_false_eq_true, onMedium,
      FileSystem.mediumAt, hdelete]
    rfl
  | contains key =>
    obtain ⟨hname, hpath⟩ := hcall
    have hget := FileSystem.reach_keeping hlocation hpath
      (Folder.get_filed memory hname)
    refine ⟨(_, _), ?_, rfl, rfl, hnodup⟩
    simp only [onFolder_call, ne_eq, reduceCtorEq, not_false_eq_true, onMedium,
      FileSystem.mediumAt, Medium.contains, hget]
    rfl
  | reopen =>
    have hagain := hopen _ (FileSystem.extends_keeping hlocation hempty memory)
    refine ⟨(_, _), ?_, rfl, rfl, hnodup⟩
    rw [onFolder_reopen (opening, opened.keeping opening memory) hagain]
    rfl

/-- A folder holds exactly one file for each key of a memory, which holds the bytes under that key,
    and nothing else. -/
structure Folder.Files (folder : Folder) (memory : Memory) : Prop where
  nodup : folder.keys.Nodup
  get?_eq_some_iff : ∀ name entry, folder.get? name = some entry ↔
    ∃! key, name = FileName.ofKey key ∧ ∃ bytes, memory.get? key = some bytes ∧ entry = .file bytes

theorem Memory.files_filed {memory : Memory} (h : memory.keys.Nodup) :
    memory.filed.Files memory where
  nodup := nodup_keys_filed h
  get?_eq_some_iff name entry := by
    rw [memory.get?_filed_eq_some_iff]
    constructor
    · rintro ⟨key, bytes, rfl, rfl, hbytes⟩
      refine ⟨key, ⟨rfl, bytes, hbytes, rfl⟩, ?_⟩
      rintro other ⟨hname, -⟩
      exact (FileName.ofKey_injective hname).symm
    · rintro ⟨key, ⟨rfl, bytes, hbytes, rfl⟩, -⟩
      exact ⟨key, bytes, rfl, rfl, hbytes⟩

/-- **A folder is a memory.** A store is opened in a folder that is empty, and the names of the
    files that the calls use fit. Then every run of calls, in which the store is opened again at any
    time, answers what it answers in memory. Afterwards the folder holds exactly one file for each
    key that is there, with the bytes of that key, and nothing else; and everything else in the file
    system is what it was. -/
theorem folder_serves_as_memory (text : String) (current location : Location)
    (disk opened : FileSystem) (calls : List StoreCall) (hdisk : disk.WellFormed)
    (hcurrent : current.number < disk.folders.size)
    (hopen : FileSystem.openFolder text current disk = (.ok location, opened))
    (hempty : opened.folder location.number = Table.empty)
    (hcalls : ∀ call ∈ calls, call.Fits location) :
    let run := runAll (StoreCall.onFolder text current) calls (location, opened)
    let model := runAll (StoreCall.onMedium Memory.medium) calls Table.empty
    run.1 = model.1 ∧ run.2.1 = location ∧
      (run.2.2.folder location.number).Files model.2 ∧
      run.2.2 = opened.setFolder location.number (run.2.2.folder location.number) := by
  intro run model
  obtain ⟨-, hlocation, hagain⟩ := FileSystem.openFolder_again hdisk hcurrent hopen
  have hstart : Keeps location opened (location, opened) Table.empty :=
    ⟨rfl, (FileSystem.keeping_empty hempty).symm, List.nodup_nil⟩
  have hcall : ∀ call ∈ calls, ∀ (state : Location × FileSystem) (memory : Memory),
      Keeps location opened state memory →
      ∃ after, call.onFolder text current state = ((call.onMedium Memory.medium memory).1, after) ∧
        Keeps location opened after (call.onMedium Memory.medium memory).2 :=
    fun call hmem _ _ h => StoreCall.onFolder_eq hlocation hempty hagain (hcalls call hmem) h
  obtain ⟨after, hafter, hkept⟩ := runAll_simulates hcall hstart
  have hrun : run = (model.1, after) := hafter
  have hfolder : after.2.folder location.number = Memory.filed model.2 := by
    rw [hkept.disk_eq, FileSystem.folder_keeping hlocation]
  rw [hrun]
  refine ⟨rfl, hkept.location_eq, ?_, ?_⟩
  · rw [hfolder]
    exact Memory.files_filed hkept.nodup
  · rw [hfolder]
    exact hkept.disk_eq

/-- A folder named for a shop. The empty key, one with a slash and one beyond ASCII are set, one is
    set again after the store was opened again, and one is deleted. -/
theorem folder_serves_as_memory_shop :
    let calls : List StoreCall := [.set "" [1], .set "a/b" [2], .contains "a/b", .set "é." [],
      .reopen, .set "a/b" [3], .delete "é.", .get "é.", .get "a/b"]
    let opened := FileSystem.empty.addFolder "shop" 0
    let run := runAll (StoreCall.onFolder "shop" FileSystem.root) calls (⟨1, "shop"⟩, opened)
    let model := runAll (StoreCall.onMedium Memory.medium) calls Table.empty
    model.2.entries = [("a/b", [3]), ("", [1])] ∧
      run.1 = model.1 ∧ run.2.1 = ⟨1, "shop"⟩ ∧ (run.2.2.folder 1).Files model.2 ∧
      run.2.2 = opened.setFolder 1 (run.2.2.folder 1) := by
  intro calls opened
  have hcalls : ∀ call ∈ calls, call.Fits ⟨1, "shop"⟩ := by decide +kernel
  have hserves := folder_serves_as_memory "shop" FileSystem.root ⟨1, "shop"⟩ FileSystem.empty
    opened calls FileSystem.empty_wellFormed (by decide) rfl rfl hcalls
  exact ⟨by decide +kernel, hserves⟩

end Bookshop
