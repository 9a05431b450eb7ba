import Bookshop.Storage.FileName
import Bookshop.Storage.Medium

/-!
# Folders as a medium

A folder keeps each key in a file of its own. A value is written in two steps, first the whole of
it to a temporary file and then, by a rename, to the file of the key; between the steps and after a
failure of either the file of the key is what it was before. Files and folders that others put into
the folder are left alone unless they have the name of a file in use.
-/

namespace Bookshop

inductive FolderEntry where
  | file (bytes : Bytes)
  /-- Another folder, by its number in the file system. -/
  | folder (number : Nat)
deriving DecidableEq, Repr

abbrev Folder := Table String FolderEntry

namespace Folder

/-! ### Accesses to one file -/

def readFile (name : String) (folder : Folder) : Except FileFault (Option Bytes) :=
  if FileName.isTooLong name then .error .nameTooLong
  else
    match folder.get? name with
    | none => .ok none
    | some (.file bytes) => .ok (some bytes)
    | some (.folder _) => .error .isFolder

def writeFile (name : String) (bytes : Bytes) (folder : Folder) : Except FileFault Folder :=
  if FileName.isTooLong name then .error .nameTooLong
  else
    match folder.get? name with
    | some (.folder _) => .error .isFolder
    | _ => .ok (folder.insert name (.file bytes))

/-- Give a file another name, in place of any file of that name. -/
def renameFile (source target : String) (folder : Folder) : Except FileFault Folder :=
  if FileName.isTooLong source || FileName.isTooLong target then .error .nameTooLong
  else
    match folder.get? source, folder.get? target with
    | none, _ => .error .noSuchFolder
    | some (.folder _), _ => .error .isFolder
    | some (.file _), some (.folder _) => .error .isFolder
    | some (.file bytes), _ => .ok ((folder.erase source).insert target (.file bytes))

def removeFile (name : String) (folder : Folder) : Except FileFault Folder :=
  if FileName.isTooLong name then .error .nameTooLong
  else
    match folder.get? name with
    | none => .ok folder
    | some (.file _) => .ok (folder.erase name)
    | some (.folder _) => .error .isFolder

/-! ### Keys -/

/-- First step of writing a key: the value goes to the temporary file. -/
def stage (key : String) (bytes : Bytes) (folder : Folder) : Except FileFault Folder :=
  writeFile (FileName.temporary (FileName.ofKey key)) bytes folder

/-- Second step of writing a key: the temporary file becomes the file of the key. -/
def publish (key : String) (folder : Folder) : Except FileFault Folder :=
  renameFile (FileName.temporary (FileName.ofKey key)) (FileName.ofKey key) folder

/-- A change to the folder as an access; one that fails leaves the folder as it was. -/
def commit (change : Except FileFault Folder) (before : Folder) :
    Except StorageError Unit × Folder :=
  match change with
  | .ok folder => (.ok (), folder)
  | .error cause => (.error (.file cause), before)

/-- The medium that keeps its entries in the files of a folder. A failure of the second step of
    writing leaves the temporary file behind. -/
def medium : Medium Folder where
  get key folder :=
    match readFile (FileName.ofKey key) folder with
    | .ok found => (.ok found, folder)
    | .error cause => (.error (.file cause), folder)
  set key bytes folder :=
    match stage key bytes folder with
    | .ok staged => commit (publish key staged) staged
    | .error cause => (.error (.file cause), folder)
  delete key folder := commit (removeFile (FileName.ofKey key) folder) folder

end Folder

end Bookshop
