import Bookshop.Storage.Folder
import Bookshop.Storage.PathText

/-!
# File systems

A file system holds folders by their numbers, and each folder knows the folders in it and the one
above it. Opening a folder creates it and the folders on the way to it; a file in the way prevents
that, and a way that ends on the spot can only be opened if there is something to stand on. An open
folder serves as a medium of the whole file system.
-/

namespace Bookshop

/-- Where a folder is: its number, and the path text that led to it. -/
structure Location where
  number : Nat
  text : String
deriving DecidableEq, Repr

/-- Folders by their numbers. Number zero is the root, which is always there. -/
structure FileSystem where
  folders : Array Folder
  /-- The number of the folder above each folder; the root is above itself. -/
  above : Array Nat

namespace FileSystem

def empty : FileSystem := ⟨#[Table.empty], #[0]⟩

def root : Location := ⟨0, ""⟩

/-- The entries of the folder with a number; a number without folder has none. -/
def folder (system : FileSystem) (number : Nat) : Folder := system.folders.getD number Table.empty

def setFolder (system : FileSystem) (number : Nat) (folder : Folder) : FileSystem :=
  { system with folders := system.folders.setIfInBounds number folder }

def addFolder (system : FileSystem) (name : String) (number : Nat) : FileSystem :=
  let entries := (system.folder number).insert name (.folder system.folders.size)
  ⟨(system.setFolder number entries).folders.push Table.empty, system.above.push number⟩

/-! ### Ways -/

def step (system : FileSystem) (name : String) (number : Nat) : Except FileFault Nat :=
  if name = "." then .ok number
  else if name = ".." then .ok (system.above.getD number 0)
  else if FileName.isTooLong name then .error .nameTooLong
  else
    match (system.folder number).get? name with
    | some (.folder inner) => .ok inner
    | some (.file _) => .error .notFolder
    | none => .error .noSuchFolder

/-- The folder that one step leads to, created if nothing has the name. -/
def enter (name : String) (number : Nat) (system : FileSystem) :
    Except FileFault Nat × FileSystem :=
  match system.step name number with
  | .error .noSuchFolder => (.ok system.folders.size, system.addFolder name number)
  | result => (result, system)

/-- Follow steps from a folder on, creating what is not there. -/
def enterAll : List String → Nat → FileSystem → Except FileFault Nat × FileSystem
  | [], number, system => (.ok number, system)
  | name :: names, number, system =>
    match enter name number system with
    | (.ok number, system) => enterAll names number system
    | (.error cause, system) => (.error cause, system)

/-- Follow the steps of a way, creating what is not there. If the way ends on the spot, its last
    step has to lead to a folder that is there already. -/
def follow (names : List String) (number : Nat) (system : FileSystem) :
    Except FileFault Nat × FileSystem :=
  let moves := names.filter (· ≠ ".")
  if names.getLast? = some "." then
    match enterAll moves.dropLast number system with
    | (.ok number, system) =>
      (match moves.getLast? with
        | some last => system.step last number
        | none => .ok number, system)
    | (.error cause, system) => (.error cause, system)
  else enterAll moves number system

/-- Open the folder of a path text, seen from a folder unless the text starts at the root. -/
def openFolder (text : String) (current : Location) (system : FileSystem) :
    Except StorageError Location × FileSystem :=
  let whole := PathText.join current.text text
  let refused (cause : FileFault) : StorageError := .opening (whole ++ ": " ++ cause.message)
  if !PathText.isText whole then (.error (refused .notText), system)
  else if PathText.isTooLong whole then (.error (refused .nameTooLong), system)
  else
    let start := if PathText.isAbsolute text then 0 else current.number
    match follow (PathText.steps text) start system with
    | (.ok number, system) => (.ok ⟨number, whole⟩, system)
    | (.error cause, system) => (.error (refused cause), system)

/-! ### Media -/

def lift (number : Nat) (system : FileSystem) (result : α × Folder) : α × FileSystem :=
  (result.1, system.setFolder number result.2)

/-- An access to a file by its path text, which fails if that is too long. -/
def reach (location : Location) (name : String) (system : FileSystem)
    (access : Folder → Except StorageError α × Folder) : Except StorageError α × FileSystem :=
  if PathText.isTooLong (PathText.join location.text name) then
    (.error (.file .nameTooLong), system)
  else lift location.number system (access (system.folder location.number))

def mediumAt (location : Location) : Medium FileSystem where
  get key system := reach location (FileName.ofKey key) system (Folder.medium.get key)
  set key bytes system :=
    reach location (FileName.temporary (FileName.ofKey key)) system (Folder.medium.set key bytes)
  delete key system := reach location (FileName.ofKey key) system (Folder.medium.delete key)

end FileSystem

end Bookshop
