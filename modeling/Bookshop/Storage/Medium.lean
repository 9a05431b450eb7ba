import Bookshop.Wire.Codec
import Bookshop.Storage.Table

/-!
# Storage media

A medium keeps raw bytes under text keys. Each access is a function of the state of the medium that
returns an answer and the next state, so a failing medium is a medium like any other. A key that
holds nothing is no failure. On top of a medium, values are kept as documents of their codec.
-/

namespace Bookshop

/-! ### Failures -/

inductive FileFault where
  | nameTooLong
  | notText
  | isFolder
  | notFolder
  | noSuchFolder
  | described (text : String)
deriving DecidableEq, Repr

/-- Why a storage access fails. -/
inductive StorageError where
  | opening (detail : String)
  | unreadable (cause : DecodeError)
  | unwritable (cause : EncodeError)
  | file (cause : FileFault)
  | operation (detail : String)
  | described (text : String)
deriving DecidableEq, Repr

def FileFault.message : FileFault → String
  | .nameTooLong => "file name too long"
  | .notText => "zero byte in a path"
  | .isFolder => "is a directory"
  | .notFolder => "not a directory"
  | .noSuchFolder => "no such file or directory"
  | .described text => text

def StorageError.message : StorageError → String
  | .opening detail => "Failed to open store: " ++ detail
  | .unreadable cause => "Serialization error: " ++ cause.message
  | .unwritable cause => "Serialization error: " ++ cause.message
  | .file cause => "I/O error: " ++ cause.message
  | .operation detail => "Store operation failed: " ++ detail
  | .described text => text

/-! ### Media -/

/-- The accesses that a medium with states of type `σ` offers. -/
structure Medium (σ : Type) where
  get : String → σ → Except StorageError (Option Bytes) × σ
  set : String → Bytes → σ → Except StorageError Unit × σ
  delete : String → σ → Except StorageError Unit × σ

namespace Medium

def contains (medium : Medium σ) (key : String) (state : σ) : Except StorageError Bool × σ :=
  match medium.get key state with
  | (.ok found, state) => (.ok found.isSome, state)
  | (.error e, state) => (.error e, state)

def load (medium : Medium σ) (codec : Codec α) (key : String) (state : σ) :
    Except StorageError (Option α) × σ :=
  match medium.get key state with
  | (.ok none, state) => (.ok none, state)
  | (.ok (some bytes), state) =>
    match codec.read bytes with
    | .ok value => (.ok (some value), state)
    | .error e => (.error (.unreadable e), state)
  | (.error e, state) => (.error e, state)

/-- Keep a document under a key; what cannot be written as a document is not kept. -/
def save (medium : Medium σ) (key : String) (document : Except EncodeError Bytes) (state : σ) :
    Except StorageError Unit × σ :=
  match document with
  | .ok bytes => medium.set key bytes state
  | .error e => (.error (.unwritable e), state)

end Medium

/-! ### Memory -/

abbrev Memory := Table String Bytes

/-- The medium that holds its entries in memory and never fails. -/
def Memory.medium : Medium Memory where
  get key memory := (.ok (memory.get? key), memory)
  set key bytes memory := (.ok (), memory.insert key bytes)
  delete key memory := (.ok (), memory.erase key)

/-! ### Faults -/

/-- Failures that are in force: each kind of access fails with the one given for it. -/
structure Faults where
  get : Option StorageError := none
  set : Option StorageError := none
  delete : Option StorageError := none
deriving DecidableEq, Repr

structure Faulty (σ : Type) where
  state : σ
  faults : Faults

/-- The medium whose accesses fail as long as a failure is in force for them; an access that fails
    changes nothing. -/
def Medium.withFaults (medium : Medium σ) : Medium (Faulty σ) where
  get key s :=
    match s.faults.get with
    | some e => (.error e, s)
    | none => let (answer, state) := medium.get key s.state; (answer, { s with state })
  set key bytes s :=
    match s.faults.set with
    | some e => (.error e, s)
    | none => let (answer, state) := medium.set key bytes s.state; (answer, { s with state })
  delete key s :=
    match s.faults.delete with
    | some e => (.error e, s)
    | none => let (answer, state) := medium.delete key s.state; (answer, { s with state })

end Bookshop
