import Bookshop.Storage.FileSystem

/-!
# Where a shop keeps things

A shop keeps its carts either in the memory of its process or in a folder of the file system. Both
places together are the premises, and either serves as a medium of them.
-/

namespace Bookshop

/-- The memory of the process and the file system. -/
structure Premises where
  memory : Memory := Table.empty
  disk : FileSystem := .empty

inductive Place where
  | memory
  | folder (location : Location)
deriving DecidableEq, Repr

def Place.medium : Place → Medium Premises
  | .memory =>
    let lift {α : Type} (premises : Premises) (result : α × Memory) : α × Premises :=
      (result.1, { premises with memory := result.2 })
    { get := fun key premises => lift premises (Memory.medium.get key premises.memory)
      set := fun key bytes premises => lift premises (Memory.medium.set key bytes premises.memory)
      delete := fun key premises => lift premises (Memory.medium.delete key premises.memory) }
  | .folder location =>
    let medium := FileSystem.mediumAt location
    let lift {α : Type} (premises : Premises) (result : α × FileSystem) : α × Premises :=
      (result.1, { premises with disk := result.2 })
    { get := fun key premises => lift premises (medium.get key premises.disk)
      set := fun key bytes premises => lift premises (medium.set key bytes premises.disk)
      delete := fun key premises => lift premises (medium.delete key premises.disk) }

end Bookshop
