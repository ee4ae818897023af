/-
# Disks of an instance

A disk that is attached to an instance exists already, or is created from an
image together with the instance, or is scratch space of the host. The
created disk is always the boot disk, scratch space never is, and an
existing disk may be.

Key definitions: `PersistentDisk`, `CreatedDisk`, `ScratchDisk`,
`DiskConfiguration`, `AttachedDisk`, `AttachedDisk.isBoot`.
-/
import VmResource.Choice
import VmResource.Identity.Basic

namespace VmResource

/-- What an instance may do with a disk. -/
inductive DiskMode where
  | readWrite
  | readOnly
deriving DecidableEq, Repr

instance : Choice DiskMode where
  members := [.readWrite, .readOnly]
  name
    | .readWrite => "READ_WRITE"
    | .readOnly => "READ_ONLY"
  mem_members a := by cases a <;> decide
  name_injective {a b} := by cases a <;> cases b <;> decide

/-- How scratch space is reached. -/
inductive DiskInterface where
  | scsi
  | nvme
deriving DecidableEq, Repr

instance : Choice DiskInterface where
  members := [.scsi, .nvme]
  name
    | .scsi => "SCSI"
    | .nvme => "NVME"
  mem_members a := by cases a <;> decide
  name_injective {a b} := by cases a <;> cases b <;> decide

/-- What the service calls the type of a disk. -/
inductive DiskSort where
  | persistent
  | scratch
deriving DecidableEq, Repr

instance : Choice DiskSort where
  members := [.persistent, .scratch]
  name
    | .persistent => "PERSISTENT"
    | .scratch => "SCRATCH"
  mem_members a := by cases a <;> decide
  name_injective {a b} := by cases a <;> cases b <;> decide

/-- A disk that exists already. -/
structure PersistentDisk where
  source : Identity .disk
  mode : Option DiskMode
  boot : Option Bool
  autoDelete : Option Bool
deriving DecidableEq, Repr

/-- A boot disk that is created from an image together with the instance. -/
structure CreatedDisk where
  image : Identity .image
  name : Option Text
  type : Option (Identity .diskType)
  sizeGb : Option { n : Nat // 0 < n }
  autoDelete : Option Bool
deriving DecidableEq, Repr

/-- Scratch space of the host, which goes with the instance. -/
structure ScratchDisk where
  type : Option (Identity .diskType)
  interface : Option DiskInterface
deriving DecidableEq, Repr

/-- The kinds of disks. -/
inductive DiskConfiguration where
  | persistent (disk : PersistentDisk)
  | create (disk : CreatedDisk)
  | scratch (disk : ScratchDisk)
deriving DecidableEq, Repr

namespace DiskConfiguration

/-- Whether the instance starts from this disk. -/
def isBoot : DiskConfiguration → Bool
  | .persistent d => d.boot.getD false
  | .create _ => true
  | .scratch _ => false

end DiskConfiguration

/-- A disk as its instance sees it. -/
structure AttachedDisk where
  configuration : DiskConfiguration
  deviceName : Option Text
  index : Option Nat
deriving DecidableEq, Repr

namespace AttachedDisk

/-- Whether the instance starts from this disk, as its configuration tells. -/
def isBoot (d : AttachedDisk) : Bool := d.configuration.isBoot

end AttachedDisk
end VmResource
