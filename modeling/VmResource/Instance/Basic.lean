/-
# Instances

A virtual machine: what its owner decides, and what the service assigns to
it. The five assigned fields come from the service's payloads only.

Key definitions: `Instance`, `Instance.bootDisk?`, `Instance.selfLink`.
-/
import VmResource.Instance.Disk
import VmResource.Instance.Part

namespace VmResource

/-- Where an instance is in its life, as the service tells:
provisioning, staging, running, stopping, terminated. -/
inductive Status where
  | provisioning
  | staging
  | running
  | stopping
  | terminated
deriving DecidableEq, Repr

instance : Choice Status where
  members := [.provisioning, .staging, .running, .stopping, .terminated]
  name
    | .provisioning => "PROVISIONING"
    | .staging => "STAGING"
    | .running => "RUNNING"
    | .stopping => "STOPPING"
    | .terminated => "TERMINATED"
  mem_members a := by cases a <;> decide
  name_injective {a b} := by cases a <;> cases b <;> decide

/-- A virtual machine. -/
structure Instance where
  id : Identity .vm
  machineType : Identity .machineType
  interfaces : List NetworkInterface
  disks : List AttachedDisk
  description : Option Text
  tags : Option Tags
  canIpForward : Option Bool
  metadata : Option Metadata
  accounts : Option (List ServiceAccount)
  scheduling : Option Scheduling
  serverId : Option Text
  /-- The instant of creation, in milliseconds from the start of 1970. -/
  created : Option Int
  status : Option Status
  statusMessage : Option Text
  cpuPlatform : Option Text
deriving DecidableEq, Repr

namespace Instance

/-- The link by which an instance is known. -/
def selfLink (x : Instance) : Text := x.id.selfLink

/-- The position of the first disk that the instance can start from. -/
def bootIndex? (x : Instance) : Option Nat := x.disks.findIdx? AttachedDisk.isBoot

/-- The first disk that the instance can start from. -/
def bootDisk? (x : Instance) : Option AttachedDisk := x.disks.find? AttachedDisk.isBoot

end Instance
end VmResource
