/-
# Resources of every class

Some places take a resource of any class and look at its class only later.
A value, as callers hand it over, is plain JSON, a resource, a list of
values or something else, which no field takes.

Key definitions: `Resource`, `Resource.Class`, `Value`.
-/
import VmResource.Instance.Basic

namespace VmResource

/-- A resource of any class. -/
inductive Resource where
  | identity (k : Identity.Kind) (id : Identity k)
  | tags (t : Tags)
  | metadata (m : Metadata)
  | account (a : ServiceAccount)
  | scheduling (s : Scheduling)
  | accessConfig (a : AccessConfig)
  | interface (n : NetworkInterface)
  | persistentDisk (d : PersistentDisk)
  | createdDisk (d : CreatedDisk)
  | scratchDisk (d : ScratchDisk)
  | disk (d : AttachedDisk)
  | vm (x : Instance)
deriving DecidableEq

/-- A value as callers hand it over. -/
inductive Value where
  | plain (v : Json)
  | resource (r : Resource)
  | list (xs : List Value)
  /-- A thing of another sort, which no field takes. -/
  | other

namespace Value

/-- The value of what is unset. -/
def null : Value := .plain .null

def text (t : Text) : Value := .plain (.text t)

/-- An optional value, null if there is none. -/
def ofOption {α : Type} (f : α → Value) : Option α → Value
  | none => null
  | some a => f a

def ofText? : Option Text → Value := ofOption text

def ofFlag? : Option Bool → Value := ofOption fun b => .plain (.bool b)

def ofTexts? : Option (List Text) → Value := ofOption fun ts => .list (ts.map text)

def ofMember? {α : Type} [Choice α] : Option α → Value := ofOption fun a => text (Choice.name a)

def ofIdentity {k : Identity.Kind} (id : Identity k) : Value := .resource (.identity k id)

/-- A value is null only as the plain one. -/
def isNull : Value → Bool
  | .plain .null => true
  | _ => false

end Value

namespace Resource

/-- The classes of resources. -/
inductive Class where
  | identity (k : Identity.Kind)
  | tags
  | metadata
  | account
  | scheduling
  | accessConfig
  | interface
  | persistentDisk
  | createdDisk
  | scratchDisk
  | disk
  | vm
deriving DecidableEq, Repr

namespace Class

/-- The name of a class. -/
def title : Class → String
  | .identity k => k.title
  | .tags => "Tags"
  | .metadata => "Metadata"
  | .account => "ServiceAccount"
  | .scheduling => "SchedulingOptions"
  | .accessConfig => "AccessConfig"
  | .interface => "NetworkInterface"
  | .persistentDisk => "PersistentDiskConfiguration"
  | .createdDisk => "CreateDiskConfiguration"
  | .scratchDisk => "ScratchDiskConfiguration"
  | .disk => "AttachedDisk"
  | .vm => "InstanceInfo"

/-- Every class there is. -/
def all : List Class :=
  [.identity .zone, .identity .vm, .identity .machineType, .identity .disk, .identity .diskType,
    .identity .image, .identity .network, .identity .subnetwork, .tags, .metadata, .account,
    .scheduling, .accessConfig, .interface, .persistentDisk, .createdDisk, .scratchDisk, .disk, .vm]

/-- The class of this name. -/
def ofTitle? (s : String) : Option Class := all.find? (·.title = s)

end Class

/-- The class of a resource. -/
def cls : Resource → Class
  | .identity k _ => .identity k
  | .tags _ => .tags
  | .metadata _ => .metadata
  | .account _ => .account
  | .scheduling _ => .scheduling
  | .accessConfig _ => .accessConfig
  | .interface _ => .interface
  | .persistentDisk _ => .persistentDisk
  | .createdDisk _ => .createdDisk
  | .scratchDisk _ => .scratchDisk
  | .disk _ => .disk
  | .vm _ => .vm

end Resource
end VmResource
