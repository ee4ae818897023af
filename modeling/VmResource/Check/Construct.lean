/-
# Making resources from values

Whoever makes an interface, a disk or an instance may hand over a resource
for a field, which is then taken as it is, or plain data, which is checked.
A call of a constructor has values for some of the fields.

Key definitions: `Value.required`, `Value.optional`,
`NetworkInterface.construct`, `DiskConfiguration.checkValue`,
`AttachedDisk.construct`, `Instance.construct`, `Resource.Composite`,
`Resource.Composite.construct`.
-/
import VmResource.Check.Instance

namespace VmResource

open Check

/-! ### Fields of a call -/

namespace Value

variable {α : Type}

/-- The field `name` of a call, which must be given. -/
def required (es : List (Text × Value)) (name : String) (c : Value → Check α) : Check α :=
  field name (match es.lookup (.unicode name) with
    | some v => c v
    | none => refuse .missing)

/-- The field `name` of a call, unset if it is not given or null. -/
def optional (es : List (Text × Value)) (name : String) (c : Value → Check α) :
    Check (Option α) :=
  field name (unlessNull c ((es.lookup (.unicode name)).getD null))

end Value

open Value (single made eachItem)

/-! ### Parts -/

namespace Resource

/-- The access configuration that a resource is. -/
def accessConfig? : Resource → Option AccessConfig
  | .accessConfig a => some a
  | _ => none

/-- The configuration of a disk that a resource is. -/
def configuration? : Resource → Option DiskConfiguration
  | .persistentDisk d => some (.persistent d)
  | .createdDisk d => some (.create d)
  | .scratchDisk d => some (.scratch d)
  | _ => none

end Resource

open Resource (identity? accessConfig?)

namespace NetworkInterface

/-- An interface, from values for its fields. -/
def construct (es : List (Text × Value)) : Check NetworkInterface :=
  NetworkInterface.mk <$>
    Value.required es "network" (made (identity? .network) (Identity.check .network)) <*>
    Value.optional es "name" (single .notText text) <*>
    Value.optional es "network_ip" (single .notText text) <*>
    Value.optional es "subnetwork" (made (identity? .subnetwork) (Identity.check .subnetwork)) <*>
    Value.optional es "access_configurations" (eachItem (made accessConfig? AccessConfig.check))

end NetworkInterface

/-- The field `kind` of a disk configuration, which may be left out. -/
def checkKindOf (es : List (Text × Value)) (kind : String) : Check Unit :=
  field "kind" (match es.lookup (.unicode "kind") with
    | none => .ok ()
    | some v => single .wrongKind (isKind kind) v)

namespace PersistentDisk

/-- A disk that exists already, from values for its fields. -/
def construct (es : List (Text × Value)) : Check PersistentDisk :=
  (fun _ => PersistentDisk.mk) <$> checkKindOf es "persistent" <*>
    Value.required es "source_disk" (made (identity? .disk) (Identity.check .disk)) <*>
    Value.optional es "mode" (single .notMember (member DiskMode)) <*>
    Value.optional es "boot" (single .notFlag flag) <*>
    Value.optional es "auto_delete" (single .notFlag flag)

end PersistentDisk

namespace CreatedDisk

/-- A disk to be created, from values for its fields. -/
def construct (es : List (Text × Value)) : Check CreatedDisk :=
  (fun _ => CreatedDisk.mk) <$> checkKindOf es "create" <*>
    Value.required es "source_image" (made (identity? .image) (Identity.check .image)) <*>
    Value.optional es "disk_name" (single .notText text) <*>
    Value.optional es "disk_type" (made (identity? .diskType) (Identity.check .diskType)) <*>
    Value.optional es "disk_size_gb" (single .notInteger positive) <*>
    Value.optional es "auto_delete" (single .notFlag flag)

end CreatedDisk

namespace ScratchDisk

/-- Scratch space, from values for its fields. -/
def construct (es : List (Text × Value)) : Check ScratchDisk :=
  (fun _ => ScratchDisk.mk) <$> checkKindOf es "scratch" <*>
    Value.optional es "disk_type" (made (identity? .diskType) (Identity.check .diskType)) <*>
    Value.optional es "interface_type" (single .notMember (member DiskInterface))

end ScratchDisk

/-- A configuration is taken as it is; an object of its fields is checked by
its kind, which no other resource has. -/
def DiskConfiguration.checkValue : Value → Check DiskConfiguration
  | .plain v => DiskConfiguration.check v
  | .resource r =>
    match r.configuration? with
    | some c => .ok c
    | none => refuse .kindMissing
  | _ => refuse .noKinds

namespace AttachedDisk

/-- An attached disk, from values for its fields. -/
def construct (es : List (Text × Value)) : Check AttachedDisk :=
  AttachedDisk.mk <$> Value.required es "configuration" DiskConfiguration.checkValue <*>
    Value.optional es "device_name" (single .notText text) <*>
    Value.optional es "index" (single .notInteger natural)

end AttachedDisk

/-! ### Instances -/

namespace Instance

/-- The fields that only the service may set, and that are given
nevertheless. -/
def assignedAmong (given : Field → Option Value) : List Field :=
  Field.assigned.filter fun f => !((given f).getD .null).isNull

/-- An instance, from values for its fields. -/
def construct (es : List (Text × Value)) : Check Instance :=
  let given := fun f : Field => es.lookup (.unicode f.name)
  if assignedAmong given = [] then checkFields given
  else refuse (.serviceAssigned ((assignedAmong given).map Field.name))

end Instance

/-! ### Resources -/

namespace Resource

/-- The classes whose fields may be resources themselves. -/
inductive Composite where
  | interface
  | persistentDisk
  | createdDisk
  | scratchDisk
  | disk
  | vm
deriving DecidableEq, Repr

namespace Composite

def cls : Composite → Class
  | .interface => .interface
  | .persistentDisk => .persistentDisk
  | .createdDisk => .createdDisk
  | .scratchDisk => .scratchDisk
  | .disk => .disk
  | .vm => .vm

/-- A resource of such a class, from values for its fields. -/
def construct : Composite → List (Text × Value) → Check Resource
  | .interface, es => Resource.interface <$> NetworkInterface.construct es
  | .persistentDisk, es => Resource.persistentDisk <$> PersistentDisk.construct es
  | .createdDisk, es => Resource.createdDisk <$> CreatedDisk.construct es
  | .scratchDisk, es => Resource.scratchDisk <$> ScratchDisk.construct es
  | .disk, es => Resource.disk <$> AttachedDisk.construct es
  | .vm, es => Resource.vm <$> Instance.construct es

end Composite
end Resource
end VmResource
