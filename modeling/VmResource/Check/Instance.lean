/-
# Checks of instances

The fields of an instance may be given as resources, which were checked when
they were made, or as objects of their fields, which are checked now.
Whoever makes an instance directly must leave out what the service assigns.

Key definitions: `Instance.checkFields`, `Instance.check`.
-/
import VmResource.Check.Part
import VmResource.Resource.Fields

namespace VmResource

open Check

namespace Resource

/-- The identity of kind `k` that a resource is. -/
def identity? (k : Identity.Kind) : Resource → Option (Identity k)
  | .identity l id => if h : l = k then some (h ▸ id) else none
  | _ => none

def interface? : Resource → Option NetworkInterface
  | .interface n => some n
  | _ => none

def disk? : Resource → Option AttachedDisk
  | .disk d => some d
  | _ => none

def tags? : Resource → Option Tags
  | .tags t => some t
  | _ => none

def metadata? : Resource → Option Metadata
  | .metadata m => some m
  | _ => none

def account? : Resource → Option ServiceAccount
  | .account a => some a
  | _ => none

def scheduling? : Resource → Option Scheduling
  | .scheduling s => some s
  | _ => none

end Resource

namespace Value

variable {α : Type}

/-- Checks a single value; a resource or a list breaks `rule`. -/
def single (rule : Rule) (c : Json → Check α) : Value → Check α
  | .plain v => c v
  | _ => refuse rule

/-- Takes a resource of the class that `pick` finds, or an object of its
fields. -/
def made (pick : Resource → Option α) (c : Json → Check α) : Value → Check α
  | .plain v => c v
  | .resource r =>
    match pick r with
    | some a => .ok a
    | none => refuse .notResource
  | _ => refuse .notResource

/-- Checks the items of a list. -/
def eachItem (c : Value → Check α) : Value → Check (List α)
  | .list xs => each c xs
  | .plain (.list xs) => each (fun v => c (.plain v)) xs
  | _ => refuse .notList

/-- Null stands for an unset value. -/
def unlessNull (c : Value → Check α) (v : Value) : Check (Option α) :=
  if v.isNull then .ok none else some <$> c v

end Value

namespace Instance

open Value (single made eachItem unlessNull)

/-- A field that must be given. -/
def requiredField {α : Type} (given : Field → Option Value) (f : Field) (c : Value → Check α) :
    Check α :=
  field f.name (match given f with
    | some v => c v
    | none => refuse .missing)

/-- A field that may be left out or null. -/
def optionalField {α : Type} (given : Field → Option Value) (f : Field) (c : Value → Check α) :
    Check (Option α) :=
  field f.name (unlessNull c ((given f).getD .null))

/-- Checks the fields given for an instance, in the order of their
declaration. -/
def checkFields (given : Field → Option Value) : Check Instance :=
  Instance.mk <$>
    requiredField given .id (made (Resource.identity? .vm) (Identity.check .vm)) <*>
    requiredField given .machineType
      (made (Resource.identity? .machineType) (Identity.check .machineType)) <*>
    requiredField given .interfaces (eachItem (made Resource.interface? NetworkInterface.check)) <*>
    requiredField given .disks (eachItem (made Resource.disk? AttachedDisk.check)) <*>
    optionalField given .description (single .notText text) <*>
    optionalField given .tags (made Resource.tags? Tags.check) <*>
    optionalField given .canIpForward (single .notFlag flag) <*>
    optionalField given .metadata (made Resource.metadata? Metadata.check) <*>
    optionalField given .accounts (eachItem (made Resource.account? ServiceAccount.check)) <*>
    optionalField given .scheduling (made Resource.scheduling? Scheduling.check) <*>
    optionalField given .serverId (single .notText text) <*>
    optionalField given .created (single .notInteger integer) <*>
    optionalField given .status (single .notMember (member Status)) <*>
    optionalField given .statusMessage (single .notText text) <*>
    optionalField given .cpuPlatform (single .notText text)

/-- The fields of an object that only the service may set, and that are set
nevertheless. -/
def assignedIn (es : List (Text × Json)) : List Field :=
  Field.assigned.filter fun f => (es.lookup (.unicode f.name)).getD .null ≠ .null

/-- Checks an object of the fields of an instance. -/
def check : Json → Check Instance :=
  object fun es =>
    if assignedIn es = [] then checkFields fun f => (es.lookup (.unicode f.name)).map .plain
    else refuse (.serviceAssigned ((assignedIn es).map Field.name))

end Instance
end VmResource
