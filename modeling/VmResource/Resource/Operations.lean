/-
# Operations on resources of any class

What can be done with a resource whose class is known only by its name:
making it from its fields or its payload, moving it to another project,
writing its payload, comparing it. A class that lacks an operation does not
have the attribute.

Key definitions: `Resource.make`, `Resource.ofPayload`,
`Resource.withProject`, `Resource.payload`, `Resource.same`,
`Resource.assign`.
-/
import VmResource.Instance.Rebind
import VmResource.Payload.Instance
import VmResource.Payload.Write

namespace VmResource
namespace Resource

/-- Checks an object of the fields of a resource. -/
def check : Class → Json → Check Resource
  | .identity k, v => Resource.identity k <$> Identity.check k v
  | .tags, v => Resource.tags <$> Tags.check v
  | .metadata, v => Resource.metadata <$> Metadata.check v
  | .account, v => Resource.account <$> ServiceAccount.check v
  | .scheduling, v => Resource.scheduling <$> Scheduling.check v
  | .accessConfig, v => Resource.accessConfig <$> AccessConfig.check v
  | .interface, v => Resource.interface <$> NetworkInterface.check v
  | .persistentDisk, v => Resource.persistentDisk <$> PersistentDisk.check v
  | .createdDisk, v => Resource.createdDisk <$> CreatedDisk.check v
  | .scratchDisk, v => Resource.scratchDisk <$> ScratchDisk.check v
  | .disk, v => Resource.disk <$> AttachedDisk.check v
  | .vm, v => Resource.vm <$> Instance.check v

/-- Makes a resource of a class from an object of its fields. -/
def make (c : Class) (v : Json) : Except Error Resource := (check c v).orInvalid c.title

/-- Reads a resource of a class from a payload; identities have none. -/
def ofPayload : Class → Json → Traced Resource
  | .identity _, _ => .failed .attributeMissing
  | .tags, p => .silent (Resource.tags <$> Tags.ofPayload p)
  | .metadata, p => .silent (Resource.metadata <$> Metadata.ofPayload p)
  | .account, p => .silent (Resource.account <$> ServiceAccount.ofPayload p)
  | .scheduling, p => .silent (Resource.scheduling <$> Scheduling.ofPayload p)
  | .accessConfig, p => .silent (Resource.accessConfig <$> AccessConfig.ofPayload p)
  | .interface, p => .silent (Resource.interface <$> NetworkInterface.ofPayload p)
  | .persistentDisk, p => .silent (Resource.persistentDisk <$> PersistentDisk.ofPayload p)
  | .createdDisk, p => .silent (Resource.createdDisk <$> CreatedDisk.ofPayload p)
  | .scratchDisk, p => .silent (Resource.scratchDisk <$> ScratchDisk.ofPayload p)
  | .disk, p => .silent (Resource.disk <$> AttachedDisk.ofPayload p)
  | .vm, p => (Instance.ofPayload p).map .vm

/-- The payload of a resource; identities have none. -/
def payload : Resource → Except Error Json
  | .identity _ _ => .error .attributeMissing
  | .tags t => .ok t.payload
  | .metadata m => .ok m.payload
  | .account a => .ok a.payload
  | .scheduling s => .ok s.payload
  | .accessConfig a => .ok a.payload
  | .interface n => .ok n.payload
  | .persistentDisk d => .ok (Json.record d.entries)
  | .createdDisk d => d.entries.map Json.record
  | .scratchDisk d => .ok (Json.record d.entries)
  | .disk d => d.payload
  | .vm x => x.payload

/-- Moves a resource that has identities to another project, the first of
the arguments. A disk may be told, by a second one, which project it is
moved from. -/
def withProject (r : Resource) (args : List (Option Text)) : Traced Resource :=
  match r, args with
  | .identity k id, [p] => .silent (.ok (.identity k (id.withProject p)))
  | .interface n, [p] => .silent (.ok (.interface (n.withProject p)))
  | .vm x, [p] => (x.withProject p).map .vm
  | .persistentDisk d, p :: previous => configuration (.persistent d) p previous
  | .createdDisk d, p :: previous => configuration (.create d) p previous
  | .scratchDisk d, p :: previous => configuration (.scratch d) p previous
  | .disk d, p :: previous =>
    match previous with
    | [] => .silent (.ok (.disk (d.withProject p none)))
    | [q] => .silent (.ok (.disk (d.withProject p q)))
    | _ => .failed .wrongForm
  | .identity _ _, _ | .interface _, _ | .vm _, _ | .persistentDisk _, _ | .createdDisk _, _
  | .scratchDisk _, _ | .disk _, _ => .failed .wrongForm
  | _, _ => .failed .attributeMissing
where
  configuration (c : DiskConfiguration) (p : Option Text) : List (Option Text) → Traced Resource
    | [] => .silent (.ok (c.withProject p none).resource)
    | [q] => .silent (.ok (c.withProject p q).resource)
    | _ => .failed .wrongForm

/-- Instances are compared by their payloads, other resources by class and
fields. -/
def same : Resource → Resource → Except Error Bool
  | .vm x, .vm y => x.samePayload y
  | r, s => .ok (r = s)

/-- A resource never changes: every assignment to a field is refused. -/
def assign (r : Resource) (field : String) : Error :=
  .invalid r.cls.title [⟨[.field field], .immutable⟩]

end Resource

namespace AttachedDisk

/-- A disk of a configuration that may be a resource of any class. -/
def ofResource (r : Resource) (deviceName : Json) : Check AttachedDisk :=
  of (match r with
    | .persistentDisk d => .ok (.persistent d)
    | .createdDisk d => .ok (.create d)
    | .scratchDisk d => .ok (.scratch d)
    | _ => Check.refuse .kindMissing) deviceName

end AttachedDisk

namespace NetworkInterface

/-- An interface to a network given by its name alone. -/
def ofName (network : Json) : Except Error NetworkInterface :=
  match network with
  | .text name => do
    let id ← (Identity.check .network (.object [("network", .text name)])).orInvalid
      Identity.Kind.network.title
    return of id
  | v => of <$> (Check.field "network" (Identity.check .network v)).orInvalid "NetworkInterface"

end NetworkInterface
end VmResource
