/-
# The fields of a resource

A resource of any class can be seen as its fields: names with values, in the
order of their declaration. Besides the fields there are a few properties
that follow from them.

Key definitions: `Resource.fields`, `Resource.property`, `Value.items`,
`Value.isBootDisk`.
-/
import VmResource.Resource.Basic

namespace VmResource

open Value

namespace Identity

/-- The project, then the names. -/
def fields {k : Kind} (id : Identity k) : List (String × Value) :=
  ("project", ofText? id.project) :: k.names.zip (id.names.map fun n => text (.unicode n.text))

end Identity

namespace Metadata

def itemValue (item : Text × Option Text) : Value := .list [text item.1, ofText? item.2]

/-- The values by key, as an object. -/
def valuesJson (m : Metadata) : Json :=
  .object (m.values.map fun (k, v) => (k, (v.map Json.text).getD .null))

end Metadata

namespace PersistentDisk

def fields (d : PersistentDisk) : List (String × Value) :=
  [("kind", text "persistent"), ("source_disk", ofIdentity d.source), ("mode", ofMember? d.mode),
    ("boot", ofFlag? d.boot), ("auto_delete", ofFlag? d.autoDelete)]

end PersistentDisk

namespace CreatedDisk

def fields (d : CreatedDisk) : List (String × Value) :=
  [("kind", text "create"), ("source_image", ofIdentity d.image), ("disk_name", ofText? d.name),
    ("disk_type", ofOption ofIdentity d.type),
    ("disk_size_gb", ofOption (fun n => .plain (.int n.1)) d.sizeGb),
    ("auto_delete", ofFlag? d.autoDelete)]

end CreatedDisk

namespace ScratchDisk

def fields (d : ScratchDisk) : List (String × Value) :=
  [("kind", text "scratch"), ("disk_type", ofOption ofIdentity d.type),
    ("interface_type", ofMember? d.interface)]

end ScratchDisk

namespace DiskConfiguration

/-- A configuration as a resource of its own class. -/
def resource : DiskConfiguration → Resource
  | .persistent d => .persistentDisk d
  | .create d => .createdDisk d
  | .scratch d => .scratchDisk d

end DiskConfiguration

namespace Instance

/-- The fields of an instance. -/
inductive Field where
  | id
  | machineType
  | interfaces
  | disks
  | description
  | tags
  | canIpForward
  | metadata
  | accounts
  | scheduling
  | serverId
  | created
  | status
  | statusMessage
  | cpuPlatform
deriving DecidableEq, Repr

namespace Field

/-- The name of a field. -/
def name : Field → String
  | .id => "instance_id"
  | .machineType => "machine_type"
  | .interfaces => "network_interfaces"
  | .disks => "attached_disks"
  | .description => "description"
  | .tags => "tags"
  | .canIpForward => "can_ip_forward"
  | .metadata => "metadata"
  | .accounts => "service_accounts"
  | .scheduling => "scheduling_options"
  | .serverId => "server_id"
  | .created => "creation_timestamp"
  | .status => "status"
  | .statusMessage => "status_message"
  | .cpuPlatform => "cpu_platform"

/-- The fields in the order of their declaration. -/
def all : List Field :=
  [.id, .machineType, .interfaces, .disks, .description, .tags, .canIpForward, .metadata, .accounts,
    .scheduling, .serverId, .created, .status, .statusMessage, .cpuPlatform]

/-- The fields that only the service sets. -/
def assigned : List Field := [.serverId, .created, .status, .statusMessage, .cpuPlatform]

/-- The fields that hold a list of resources. -/
def isCollection : Field → Bool
  | .interfaces | .disks | .accounts => true
  | _ => false

theorem mem_all (f : Field) : f ∈ all := by cases f <;> decide

end Field

/-- The value of a field. -/
def get (x : Instance) : Field → Value
  | .id => ofIdentity x.id
  | .machineType => ofIdentity x.machineType
  | .interfaces => .list (x.interfaces.map fun n => .resource (.interface n))
  | .disks => .list (x.disks.map fun d => .resource (.disk d))
  | .description => ofText? x.description
  | .tags => ofOption (fun t => .resource (.tags t)) x.tags
  | .canIpForward => ofFlag? x.canIpForward
  | .metadata => ofOption (fun m => .resource (.metadata m)) x.metadata
  | .accounts => ofOption (fun as => .list (as.map fun a => .resource (.account a))) x.accounts
  | .scheduling => ofOption (fun s => .resource (.scheduling s)) x.scheduling
  | .serverId => ofText? x.serverId
  | .created => ofOption (fun n => .plain (.int n)) x.created
  | .status => ofMember? x.status
  | .statusMessage => ofText? x.statusMessage
  | .cpuPlatform => ofText? x.cpuPlatform

/-- The fields by name. -/
def fields (x : Instance) : List (String × Value) := Field.all.map fun f => (f.name, x.get f)

end Instance

namespace Resource

/-- The fields of a resource, in the order of their declaration. -/
def fields : Resource → List (String × Value)
  | .identity _ id => id.fields
  | .tags t => [("values", ofTexts? t.values), ("fingerprint", ofText? t.fingerprint)]
  | .metadata m =>
    [("items", ofOption (fun items => .list (items.map Metadata.itemValue)) m.items),
      ("fingerprint", ofText? m.fingerprint)]
  | .account a => [("email", text a.email.text), ("scopes", ofTexts? a.scopes)]
  | .scheduling s =>
    [("automatic_restart", ofFlag? s.automaticRestart), ("maintenance", ofMember? s.maintenance),
      ("preemptible", ofFlag? s.preemptible)]
  | .accessConfig a =>
    [("name", ofText? a.name), ("nat_ip", ofText? a.natIp), ("type", ofMember? a.type)]
  | .interface n =>
    [("network", ofIdentity n.network), ("name", ofText? n.name),
      ("network_ip", ofText? n.networkIp),
      ("subnetwork", ofOption ofIdentity n.subnetwork),
      ("access_configurations",
        ofOption (fun cs => .list (cs.map fun c => .resource (.accessConfig c))) n.accessConfigs)]
  | .persistentDisk d => d.fields
  | .createdDisk d => d.fields
  | .scratchDisk d => d.fields
  | .disk d =>
    [("configuration", .resource d.configuration.resource), ("device_name", ofText? d.deviceName),
      ("index", ofOption (fun i => .plain (.int i)) d.index)]
  | .vm x => x.fields

/-- The properties that follow from the fields. -/
def derived : Resource → List (String × Except Error Value)
  | .identity .vm id => [("zone_id", ofIdentity <$> id.zone)]
  | .identity .machineType id => [("zone_id", ofIdentity <$> id.zone)]
  | .metadata m => [("values", .ok (.plain m.valuesJson))]
  | .persistentDisk d => [("is_boot", .ok (.plain (.bool (DiskConfiguration.persistent d).isBoot)))]
  | .createdDisk d => [("is_boot", .ok (.plain (.bool (DiskConfiguration.create d).isBoot)))]
  | .scratchDisk d => [("is_boot", .ok (.plain (.bool (DiskConfiguration.scratch d).isBoot)))]
  | .disk d => [("boot", .ok (.plain (.bool d.isBoot)))]
  | .vm x => [("boot_disk", .ok (ofOption (fun d => .resource (.disk d)) x.bootDisk?))]
  | _ => []

/-- A field of a resource or what follows from its fields. -/
def property (r : Resource) (name : String) : Except Error Value :=
  match r.fields.lookup name, r.derived.lookup name with
  | some v, _ => .ok v
  | none, some v => v
  | none, none => .error .attributeMissing

end Resource

namespace Value

/-- The items of a value that has any; those of a resource are its fields,
each a pair of name and value. -/
def items : Value → Except Error (List Value)
  | .list xs => .ok xs
  | .plain v => v.items.map (·.map .plain)
  | .resource r => .ok (r.fields.map fun (name, v) => .list [text name, v])
  | .other => .error .wrongForm

/-- Whether a value is a disk to start from. A disk knows, attached or not;
a configuration knows only if that is one of its fields. -/
def isBootDisk : Value → Except Error Bool
  | .resource (.disk d) => .ok d.isBoot
  | .resource (.persistentDisk d) => .ok (d.boot.getD false)
  | _ => .error .attributeMissing

end Value
end VmResource
