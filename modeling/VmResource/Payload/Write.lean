/-
# Writing payloads

The payload of a resource has an entry for each field that is set and none
for a field that is not, so an update of a part leaves the rest alone.
Identities are written as their links, members by name, disk sizes as
decimal text. A size with too many digits cannot be written.

Key definitions: `Tags.payload`, `Metadata.payload`,
`ServiceAccount.payload`, `Scheduling.payload`, `NetworkInterface.payload`,
`AttachedDisk.payload`, `Instance.payload`.
-/
import VmResource.Instance.Basic
import VmResource.Payload.Scalar

namespace VmResource

open Json (record texts)

/-- The name of a member as a value. -/
def Choice.json {α : Type} [Choice α] (a : α) : Json := .text (Choice.name a)

/-- The link of an identity as a value. -/
def Identity.json {k : Identity.Kind} (id : Identity k) : Json := .text id.selfLink

namespace Tags

/-- The values are written as `items`. -/
def payload (t : Tags) : Json :=
  record [("items", t.values.map texts), ("fingerprint", t.fingerprint.map .text)]

end Tags

namespace Metadata

/-- An entry with its key, and with its value if that is set. -/
def itemPayload (item : Text × Option Text) : Json :=
  record [("key", some (.text item.1)), ("value", item.2.map .text)]

/-- The entries are written in their order. -/
def payload (m : Metadata) : Json :=
  record [("items", m.items.map fun items => .list (items.map itemPayload)),
    ("fingerprint", m.fingerprint.map .text)]

end Metadata

namespace ServiceAccount

/-- The address is always written. -/
def payload (a : ServiceAccount) : Json :=
  record [("email", some (.text a.email.text)), ("scopes", a.scopes.map texts)]

end ServiceAccount

namespace Scheduling

/-- Only what is set is written. -/
def payload (s : Scheduling) : Json :=
  record [("automaticRestart", s.automaticRestart.map .bool),
    ("onHostMaintenance", s.maintenance.map Choice.json), ("preemptible", s.preemptible.map .bool)]

end Scheduling

namespace AccessConfig

/-- The type is written only if it is set. -/
def payload (a : AccessConfig) : Json :=
  record [("name", a.name.map .text), ("natIP", a.natIp.map .text),
    ("type", a.type.map Choice.json)]

end AccessConfig

namespace NetworkInterface

/-- The network is always written. -/
def payload (n : NetworkInterface) : Json :=
  record [("network", some n.network.json), ("name", n.name.map .text),
    ("networkIP", n.networkIp.map .text), ("subnetwork", n.subnetwork.map Identity.json),
    ("accessConfigs", n.accessConfigs.map fun cs => .list (cs.map AccessConfig.payload))]

end NetworkInterface

/-! ### Disks -/

namespace PersistentDisk

/-- A persistent disk has the type of its sort and no parameters. -/
def entries (d : PersistentDisk) : List (String × Option Json) :=
  [("type", some (Choice.json DiskSort.persistent)), ("source", some d.source.json),
    ("mode", d.mode.map Choice.json), ("boot", d.boot.map .bool),
    ("autoDelete", d.autoDelete.map .bool)]

end PersistentDisk

namespace CreatedDisk

/-- The text of the size, if there is a size. -/
def sizeText (d : CreatedDisk) : Except Error (Option Json) :=
  match d.sizeGb with
  | none => .ok none
  | some n => (some ∘ Json.text ∘ Text.unicode) <$> Payload.integerText n.1

/-- What the disk is created with, given the text of its size. -/
def parameters (d : CreatedDisk) (size : Option Json) : Json :=
  record [("sourceImage", some d.image.json), ("diskName", d.name.map .text),
    ("diskType", d.type.map Identity.json), ("diskSizeGb", size)]

/-- A created disk is told from other persistent ones by its parameters. -/
def entries (d : CreatedDisk) : Except Error (List (String × Option Json)) :=
  d.sizeText.map fun size =>
    [("type", some (Choice.json DiskSort.persistent)), ("boot", some (.bool true)),
      ("initializeParams", some (d.parameters size)), ("autoDelete", d.autoDelete.map .bool)]

end CreatedDisk

namespace ScratchDisk

/-- Scratch space is never started from and goes with the instance. -/
def entries (d : ScratchDisk) : List (String × Option Json) :=
  [("type", some (Choice.json DiskSort.scratch)), ("boot", some (.bool false)),
    ("autoDelete", some (.bool true)), ("interface", d.interface.map Choice.json),
    ("initializeParams", d.type.map fun t => record [("diskType", some t.json)])]

end ScratchDisk

namespace DiskConfiguration

/-- The entries of a configuration, whatever its kind. -/
def entries : DiskConfiguration → Except Error (List (String × Option Json))
  | .persistent d => .ok d.entries
  | .create d => d.entries
  | .scratch d => .ok d.entries

end DiskConfiguration

namespace AttachedDisk

/-- The entries of the configuration, then the name and the index. -/
def payload (d : AttachedDisk) : Except Error Json :=
  d.configuration.entries.map fun es =>
    record (es ++ [("deviceName", d.deviceName.map .text),
      ("index", d.index.map fun i => .int i)])

end AttachedDisk

/-! ### Instances -/

namespace Instance

/-- The date-time of the creation, if it is known. -/
def createdText (x : Instance) : Except Error (Option Json) :=
  match x.created with
  | none => .ok none
  | some n => (some ∘ Json.text ∘ Text.unicode) <$> Payload.timestampText n

/-- The payload of an instance. Its zone is written besides its link, so
the project must be one that a zone can have. -/
def payload (x : Instance) : Except Error Json := do
  let zone ← x.id.zone
  let disks ← x.disks.mapM AttachedDisk.payload
  let created ← x.createdText
  return record [("name", some (.text x.id.name)), ("selfLink", some x.id.json),
    ("zone", some zone.json), ("machineType", some x.machineType.json),
    ("networkInterfaces", some (.list (x.interfaces.map NetworkInterface.payload))),
    ("disks", some (.list disks)), ("id", x.serverId.map .text), ("creationTimestamp", created),
    ("description", x.description.map .text), ("status", x.status.map Choice.json),
    ("statusMessage", x.statusMessage.map .text), ("tags", x.tags.map Tags.payload),
    ("canIpForward", x.canIpForward.map .bool), ("metadata", x.metadata.map Metadata.payload),
    ("serviceAccounts", x.accounts.map fun as => .list (as.map ServiceAccount.payload)),
    ("scheduling", x.scheduling.map Scheduling.payload), ("cpuPlatform", x.cpuPlatform.map .text)]

/-- Instances count as equal when their payloads are; one that cannot be
written cannot be compared. -/
def samePayload (x y : Instance) : Except Error Bool := do
  let p ← x.payload
  let q ← y.payload
  return p = q

end Instance
end VmResource
