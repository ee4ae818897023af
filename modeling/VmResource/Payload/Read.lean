/-
# Reading payloads of parts

The parts of an instance are read from the entries of their payloads. Keys
that a part does not know are passed over. Links, members and integers are
read first, in the order of the keys, and the first of them that cannot be
read is the error; the rest is checked at the end, all at once.

Key definitions: `Tags.ofPayload`, `Metadata.ofPayload`,
`ServiceAccount.ofPayload`, `Scheduling.ofPayload`,
`NetworkInterface.ofPayload`, `AttachedDisk.ofPayload`.
-/
import VmResource.Identity.Link
import VmResource.Instance.Basic
import VmResource.Payload.Scalar

namespace VmResource

open Check
open Json (ifSet)

/-- The items of a value, each to be a text. -/
def textItems (items : Option (List Json)) : Check (Option (List Text)) :=
  match items with
  | none => .ok none
  | some xs => some <$> each text xs

namespace Tags

/-- A payload without `items` gives tags whose values are unset. -/
def ofPayload (p : Json) : Except Error Tags := do
  let values ← ifSet Json.items (← p.get "items")
  let fingerprint ← p.get "fingerprint"
  Check.orInvalid "Tags"
    (Tags.mk <$> field "values" (textItems values) <*>
      field "fingerprint" (nullable text fingerprint))

end Tags

namespace Metadata

/-- The key and the value of an entry; the value may be unset. -/
def readItem (item : Json) : Except Error (Json × Json) := do
  let key ← item.require "key"
  let value ← item.get "value"
  return (key, value)

/-- The entries of a value. -/
def readItems (v : Json) : Except Error (List (Json × Json)) := do
  (← v.items).mapM readItem

/-- The key of an entry is a text, and so is its value if it is set. -/
def checkItem (item : Json × Json) : Check (Text × Option Text) :=
  Prod.mk <$> (text item.1).under (.item 0) <*> (nullable text item.2).under (.item 1)

/-- Every entry, at its position. -/
def checkItems (items : Option (List (Json × Json))) :
    Check (Option (List (Text × Option Text))) :=
  match items with
  | none => .ok none
  | some xs => some <$> each checkItem xs

/-- Every entry must have a key; unset entries are not the same as none. -/
def ofPayload (p : Json) : Except Error Metadata := do
  let items ← ifSet readItems (← p.get "items")
  let fingerprint ← p.get "fingerprint"
  Check.orInvalid "Metadata"
    (Metadata.mk <$> field "items" (checkItems items) <*>
      field "fingerprint" (nullable text fingerprint))

end Metadata

namespace ServiceAccount

/-- The scopes are read before the address is looked for. -/
def ofPayload (p : Json) : Except Error ServiceAccount := do
  let scopes ← ifSet Json.items (← p.get "scopes")
  let email ← p.require "email"
  Check.orInvalid "ServiceAccount"
    (ServiceAccount.mk <$> field "email" (nonempty email) <*> field "scopes" (textItems scopes))

end ServiceAccount

namespace Scheduling

/-- The policy for maintenance is a member; the rest is checked. -/
def ofPayload (p : Json) : Except Error Scheduling := do
  let maintenance ← ifSet (Choice.read Maintenance "onHostMaintenance")
    (← p.get "onHostMaintenance")
  let automaticRestart ← p.get "automaticRestart"
  let preemptible ← p.get "preemptible"
  Check.orInvalid "SchedulingOptions"
    ((Scheduling.mk · maintenance ·) <$>
      field "automatic_restart" (nullable flag automaticRestart) <*>
      field "preemptible" (nullable flag preemptible))

end Scheduling

namespace AccessConfig

/-- An absent type stays unset. -/
def ofPayload (p : Json) : Except Error AccessConfig := do
  let type ← ifSet (Choice.read AccessType "access config type") (← p.get "type")
  let name ← p.get "name"
  let natIp ← p.get "natIP"
  Check.orInvalid "AccessConfig"
    ((AccessConfig.mk · · type) <$> field "name" (nullable text name) <*>
      field "nat_ip" (nullable text natIp))

end AccessConfig

namespace NetworkInterface

/-- The access configurations of a value. -/
def readAccessConfigs (v : Json) : Except Error (List AccessConfig) := do
  (← v.items).mapM AccessConfig.ofPayload

/-- The links are read first, the one of the network last of these. -/
def ofPayload (p : Json) : Except Error NetworkInterface := do
  let subnetwork ← ifSet (Identity.read .subnetwork) (← p.get "subnetwork")
  let accessConfigs ← ifSet readAccessConfigs (← p.get "accessConfigs")
  let network ← Identity.read .network (← p.require "network")
  let name ← p.get "name"
  let networkIp ← p.get "networkIP"
  Check.orInvalid "NetworkInterface"
    ((NetworkInterface.mk network · · subnetwork accessConfigs) <$>
      field "name" (nullable text name) <*> field "network_ip" (nullable text networkIp))

end NetworkInterface

/-! ### Disks -/

namespace PersistentDisk

/-- A persistent disk is known by the link to its source. -/
def ofPayload (p : Json) : Except Error PersistentDisk := do
  let mode ← ifSet (Choice.read DiskMode "disk mode") (← p.get "mode")
  let source ← Identity.read .disk (← p.require "source")
  let boot ← p.get "boot"
  let autoDelete ← p.get "autoDelete"
  Check.orInvalid "PersistentDiskConfiguration"
    (PersistentDisk.mk source mode <$> field "boot" (nullable flag boot) <*>
      field "auto_delete" (nullable flag autoDelete))

end PersistentDisk

namespace CreatedDisk

/-- The size must be above zero. -/
def checkSize : Option Int → Check (Option { n : Nat // 0 < n })
  | none => .ok none
  | some n => some <$> positiveOf n

/-- All of a created disk but `autoDelete` stands in its parameters. -/
def ofPayload (p : Json) : Except Error CreatedDisk := do
  let params ← p.require "initializeParams"
  let type ← ifSet (Identity.read .diskType) (← params.get "diskType")
  let size ← ifSet (Payload.integer "diskSizeGb") (← params.get "diskSizeGb")
  let image ← Identity.read .image (← params.require "sourceImage")
  let name ← params.get "diskName"
  let autoDelete ← p.get "autoDelete"
  Check.orInvalid "CreateDiskConfiguration"
    ((CreatedDisk.mk image · type · ·) <$> field "disk_name" (nullable text name) <*>
      field "disk_size_gb" (checkSize size) <*> field "auto_delete" (nullable flag autoDelete))

end CreatedDisk

namespace ScratchDisk

/-- Blank parameters are as good as none. -/
def ofPayload (p : Json) : Except Error ScratchDisk := do
  let interface ← ifSet (Choice.read DiskInterface "interface") (← p.get "interface")
  let params ← p.get "initializeParams"
  let type ← ifSet (Identity.read .diskType)
    (← (if params.isBlank then Json.object [] else params).get "diskType")
  return ⟨type, interface⟩

end ScratchDisk

namespace DiskConfiguration

/-- The type tells scratch space from other disks; of these, the ones with
parameters are created. -/
def ofPayload (p : Json) : Except Error DiskConfiguration := do
  let sort ← Choice.read DiskSort "disk type"
    ((← p.entry? "type").getD (Choice.name DiskSort.persistent |> Json.text))
  match sort with
  | .scratch => DiskConfiguration.scratch <$> ScratchDisk.ofPayload p
  | .persistent =>
    if (← p.get "initializeParams") = .null then
      DiskConfiguration.persistent <$> PersistentDisk.ofPayload p
    else DiskConfiguration.create <$> CreatedDisk.ofPayload p

end DiskConfiguration

namespace AttachedDisk

/-- The index must not be below zero. -/
def checkIndex : Option Int → Check (Option Nat)
  | none => .ok none
  | some n => some <$> naturalOf n

/-- The configuration is read before the index. -/
def ofPayload (p : Json) : Except Error AttachedDisk := do
  let configuration ← DiskConfiguration.ofPayload p
  let index ← ifSet (Payload.integer "disk index") (← p.get "index")
  let deviceName ← p.get "deviceName"
  Check.orInvalid "AttachedDisk"
    (AttachedDisk.mk configuration <$> field "device_name" (nullable text deviceName) <*>
      field "index" (checkIndex index))

end AttachedDisk
end VmResource
