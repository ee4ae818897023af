/-
# Checks of resources

A resource is made from an object of its fields. Fields are checked in the
order of their declaration, unknown ones are passed over, and a resource
inside another is checked in its place.

Key definitions: `Tags.check`, `Metadata.check`, `ServiceAccount.check`,
`Scheduling.check`, `AccessConfig.check`, `NetworkInterface.check`,
`PersistentDisk.check`, `CreatedDisk.check`, `ScratchDisk.check`,
`DiskConfiguration.check`, `AttachedDisk.check`.
-/
import VmResource.Identity.Link
import VmResource.Instance.Basic

namespace VmResource

open Check

namespace Tags

/-- Both fields may be left out. -/
def check : Json → Check Tags :=
  object fun es =>
    Tags.mk <$> optional es "values" (list text) <*> optional es "fingerprint" text

/-- Tags of these values. -/
def of (values : List Json) : Check Tags := check (.object [("values", .list values)])

end Tags

namespace Metadata

/-- A pair of key and value; a pair too short lacks one of them. -/
def checkPair : Json → Check (Text × Option Text)
  | .list [] =>
    Prod.mk <$> (refuse .missing).under (.item 0) <*> (refuse .missing).under (.item 1)
  | .list [key] => Prod.mk <$> (text key).under (.item 0) <*> (refuse .missing).under (.item 1)
  | .list [key, value] =>
    Prod.mk <$> (text key).under (.item 0) <*> (nullable text value).under (.item 1)
  | .list _ => refuse .tooManyItems
  | _ => refuse .notList

/-- The entries are a list of pairs. -/
def check : Json → Check Metadata :=
  object fun es =>
    Metadata.mk <$> optional es "items" (list checkPair) <*> optional es "fingerprint" text

/-- A pair is any value of two items; the first of them must be able to be a
key, as lists and objects are not. -/
def pair (v : Json) : Except Error (Json × Json) := do
  match ← v.items with
  | [.list _, _] | [.object _, _] => .error .wrongForm
  | [key, value] => .ok (key, value)
  | _ => .error .notPair

/-- Metadata of these pairs, the last one of each key. Keys are told apart by
what they are worth, and only then checked. -/
def of (pairs : List Json) : Except Error Metadata := do
  let entries := lastOfEach Json.alike (← pairs.mapM pair)
  (check (.object [("items", .list (entries.map fun (k, v) => .list [k, v]))])).orInvalid "Metadata"

end Metadata

namespace ServiceAccount

/-- An account has an address; what it may do can be left open. -/
def check : Json → Check ServiceAccount :=
  object fun es =>
    ServiceAccount.mk <$> required es "email" nonempty <*> optional es "scopes" (list text)

end ServiceAccount

namespace Scheduling

/-- Each field may be left out. -/
def check : Json → Check Scheduling :=
  object fun es =>
    Scheduling.mk <$> optional es "automatic_restart" flag <*>
      optional es "maintenance" (member Maintenance) <*> optional es "preemptible" flag

/-- An instance that is not preemptible. Unless told otherwise, it restarts and
moves to another host. -/
def standard (automaticRestart maintenance : Option Json) : Check Scheduling :=
  check (.object [("automatic_restart", automaticRestart.getD (.bool true)),
    ("maintenance", maintenance.getD (.text (Choice.name Maintenance.migrate))),
    ("preemptible", .bool false)])

end Scheduling

namespace AccessConfig

/-- The type is the only one there is unless it is given. -/
def check : Json → Check AccessConfig :=
  object fun es =>
    AccessConfig.mk <$> optional es "name" text <*> optional es "nat_ip" text <*>
      field "type" (nullable (member AccessType)
        ((es.lookup (.unicode "type")).getD (.text (Choice.name AccessType.oneToOneNat))))

end AccessConfig

namespace NetworkInterface

/-- An interface has a network, and nothing else it must have. -/
def check : Json → Check NetworkInterface :=
  object fun es =>
    NetworkInterface.mk <$> required es "network" (Identity.check .network) <*>
      optional es "name" text <*> optional es "network_ip" text <*>
      optional es "subnetwork" (Identity.check .subnetwork) <*>
      optional es "access_configurations" (list AccessConfig.check)

end NetworkInterface

/-- The kind of a class, and no other. -/
def isKind (kind : String) : Json → Check Unit
  | .text t => (unicode t).andThen fun s => if s = kind then .ok () else refuse .wrongKind
  | _ => refuse .wrongKind

/-- The field `kind` of a disk configuration, which may be left out. -/
def checkKind (es : List (Text × Json)) (kind : String) : Check Unit :=
  field "kind" (match es.lookup (.unicode "kind") with
    | none => .ok ()
    | some v => isKind kind v)

namespace PersistentDisk

/-- A disk that exists already has an identity of its own. -/
def check : Json → Check PersistentDisk :=
  object fun es =>
    (fun _ => PersistentDisk.mk) <$> checkKind es "persistent" <*>
      required es "source_disk" (Identity.check .disk) <*> optional es "mode" (member DiskMode) <*>
      optional es "boot" flag <*> optional es "auto_delete" flag

end PersistentDisk

namespace CreatedDisk

/-- A created disk has an image, and a size above zero if it has one. -/
def check : Json → Check CreatedDisk :=
  object fun es =>
    (fun _ => CreatedDisk.mk) <$> checkKind es "create" <*>
      required es "source_image" (Identity.check .image) <*> optional es "disk_name" text <*>
      optional es "disk_type" (Identity.check .diskType) <*>
      optional es "disk_size_gb" positive <*> optional es "auto_delete" flag

end CreatedDisk

namespace ScratchDisk

/-- Scratch space has nothing that it must have. -/
def check : Json → Check ScratchDisk :=
  object fun es =>
    (fun _ => ScratchDisk.mk) <$> checkKind es "scratch" <*>
      optional es "disk_type" (Identity.check .diskType) <*>
      optional es "interface_type" (member DiskInterface)

end ScratchDisk

namespace DiskConfiguration

/-- The kind of a configuration tells how its other fields are read; it
stands in the path to them. -/
def check : Json → Check DiskConfiguration
  | .object es =>
    match es.lookup (.unicode "kind") with
    | none => refuse .kindMissing
    | some kind =>
      if kind = .text "persistent" then
        field "persistent" (DiskConfiguration.persistent <$> PersistentDisk.check (.object es))
      else if kind = .text "create" then
        field "create" (DiskConfiguration.create <$> CreatedDisk.check (.object es))
      else if kind = .text "scratch" then
        field "scratch" (DiskConfiguration.scratch <$> ScratchDisk.check (.object es))
      else refuse .kindUnknown
  | _ => refuse .noKinds

end DiskConfiguration

namespace AttachedDisk

/-- A disk has a configuration, and an index from zero on if it has one. -/
def check : Json → Check AttachedDisk :=
  object fun es =>
    AttachedDisk.mk <$> required es "configuration" DiskConfiguration.check <*>
      optional es "device_name" text <*> optional es "index" natural

/-- A disk of this configuration, at no particular index. -/
def of (configuration : Check DiskConfiguration) (deviceName : Json) : Check AttachedDisk :=
  (AttachedDisk.mk · · none) <$> field "configuration" configuration <*>
    field "device_name" (nullable text deviceName)

end AttachedDisk
end VmResource
