/-
# Reading payloads of instances

The payload of an instance is read into a builder, from which the instance
is then built. Its identity is the one of its link; what the payload tells
as its name and zone is not looked at. Whatever goes wrong with a part is an
error about the payload: an error about the form of the part itself is
passed on, any other becomes the cause of one.

Key definitions: `Payload.part`, `Payload.parts`, `Builder.ofPayload`,
`Instance.ofPayload`.
-/
import VmResource.Builder
import VmResource.Payload.Read

namespace VmResource

namespace Payload

/-- The error of a part, as one of the field that holds it. -/
def partError (field : String) : Error → Error
  | .keyMissing key => .malformed (.part field) (some (.keyMissing key))
  | .noSuchMember name => .malformed (.part field) (some (.noSuchMember name))
  | .wrongForm => .malformed (.part field) (some .wrongForm)
  | .attributeMissing => .malformed (.part field) (some .attributeMissing)
  | .invalid subject vs => .malformed (.part field) (some (.invalid subject vs))
  | e => e

/-- Reads a part of an instance. -/
def part {α : Type} (field : String) (read : Json → Except Error α) (v : Json) : Except Error α :=
  (read v).mapError (partError field)

/-- Reads a list of parts. -/
def parts {α : Type} (field : String) (read : Json → Except Error α) : Json → Except Error (List α)
  | .list xs => xs.mapM (part field read)
  | v => .error (.about v (.partsNotList field v) none)

/-- A server id is kept as the shortest text of its number. -/
def serverId (v : Json) : Except Error Text := do
  return .unicode (← integerText (← integer "id" v))

end Payload

open Json (ifSet)
open Value (ofIdentity ofOption ofText? ofMember?)

namespace Builder

/-- Reads the parts of a payload. The two links come first; a field that is
absent or null stays unset, and plain fields are checked only at the end. -/
def ofPayload (p : Json) : Except Error Builder :=
  match p with
  | .object es => do
    let selfLink := (es.lookup (.unicode "selfLink")).getD .null
    let machineType := (es.lookup (.unicode "machineType")).getD .null
    if selfLink = .null then throw (.malformed .noSelfLink none)
    if machineType = .null then throw (.malformed .noMachineType none)
    let id ← Identity.read .vm selfLink
    let machineType ← Identity.read .machineType machineType
    let serverId ← ifSet Payload.serverId (← p.get "id")
    let created ← ifSet Payload.timestamp (← p.get "creationTimestamp")
    let status ← ifSet (Choice.read Status "status") (← p.get "status")
    let statusMessage ← p.get "statusMessage"
    let cpuPlatform ← p.get "cpuPlatform"
    let description ← p.get "description"
    let canIpForward ← p.get "canIpForward"
    let tags ← ifSet (Payload.part "tags" Tags.ofPayload) (← p.get "tags")
    let interfaces ← ifSet (Payload.parts "networkInterfaces" NetworkInterface.ofPayload)
      (← p.get "networkInterfaces")
    let disks ← ifSet (Payload.parts "disks" AttachedDisk.ofPayload) (← p.get "disks")
    let metadata ← ifSet (Payload.part "metadata" Metadata.ofPayload) (← p.get "metadata")
    let accounts ← ifSet (Payload.parts "serviceAccounts" ServiceAccount.ofPayload)
      (← p.get "serviceAccounts")
    let scheduling ← ifSet (Payload.part "scheduling" Scheduling.ofPayload) (← p.get "scheduling")
    return ⟨fun
      | .id => ofIdentity id
      | .machineType => ofIdentity machineType
      | .interfaces =>
        ofOption (fun ns => .list (ns.map fun n => .resource (.interface n))) interfaces
      | .disks => ofOption (fun ds => .list (ds.map fun d => .resource (.disk d))) disks
      | .description => .plain description
      | .tags => ofOption (fun t => .resource (.tags t)) tags
      | .canIpForward => .plain canIpForward
      | .metadata => ofOption (fun m => .resource (.metadata m)) metadata
      | .accounts => ofOption (fun as => .list (as.map fun a => .resource (.account a))) accounts
      | .scheduling => ofOption (fun s => .resource (.scheduling s)) scheduling
      | .serverId => ofText? serverId
      | .created => ofOption (fun n => .plain (.int n)) created
      | .status => ofMember? status
      | .statusMessage => .plain statusMessage
      | .cpuPlatform => .plain cpuPlatform⟩
  | _ => .error (.about p (.instanceNotObject p) none)

end Builder

namespace Instance

/-- The error of building, as one of the payload. -/
def buildError : Error → Error
  | .argumentMissing name =>
    .malformed (.incomplete (Error.argumentMissing name).message) (some (.argumentMissing name))
  | .notStaged name =>
    .malformed (.incomplete (Error.notStaged name).message) (some (.notStaged name))
  | .projectMissing => .malformed (.incomplete Error.projectMissing.message) (some .projectMissing)
  | .invalid subject vs => .malformed .invalidInstance (some (.invalid subject vs))
  | e => e

/-- Reads an instance and leaves a record of its link. -/
def ofPayload (p : Json) : Traced Instance :=
  match Builder.ofPayload p with
  | .error e => .failed e
  | .ok b =>
    match b.build with
    | ⟨.ok x, records⟩ =>
      ⟨.ok x, records ++ [⟨.debug, .unicode "Mapped instance payload " ++ x.selfLink⟩]⟩
    | ⟨.error e, records⟩ => ⟨.error (buildError e), records⟩

end Instance
end VmResource
