/-
# Payloads of instances, field by field

The reader of a payload first looks for the two links, reads every part into
a draft and builds the instance from it. Taken together, an instance is read
from an object exactly if each of its fields is read from the value of its
own key. The payload of an instance has the same keys, so what is written
reads back.

Key definitions: `Instance.Draft.read`, `Instance.IsReadFrom`.
Key theorems: `Instance.ofPayload_outcome`, `Instance.ofPayload_eq_ok_iff`,
`Instance.payload_eq_ok_iff`, `Instance.isReadFrom_payloadEntries`.
-/
import VmResource.Payload.Instance
import VmResource.Proofs.DiskPayload
import VmResource.Proofs.InstantText
import VmResource.Proofs.Staged

namespace VmResource

open Check
open Json (ifSet valueOf entriesSet valueOf_entriesSet record_eq record)

/-! ### Parts -/

namespace Payload

variable {α : Type} {field : String} {read : Json → Except Error α}

theorem part_eq_ok_iff {v : Json} {a : α} : part field read v = .ok a ↔ read v = .ok a :=
  Except.mapError_eq_ok_iff

theorem ifSet_part_eq_ok_iff {v : Json} {o : Option α} :
    ifSet (part field read) v = .ok o ↔ ifSet read v = .ok o := by
  simp only [Json.ifSet_eq_ok_iff, part_eq_ok_iff]

/-- Parts are read one by one, and only from a list. -/
theorem parts_eq_ok_iff {v : Json} {as : List α} :
    parts field read v = .ok as ↔
      ∃ xs, v = .list xs ∧ List.Forall₂ (fun x a => read x = .ok a) xs as := by
  cases v with
  | list xs =>
    simp only [parts, Except.mapM_eq_ok_iff, part_eq_ok_iff, Json.list.injEq, exists_eq_left']
  | _ => simp [parts, Error.about]

/-- Parts that were written one by one are read back. -/
theorem parts_map {write : α → Json} {as : List α} (h : ∀ a ∈ as, read (write a) = .ok a) :
    parts field read (.list (as.map write)) = .ok as := by
  refine parts_eq_ok_iff.mpr ⟨_, rfl, ?_⟩
  rw [List.forall₂_map_left_iff]
  exact List.forall₂_same.mpr h

/-- Parts that are there are those of a list. -/
theorem ifSet_parts_eq_some_iff {v : Json} {as : List α} :
    ifSet (parts field read) v = .ok (some as) ↔
      ∃ xs, v = .list xs ∧ List.Forall₂ (fun x a => read x = .ok a) xs as := by
  simp only [Json.ifSet_eq_ok_iff, parts_eq_ok_iff]
  refine ⟨?_, ?_⟩
  · intro h
    rcases h with ⟨-, hnone⟩ | ⟨-, bs, hbs, hsome⟩
    · cases hnone
    · rw [Option.some.inj hsome]
      exact hbs
  · intro h
    obtain ⟨xs, rfl, has⟩ := h
    exact Or.inr ⟨by simp, as, ⟨xs, rfl, has⟩, rfl⟩

/-- Each part was read by itself. -/
theorem exists_read_of_parts {v : Json} {as : List α}
    (h : ifSet (parts field read) v = .ok (some as)) : ∀ a ∈ as, ∃ x, read x = .ok a := by
  intro a ha
  obtain ⟨xs, -, has⟩ := ifSet_parts_eq_some_iff.mp h
  obtain ⟨x, -, hx⟩ := exists_mem_of_forall₂ has a ha
  exact ⟨x, hx⟩

/-- Parts are the items of a list. -/
theorem givesItems_of_parts {v : Json} {o : Option (List α)}
    (h : ifSet (parts field read) v = .ok o) : v.GivesItems (fun x a => read x = .ok a) o := by
  rcases Json.ifSet_eq_ok_iff.mp h with hnone | ⟨-, as, has, rfl⟩
  · exact Or.inl hnone
  · obtain ⟨xs, rfl, hread⟩ := parts_eq_ok_iff.mp has
    exact Or.inr ⟨xs, as, rfl, hread, rfl⟩

end Payload

/-! ### Reading a draft -/

namespace Instance
namespace Draft

/-- Reads the draft of an instance from the entries of its payload. -/
def read (es : List (Text × Json)) : Except Error Draft := do
  let id ← Identity.read .vm (valueOf es "selfLink")
  let machineType ← Identity.read .machineType (valueOf es "machineType")
  let serverId ← ifSet Payload.serverId (valueOf es "id")
  let created ← ifSet Payload.timestamp (valueOf es "creationTimestamp")
  let status ← ifSet (Choice.read Status "status") (valueOf es "status")
  let tags ← ifSet (Payload.part "tags" Tags.ofPayload) (valueOf es "tags")
  let interfaces ← ifSet (Payload.parts "networkInterfaces" NetworkInterface.ofPayload)
    (valueOf es "networkInterfaces")
  let disks ← ifSet (Payload.parts "disks" AttachedDisk.ofPayload) (valueOf es "disks")
  let metadata ← ifSet (Payload.part "metadata" Metadata.ofPayload) (valueOf es "metadata")
  let accounts ← ifSet (Payload.parts "serviceAccounts" ServiceAccount.ofPayload)
    (valueOf es "serviceAccounts")
  let scheduling ← ifSet (Payload.part "scheduling" Scheduling.ofPayload) (valueOf es "scheduling")
  return { id, machineType, interfaces, disks, description := valueOf es "description", tags,
           canIpForward := valueOf es "canIpForward", metadata, accounts, scheduling, serverId,
           created, status, statusMessage := valueOf es "statusMessage",
           cpuPlatform := valueOf es "cpuPlatform" }

end Draft
end Instance

/-- The two links are looked for before anything is read. -/
theorem Builder.ofPayload_object (es : List (Text × Json)) : Builder.ofPayload (.object es) =
    if valueOf es "selfLink" = .null then .error (.malformed .noSelfLink none)
    else if valueOf es "machineType" = .null then .error (.malformed .noMachineType none)
    else Instance.Draft.builder <$> Instance.Draft.read es := by
  by_cases hlink : valueOf es "selfLink" = .null
  · simp only [Builder.ofPayload]
    rw [if_pos hlink]
    exact if_pos hlink
  · by_cases htype : valueOf es "machineType" = .null
    · simp only [Builder.ofPayload]
      rw [if_neg hlink, if_pos htype]
      apply (if_neg hlink).trans
      exact if_pos htype
    · rw [if_neg hlink, if_neg htype]
      simp only [Instance.Draft.read, map_bind]
      simp only [Builder.ofPayload]
      apply (if_neg hlink).trans
      apply (if_neg htype).trans
      rfl

theorem Builder.ofPayload_eq_ok_iff {es : List (Text × Json)} {b : Builder} :
    Builder.ofPayload (.object es) = .ok b ↔
      ∃ d, Instance.Draft.read es = .ok d ∧ d.builder = b := by
  rw [Builder.ofPayload_object, ← Except.map_eq_ok_iff]
  have hlinks : ∀ d, Instance.Draft.read es = .ok d →
      valueOf es "selfLink" ≠ .null ∧ valueOf es "machineType" ≠ .null := by
    intro d hd
    obtain ⟨id, hid, h⟩ := Except.bind_eq_ok_iff.mp hd
    obtain ⟨machineType, htype, -⟩ := Except.bind_eq_ok_iff.mp h
    exact ⟨Identity.ne_null_of_read hid, Identity.ne_null_of_read htype⟩
  split
  · next hnull =>
    refine ⟨fun h => (by cases h), fun h => ?_⟩
    obtain ⟨d, hd, -⟩ := Except.map_eq_ok_iff.mp h
    exact absurd hnull (hlinks d hd).1
  · split
    · next hnull =>
      refine ⟨fun h => (by cases h), fun h => ?_⟩
      obtain ⟨d, hd, -⟩ := Except.map_eq_ok_iff.mp h
      exact absurd hnull (hlinks d hd).2
    · rfl

namespace Instance

/-- What building makes of the staged parts, its errors told as those of a
payload. -/
theorem ofPayload_outcome (p : Json) : (ofPayload p).outcome =
    Builder.ofPayload p >>= fun b => b.build.outcome.mapError buildError := by
  unfold ofPayload
  cases Builder.ofPayload p with
  | error e => rfl
  | ok b =>
    rw [Except.ok_bind]
    simp only
    rcases b.build with ⟨_ | _, records⟩ <;> rfl

/-- Each field of the instance is read from the value of its own key. -/
structure IsReadFrom (x : Instance) (es : List (Text × Json)) : Prop where
  id : Identity.read .vm (valueOf es "selfLink") = .ok x.id
  machineType : Identity.read .machineType (valueOf es "machineType") = .ok x.machineType
  interfaces : ∃ xs, valueOf es "networkInterfaces" = .list xs ∧
    List.Forall₂ (fun v n => NetworkInterface.ofPayload v = .ok n) xs x.interfaces
  disks : ∃ xs, valueOf es "disks" = .list xs ∧
    List.Forall₂ (fun v d => AttachedDisk.ofPayload v = .ok d) xs x.disks
  description : nullable text (valueOf es "description") = .ok x.description
  tags : ifSet Tags.ofPayload (valueOf es "tags") = .ok x.tags
  canIpForward : nullable flag (valueOf es "canIpForward") = .ok x.canIpForward
  metadata : ifSet Metadata.ofPayload (valueOf es "metadata") = .ok x.metadata
  accounts : ifSet (Payload.parts "serviceAccounts" ServiceAccount.ofPayload)
    (valueOf es "serviceAccounts") = .ok x.accounts
  scheduling : ifSet Scheduling.ofPayload (valueOf es "scheduling") = .ok x.scheduling
  serverId : ifSet Payload.serverId (valueOf es "id") = .ok x.serverId
  created : ifSet Payload.timestamp (valueOf es "creationTimestamp") = .ok x.created
  status : ifSet (Choice.read Status "status") (valueOf es "status") = .ok x.status
  statusMessage : nullable text (valueOf es "statusMessage") = .ok x.statusMessage
  cpuPlatform : nullable text (valueOf es "cpuPlatform") = .ok x.cpuPlatform

theorem exists_draft_iff {es : List (Text × Json)} {x : Instance} :
    (∃ d, Draft.read es = .ok d ∧ d.Makes x) ↔ x.IsReadFrom es := by
  simp only [Draft.read, Except.bind_eq_ok_iff, Except.pure_eq, Except.ok.injEq,
    Payload.ifSet_part_eq_ok_iff]
  refine ⟨?_, ?_⟩
  · intro h
    obtain ⟨_, ⟨id, hid, machineType, htype, serverId, hserver, created, hcreated, status, hstatus,
      tags, htags, interfaces, hinterfaces, disks, hdisks, metadata, hmetadata, accounts, haccounts,
      scheduling, hscheduling, rfl⟩, hmakes⟩ := h
    obtain ⟨rfl, rfl, rfl, rfl, hdescription, rfl, hflag, rfl, rfl, rfl, rfl, rfl, rfl, hmessage,
      hplatform⟩ := hmakes
    exact ⟨hid, htype, Payload.ifSet_parts_eq_some_iff.mp hinterfaces,
      Payload.ifSet_parts_eq_some_iff.mp hdisks, hdescription, htags, hflag, hmetadata, haccounts,
      hscheduling, hserver, hcreated, hstatus, hmessage, hplatform⟩
  · intro h
    refine ⟨_, ⟨_, h.id, _, h.machineType, _, h.serverId, _, h.created, _, h.status, _, h.tags, _,
      Payload.ifSet_parts_eq_some_iff.mpr h.interfaces, _,
      Payload.ifSet_parts_eq_some_iff.mpr h.disks, _, h.metadata, _, h.accounts, _, h.scheduling,
      rfl⟩, ?_⟩
    exact ⟨rfl, rfl, rfl, rfl, h.description, rfl, h.canIpForward, rfl, rfl, rfl, rfl, rfl, rfl,
      h.statusMessage, h.cpuPlatform⟩

/-- **What is read.** An instance is read from an object whose entries give
its fields, and from nothing else. -/
theorem ofPayload_eq_ok_iff {p : Json} {x : Instance} :
    (ofPayload p).outcome = .ok x ↔ ∃ es, p = .object es ∧ x.IsReadFrom es := by
  rw [ofPayload_outcome, Except.bind_eq_ok_iff]
  simp only [Except.mapError_eq_ok_iff]
  cases p with
  | object es =>
    simp only [Builder.ofPayload_eq_ok_iff, Json.object.injEq, exists_eq_left']
    rw [← exists_draft_iff]
    refine ⟨?_, ?_⟩
    · intro h
      obtain ⟨_, ⟨d, hd, rfl⟩, hbuild⟩ := h
      exact ⟨d, hd, Draft.build_outcome_eq_ok_iff.mp hbuild⟩
    · intro h
      obtain ⟨d, hd, hmakes⟩ := h
      exact ⟨_, ⟨d, hd, rfl⟩, Draft.build_outcome_eq_ok_iff.mpr hmakes⟩
  | _ => simp [Builder.ofPayload, Error.about]

/-! ### Writing -/

/-- The entries of a payload, with the values that may not be there to be
written: the zone, the disks and the instant of creation. -/
def payloadEntries (x : Instance) (zone : Identity .zone) (disks : List Json)
    (created : Option Json) : List (String × Option Json) :=
  [("name", some (.text x.id.name)), ("selfLink", some x.id.json), ("zone", some zone.json),
    ("machineType", some x.machineType.json),
    ("networkInterfaces", some (.list (x.interfaces.map NetworkInterface.payload))),
    ("disks", some (.list disks)), ("id", x.serverId.map .text), ("creationTimestamp", created),
    ("description", x.description.map .text), ("status", x.status.map Choice.json),
    ("statusMessage", x.statusMessage.map .text), ("tags", x.tags.map Tags.payload),
    ("canIpForward", x.canIpForward.map .bool), ("metadata", x.metadata.map Metadata.payload),
    ("serviceAccounts", x.accounts.map fun as => .list (as.map ServiceAccount.payload)),
    ("scheduling", x.scheduling.map Scheduling.payload), ("cpuPlatform", x.cpuPlatform.map .text)]

/-- A payload is written from its entries once the zone, the disks and the
instant of creation are. -/
theorem payload_eq_ok_iff {x : Instance} {p : Json} :
    x.payload = .ok p ↔ ∃ zone disks created, x.id.zone = .ok zone ∧
      List.Forall₂ (fun d q => AttachedDisk.payload d = .ok q) x.disks disks ∧
      x.createdText = .ok created ∧ p = record (x.payloadEntries zone disks created) := by
  simp only [payload, Except.bind_eq_ok_iff, Except.pure_eq, Except.ok.injEq,
    ← Except.mapM_eq_ok_iff, payloadEntries]
  refine ⟨?_, ?_⟩
  · intro h
    obtain ⟨zone, hzone, disks, hdisks, created, hcreated, rfl⟩ := h
    exact ⟨zone, disks, created, hzone, hdisks, hcreated, rfl⟩
  · intro h
    obtain ⟨zone, disks, created, hzone, hdisks, hcreated, rfl⟩ := h
    exact ⟨zone, hzone, disks, hdisks, created, hcreated, rfl⟩

theorem valueOf_payloadEntries (x : Instance) (zone : Identity .zone) (disks : List Json)
    (created : Option Json) (key : String) :
    valueOf (entriesSet (x.payloadEntries zone disks created)) key =
      ((x.payloadEntries zone disks created).lookup key).join.getD .null := by
  apply valueOf_entriesSet key
  simp [payloadEntries]

end Instance

namespace Identity

/-- A resource is in a zone if its project is one that a zone can have. -/
theorem exists_zone_eq_ok_iff {k : Kind} {id : Identity k} :
    (∃ z, id.zone = .ok z) ↔ id.IsNamed := by
  simp only [zone, Check.orInvalid_eq_ok_iff, Address.check_eq_ok_iff]
  constructor
  · rintro ⟨z, hz, hnamed⟩
    have hproject : z.project = id.project := congrArg Address.project hz
    exact fun p hp => hnamed p (hproject.trans hp)
  · intro h
    exact ⟨⟨id.project, [id.place], rfl⟩, rfl, h⟩

end Identity

namespace Instance

theorem exists_createdText_eq_ok_iff {x : Instance} :
    (∃ created, x.createdText = .ok created) ↔
      ∀ n, x.created = some n → Instant.first ≤ n ∧ n ≤ Instant.last := by
  unfold createdText
  cases x.created with
  | none => simp
  | some n =>
    simp only [Except.map_eq_ok_iff, Option.some.injEq, forall_eq']
    rw [← Payload.exists_timestampText_eq_ok_iff]
    refine ⟨?_, ?_⟩
    · intro h
      obtain ⟨_, s, hs, -⟩ := h
      exact ⟨s, hs⟩
    · intro h
      obtain ⟨s, hs⟩ := h
      exact ⟨_, s, hs, rfl⟩

/-- The instant of creation reads back. -/
theorem ifSet_timestamp_createdText {x : Instance} {created : Option Json}
    (h : x.createdText = .ok created) :
    ifSet Payload.timestamp (created.getD .null) = .ok x.created := by
  unfold createdText at h
  cases hn : x.created with
  | none =>
    rw [hn] at h
    obtain rfl := Except.ok.inj h
    rfl
  | some n =>
    rw [hn] at h
    obtain ⟨s, hs, rfl⟩ := Except.map_eq_ok_iff.mp h
    have hread := Payload.timestamp_text? (Payload.timestampText_eq_ok_iff.mp hs)
    simp only [Function.comp_apply, Option.getD_some]
    rw [Json.ifSet_of_ne_null _ (by simp), hread]
    rfl

/-- An instance has a payload if its project is one that a zone can have, its
sizes are not too long and its creation is within the years that can be
written. -/
theorem exists_payload_eq_ok_iff {x : Instance} :
    (∃ p, x.payload = .ok p) ↔ x.id.IsNamed ∧ (∀ n ∈ x.diskSizes, isLong n = false) ∧
      ∀ n, x.created = some n → Instant.first ≤ n ∧ n ≤ Instant.last := by
  rw [← Identity.exists_zone_eq_ok_iff, ← exists_createdText_eq_ok_iff,
    forall_mem_diskSizes_iff (P := fun n => isLong n = false)]
  simp only [← AttachedDisk.exists_payload_eq_ok_iff]
  rw [← exists_forall₂_iff]
  refine ⟨?_, ?_⟩
  · intro h
    obtain ⟨p, hp⟩ := h
    obtain ⟨zone, disks, created, hzone, hdisks, hcreated, -⟩ := payload_eq_ok_iff.mp hp
    exact ⟨⟨zone, hzone⟩, ⟨disks, hdisks⟩, created, hcreated⟩
  · intro h
    obtain ⟨⟨zone, hzone⟩, ⟨disks, hdisks⟩, created, hcreated⟩ := h
    exact ⟨_, payload_eq_ok_iff.mpr ⟨zone, disks, created, hzone, hdisks, hcreated, rfl⟩⟩

/-- What an instance that may be written otherwise fails on is its creation. -/
theorem payload_eq_error {x : Instance} (hproject : x.id.IsNamed)
    (hsizes : ∀ n ∈ x.diskSizes, isLong n = false) {n : Int} (hn : x.created = some n)
    (hrange : ¬ (Instant.first ≤ n ∧ n ≤ Instant.last)) :
    x.payload = .error .instantOutOfRange := by
  rw [forall_mem_diskSizes_iff (P := fun n => isLong n = false)] at hsizes
  simp only [← AttachedDisk.exists_payload_eq_ok_iff] at hsizes
  obtain ⟨disks, hdisks⟩ := exists_forall₂_iff.mpr hsizes
  obtain ⟨zone, hzone⟩ := Identity.exists_zone_eq_ok_iff.mpr hproject
  have hcreated : x.createdText = .error .instantOutOfRange := by
    unfold createdText
    rw [hn]
    simp only [Payload.timestampText_eq_error hrange]
    rfl
  rw [payload, hzone, Except.ok_bind, Except.mapM_eq_ok_iff.mpr hdisks, Except.ok_bind, hcreated,
    Except.error_bind]

theorem forall₂_ofPayload_of_payload {ds : List AttachedDisk} {qs : List Json}
    (hplain : ∀ d ∈ ds, Identity.AllPlain d.configuration.identities)
    (h : List.Forall₂ (fun d q => AttachedDisk.payload d = .ok q) ds qs) :
    List.Forall₂ (fun q d => AttachedDisk.ofPayload q = .ok d) qs ds := by
  induction h with
  | nil => exact .nil
  | @cons d q ds qs hq _ ih =>
    have hread := AttachedDisk.ofPayload_of_payload (hplain d List.mem_cons_self) hq
    exact .cons hread (ih fun e he => hplain e (List.mem_cons_of_mem _ he))

/-- The entries of the payload of an instance give its fields. -/
theorem isReadFrom_payloadEntries {x : Instance} (hplain : Identity.AllPlain x.identities)
    (hserver : ∀ s, x.serverId = some s → Text.IsServerId s) {zone : Identity .zone}
    {disks : List Json} {created : Option Json}
    (hdisks : List.Forall₂ (fun d q => AttachedDisk.payload d = .ok q) x.disks disks)
    (hcreated : x.createdText = .ok created) :
    x.IsReadFrom (entriesSet (x.payloadEntries zone disks created)) := by
  obtain ⟨hid, htype, hinterfaces, hconfigs⟩ := allPlain_identities_iff.mp hplain
  have hvalue := x.valueOf_payloadEntries zone disks created
  generalize entriesSet (x.payloadEntries zone disks created) = es at hvalue ⊢
  constructor
  case id => simpa [hvalue, payloadEntries, List.lookup_cons] using Identity.read_json hid
  case machineType =>
    simpa [hvalue, payloadEntries, List.lookup_cons] using Identity.read_json htype
  case interfaces =>
    have hparts : Payload.parts "networkInterfaces" NetworkInterface.ofPayload _ =
        .ok x.interfaces :=
      Payload.parts_map fun n hn => NetworkInterface.ofPayload_payload (hinterfaces n hn)
    simpa [hvalue, payloadEntries, List.lookup_cons] using Payload.parts_eq_ok_iff.mp hparts
  case disks =>
    refine ⟨disks, by simp [hvalue, payloadEntries, List.lookup_cons], ?_⟩
    exact forall₂_ofPayload_of_payload hconfigs hdisks
  case description => simp [hvalue, payloadEntries, List.lookup_cons]
  case tags =>
    have htags : ifSet Tags.ofPayload ((x.tags.map Tags.payload).getD .null) = .ok x.tags :=
      Json.ifSet_map_getD fun t _ => ⟨Json.record_ne_null _, Tags.ofPayload_payload t⟩
    simpa [hvalue, payloadEntries, List.lookup_cons] using htags
  case canIpForward => simp [hvalue, payloadEntries, List.lookup_cons]
  case metadata =>
    have hmetadata : ifSet Metadata.ofPayload ((x.metadata.map Metadata.payload).getD .null) =
        .ok x.metadata :=
      Json.ifSet_map_getD fun m _ => ⟨Json.record_ne_null _, Metadata.ofPayload_payload m⟩
    simpa [hvalue, payloadEntries, List.lookup_cons] using hmetadata
  case accounts =>
    have haccounts : ifSet (Payload.parts "serviceAccounts" ServiceAccount.ofPayload)
        ((x.accounts.map fun as => .list (as.map ServiceAccount.payload)).getD .null) =
          .ok x.accounts :=
      Json.ifSet_map_getD fun as _ =>
        ⟨by simp, Payload.parts_map fun a _ => ServiceAccount.ofPayload_payload a⟩
    simpa [hvalue, payloadEntries, List.lookup_cons] using haccounts
  case scheduling =>
    have hscheduling : ifSet Scheduling.ofPayload
        ((x.scheduling.map Scheduling.payload).getD .null) = .ok x.scheduling :=
      Json.ifSet_map_getD fun s _ => ⟨Json.record_ne_null _, Scheduling.ofPayload_payload s⟩
    simpa [hvalue, payloadEntries, List.lookup_cons] using hscheduling
  case serverId =>
    have hid : ifSet Payload.serverId ((x.serverId.map .text).getD .null) = .ok x.serverId :=
      Json.ifSet_map_getD fun s hs => ⟨by simp, Payload.serverId_of_isServerId (hserver s hs)⟩
    simpa [hvalue, payloadEntries, List.lookup_cons] using hid
  case created =>
    simpa [hvalue, payloadEntries, List.lookup_cons] using ifSet_timestamp_createdText hcreated
  case status =>
    simpa [hvalue, payloadEntries, List.lookup_cons] using Choice.read_map_getD "status" x.status
  case statusMessage => simp [hvalue, payloadEntries, List.lookup_cons]
  case cpuPlatform => simp [hvalue, payloadEntries, List.lookup_cons]

end Instance
end VmResource
