/-
# Payloads and instances, back and forth

An instance that was read has plain identities and a server id in its
shortest form, whatever links and numbers it was read from. This is what it
takes to be read back: so reading a payload once brings it into a form in
which it stays, and the instances that survive being written are told by
four conditions on what is in them. The one thing that may keep an instance
that was read from being written is an offset that moves its creation out of
the years 1 to 9999.

Key theorems: `Instance.allPlain_of_ofPayload`,
`Instance.ofPayload_of_payload`, `Instance.reads_back_iff`,
`Instance.normal_form_of_ofPayload`.
-/
import VmResource.Instance.Rebind
import VmResource.Proofs.InstancePayload

namespace VmResource
namespace Instance

open Identity (AllPlain)
open Text (IsServerId)

/-- The identities of an instance that was read are plain. -/
theorem allPlain_of_ofPayload {p : Json} {x : Instance} (h : (ofPayload p).outcome = .ok x) :
    AllPlain x.identities := by
  obtain ⟨es, -, hread⟩ := ofPayload_eq_ok_iff.mp h
  obtain ⟨ns, -, hinterfaces⟩ := hread.interfaces
  obtain ⟨ds, -, hdisks⟩ := hread.disks
  rw [allPlain_identities_iff]
  refine ⟨Identity.isPlain_of_read hread.id, Identity.isPlain_of_read hread.machineType, ?_, ?_⟩
  · intro n hn
    obtain ⟨v, -, hv⟩ := exists_mem_of_forall₂ hinterfaces n hn
    exact NetworkInterface.allPlain_of_ofPayload hv
  · intro d hd
    obtain ⟨v, -, hv⟩ := exists_mem_of_forall₂ hdisks d hd
    exact AttachedDisk.allPlain_of_ofPayload hv

/-- The server id of an instance that was read is the shortest text of a
number. -/
theorem isServerId_of_ofPayload {p : Json} {x : Instance} (h : (ofPayload p).outcome = .ok x) :
    ∀ s, x.serverId = some s → IsServerId s := by
  obtain ⟨es, -, hread⟩ := ofPayload_eq_ok_iff.mp h
  intro s hs
  rcases Json.ifSet_eq_ok_iff.mp hread.serverId with ⟨-, hnone⟩ | ⟨-, t, ht, hsome⟩
  · exact absurd (hs.symm.trans hnone) (by simp)
  · obtain rfl := Option.some.inj (hs.symm.trans hsome)
    exact Payload.isServerId_of_serverId ht

/-- An instance of this form reads back from its payload. -/
theorem ofPayload_of_payload {x : Instance} {p : Json} (hplain : AllPlain x.identities)
    (hserver : ∀ s, x.serverId = some s → IsServerId s) (hp : x.payload = .ok p) :
    (ofPayload p).outcome = .ok x := by
  obtain ⟨zone, disks, created, -, hdisks, hcreated, rfl⟩ := payload_eq_ok_iff.mp hp
  rw [ofPayload_eq_ok_iff, Json.record_eq]
  exact ⟨_, rfl, isReadFrom_payloadEntries hplain hserver hdisks hcreated⟩

theorem isNamed_of_allPlain {x : Instance} (h : AllPlain x.identities) : x.id.IsNamed :=
  (allPlain_identities_iff.mp h).1.isNamed

theorem forall_mem_diskSizes_isLong_iff {x : Instance} :
    (∀ n ∈ x.diskSizes, isLong n = false) ↔
      ∀ n ∈ x.diskSizes, (Nat.toDigits 10 n).length ≤ 4300 := by
  refine forall₂_congr fun n _ => ?_
  rw [isLong_eq_false_iff, Int.natAbs_natCast]
  rfl

/-- **What survives being written.** An instance has a payload from which
just this instance is read if and only if its identities are plain, their
projects strings, its server id is the shortest text of a number of at most
4300 digits, it was created in the years 1 to 9999 and its disk sizes have at
most 4300 digits. -/
theorem reads_back_iff (x : Instance) :
    (∃ p, x.payload = .ok p ∧ (ofPayload p).outcome = .ok x) ↔
      (∀ id ∈ x.identities, id.2.IsPlain) ∧ (∀ s, x.serverId = some s → IsServerId s) ∧
      (∀ n, x.created = some n → -62135596800000 ≤ n ∧ n ≤ 253402300799999) ∧
      ∀ n ∈ x.diskSizes, (Nat.toDigits 10 n).length ≤ 4300 := by
  rw [← forall_mem_diskSizes_isLong_iff]
  refine ⟨?_, ?_⟩
  · intro h
    obtain ⟨p, hp, hread⟩ := h
    obtain ⟨-, hlong, hcreated⟩ := exists_payload_eq_ok_iff.mp ⟨p, hp⟩
    exact ⟨allPlain_of_ofPayload hread, isServerId_of_ofPayload hread, hcreated, hlong⟩
  · intro h
    obtain ⟨hplain, hserver, hcreated, hlong⟩ := h
    obtain ⟨p, hp⟩ :=
      exists_payload_eq_ok_iff.mpr ⟨isNamed_of_allPlain hplain, hlong, hcreated⟩
    exact ⟨p, hp, ofPayload_of_payload hplain hserver hp⟩

/-! ### An instance with parts of every kind -/

/-- An instance with an interface and with a disk of each kind, two of them
disks to start from. -/
def furnished : Instance where
  id := ⟨some (.unicode "p"), [⟨"eu-1", by decide⟩, ⟨"store", by decide⟩], rfl⟩
  machineType := ⟨none, [⟨"eu-1", by decide⟩, ⟨"large", by decide⟩], rfl⟩
  interfaces := [{
    network := ⟨none, [⟨"lan", by decide⟩], rfl⟩
    name := some (.unicode "nic0")
    networkIp := none
    subnetwork := some ⟨some (.unicode "q"), [⟨"eu", by decide⟩, ⟨"inner", by decide⟩], rfl⟩
    accessConfigs := some [⟨some (.unicode "outer"), none, some .oneToOneNat⟩,
      ⟨none, some (.unicode ""), none⟩] }]
  disks := [
    ⟨.persistent {
      source := ⟨none, [⟨"eu-1", by decide⟩, ⟨"root", by decide⟩], rfl⟩
      mode := some .readWrite
      boot := some true
      autoDelete := none }, some (.unicode "root"), some 0⟩,
    ⟨.create {
      image := ⟨some (.unicode "public"), [⟨"plain-os", by decide⟩], rfl⟩
      name := none
      type := some ⟨none, [⟨"eu-1", by decide⟩, ⟨"ssd", by decide⟩], rfl⟩
      sizeGb := some ⟨20, by decide⟩
      autoDelete := some false }, none, none⟩,
    ⟨.scratch {
      type := some ⟨some (.unicode "p"), [⟨"eu-1", by decide⟩, ⟨"local", by decide⟩], rfl⟩
      interface := some .nvme }, some (.unicode ""), none⟩]
  description := some (.unicode "")
  tags := some ⟨none, some (.unicode "f")⟩
  canIpForward := some false
  metadata := some ⟨some [("k", none), ("l", some (.unicode ""))], none⟩
  accounts := some [⟨⟨"a@b", by decide⟩, none⟩]
  scheduling := some ⟨some false, none, some true⟩
  serverId := some (.unicode "18446744073709551615")
  created := some 0
  status := some .running
  statusMessage := none
  cpuPlatform := none

/-- A payload of this instance without its number, and with another creation:
the time of the text. -/
def dated (created : String) : Json :=
  .object [("selfLink", .text "projects/p/zones/eu-1/instances/store"),
    ("machineType", .text "zones/eu-1/machineTypes/large"),
    ("creationTimestamp", .text created),
    ("networkInterfaces", .list [.object [("network", .text "global/networks/lan"),
      ("name", .text "nic0"), ("subnetwork", .text "/projects/q/regions/eu/subnetworks/inner"),
      ("accessConfigs", .list [.object [("type", .text "ONE_TO_ONE_NAT"), ("name", .text "outer")],
        .object [("natIP", .text "")]])]]),
    ("disks", .list [
      .object [("source", .text "zones/eu-1/disks/root"), ("mode", .text "READ_WRITE"),
        ("boot", .int 1), ("index", .text "-0"), ("deviceName", .text "root")],
      .object [("initializeParams", .object [("sourceImage",
          .text "projects/public/global/images/plain-os"),
          ("diskType", .text "zones/eu-1/diskTypes/ssd"), ("diskSizeGb", .text "020")]),
        ("autoDelete", .int 0)],
      .object [("type", .text "SCRATCH"), ("interface", .text "NVME"), ("deviceName", .text ""),
        ("initializeParams", .object [("diskType",
          .text "projects/p/zones/eu-1/diskTypes/local")])]]),
    ("description", .text ""), ("tags", .object [("fingerprint", .text "f")]),
    ("canIpForward", .bool false), ("metadata", .object [("items", .list [
      .object [("key", .text "k")], .object [("key", .text "l"), ("value", .text "")]])]),
    ("serviceAccounts", .list [.object [("email", .text "a@b")]]),
    ("scheduling", .object [("automaticRestart", .bool false), ("preemptible", .bool true)]),
    ("status", .text "RUNNING")]

/-- The instance of such a payload. -/
def createdAt (n : Int) : Instance := { furnished with serverId := none, created := some n }

theorem allPlain_furnished : AllPlain furnished.identities := by decide

theorem isServerId_furnished : ∀ s, furnished.serverId = some s → IsServerId s := by
  rintro _ ⟨⟩
  exact ⟨18446744073709551615, isLong_eq_false_iff.mpr (by decide), rfl⟩

/-- It can be written, and so can an instance with the same name, disks and
instant of creation. -/
theorem exists_payload_of_eq_furnished {x : Instance} (hid : x.id = furnished.id)
    (hdisks : x.disks = furnished.disks) (hcreated : x.created = furnished.created) :
    ∃ p, x.payload = .ok p := by
  have hsizes : ∀ n ∈ x.diskSizes, (Nat.toDigits 10 n).length ≤ 4300 := by
    rw [diskSizes, hdisks]
    decide
  refine exists_payload_eq_ok_iff.mpr
    ⟨hid ▸ isNamed_of_allPlain allPlain_furnished, forall_mem_diskSizes_isLong_iff.mpr hsizes, ?_⟩
  rw [hcreated]
  rintro _ ⟨⟩
  decide

/-- Moved to a project that is no string, this instance cannot be written,
although nothing else is wrong with it. -/
theorem half_project_is_not_written : ∃ y,
    (furnished.withProject (some Text.halfPair)).outcome = .ok y ∧
    (∀ id ∈ y.identities, (∀ p ∈ id.2.project, p ≠ "" ∧ Text.IsSegment p) ∧
      ∀ n ∈ id.2.names, Text.IsSegment n.text) ∧
    (∀ s, y.serverId = some s → IsServerId s) ∧
    (∀ n, y.created = some n → -62135596800000 ≤ n ∧ n ≤ 253402300799999) ∧
    (∀ n ∈ y.diskSizes, (Nat.toDigits 10 n).length ≤ 4300) ∧
    y.payload = .error (.invalid "ZoneId" [⟨[.field "project"], .notUnicode⟩]) := by
  refine ⟨furnished.moved Text.halfPair, rfl, by decide, isServerId_furnished, ?_, by decide, rfl⟩
  rintro _ ⟨⟩
  decide

/-- **The normal form.** An instance that was read from a payload, whatever
its links and numbers looked like, is in a form that is kept: unless its
creation lies outside the years 1 to 9999, which is the only way in which it
cannot be written, its payload is read as the same instance with the same
payload. -/
theorem normal_form_of_ofPayload {p : Json} {x : Instance} (h : (ofPayload p).outcome = .ok x) :
    (∀ id ∈ x.identities, id.2.IsPlain) ∧ (∀ s, x.serverId = some s → IsServerId s) ∧
    (∀ n ∈ x.diskSizes, 0 < n) ∧
    (∀ d ∈ x.disks, ∀ i, d.index = some i → (0 : Int) ≤ i) ∧
    (∀ as, x.accounts = some as → ∀ a ∈ as, a.email.text ≠ "") ∧
    ((∀ n ∈ x.diskSizes, (Nat.toDigits 10 n).length ≤ 4300) →
      ((∃ n, x.created = some n ∧ ¬ (-62135596800000 ≤ n ∧ n ≤ 253402300799999)) →
        x.payload = .error .instantOutOfRange) ∧
      ((∀ n, x.created = some n → -62135596800000 ≤ n ∧ n ≤ 253402300799999) →
        ∃ q y, x.payload = .ok q ∧ (ofPayload q).outcome = .ok y ∧ y = x ∧ y.payload = .ok q)) := by
  have hplain := allPlain_of_ofPayload h
  have hserver := isServerId_of_ofPayload h
  have hnamed := isNamed_of_allPlain hplain
  refine ⟨hplain, hserver, ?_, ?_, ?_, ?_⟩
  · rw [forall_mem_diskSizes_iff (P := fun n => 0 < n)]
    intro d _ n _
    exact n.2
  · intro d _ i _
    exact Int.natCast_nonneg i
  · intro as _ a _
    exact a.email.text_ne_empty
  · intro hdigits
    have hlong := forall_mem_diskSizes_isLong_iff.mpr hdigits
    constructor
    · intro hout
      obtain ⟨n, hn, hrange⟩ := hout
      exact payload_eq_error hnamed hlong hn hrange
    · intro hcreated
      obtain ⟨q, hq⟩ := exists_payload_eq_ok_iff.mpr ⟨hnamed, hlong, hcreated⟩
      exact ⟨q, x, hq, ofPayload_of_payload hplain hserver hq, rfl, hq⟩

/-- Half an hour into year 1, by a clock one hour ahead, an instance can be
read, but cannot be written. -/
theorem payload_beforeYearOne : ∃ x, (ofPayload (dated "0001-01-01T00:30:00+01:00")).outcome =
    .ok x ∧ x.payload = .error .instantOutOfRange := by
  have hread : (ofPayload (dated "0001-01-01T00:30:00+01:00")).outcome =
      .ok (createdAt (-62135598600000)) := rfl
  obtain ⟨-, -, -, -, -, hform⟩ := normal_form_of_ofPayload hread
  refine ⟨_, hread, (hform (by decide)).1 ?_⟩
  exact ⟨-62135598600000, rfl, by decide⟩

end Instance
end VmResource
