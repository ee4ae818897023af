/-
# Taking optional keys out of a payload

Every optional field of an instance has a key of its own in the payload, and
no other field is written or read with it. So any of these keys may be taken
out of the payload of an instance that reads back: what is read then has the
fields of these keys unset and all others as they were, and its payload is
what was left.

Key definitions: `Json.without`, `Instance.Field.key`, `Instance.unset`.
Key theorems: `Instance.payloadEntries_unset`, `Instance.payload_unset`,
`Instance.reduced_payload_reads`.
-/
import VmResource.Proofs.Keys
import VmResource.Proofs.RoundTrip
import VmResource.Resource.Fields

namespace VmResource

open Json (record record_eq entriesSet)

/-! ### Values without some keys -/

namespace Json

/-- An object without the entries of some keys. -/
def without (keys : List String) : Json → Json
  | .object es => .object (es.filter fun e => e.1 ∉ keys.map Text.unicode)
  | v => v

/-- What is left of the value of a key when some keys are taken out. -/
def remaining {α : Type} (keys : List String) (key : String) (o : Option α) : Option α :=
  if key ∈ keys then none else o

theorem remaining_of_mem {α : Type} {keys : List String} {key : String} (h : key ∈ keys)
    (o : Option α) : remaining keys key o = none := if_pos h

theorem remaining_of_not_mem {α : Type} {keys : List String} {key : String} (h : key ∉ keys)
    (o : Option α) : remaining keys key o = o := if_neg h

theorem map_remaining {α β : Type} (f : α → β) (keys : List String) (key : String) (o : Option α) :
    (remaining keys key o).map f = remaining keys key (o.map f) := by
  unfold remaining
  split <;> rfl

/-- To take keys out of a record is to leave their values unset. -/
theorem without_record (keys : List String) : ∀ entries : List (String × Option Json),
    (record entries).without keys = record (entries.map fun e => (e.1, remaining keys e.1 e.2))
  | [] => rfl
  | (key, value) :: entries => by
    have ih := without_record keys entries
    simp only [record_eq, without, object.injEq] at ih ⊢
    cases value with
    | none =>
      have hnone : remaining keys key (none : Option Json) = none := by simp [remaining]
      rw [List.map_cons, hnone]
      exact ih
    | some v =>
      by_cases hkey : key ∈ keys
      · rw [List.map_cons, remaining_of_mem hkey]
        simpa [entriesSet, hkey] using ih
      · have hother : ∀ other ∈ keys, ¬ other = key := fun _ hother he => hkey (he ▸ hother)
        rw [List.map_cons, remaining_of_not_mem hkey]
        simpa [entriesSet, List.filter_cons, eq_true hother] using ih

end Json

open Json (remaining)

namespace Instance

/-! ### Instances without some fields -/

/-- The key under which payloads have a field. -/
def Field.key : Field → String
  | .id => "selfLink"
  | .machineType => "machineType"
  | .interfaces => "networkInterfaces"
  | .disks => "disks"
  | .description => "description"
  | .tags => "tags"
  | .canIpForward => "canIpForward"
  | .metadata => "metadata"
  | .accounts => "serviceAccounts"
  | .scheduling => "scheduling"
  | .serverId => "id"
  | .created => "creationTimestamp"
  | .status => "status"
  | .statusMessage => "statusMessage"
  | .cpuPlatform => "cpuPlatform"

/-- The instance with the optional fields of some keys unset. -/
def unset (keys : List String) (x : Instance) : Instance :=
  { x with
    description := remaining keys "description" x.description
    tags := remaining keys "tags" x.tags
    canIpForward := remaining keys "canIpForward" x.canIpForward
    metadata := remaining keys "metadata" x.metadata
    accounts := remaining keys "serviceAccounts" x.accounts
    scheduling := remaining keys "scheduling" x.scheduling
    serverId := remaining keys "id" x.serverId
    created := remaining keys "creationTimestamp" x.created
    status := remaining keys "status" x.status
    statusMessage := remaining keys "statusMessage" x.statusMessage
    cpuPlatform := remaining keys "cpuPlatform" x.cpuPlatform }

variable {x : Instance} {S : List String}

theorem ofOption_remaining {α : Type} (f : α → Value) (keys : List String) (key : String)
    (o : Option α) :
    Value.ofOption f (remaining keys key o) = if key ∈ keys then .null else Value.ofOption f o := by
  unfold remaining
  split <;> rfl

/-- Keys that are not optional are not among those that are taken out. -/
theorem not_mem_of_subset_optional (hS : S ⊆ keys.optional) :
    ∀ key ∈ "name" :: "zone" :: keys.required, key ∉ S := by
  intro key hkey hmem
  have hrequired : ∀ key ∈ "name" :: "zone" :: keys.required, key ∉ keys.optional := by decide
  exact hrequired key hkey (hS hmem)

/-- Only the fields of these keys are unset. -/
theorem get_unset (hS : S ⊆ keys.optional) (f : Field) :
    (x.unset S).get f = if f.key ∈ S then .null else x.get f := by
  have hkept := not_mem_of_subset_optional hS
  cases f with
  | id => exact (if_neg (hkept "selfLink" (by decide))).symm
  | machineType => exact (if_neg (hkept "machineType" (by decide))).symm
  | interfaces => exact (if_neg (hkept "networkInterfaces" (by decide))).symm
  | disks => exact (if_neg (hkept "disks" (by decide))).symm
  | _ => exact ofOption_remaining _ S _ _

/-- The entries of what is left are those of the instance, with the values of
these keys unset. -/
theorem payloadEntries_unset (hS : S ⊆ keys.optional) (zone : Identity .zone) (disks : List Json)
    (created : Option Json) :
    (x.unset S).payloadEntries zone disks (remaining S "creationTimestamp" created) =
      (x.payloadEntries zone disks created).map fun e => (e.1, remaining S e.1 e.2) := by
  have hkept := not_mem_of_subset_optional hS
  simp only [payloadEntries, unset, List.map_cons, List.map_nil, Json.map_remaining,
    Json.remaining_of_not_mem (hkept "name" (by decide)),
    Json.remaining_of_not_mem (hkept "selfLink" (by decide)),
    Json.remaining_of_not_mem (hkept "zone" (by decide)),
    Json.remaining_of_not_mem (hkept "machineType" (by decide)),
    Json.remaining_of_not_mem (hkept "networkInterfaces" (by decide)),
    Json.remaining_of_not_mem (hkept "disks" (by decide))]

theorem createdText_unset {created : Option Json} (h : x.createdText = .ok created) :
    (x.unset S).createdText = .ok (remaining S "creationTimestamp" created) := by
  by_cases hmem : "creationTimestamp" ∈ S
  · simp only [createdText, unset, Json.remaining_of_mem hmem]
  · simpa only [createdText, unset, Json.remaining_of_not_mem hmem] using h

/-- The payload of what is left of an instance is what is left of its
payload. -/
theorem payload_unset (hS : S ⊆ keys.optional) {p : Json} (h : x.payload = .ok p) :
    (x.unset S).payload = .ok (p.without S) := by
  obtain ⟨zone, disks, created, hzone, hdisks, hcreated, rfl⟩ := payload_eq_ok_iff.mp h
  rw [Json.without_record, ← payloadEntries_unset hS]
  exact payload_eq_ok_iff.mpr ⟨zone, disks, _, hzone, hdisks, createdText_unset hcreated, rfl⟩

/-- **Optional fields travel independently.** From the payload of an instance
that reads back, any of the optional keys may be taken out. What is left is
read as an instance that has these fields unset and every other field as it
was, and that is written as just what is left. -/
theorem reduced_payload_reads {p : Json} (hp : x.payload = .ok p)
    (hread : (ofPayload p).outcome = .ok x) (hS : S ⊆ keys.optional) :
    ∃ y, (ofPayload (p.without S)).outcome = .ok y ∧
      (∀ f : Field, y.get f = if f.key ∈ S then .null else x.get f) ∧
      y.payload = .ok (p.without S) := by
  have hpayload := payload_unset hS hp
  have hserver : ∀ s, (x.unset S).serverId = some s → Text.IsServerId s := by
    intro s hs
    by_cases hmem : "id" ∈ S
    · simp [unset, Json.remaining_of_mem hmem] at hs
    · simp only [unset, Json.remaining_of_not_mem hmem] at hs
      exact isServerId_of_ofPayload hread s hs
  -- the links are those of the instance itself
  have hlinks : (x.unset S).identities = x.identities := rfl
  have hplain : Identity.AllPlain (x.unset S).identities := by
    rw [hlinks]
    exact allPlain_of_ofPayload hread
  exact ⟨x.unset S, ofPayload_of_payload hplain hserver hpayload, get_unset hS, hpayload⟩

/-- The number and the status of an instance are taken out, and all that it
has beside them stays. -/
theorem reduced_furnished : ∃ p y, furnished.payload = .ok p ∧
    (ofPayload p).outcome = .ok furnished ∧ ["id", "status"] ⊆ keys.optional ∧
      (ofPayload (p.without ["id", "status"])).outcome = .ok y ∧ y.get .serverId = .null ∧
      y.get .status = .null ∧ y.get .tags = furnished.get .tags ∧
      y.get .disks = furnished.get .disks ∧ y.payload = .ok (p.without ["id", "status"]) := by
  obtain ⟨p, hp⟩ := exists_payload_of_eq_furnished rfl rfl rfl
  have hread := ofPayload_of_payload allPlain_furnished isServerId_furnished hp
  have hS : ["id", "status"] ⊆ keys.optional := by decide
  obtain ⟨y, hy, hfields, hpayload⟩ := reduced_payload_reads hp hread hS
  exact ⟨p, y, hp, hread, hS, hy, hfields .serverId, hfields .status, hfields .tags,
    hfields .disks, hpayload⟩

end Instance
end VmResource
