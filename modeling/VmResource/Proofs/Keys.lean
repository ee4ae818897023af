/-
# The keys that are known

The reader of a resource looks at the values of some keys of an object and
at nothing else there. Some of these it requires; the others may be absent.
What it knows about a disk depends on the kind of disk that the entries
describe, which the type and the presence of parameters tell.

Key definitions: `Json.within`, `Keys`, `DiskKind`,
`DiskConfiguration.kindIn`, `DiskConfiguration.readAs`.
Key theorems: `ScratchDisk.ofPayload_object_eq_ok_iff`,
`DiskConfiguration.kindIn_of_ofPayload`,
`DiskConfiguration.ofPayload_of_kindIn`.
-/
import VmResource.Proofs.DiskPayload

namespace VmResource

open Json (ifSet valueOf)

namespace Json

/-- The value of a key of an object, null if there is none. -/
def within (v : Json) (key : Text) : Json :=
  match v with
  | .object es => valueOf es key
  | _ => .null

@[simp] theorem within_object (es : List (Text × Json)) (key : Text) :
    (Json.object es).within key = valueOf es key := rfl

/-- There is nothing in a blank value. -/
theorem within_of_isBlank {v : Json} {key : Text} (h : v.isBlank = true) :
    v.within key = .null := by
  cases v with
  | object es =>
    obtain rfl := List.isEmpty_iff.mp h
    rfl
  | _ => rfl

end Json

/-- The keys that a reader knows: those that it requires, and those that may
be unset. -/
structure Keys where
  required : List String
  optional : List String
deriving DecidableEq, Repr

/-- Required or not. -/
def Keys.all (keys : Keys) : List String := keys.required ++ keys.optional

/-! ### Resources of one kind -/

/-- The keys of tags. -/
def Tags.keys : Keys where
  required := []
  optional := ["items", "fingerprint"]

/-- The keys of metadata. -/
def Metadata.keys : Keys where
  required := []
  optional := ["items", "fingerprint"]

/-- The keys of an entry of metadata. -/
def Metadata.itemKeys : Keys where
  required := ["key"]
  optional := ["value"]

/-- The keys of a service account. -/
def ServiceAccount.keys : Keys where
  required := ["email"]
  optional := ["scopes"]

/-- The keys of scheduling. -/
def Scheduling.keys : Keys where
  required := []
  optional := ["automaticRestart", "onHostMaintenance", "preemptible"]

/-- The keys of an access configuration. -/
def AccessConfig.keys : Keys where
  required := []
  optional := ["name", "natIP", "type"]

/-- The keys of an interface. -/
def NetworkInterface.keys : Keys where
  required := ["network"]
  optional := ["name", "networkIP", "subnetwork", "accessConfigs"]

/-- The keys of an instance; its name and its zone are told by the link. -/
def Instance.keys : Keys where
  required := ["selfLink", "machineType", "networkInterfaces", "disks"]
  optional := ["id", "creationTimestamp", "description", "status", "statusMessage", "tags",
    "canIpForward", "metadata", "serviceAccounts", "scheduling", "cpuPlatform"]

/-! ### Disks -/

/-- What a disk may be. -/
inductive DiskKind where
  | persistent
  | create
  | scratch
deriving DecidableEq, Repr

namespace DiskKind

/-- The keys of a disk besides the two that tell its kind. -/
def keys : DiskKind → Keys
  | .persistent => ⟨["source"], ["mode", "boot", "autoDelete", "deviceName", "index"]⟩
  | .create => ⟨[], ["autoDelete", "deviceName", "index"]⟩
  | .scratch => ⟨[], ["interface", "deviceName", "index"]⟩

/-- These are not the two that tell the kind. -/
theorem ne_of_mem_keys {kind : DiskKind} :
    ∀ key ∈ kind.keys.all, key ≠ "type" ∧ key ≠ "initializeParams" := by
  cases kind <;> decide

/-- The keys of the parameters of a disk. -/
def parameters : DiskKind → Keys
  | .persistent => ⟨[], []⟩
  | .create => ⟨["sourceImage"], ["diskName", "diskType", "diskSizeGb"]⟩
  | .scratch => ⟨[], ["diskType"]⟩

/-- The keys of a disk that are those of disks of other kinds. -/
def foreign : DiskKind → List String
  | .persistent => ["interface"]
  | .create => ["source", "mode", "interface", "boot"]
  | .scratch => ["source", "mode", "boot", "autoDelete"]

end DiskKind

/-- Scratch space may have parameters of any kind that is blank, which are as
good as parameters without keys. -/
theorem ScratchDisk.ofPayload_object_eq_ok_iff {es : List (Text × Json)} {d : ScratchDisk} :
    ofPayload (.object es) = .ok d ↔
      ifSet (Choice.read DiskInterface "interface") (valueOf es "interface") = .ok d.interface ∧
      ((valueOf es "initializeParams").isBlank = true ∨
        ∃ ps, valueOf es "initializeParams" = .object ps) ∧
      ifSet (Identity.read .diskType) ((valueOf es "initializeParams").within "diskType") =
        .ok d.type := by
  rw [ofPayload_eq_ok_iff]
  simp only [Json.object.injEq, exists_eq_left']
  refine and_congr_right fun _ => ?_
  generalize valueOf es "initializeParams" = params
  constructor
  · intro h
    rcases h with ⟨hblank, hnone⟩ | ⟨ps, rfl, htype⟩
    · rw [Json.within_of_isBlank hblank, hnone]
      exact ⟨Or.inl hblank, rfl⟩
    · exact ⟨Or.inr ⟨ps, rfl⟩, htype⟩
  · intro h
    obtain ⟨hblank | ⟨ps, rfl⟩, htype⟩ := h
    · rw [Json.within_of_isBlank hblank] at htype
      exact Or.inl ⟨hblank, (Except.ok.inj htype).symm⟩
    · exact Or.inr ⟨ps, rfl, htype⟩

namespace DiskConfiguration

/-- The kind of a disk. -/
def kind : DiskConfiguration → DiskKind
  | .persistent _ => .persistent
  | .create _ => .create
  | .scratch _ => .scratch

/-- The kind of disk that entries describe, if they give a known type. -/
def kindIn (es : List (Text × Json)) : Option DiskKind :=
  if sortIn es = Choice.json DiskSort.scratch then some .scratch
  else if sortIn es = Choice.json DiskSort.persistent then
    if valueOf es "initializeParams" = .null then some .persistent else some .create
  else none

/-- Reads a disk of a kind. -/
def readAs (kind : DiskKind) (p : Json) : Except Error DiskConfiguration :=
  match kind with
  | .persistent => .persistent <$> PersistentDisk.ofPayload p
  | .create => .create <$> CreatedDisk.ofPayload p
  | .scratch => .scratch <$> ScratchDisk.ofPayload p

section Kinds

variable {es : List (Text × Json)}

theorem kindIn_eq_scratch_iff :
    kindIn es = some .scratch ↔ sortIn es = Choice.json DiskSort.scratch := by
  unfold kindIn
  split_ifs with hscratch
  all_goals simp [hscratch]

theorem kindIn_eq_persistent_iff : kindIn es = some .persistent ↔
    sortIn es = Choice.json DiskSort.persistent ∧ valueOf es "initializeParams" = .null := by
  unfold kindIn
  by_cases hscratch : sortIn es = Choice.json DiskSort.scratch
  · rw [if_pos hscratch, hscratch]
    exact iff_of_false (by decide) fun h => absurd h.1 (by decide)
  · rw [if_neg hscratch]
    split_ifs with hsort hnull
    · simp [hsort, hnull]
    · simp [hnull]
    · simp [hsort]

theorem kindIn_eq_create_iff : kindIn es = some .create ↔
    sortIn es = Choice.json DiskSort.persistent ∧ valueOf es "initializeParams" ≠ .null := by
  unfold kindIn
  by_cases hscratch : sortIn es = Choice.json DiskSort.scratch
  · rw [if_pos hscratch, hscratch]
    exact iff_of_false (by decide) fun h => absurd h.1 (by decide)
  · rw [if_neg hscratch]
    split_ifs with hsort hnull
    · simp [hnull]
    · simp [hsort, hnull]
    · simp [hsort]

theorem kindIn_eq_none_iff : kindIn es = none ↔
    sortIn es ≠ Choice.json DiskSort.scratch ∧ sortIn es ≠ Choice.json DiskSort.persistent := by
  unfold kindIn
  split_ifs with hscratch hsort hnull
  all_goals simp_all

/-- The kind of a disk depends on its type and on whether there are
parameters. -/
theorem kindIn_congr {fs : List (Text × Json)} (hsort : sortIn fs = sortIn es)
    (hparams : valueOf fs "initializeParams" = .null ↔ valueOf es "initializeParams" = .null) :
    kindIn fs = kindIn es := by
  simp only [kindIn, hsort, hparams]

/-- A disk that was read is of the kind that its entries describe. -/
theorem kindIn_of_ofPayload {c : DiskConfiguration} (h : ofPayload (.object es) = .ok c) :
    kindIn es = some c.kind := by
  rcases ofPayload_eq_ok_iff.mp h with ⟨hsort, hnull, d, -, rfl⟩ | ⟨hsort, hnull, d, -, rfl⟩ |
    ⟨hsort, d, -, rfl⟩
  · exact kindIn_eq_persistent_iff.mpr ⟨hsort, hnull⟩
  · exact kindIn_eq_create_iff.mpr ⟨hsort, hnull⟩
  · exact kindIn_eq_scratch_iff.mpr hsort

/-- A disk is read as one of the kind that its entries describe. -/
theorem ofPayload_of_kindIn {kind : DiskKind} (h : kindIn es = some kind) :
    ofPayload (.object es) = readAs kind (.object es) := by
  cases kind with
  | persistent =>
    obtain ⟨hsort, hnull⟩ := kindIn_eq_persistent_iff.mp h
    rw [ofPayload_of_persistent hsort, if_pos hnull]
    rfl
  | create =>
    obtain ⟨hsort, hnull⟩ := kindIn_eq_create_iff.mp h
    rw [ofPayload_of_persistent hsort, if_neg hnull]
    rfl
  | scratch =>
    rw [ofPayload_of_scratch (kindIn_eq_scratch_iff.mp h)]
    rfl

end Kinds

end DiskConfiguration
end VmResource
