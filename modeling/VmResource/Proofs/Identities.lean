/-
# What is nested in an instance

The identities and the disk sizes of an instance, wherever in it they stand.
These are what decides whether an instance has a payload that leads back to
it.

Key definitions: `Instance.identities`, `Instance.diskSizes`.
Key theorems: `Identity.allPlain_listed`, `Instance.allPlain_identities_iff`.
-/
import VmResource.Instance.Basic
import VmResource.Proofs.IdentityLink

namespace VmResource

namespace Identity

/-- Every identity of a list is plain. -/
def AllPlain (ids : List (Sigma Identity)) : Prop := ∀ id ∈ ids, id.2.IsPlain

instance (ids : List (Sigma Identity)) : Decidable (AllPlain ids) :=
  List.decidableBAll (fun id : Sigma Identity => id.2.IsPlain) ids

@[simp] theorem allPlain_nil : AllPlain [] := by simp [AllPlain]

@[simp] theorem allPlain_cons {k : Kind} {id : Identity k} {ids : List (Sigma Identity)} :
    AllPlain (⟨k, id⟩ :: ids) ↔ id.IsPlain ∧ AllPlain ids := by simp [AllPlain]

@[simp] theorem allPlain_append {ids jds : List (Sigma Identity)} :
    AllPlain (ids ++ jds) ↔ AllPlain ids ∧ AllPlain jds :=
  List.forall_mem_append

theorem allPlain_flatMap {α : Type} {f : α → List (Sigma Identity)} {as : List α} :
    AllPlain (as.flatMap f) ↔ ∀ a ∈ as, AllPlain (f a) := by
  simp only [AllPlain, List.mem_flatMap]
  exact ⟨fun h a ha id hid => h id ⟨a, ha, hid⟩, fun h id ⟨a, ha, hid⟩ => h a ha id hid⟩

/-- An optional identity as a list of at most one. -/
def listed {k : Kind} (o : Option (Identity k)) : List (Sigma Identity) :=
  o.toList.map fun id => ⟨k, id⟩

theorem allPlain_listed {k : Kind} {o : Option (Identity k)} :
    AllPlain (listed o) ↔ ∀ id, o = some id → id.IsPlain := by
  cases o <;> simp [listed]

end Identity

open Identity (AllPlain listed)

namespace NetworkInterface

/-- The network and, if there is one, the subnetwork. -/
def identities (n : NetworkInterface) : List (Sigma Identity) :=
  ⟨.network, n.network⟩ :: listed n.subnetwork

end NetworkInterface

namespace DiskConfiguration

/-- The source of a disk, its image and its type, as far as it has them. -/
def identities : DiskConfiguration → List (Sigma Identity)
  | .persistent d => [⟨.disk, d.source⟩]
  | .create d => ⟨.image, d.image⟩ :: listed d.type
  | .scratch d => listed d.type

/-- The size of a disk that is yet to be created, if it is told. -/
def sizeGb? : DiskConfiguration → Option { n : Nat // 0 < n }
  | .create d => d.sizeGb
  | _ => none

end DiskConfiguration

namespace Instance

/-- Every identity in an instance. -/
def identities (x : Instance) : List (Sigma Identity) :=
  ⟨.vm, x.id⟩ :: ⟨.machineType, x.machineType⟩ ::
    (x.interfaces.flatMap (·.identities) ++ x.disks.flatMap (·.configuration.identities))

/-- The sizes of the disks that have one. -/
def diskSizes (x : Instance) : List Nat :=
  x.disks.filterMap fun d => d.configuration.sizeGb?.map (·.1)

theorem allPlain_identities_iff {x : Instance} :
    AllPlain x.identities ↔ x.id.IsPlain ∧ x.machineType.IsPlain ∧
      (∀ n ∈ x.interfaces, AllPlain n.identities) ∧
      ∀ d ∈ x.disks, AllPlain d.configuration.identities := by
  simp only [identities, Identity.allPlain_cons, Identity.allPlain_append,
    Identity.allPlain_flatMap]

theorem forall_mem_diskSizes_iff {x : Instance} {P : Nat → Prop} :
    (∀ n ∈ x.diskSizes, P n) ↔ ∀ d ∈ x.disks, ∀ n, d.configuration.sizeGb? = some n → P n.1 := by
  simp only [diskSizes, List.mem_filterMap, Option.map_eq_some_iff]
  constructor
  · exact fun h d hd n hn => h n.1 ⟨d, hd, n, hn, rfl⟩
  · rintro h _ ⟨d, hd, n, hn, rfl⟩
    exact h d hd n hn

end Instance
end VmResource
