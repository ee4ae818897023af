/-
# Resources made from plain data

Whoever makes a resource may hand over other resources for its fields. The
check of plain data is the case in which all fields are given as such data,
and the shortcuts for an interface and a disk are calls with one resource.

Key definitions: `Value.plainEntries`.
Key theorems: `Resource.Composite.check_object`,
`NetworkInterface.construct_network`, `AttachedDisk.ofResource_eq`.
-/
import VmResource.Proofs.AssignedState
import VmResource.Resource.Operations

namespace VmResource

open Check

/-! ### Fields of a call -/

namespace Value

variable {α : Type} {c : Json → Check α} {c' : Value → Check α}

/-- Plain entries of a call. -/
abbrev plainEntries (es : List (Text × Json)) : List (Text × Value) :=
  es.map fun e => (e.1, .plain e.2)

theorem required_plainEntries (h : ∀ v, c' (.plain v) = c v) (es : List (Text × Json))
    (name : String) : required (plainEntries es) name c' = Check.required es name c := by
  rw [required, Check.required, Instance.lookup_map_plain]
  cases es.lookup (.unicode name) with
  | none => rfl
  | some v => exact congrArg (field name) (h v)

theorem unlessNull_of_plain (h : ∀ v, c' (.plain v) = c v) (v : Json) :
    unlessNull c' (.plain v) = nullable c v := by
  by_cases hnull : v = .null
  · subst hnull
    rfl
  · rw [unlessNull, Instance.isNull_plain, decide_eq_false hnull, nullable_of_ne_null c hnull,
      h v]
    rfl

theorem optional_plainEntries (h : ∀ v, c' (.plain v) = c v) (es : List (Text × Json))
    (name : String) : optional (plainEntries es) name c' = Check.optional es name c := by
  rw [optional, Check.optional, Instance.lookup_map_plain]
  cases es.lookup (.unicode name) with
  | none => rfl
  | some v => exact congrArg (field name) (unlessNull_of_plain h v)

theorem eachItem_plain (h : ∀ v, c' (.plain v) = c v) (v : Json) :
    eachItem c' (.plain v) = Check.list c v := by
  cases v with
  | list xs =>
    have hitems : (fun x => c' (.plain x)) = c := funext h
    rw [eachItem, hitems]
    rfl
  | _ => rfl

end Value

open Value (single made eachItem plainEntries required_plainEntries optional_plainEntries
  eachItem_plain)

/-! ### Parts -/

open Resource (identity? accessConfig?)

namespace NetworkInterface

theorem check_object (es : List (Text × Json)) :
    check (.object es) = construct (plainEntries es) := by
  have hconfigs : ∀ v, eachItem (made accessConfig? AccessConfig.check) (.plain v) =
      list AccessConfig.check v := eachItem_plain fun _ => rfl
  rw [construct, required_plainEntries fun _ => rfl, optional_plainEntries fun _ => rfl,
    optional_plainEntries fun _ => rfl, optional_plainEntries fun _ => rfl,
    optional_plainEntries hconfigs]
  rfl

/-- An interface to a network is made from the network. -/
theorem construct_network (id : Identity .network) :
    construct [("network", .ofIdentity id)] = .ok (of id) := rfl

end NetworkInterface

theorem checkKindOf_plainEntries (es : List (Text × Json)) (kind : String) :
    checkKindOf (plainEntries es) kind = checkKind es kind := by
  rw [checkKindOf, checkKind, Instance.lookup_map_plain]
  cases es.lookup (.unicode "kind") <;> rfl

namespace PersistentDisk

theorem check_object (es : List (Text × Json)) :
    check (.object es) = construct (plainEntries es) := by
  rw [construct, checkKindOf_plainEntries, required_plainEntries fun _ => rfl,
    optional_plainEntries fun _ => rfl, optional_plainEntries fun _ => rfl,
    optional_plainEntries fun _ => rfl]
  rfl

end PersistentDisk

namespace CreatedDisk

theorem check_object (es : List (Text × Json)) :
    check (.object es) = construct (plainEntries es) := by
  rw [construct, checkKindOf_plainEntries, required_plainEntries fun _ => rfl,
    optional_plainEntries fun _ => rfl, optional_plainEntries fun _ => rfl,
    optional_plainEntries fun _ => rfl, optional_plainEntries fun _ => rfl]
  rfl

end CreatedDisk

namespace ScratchDisk

theorem check_object (es : List (Text × Json)) :
    check (.object es) = construct (plainEntries es) := by
  rw [construct, checkKindOf_plainEntries, optional_plainEntries fun _ => rfl,
    optional_plainEntries fun _ => rfl]
  rfl

end ScratchDisk

namespace AttachedDisk

theorem check_object (es : List (Text × Json)) :
    check (.object es) = construct (plainEntries es) := by
  rw [construct, required_plainEntries fun _ => rfl, optional_plainEntries fun _ => rfl,
    optional_plainEntries fun _ => rfl]
  rfl

/-- A disk of a configuration and a name is made from these two. -/
theorem ofResource_eq (r : Resource) (deviceName : Json) :
    ofResource r deviceName =
      construct [("configuration", .resource r), ("device_name", .plain deviceName)] := by
  have hconfiguration : ofResource r deviceName =
      of (DiskConfiguration.checkValue (.resource r)) deviceName := by
    cases r <;> rfl
  have hname : Value.optional [("configuration", .resource r),
      ("device_name", .plain deviceName)] "device_name" (single .notText text) =
        field "device_name" (nullable text deviceName) :=
    congrArg (field "device_name") (Value.unlessNull_of_plain (fun _ => rfl) deviceName)
  rw [hconfiguration, of, construct, hname]
  change _ = AttachedDisk.mk <$> field "configuration" (DiskConfiguration.checkValue (.resource r))
    <*> _ <*> Check.ok none
  cases field "configuration" (DiskConfiguration.checkValue (.resource r)) <;>
    cases field "device_name" (nullable text deviceName) <;> rfl

end AttachedDisk

/-! ### Resources -/

namespace Resource

namespace Composite

/-- An object is checked as its entries are when they are handed over one by
one. -/
theorem check_object (c : Composite) (es : List (Text × Json)) :
    Resource.check c.cls (.object es) = c.construct (plainEntries es) := by
  cases c with
  | interface => exact congrArg (Resource.interface <$> ·) (NetworkInterface.check_object es)
  | persistentDisk =>
    exact congrArg (Resource.persistentDisk <$> ·) (PersistentDisk.check_object es)
  | createdDisk => exact congrArg (Resource.createdDisk <$> ·) (CreatedDisk.check_object es)
  | scratchDisk => exact congrArg (Resource.scratchDisk <$> ·) (ScratchDisk.check_object es)
  | disk => exact congrArg (Resource.disk <$> ·) (AttachedDisk.check_object es)
  | vm => exact congrArg (Resource.vm <$> ·) (Instance.check_object es)

end Composite

end Resource
end VmResource
