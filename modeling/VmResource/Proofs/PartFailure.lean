/-
# How the readers of parts fail

A part is refused with malformed data of its own, where a link, a member or
a number cannot be read, or with a plain fact, where it is no object, lacks a
key or breaks a rule. It fails for a long integer only where a value is
refused in a message that shows it, or where a text gives an index or a size
in too many digits; told in the order of reading, since only the first
failure counts.

Key definitions: for each part that can fail so `FailsLong`.
Key theorems: for each part `closed_ofPayload`.
-/
import VmResource.Proofs.Failure

namespace VmResource

open Error (IsRefusal IsLinkRefusal)
open Json (ifSet valueOf Optional IsText IsLink IsMember ObjectOf ListOf AreObjects HoldsLong
  exists_ifSet_link_iff exists_ifSet_choice_iff exists_link_iff)

/-! ### Steps of parts -/

namespace Closed

variable {α : Type} {P : Error → Prop} {long : Prop}

/-- The last step that can fail for a long integer. -/
theorem last {through : Prop} {x : Except Error α} (h : Closed P long x) :
    Closed P (FirstLong [(through, long)]) x := by
  apply h.of_iff
  simp [FirstLong]

/-- What is read from the keys of an object, and from nothing else. -/
theorem object {read : Json → Except Error α} {long : List (Text × Json) → Prop}
    (hobject : ∀ es, Closed IsRefusal (long es) (read (.object es)))
    (hother : ∀ v, (∀ es, v ≠ .object es) → read v = .error .attributeMissing) (v : Json) :
    Closed IsRefusal (ObjectOf long v) (read v) := by
  by_cases hv : ∃ es, v = .object es
  · obtain ⟨es, rfl⟩ := hv
    apply (hobject es).of_iff
    simp [ObjectOf]
  · have hlong : ¬ ObjectOf long v := fun h => hv (h.imp fun _ => And.left)
    rw [hother v fun es he => hv ⟨es, he⟩]
    exact (error (Or.inr .attributeMissing) (by simp)).of_not hlong

theorem object_never {read : Json → Except Error α}
    (hobject : ∀ es, Closed IsRefusal False (read (.object es)))
    (hother : ∀ v, (∀ es, v ≠ .object es) → read v = .error .attributeMissing) (v : Json) :
    Closed IsRefusal False (read v) := by
  have h : Closed IsRefusal (ObjectOf (fun _ => False) v) (read v) := object hobject hother v
  apply h.of_iff
  simp [ObjectOf]

theorem invalid (subject : String) (c : Check α) : Closed IsRefusal False (c.orInvalid subject) :=
  orInvalid (fun _ => Or.inr (.invalid _ _)) c

/-- A key that must be there, and what is read from its value. -/
theorem require {es : List (Text × Json)} {f : Json → Except Error α} (long : Json → Prop)
    (key : String) (hf : ∀ v, Closed IsRefusal (long v) (f v)) (hnull : ¬ long .null) :
    Closed IsRefusal (long (valueOf es key)) ((Json.object es).require key >>= f) := by
  simp only [Json.require, valueOf]
  cases es.lookup (.unicode key) with
  | some v => exact hf v
  | none => exact (error (Or.inr (.keyMissing key)) (by simp)).of_not hnull

theorem items (v : Json) : Closed IsRefusal False v.items := by
  cases v with
  | list xs => exact ok _
  | text s => exact ok _
  | object es => exact ok _
  | _ => exact error (Or.inr .wrongForm) (by simp)

theorem ifSet_items (v : Json) : Closed IsRefusal False (Json.ifSet Json.items v) :=
  (items v).ifSet False.elim

end Closed

/-! ### Tags, metadata and accounts -/

theorem Tags.closed_ofPayload (v : Json) : Closed IsRefusal False (Tags.ofPayload v) := by
  refine Closed.object_never (fun es => ?_) (fun v hv => ?_) v
  · simp only [Tags.ofPayload, Json.get_object, Except.ok_bind]
    refine (Closed.ifSet_items _).bind fun items => ?_
    exact .invalid _ _
  · exact Json.get_bind_of_not_object hv

theorem Metadata.closed_readItem (v : Json) : Closed IsRefusal False (Metadata.readItem v) := by
  cases v with
  | object es =>
    refine Closed.require (fun _ => False) "key" (fun key => ?_) id
    exact .ok _
  | _ => exact .error (Or.inr .wrongForm) (by simp)

theorem Metadata.closed_readItems (v : Json) : Closed IsRefusal False (Metadata.readItems v) := by
  refine (Closed.items v).bind fun xs => ?_
  exact Closed.mapM_never closed_readItem xs

theorem Metadata.closed_ofPayload (v : Json) : Closed IsRefusal False (Metadata.ofPayload v) := by
  refine Closed.object_never (fun es => ?_) (fun v hv => ?_) v
  · simp only [Metadata.ofPayload, Json.get_object, Except.ok_bind]
    refine ((closed_readItems _).ifSet False.elim).bind fun items => ?_
    exact .invalid _ _
  · exact Json.get_bind_of_not_object hv

theorem ServiceAccount.closed_ofPayload (v : Json) :
    Closed IsRefusal False (ServiceAccount.ofPayload v) := by
  refine Closed.object_never (fun es => ?_) (fun v hv => ?_) v
  · simp only [ServiceAccount.ofPayload, Json.get_object, Except.ok_bind]
    refine (Closed.ifSet_items _).bind fun items => ?_
    refine Closed.require (fun _ => False) "email" (fun email => ?_) id
    exact .invalid _ _
  · exact Json.get_bind_of_not_object hv

/-! ### Scheduling -/

/-- The policy for maintenance is refused in a message that shows it. -/
def Scheduling.FailsLong (es : List (Text × Json)) : Prop :=
  HoldsLong (valueOf es "onHostMaintenance")

/-- In a part the refusal of a link is one among others. -/
theorem closed_link (k : Identity.Kind) (v : Json) :
    Closed IsRefusal v.HoldsLong (Identity.read k v) :=
  (Identity.closed_read k v).mono fun _ => IsLinkRefusal.isRefusal

theorem closed_ifSet_link (k : Identity.Kind) (v : Json) :
    Closed IsRefusal v.HoldsLong (ifSet (Identity.read k) v) :=
  (closed_link k v).ifSet HoldsLong.ne_null

theorem closed_ifSet_choice {α : Type} [Choice α] (field : String) (v : Json) :
    Closed IsRefusal v.HoldsLong (ifSet (Choice.read α field) v) :=
  ((Choice.closed_read field v).mono fun _ => Or.inl).ifSet HoldsLong.ne_null

theorem Scheduling.closed_ofPayload (v : Json) :
    Closed IsRefusal (ObjectOf Scheduling.FailsLong v) (Scheduling.ofPayload v) := by
  refine Closed.object (fun es => ?_) (fun v hv => ?_) v
  · simp only [Scheduling.ofPayload, Json.get_object, Except.ok_bind]
    refine (closed_ifSet_choice _ _).bind fun maintenance => ?_
    exact .invalid _ _
  · exact Json.get_bind_of_not_object hv

/-! ### Network interfaces -/

/-- The type is refused in a message that shows it. -/
def AccessConfig.FailsLong (es : List (Text × Json)) : Prop := HoldsLong (valueOf es "type")

/-- The first item of a list that cannot be read fails for a long integer. -/
def Json.ItemFailsLong (through long : Json → Prop) (v : Json) : Prop :=
  ∃ xs, v = .list xs ∧ FirstLong (xs.map fun x => (through x, long x))

open Json (ItemFailsLong)

theorem Json.ItemFailsLong.ne_null {through long : Json → Prop} {v : Json}
    (h : ItemFailsLong through long v) : v ≠ .null := by
  obtain ⟨xs, rfl, -⟩ := h
  simp

/-- The steps of reading the links and the access of an interface. -/
def NetworkInterface.FailsLong (es : List (Text × Json)) : Prop :=
  FirstLong [
    (Optional (IsLink .subnetwork) (valueOf es "subnetwork"),
      HoldsLong (valueOf es "subnetwork")),
    (Optional (AreObjects AccessConfig.HasForm) (valueOf es "accessConfigs"),
      ItemFailsLong (ObjectOf AccessConfig.HasForm) (ObjectOf AccessConfig.FailsLong)
        (valueOf es "accessConfigs")),
    (IsLink .network (valueOf es "network"), HoldsLong (valueOf es "network"))]

theorem AccessConfig.closed_ofPayload (v : Json) :
    Closed IsRefusal (ObjectOf AccessConfig.FailsLong v) (AccessConfig.ofPayload v) := by
  refine Closed.object (fun es => ?_) (fun v hv => ?_) v
  · simp only [AccessConfig.ofPayload, Json.get_object, Except.ok_bind]
    refine (closed_ifSet_choice _ _).bind fun type => ?_
    exact .invalid _ _
  · exact Json.get_bind_of_not_object hv

namespace NetworkInterface

/-- The characters of a text and the keys of an object are no objects, so
only those of a list may fail for a long integer. -/
theorem closed_readAccessConfigs (v : Json) :
    Closed IsRefusal
      (ItemFailsLong (ObjectOf AccessConfig.HasForm) (ObjectOf AccessConfig.FailsLong) v)
      (readAccessConfigs v) := by
  have hitems : ∀ xs : List Json, Closed IsRefusal _ (xs.mapM AccessConfig.ofPayload) :=
    Closed.mapM AccessConfig.closed_ofPayload fun _ => AccessConfig.exists_ofPayload_iff
  have htexts : ∀ xs : List Json, (∀ x ∈ xs, ∃ s, x = .text s) → ¬ FirstLong (xs.map fun x =>
      (ObjectOf AccessConfig.HasForm x, ObjectOf AccessConfig.FailsLong x)) := by
    intro xs hxs
    refine not_firstLong_of_forall fun step hstep => ?_
    obtain ⟨x, hx, rfl⟩ := List.mem_map.mp hstep
    obtain ⟨s, rfl⟩ := hxs x hx
    simp [ObjectOf]
  cases v with
  | list xs =>
    apply (hitems xs).of_iff
    simp [ItemFailsLong]
  | text s =>
    refine (hitems _).of_iff (iff_of_false (htexts _ fun x hx => ?_) ?_)
    · obtain ⟨c, -, rfl⟩ := List.mem_map.mp hx
      exact ⟨_, rfl⟩
    · simp [ItemFailsLong]
  | object es =>
    refine (hitems _).of_iff (iff_of_false (htexts _ fun x hx => ?_) ?_)
    · obtain ⟨e, -, rfl⟩ := List.mem_map.mp hx
      exact ⟨_, rfl⟩
    · simp [ItemFailsLong]
  | _ =>
    apply (Closed.error (Or.inr .wrongForm) (by simp)).of_not
    simp [ItemFailsLong]

theorem exists_ifSet_accessConfigs_iff {v : Json} :
    (∃ o, ifSet readAccessConfigs v = .ok o) ↔ Optional (AreObjects AccessConfig.HasForm) v := by
  rw [← Json.exists_givesObjects_iff fun _ => AccessConfig.exists_ofPayload_iff]
  exact exists_congr fun _ => Json.ifSet_mapM_items_eq_ok_iff

theorem closed_ofPayload (v : Json) :
    Closed IsRefusal (ObjectOf NetworkInterface.FailsLong v) (NetworkInterface.ofPayload v) := by
  refine Closed.object (fun es => ?_) (fun v hv => ?_) v
  · simp only [NetworkInterface.ofPayload, Json.get_object, Except.ok_bind]
    refine Closed.step (closed_ifSet_link _ _) exists_ifSet_link_iff fun subnetwork => ?_
    refine Closed.step ((closed_readAccessConfigs _).ifSet ItemFailsLong.ne_null)
      exists_ifSet_accessConfigs_iff fun configs => ?_
    refine Closed.last (Closed.require HoldsLong "network" (fun link => ?_) (by simp))
    refine (closed_link _ link).bind fun network => ?_
    exact .invalid _ _
  · exact Json.get_bind_of_not_object hv

end NetworkInterface

/-! ### Disks -/

/-- A number of any size, or a decimal text that is not too long. -/
def Json.IsInteger (v : Json) : Prop :=
  (∃ n, v = .int n) ∨
    ∃ (s : String) (ds : List Char), v = .text s ∧ Text.IsDecimal s ds ∧ ds.length ≤ digitLimit

open Json (IsInteger)
open Payload (LongInteger)

theorem closed_ifSet_integer (field : String) (v : Json) :
    Closed IsRefusal (LongInteger v) (ifSet (Payload.integer field) v) :=
  ((Payload.closed_integer field v).mono fun _ => Or.inl).ifSet LongInteger.ne_null

theorem exists_ifSet_integer_iff {field : String} {v : Json} :
    (∃ o, ifSet (Payload.integer field) v = .ok o) ↔ Optional IsInteger v := by
  simp only [Json.exists_ifSet_eq_ok_iff, Payload.exists_integer_eq_ok_iff, Optional, IsInteger]

/-- The steps of reading the mode and the source. -/
def PersistentDisk.FailsLong (es : List (Text × Json)) : Prop :=
  FirstLong [
    (Optional (IsMember DiskMode) (valueOf es "mode"), HoldsLong (valueOf es "mode")),
    (IsLink .disk (valueOf es "source"), HoldsLong (valueOf es "source"))]

/-- The steps of reading the parameters of a created disk. -/
def CreatedDisk.ParametersFailLong (ps : List (Text × Json)) : Prop :=
  FirstLong [
    (Optional (IsLink .diskType) (valueOf ps "diskType"), HoldsLong (valueOf ps "diskType")),
    (Optional IsInteger (valueOf ps "diskSizeGb"), LongInteger (valueOf ps "diskSizeGb")),
    (IsLink .image (valueOf ps "sourceImage"), HoldsLong (valueOf ps "sourceImage"))]

/-- The parameters fail. -/
def CreatedDisk.FailsLong (es : List (Text × Json)) : Prop :=
  ObjectOf CreatedDisk.ParametersFailLong (valueOf es "initializeParams")

/-- The steps of reading the interface and the type in the parameters. -/
def ScratchDisk.FailsLong (es : List (Text × Json)) : Prop :=
  FirstLong [
    (Optional (IsMember DiskInterface) (valueOf es "interface"),
      HoldsLong (valueOf es "interface")),
    ((valueOf es "initializeParams").isBlank ∨
        ObjectOf (fun ps => Optional (IsLink .diskType) (valueOf ps "diskType"))
          (valueOf es "initializeParams"),
      ObjectOf (fun ps => HoldsLong (valueOf ps "diskType")) (valueOf es "initializeParams"))]

open DiskConfiguration (sortIn)

/-- The type of the disk fails, or else a disk of its kind does. -/
def DiskConfiguration.FailsLong (es : List (Text × Json)) : Prop :=
  HoldsLong (sortIn es) ∨
    (sortIn es = Choice.json DiskSort.persistent ∧ valueOf es "initializeParams" = .null ∧
      PersistentDisk.FailsLong es) ∨
    (sortIn es = Choice.json DiskSort.persistent ∧ valueOf es "initializeParams" ≠ .null ∧
      CreatedDisk.FailsLong es) ∨
    (sortIn es = Choice.json DiskSort.scratch ∧ ScratchDisk.FailsLong es)

/-- The configuration fails, or else the index does. -/
def AttachedDisk.FailsLong (es : List (Text × Json)) : Prop :=
  FirstLong [
    (∃ c, DiskConfiguration.ofPayload (.object es) = .ok c, DiskConfiguration.FailsLong es),
    (Optional IsInteger (valueOf es "index"), LongInteger (valueOf es "index"))]

theorem PersistentDisk.closed_ofPayload (es : List (Text × Json)) :
    Closed IsRefusal (PersistentDisk.FailsLong es) (PersistentDisk.ofPayload (.object es)) := by
  simp only [PersistentDisk.ofPayload, Json.get_object, Except.ok_bind]
  refine Closed.step (closed_ifSet_choice _ _) exists_ifSet_choice_iff fun mode => ?_
  refine Closed.last (Closed.require HoldsLong "source" (fun link => ?_) (by simp))
  refine (closed_link _ link).bind fun source => ?_
  exact .invalid _ _

theorem CreatedDisk.closed_ofPayload (es : List (Text × Json)) :
    Closed IsRefusal (CreatedDisk.FailsLong es) (CreatedDisk.ofPayload (.object es)) := by
  refine Closed.require (ObjectOf CreatedDisk.ParametersFailLong) "initializeParams"
    (fun params => ?_) (by simp [ObjectOf])
  cases params with
  | object ps =>
    simp only [Json.get_object, Except.ok_bind]
    refine Closed.of_iff (?_ : Closed IsRefusal (ParametersFailLong ps) _) (by simp [ObjectOf])
    refine Closed.step (closed_ifSet_link _ _) exists_ifSet_link_iff fun type => ?_
    refine Closed.step (closed_ifSet_integer _ _) exists_ifSet_integer_iff fun size => ?_
    refine Closed.last (Closed.require HoldsLong "sourceImage" (fun link => ?_) (by simp))
    refine (closed_link _ link).bind fun image => ?_
    exact .invalid _ _
  | _ =>
    apply (Closed.error (Or.inr .attributeMissing) (by simp)).of_not
    simp [ObjectOf]

/-- Blank parameters hold no type, and other parameters that are no object
are refused for that. -/
theorem ScratchDisk.closed_type (params : Json) :
    Closed IsRefusal (ObjectOf (fun ps => HoldsLong (valueOf ps "diskType")) params)
      ((if params.isBlank then Json.object [] else params).get "diskType" >>=
        ifSet (Identity.read .diskType)) := by
  by_cases hblank : params.isBlank = true
  · rw [if_pos hblank]
    refine (Closed.ok none).of_not fun h => ?_
    obtain ⟨ps, rfl, hlong⟩ := h
    have hps : ps = [] := List.isEmpty_iff.mp hblank
    rw [hps] at hlong
    exact Json.not_holdsLong_null hlong
  · rw [if_neg hblank]
    cases params with
    | object ps =>
      apply (closed_ifSet_link .diskType (valueOf ps "diskType")).of_iff
      simp [ObjectOf]
    | _ =>
      apply (Closed.error (Or.inr .attributeMissing) (by simp)).of_not
      simp [ObjectOf]

theorem ScratchDisk.closed_ofPayload (es : List (Text × Json)) :
    Closed IsRefusal (ScratchDisk.FailsLong es) (ScratchDisk.ofPayload (.object es)) := by
  have hinterface := closed_ifSet_choice (α := DiskInterface) "interface" (valueOf es "interface")
  have htype := ScratchDisk.closed_type (valueOf es "initializeParams")
  simp only [ofPayload, Json.get_object, Except.ok_bind]
  refine Closed.step hinterface exists_ifSet_choice_iff fun interface => ?_
  rw [← bind_assoc]
  exact Closed.last (htype.bind fun type => .ok _)

namespace DiskConfiguration

theorem closed_ofPayload (es : List (Text × Json)) :
    Closed IsRefusal (FailsLong es) (ofPayload (.object es)) := by
  have hsort : Closed IsRefusal (HoldsLong (sortIn es))
      (Choice.read DiskSort "disk type" (sortIn es)) :=
    (Choice.closed_read _ _).mono fun _ => Or.inl
  cases hread : Choice.read DiskSort "disk type" (sortIn es) with
  | error e =>
    have hnone : ∀ sort : DiskSort, sortIn es ≠ Choice.json sort := by
      intro sort h
      rw [Choice.read_eq_ok_iff.mpr h] at hread
      cases hread
    change Closed _ _ (Choice.read DiskSort "disk type" (sortIn es) >>= _)
    rw [hread] at hsort ⊢
    apply hsort.retype.of_iff
    simp [FailsLong, hnone]
  | ok sort =>
    rw [hread] at hsort
    have hsortIn : sortIn es = Choice.json sort := Choice.read_eq_ok_iff.mp hread
    cases sort with
    | scratch =>
      have hne : sortIn es ≠ Choice.json DiskSort.persistent := by
        rw [hsortIn]
        decide
      rw [ofPayload_of_scratch hsortIn]
      apply ((ScratchDisk.closed_ofPayload es).map _).of_iff
      simp only [FailsLong, hsort.not_long_of_ok, hne, false_and, false_or]
      simp only [hsortIn, true_and]
    | persistent =>
      have hne : sortIn es ≠ Choice.json DiskSort.scratch := by
        rw [hsortIn]
        decide
      rw [ofPayload_of_persistent hsortIn]
      by_cases hnull : valueOf es "initializeParams" = .null
      · rw [if_pos hnull]
        apply ((PersistentDisk.closed_ofPayload es).map _).of_iff
        simp only [FailsLong, hsort.not_long_of_ok, hne, false_and, false_or, or_false]
        simp [hsortIn, hnull]
      · rw [if_neg hnull]
        apply ((CreatedDisk.closed_ofPayload es).map _).of_iff
        simp only [FailsLong, hsort.not_long_of_ok, hne, false_and, false_or, or_false]
        simp [hsortIn, hnull]

theorem ofPayload_of_not_object {v : Json} (hv : ∀ es, v ≠ .object es) :
    ofPayload v = .error .attributeMissing := by
  cases v with
  | object es => exact absurd rfl (hv es)
  | _ => rfl

end DiskConfiguration

theorem AttachedDisk.closed_ofPayload (v : Json) :
    Closed IsRefusal (ObjectOf AttachedDisk.FailsLong v) (AttachedDisk.ofPayload v) := by
  refine Closed.object (fun es => ?_) (fun v hv => ?_) v
  · simp only [AttachedDisk.ofPayload, Json.get_object, Except.ok_bind]
    refine Closed.step (DiskConfiguration.closed_ofPayload es) Iff.rfl fun configuration => ?_
    refine Closed.last ((closed_ifSet_integer _ _).bind fun index => ?_)
    exact .invalid _ _
  · rw [AttachedDisk.ofPayload, DiskConfiguration.ofPayload_of_not_object hv]
    rfl

end VmResource
