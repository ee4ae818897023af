/-
# Payloads of disks, field by field

A disk is read from the entries of an object: its kind from the type and
from whether there are parameters, everything else from keys of its own. The
writer puts the same entries for the same kind, so a disk with plain
identities reads back, whatever its kind; it has a payload unless its size
is too long to be written.

Key definitions: `Payload.GivesNumber`, `DiskConfiguration.sortIn`.
Key theorems: `DiskConfiguration.ofPayload_eq_ok_iff`,
`AttachedDisk.ofPayload_eq_ok_iff`, `AttachedDisk.ofPayload_of_payload`,
`AttachedDisk.exists_payload_eq_ok_iff`.
-/
import VmResource.Proofs.IntegerText
import VmResource.Proofs.PartPayload

namespace VmResource

open Check
open Json (ifSet valueOf entriesSet valueOf_entriesSet record_eq record)

/-! ### Numbers that may be unset -/

namespace Check

theorem positiveOf_eq_ok_iff {n : Int} {m : { n : Nat // 0 < n }} :
    positiveOf n = .ok m ↔ n = m.1 := by
  have hm := m.2
  unfold positiveOf
  split
  · simp only [ok.injEq, Subtype.ext_iff]
    omega
  · simp only [refuse, reduceCtorEq, false_iff]
    omega

theorem naturalOf_eq_ok_iff {n : Int} {i : Nat} : naturalOf n = .ok i ↔ n = i := by
  unfold naturalOf
  split
  · rw [ok.injEq]
    omega
  · simp only [refuse, reduceCtorEq, false_iff]
    omega

end Check

namespace Payload

variable {α : Type} {field : String} {worth : α → Int} {v : Json} {o : Option α}

/-- The value is null, or gives the integer that `o` is worth. -/
def GivesNumber (field : String) (worth : α → Int) (v : Json) (o : Option α) : Prop :=
  (v = .null ∧ o = none) ∨ ∃ a, integer field v = .ok (worth a) ∧ o = some a

/-- An integer that was read is checked, if there is one. -/
theorem exists_ifSet_integer_iff {check : Int → Check α} (checks : Option Int → Check (Option α))
    (hnone : checks none = .ok none) (hsome : ∀ n, checks (some n) = some <$> check n)
    (hcheck : ∀ {n a}, check n = .ok a ↔ n = worth a) :
    (∃ n, ifSet (integer field) v = .ok n ∧ checks n = .ok o) ↔ GivesNumber field worth v o := by
  refine ⟨?_, ?_⟩
  · intro h
    obtain ⟨n, hn, hchecks⟩ := h
    rcases Json.ifSet_eq_ok_iff.mp hn with ⟨hnull, rfl⟩ | ⟨-, m, hm, rfl⟩
    · rw [hnone] at hchecks
      exact Or.inl ⟨hnull, (Check.ok.inj hchecks).symm⟩
    · rw [hsome, map_eq_ok_iff] at hchecks
      obtain ⟨a, ha, rfl⟩ := hchecks
      exact Or.inr ⟨a, by rw [hm, hcheck.mp ha], rfl⟩
  · intro h
    rcases h with ⟨rfl, rfl⟩ | ⟨a, ha, rfl⟩
    · exact ⟨none, rfl, hnone⟩
    · have hne : v ≠ .null := by
        rintro rfl
        simp [integer, Error.about] at ha
      refine ⟨some (worth a), ?_, ?_⟩
      · rw [Json.ifSet_of_ne_null _ hne, ha]
        rfl
      · rw [hsome, hcheck.mpr rfl]
        rfl

end Payload

/-! ### The kinds of disks -/

namespace PersistentDisk

/-- A persistent disk is read field by field. -/
theorem ofPayload_eq_ok_iff {p : Json} {d : PersistentDisk} :
    ofPayload p = .ok d ↔ ∃ es, p = .object es ∧
      Identity.read .disk (valueOf es "source") = .ok d.source ∧
      ifSet (Choice.read DiskMode "disk mode") (valueOf es "mode") = .ok d.mode ∧
      nullable flag (valueOf es "boot") = .ok d.boot ∧
      nullable flag (valueOf es "autoDelete") = .ok d.autoDelete := by
  cases p with
  | object es =>
    simp only [ofPayload, Json.get_object, Except.ok_bind, Except.bind_eq_ok_iff,
      Json.require_eq_ok_iff, Check.orInvalid_eq_ok_iff, seq_eq_ok_iff, map_eq_ok_iff,
      field_eq_ok_iff, Json.object.injEq, exists_eq_left']
    refine ⟨?_, ?_⟩
    · intro h
      obtain ⟨mode, hmode, _, hlookup, source, hsource, _, autoDelete, ⟨boot, hboot, rfl⟩,
        hautoDelete, rfl⟩ := h
      rw [Json.lookup_eq_some_iff (Identity.ne_null_of_read hsource)] at hlookup
      exact ⟨hlookup ▸ hsource, hmode, hboot, hautoDelete⟩
    · intro h
      obtain ⟨hsource, hmode, hboot, hautoDelete⟩ := h
      have hlookup := (Json.lookup_eq_some_iff (Identity.ne_null_of_read hsource)).mpr rfl
      exact ⟨_, hmode, _, hlookup, _, hsource, _, _, ⟨_, hboot, rfl⟩, hautoDelete, rfl⟩
  | _ => simp [ofPayload, Json.get]

/-- A persistent disk reads back from its entries, with a name and an index
after them. -/
theorem ofPayload_record {d : PersistentDisk} (h : d.source.IsPlain) (name index : Option Json) :
    ofPayload (record (d.entries ++ [("deviceName", name), ("index", index)])) = .ok d := by
  refine ofPayload_eq_ok_iff.mpr ⟨_, record_eq _, ?_, ?_, ?_, ?_⟩
  · simpa [entries, valueOf_entriesSet, List.lookup_cons] using Identity.read_json h
  · simpa [entries, valueOf_entriesSet, List.lookup_cons] using Choice.read_map_getD _ d.mode
  · simp [entries, valueOf_entriesSet, List.lookup_cons]
  · simp [entries, valueOf_entriesSet, List.lookup_cons]

theorem allPlain_of_ofPayload {p : Json} {d : PersistentDisk} (h : ofPayload p = .ok d) :
    Identity.AllPlain (DiskConfiguration.persistent d).identities := by
  obtain ⟨_, -, hsource, -⟩ := ofPayload_eq_ok_iff.mp h
  simpa [DiskConfiguration.identities] using Identity.isPlain_of_read hsource

end PersistentDisk

namespace CreatedDisk

/-- What a size may be worth. -/
abbrev GivesSize (v : Json) (o : Option { n : Nat // 0 < n }) : Prop :=
  Payload.GivesNumber "diskSizeGb" (fun n => (n.1 : Int)) v o

theorem exists_ifSet_size_iff {v : Json} {o : Option { n : Nat // 0 < n }} :
    (∃ n, ifSet (Payload.integer "diskSizeGb") v = .ok n ∧ checkSize n = .ok o) ↔ GivesSize v o :=
  Payload.exists_ifSet_integer_iff checkSize rfl (fun _ => rfl) positiveOf_eq_ok_iff

/-- A created disk is read field by field, most fields from its parameters. -/
theorem ofPayload_eq_ok_iff {p : Json} {d : CreatedDisk} :
    ofPayload p = .ok d ↔ ∃ es, p = .object es ∧
      ∃ ps, valueOf es "initializeParams" = .object ps ∧
      Identity.read .image (valueOf ps "sourceImage") = .ok d.image ∧
      nullable text (valueOf ps "diskName") = .ok d.name ∧
      ifSet (Identity.read .diskType) (valueOf ps "diskType") = .ok d.type ∧
      GivesSize (valueOf ps "diskSizeGb") d.sizeGb ∧
      nullable flag (valueOf es "autoDelete") = .ok d.autoDelete := by
  simp only [← exists_ifSet_size_iff]
  cases p with
  | object es =>
    simp only [ofPayload, Json.get_object, Except.ok_bind, Except.bind_eq_ok_iff,
      Json.get_eq_ok_iff, Json.require_eq_ok_iff, Check.orInvalid_eq_ok_iff, seq_eq_ok_iff,
      map_eq_ok_iff, field_eq_ok_iff, Json.object.injEq, exists_eq_left']
    refine ⟨?_, ?_⟩
    · intro h
      obtain ⟨_, hparams, _, ⟨ps, rfl, rfl⟩, type, htype, h⟩ := h
      simp only [Json.object.injEq, exists_eq_left'] at h
      obtain ⟨size, hsize, _, himage, image, hread, _, autoDelete,
        ⟨_, gb, ⟨name, hname, rfl⟩, hgb, rfl⟩, hautoDelete, rfl⟩ := h
      rw [Json.lookup_eq_some_iff (by simp)] at hparams
      rw [Json.lookup_eq_some_iff (Identity.ne_null_of_read hread)] at himage
      exact ⟨ps, hparams, himage ▸ hread, hname, htype, ⟨size, hsize, hgb⟩, hautoDelete⟩
    · intro h
      obtain ⟨ps, hparams, himage, hname, htype, ⟨size, hsize, hgb⟩, hautoDelete⟩ := h
      refine ⟨.object ps, (Json.lookup_eq_some_iff (by simp)).mpr hparams, _, ⟨ps, rfl, rfl⟩, _,
        htype, ?_⟩
      simp only [Json.object.injEq, exists_eq_left']
      have hlookup := (Json.lookup_eq_some_iff (Identity.ne_null_of_read himage)).mpr rfl
      exact ⟨size, hsize, _, hlookup, _, himage, _, _, ⟨_, _, ⟨_, hname, rfl⟩, hgb, rfl⟩,
        hautoDelete, rfl⟩
  | _ => simp [ofPayload, Json.require]

/-- The text of a size that is not too long, if there is a size. -/
theorem sizeText_eq_ok_iff {d : CreatedDisk} {text : Option Json} :
    d.sizeText = .ok text ↔ (∀ n, d.sizeGb = some n → isLong n.1 = false) ∧
      text = d.sizeGb.map fun n => .text (n.1 : Int).repr := by
  unfold sizeText
  cases d.sizeGb with
  | none =>
    simp only [Except.ok.injEq, reduceCtorEq, false_implies, implies_true, true_and,
      Option.map_none]
    exact eq_comm
  | some n =>
    simp only [Except.map_eq_ok_iff, Payload.integerText_eq_ok_iff, Function.comp_apply,
      Option.some.injEq, forall_eq', Option.map_some]
    refine ⟨?_, ?_⟩
    · intro h
      obtain ⟨_, ⟨hn, rfl⟩, rfl⟩ := h
      exact ⟨hn, rfl⟩
    · intro h
      exact ⟨_, ⟨h.1, rfl⟩, h.2.symm⟩

theorem givesSize_map_getD {o : Option { n : Nat // 0 < n }}
    (h : ∀ n, o = some n → isLong n.1 = false) :
    GivesSize ((o.map fun n => .text (n.1 : Int).repr).getD .null) o := by
  cases o with
  | none => exact Or.inl ⟨rfl, rfl⟩
  | some n => exact Or.inr ⟨n, Payload.integer_repr (h n rfl), rfl⟩

/-- A created disk reads back from its entries, with a name and an index
after them. -/
theorem ofPayload_record {d : CreatedDisk} (himage : d.image.IsPlain)
    (htype : ∀ id, d.type = some id → id.IsPlain) {es : List (String × Option Json)}
    (h : d.entries = .ok es) (name index : Option Json) :
    ofPayload (record (es ++ [("deviceName", name), ("index", index)])) = .ok d := by
  obtain ⟨size, hsize, rfl⟩ := Except.map_eq_ok_iff.mp h
  obtain ⟨hlong, htext⟩ := sizeText_eq_ok_iff.mp hsize
  have hparams : d.parameters size = .object _ := record_eq _
  refine ofPayload_eq_ok_iff.mpr ⟨_, record_eq _, _, Eq.trans ?_ hparams, ?_, ?_, ?_, ?_, ?_⟩
  · simp [valueOf_entriesSet, List.lookup_cons]
  · simpa [valueOf_entriesSet] using Identity.read_json himage
  · simp [valueOf_entriesSet, List.lookup_cons]
  · simpa [valueOf_entriesSet, List.lookup_cons] using Identity.read_map_getD htype
  · simpa [valueOf_entriesSet, List.lookup_cons, htext] using givesSize_map_getD hlong
  · simp [valueOf_entriesSet, List.lookup_cons]

theorem allPlain_of_ofPayload {p : Json} {d : CreatedDisk} (h : ofPayload p = .ok d) :
    Identity.AllPlain (DiskConfiguration.create d).identities := by
  obtain ⟨_, -, _, -, himage, -, htype, -⟩ := ofPayload_eq_ok_iff.mp h
  rw [DiskConfiguration.identities, Identity.allPlain_cons, Identity.allPlain_listed]
  exact ⟨Identity.isPlain_of_read himage, Identity.isPlain_of_ifSet_read htype⟩

end CreatedDisk

namespace ScratchDisk

/-- Scratch space is read field by field; its type stands in its parameters,
which may be blank. -/
theorem ofPayload_eq_ok_iff {p : Json} {d : ScratchDisk} :
    ofPayload p = .ok d ↔ ∃ es, p = .object es ∧
      ifSet (Choice.read DiskInterface "interface") (valueOf es "interface") = .ok d.interface ∧
      (((valueOf es "initializeParams").isBlank = true ∧ d.type = none) ∨
        ∃ ps, valueOf es "initializeParams" = .object ps ∧
          ifSet (Identity.read .diskType) (valueOf ps "diskType") = .ok d.type) := by
  cases p with
  | object es =>
    simp only [ofPayload, Json.get_object, Except.ok_bind, Except.bind_eq_ok_iff, Except.pure_eq,
      Json.object.injEq, exists_eq_left']
    generalize valueOf es "initializeParams" = params
    refine ⟨?_, ?_⟩
    · intro h
      obtain ⟨interface, hinterface, value, hvalue, type, htype, heq⟩ := h
      cases heq
      refine ⟨hinterface, ?_⟩
      by_cases hblank : params.isBlank = true
      · rw [if_pos hblank, Json.get_object, Except.ok.injEq] at hvalue
        subst hvalue
        exact Or.inl ⟨hblank, (Except.ok.inj htype).symm⟩
      · rw [if_neg hblank, Json.get_eq_ok_iff] at hvalue
        obtain ⟨ps, hps, rfl⟩ := hvalue
        exact Or.inr ⟨ps, hps, htype⟩
    · intro h
      obtain ⟨hinterface, htype⟩ := h
      rcases htype with ⟨hblank, hnone⟩ | ⟨ps, rfl, htype⟩
      · refine ⟨_, hinterface, .null, ?_, none, rfl, by rw [← hnone]⟩
        rw [if_pos hblank]
        rfl
      · refine ⟨_, hinterface, valueOf ps "diskType", ?_, _, htype, rfl⟩
        cases ps <;> rfl
  | _ => simp [ofPayload, Json.get]

/-- Scratch space reads back from its entries, with a name and an index after
them. -/
theorem ofPayload_record {d : ScratchDisk} (h : ∀ id, d.type = some id → id.IsPlain)
    (name index : Option Json) :
    ofPayload (record (d.entries ++ [("deviceName", name), ("index", index)])) = .ok d := by
  refine ofPayload_eq_ok_iff.mpr ⟨_, record_eq _, ?_, ?_⟩
  · simpa [entries, valueOf_entriesSet, List.lookup_cons] using Choice.read_map_getD _ d.interface
  · cases htype : d.type with
    | none =>
      refine Or.inl ⟨?_, rfl⟩
      simp [entries, valueOf_entriesSet, List.lookup_cons, htype]
      rfl
    | some t =>
      refine Or.inr ⟨[("diskType", t.json)], ?_, ?_⟩
      · simp [entries, valueOf_entriesSet, List.lookup_cons, htype]
        rfl
      · simpa [valueOf] using Identity.read_map_getD (o := some t) (htype ▸ h)

theorem allPlain_of_ofPayload {p : Json} {d : ScratchDisk} (h : ofPayload p = .ok d) :
    Identity.AllPlain (DiskConfiguration.scratch d).identities := by
  obtain ⟨_, -, -, htype⟩ := ofPayload_eq_ok_iff.mp h
  rw [DiskConfiguration.identities, Identity.allPlain_listed]
  rcases htype with ⟨-, hnone⟩ | ⟨_, -, htype⟩
  · simp [hnone]
  · exact Identity.isPlain_of_ifSet_read htype

end ScratchDisk

/-! ### Disks of any kind -/

namespace DiskConfiguration

/-- The type that the entries tell, that of a persistent disk if they tell
none. -/
def sortIn (es : List (Text × Json)) : Json :=
  (es.lookup (.unicode "type")).getD (Choice.json DiskSort.persistent)

/-- The type of a disk is read first, and nothing else of a disk whose type
cannot be read. -/
theorem exists_sort_of_ofPayload {es : List (Text × Json)} {c : DiskConfiguration}
    (h : ofPayload (.object es) = .ok c) :
    ∃ sort : DiskSort, sortIn es = Choice.json sort := by
  change Choice.read DiskSort "disk type" (sortIn es) >>= _ = _ at h
  obtain ⟨sort, hread, -⟩ := Except.bind_eq_ok_iff.mp h
  exact ⟨sort, Choice.read_eq_ok_iff.mp hread⟩

section Sorts

variable {es : List (Text × Json)}

theorem ofPayload_of_scratch (h : sortIn es = Choice.json DiskSort.scratch) :
    ofPayload (.object es) = DiskConfiguration.scratch <$> ScratchDisk.ofPayload (.object es) := by
  have hread : Choice.read DiskSort "disk type" (sortIn es) = .ok .scratch :=
    Choice.read_eq_ok_iff.mpr h
  change Choice.read DiskSort "disk type" (sortIn es) >>= _ = _
  rw [hread]
  rfl

theorem ofPayload_of_persistent (h : sortIn es = Choice.json DiskSort.persistent) :
    ofPayload (.object es) =
      if valueOf es "initializeParams" = .null then
        DiskConfiguration.persistent <$> PersistentDisk.ofPayload (.object es)
      else DiskConfiguration.create <$> CreatedDisk.ofPayload (.object es) := by
  have hread : Choice.read DiskSort "disk type" (sortIn es) = .ok .persistent :=
    Choice.read_eq_ok_iff.mpr h
  change Choice.read DiskSort "disk type" (sortIn es) >>= _ = _
  rw [hread]
  rfl

end Sorts

/-- The kind of a disk follows from its type and from whether there are
parameters. -/
theorem ofPayload_eq_ok_iff {es : List (Text × Json)} {c : DiskConfiguration} :
    ofPayload (.object es) = .ok c ↔
      (sortIn es = Choice.json DiskSort.persistent ∧ valueOf es "initializeParams" = .null ∧
        ∃ d, PersistentDisk.ofPayload (.object es) = .ok d ∧ c = .persistent d) ∨
      (sortIn es = Choice.json DiskSort.persistent ∧ valueOf es "initializeParams" ≠ .null ∧
        ∃ d, CreatedDisk.ofPayload (.object es) = .ok d ∧ c = .create d) ∨
      (sortIn es = Choice.json DiskSort.scratch ∧
        ∃ d, ScratchDisk.ofPayload (.object es) = .ok d ∧ c = .scratch d) := by
  refine ⟨?_, ?_⟩
  · intro h
    obtain ⟨sort, hsort⟩ := exists_sort_of_ofPayload h
    cases sort with
    | scratch =>
      rw [ofPayload_of_scratch hsort] at h
      obtain ⟨d, hd, rfl⟩ := Except.map_eq_ok_iff.mp h
      exact Or.inr (Or.inr ⟨hsort, d, hd, rfl⟩)
    | persistent =>
      rw [ofPayload_of_persistent hsort] at h
      by_cases hnull : valueOf es "initializeParams" = .null
      · rw [if_pos hnull] at h
        obtain ⟨d, hd, rfl⟩ := Except.map_eq_ok_iff.mp h
        exact Or.inl ⟨hsort, hnull, d, hd, rfl⟩
      · rw [if_neg hnull] at h
        obtain ⟨d, hd, rfl⟩ := Except.map_eq_ok_iff.mp h
        exact Or.inr (Or.inl ⟨hsort, hnull, d, hd, rfl⟩)
  · intro h
    rcases h with ⟨hsort, hnull, d, hd, rfl⟩ | ⟨hsort, hnull, d, hd, rfl⟩ | ⟨hsort, d, hd, rfl⟩
    · rw [ofPayload_of_persistent hsort, if_pos hnull, hd]
      rfl
    · rw [ofPayload_of_persistent hsort, if_neg hnull, hd]
      rfl
    · rw [ofPayload_of_scratch hsort, hd]
      rfl

/-- The identities of a configuration that was read are plain. -/
theorem allPlain_of_ofPayload {es : List (Text × Json)} {c : DiskConfiguration}
    (h : ofPayload (.object es) = .ok c) : Identity.AllPlain c.identities := by
  rcases ofPayload_eq_ok_iff.mp h with ⟨-, -, d, hd, rfl⟩ | ⟨-, -, d, hd, rfl⟩ | ⟨-, d, hd, rfl⟩
  · exact PersistentDisk.allPlain_of_ofPayload hd
  · exact CreatedDisk.allPlain_of_ofPayload hd
  · exact ScratchDisk.allPlain_of_ofPayload hd

/-- A configuration has entries unless its size is too long. -/
theorem exists_entries_eq_ok_iff {c : DiskConfiguration} :
    (∃ es, c.entries = .ok es) ↔ ∀ n, c.sizeGb? = some n → isLong n.1 = false := by
  cases c with
  | create d =>
    refine ⟨?_, ?_⟩
    · intro h
      obtain ⟨es, hes⟩ := h
      obtain ⟨size, hsize, -⟩ := Except.map_eq_ok_iff.mp hes
      exact (CreatedDisk.sizeText_eq_ok_iff.mp hsize).1
    · intro h
      have hsize : d.sizeText = .ok _ := CreatedDisk.sizeText_eq_ok_iff.mpr ⟨h, rfl⟩
      exact ⟨_, Except.map_eq_ok_iff.mpr ⟨_, hsize, rfl⟩⟩
  | persistent d => exact ⟨fun _ n hn => (by cases hn), fun _ => ⟨_, rfl⟩⟩
  | scratch d => exact ⟨fun _ n hn => (by cases hn), fun _ => ⟨_, rfl⟩⟩

/-- A configuration with plain identities reads back from its entries, with a
name and an index after them. -/
theorem ofPayload_record {c : DiskConfiguration} (h : Identity.AllPlain c.identities)
    {es : List (String × Option Json)} (hes : c.entries = .ok es) (name index : Option Json) :
    ofPayload (record (es ++ [("deviceName", name), ("index", index)])) = .ok c := by
  rw [record_eq, ofPayload_eq_ok_iff]
  cases c with
  | persistent d =>
    cases hes
    rw [identities, Identity.allPlain_cons] at h
    refine Or.inl ⟨?_, ?_, d, PersistentDisk.ofPayload_record h.1 name index, rfl⟩
    · rfl
    · simp [PersistentDisk.entries, valueOf_entriesSet, List.lookup_cons]
  | create d =>
    rw [identities, Identity.allPlain_cons, Identity.allPlain_listed] at h
    have hread := CreatedDisk.ofPayload_record h.1 h.2 hes name index
    obtain ⟨size, hsize, rfl⟩ := Except.map_eq_ok_iff.mp hes
    refine Or.inr (Or.inl ⟨?_, ?_, d, hread, rfl⟩)
    · rfl
    · simp [CreatedDisk.parameters, record, valueOf_entriesSet, List.lookup_cons]
  | scratch d =>
    cases hes
    rw [identities, Identity.allPlain_listed] at h
    refine Or.inr (Or.inr ⟨?_, d, ScratchDisk.ofPayload_record h name index, rfl⟩)
    rfl

/-- No configuration has an entry for the name or the index. -/
theorem valueOf_after_entries {c : DiskConfiguration} {es : List (String × Option Json)}
    (hes : c.entries = .ok es) (name index : Option Json) :
    let all := entriesSet (es ++ [("deviceName", name), ("index", index)])
    valueOf all "deviceName" = name.getD .null ∧ valueOf all "index" = index.getD .null := by
  cases c with
  | persistent d =>
    cases hes
    simp [PersistentDisk.entries, valueOf_entriesSet, List.lookup_cons]
  | create d =>
    obtain ⟨size, -, rfl⟩ := Except.map_eq_ok_iff.mp hes
    simp [valueOf_entriesSet, List.lookup_cons]
  | scratch d =>
    cases hes
    simp [ScratchDisk.entries, valueOf_entriesSet, List.lookup_cons]

end DiskConfiguration

namespace AttachedDisk

/-- What an index may be worth. -/
abbrev GivesIndex (v : Json) (o : Option Nat) : Prop :=
  Payload.GivesNumber "disk index" (fun i : Nat => (i : Int)) v o

theorem exists_ifSet_index_iff {v : Json} {o : Option Nat} :
    (∃ n, ifSet (Payload.integer "disk index") v = .ok n ∧ checkIndex n = .ok o) ↔
      GivesIndex v o :=
  Payload.exists_ifSet_integer_iff checkIndex rfl (fun _ => rfl) naturalOf_eq_ok_iff

/-- A disk is read field by field. -/
theorem ofPayload_eq_ok_iff {p : Json} {d : AttachedDisk} :
    ofPayload p = .ok d ↔ ∃ es, p = .object es ∧
      DiskConfiguration.ofPayload (.object es) = .ok d.configuration ∧
      nullable text (valueOf es "deviceName") = .ok d.deviceName ∧
      GivesIndex (valueOf es "index") d.index := by
  simp only [← exists_ifSet_index_iff]
  cases p with
  | object es =>
    simp only [ofPayload, Json.get_object, Except.ok_bind, Except.bind_eq_ok_iff,
      Check.orInvalid_eq_ok_iff, seq_eq_ok_iff, map_eq_ok_iff, field_eq_ok_iff, Json.object.injEq,
      exists_eq_left']
    refine ⟨?_, ?_⟩
    · intro h
      obtain ⟨c, hc, n, hn, _, index, ⟨name, hname, rfl⟩, hindex, rfl⟩ := h
      exact ⟨hc, hname, n, hn, hindex⟩
    · intro h
      obtain ⟨hc, hname, n, hn, hindex⟩ := h
      exact ⟨_, hc, n, hn, _, _, ⟨_, hname, rfl⟩, hindex, rfl⟩
  | _ => simp [ofPayload, DiskConfiguration.ofPayload, Json.entry?]

/-- The identities of a disk that was read are plain. -/
theorem allPlain_of_ofPayload {p : Json} {d : AttachedDisk} (h : ofPayload p = .ok d) :
    Identity.AllPlain d.configuration.identities := by
  obtain ⟨es, -, hc, -⟩ := ofPayload_eq_ok_iff.mp h
  exact DiskConfiguration.allPlain_of_ofPayload hc

/-- A disk has a payload unless its size is too long. -/
theorem exists_payload_eq_ok_iff {d : AttachedDisk} :
    (∃ p, d.payload = .ok p) ↔ ∀ n, d.configuration.sizeGb? = some n → isLong n.1 = false := by
  rw [← DiskConfiguration.exists_entries_eq_ok_iff]
  refine ⟨?_, ?_⟩
  · intro h
    obtain ⟨p, hp⟩ := h
    obtain ⟨es, hes, -⟩ := Except.map_eq_ok_iff.mp hp
    exact ⟨es, hes⟩
  · intro h
    obtain ⟨es, hes⟩ := h
    exact ⟨_, Except.map_eq_ok_iff.mpr ⟨es, hes, rfl⟩⟩

/-- A disk with plain identities reads back from its payload. -/
theorem ofPayload_of_payload {d : AttachedDisk} {p : Json}
    (h : Identity.AllPlain d.configuration.identities) (hp : d.payload = .ok p) :
    ofPayload p = .ok d := by
  obtain ⟨es, hes, rfl⟩ := Except.map_eq_ok_iff.mp hp
  have hread := DiskConfiguration.ofPayload_record h hes (d.deviceName.map .text)
    (d.index.map fun i : Nat => .int i)
  obtain ⟨hname, hindex⟩ := DiskConfiguration.valueOf_after_entries hes (d.deviceName.map .text)
    (d.index.map fun i : Nat => .int i)
  refine ofPayload_eq_ok_iff.mpr ⟨_, record_eq _, hread, ?_, ?_⟩
  · rw [hname]
    exact nullable_text_map_getD _
  · rw [hindex]
    cases d.index with
    | none => exact Or.inl ⟨rfl, rfl⟩
    | some i => exact Or.inr ⟨i, rfl, rfl⟩

end AttachedDisk

end VmResource
