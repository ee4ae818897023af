/-
# The disks to start from

Which disks an instance starts from is told in more than one place: by its
disks, by the entries of its payload, by the first disk that is found, and by
the warning about their number. All of them agree, and no way of copying an
instance changes them. Reading a payload leaves the same records as the
instance that it comes to: the warning if one is due, and a record of the
link; a reading that fails leaves the warning at most.

Key definitions: `Json.SaysBoot`, `Instance.bootFlags`,
`Instance.IsFirstBoot`, `Instance.bootRecords`.
Key theorems: `DiskConfiguration.isBoot_of_written`,
`Instance.records_of_ofPayload`, `Instance.boot_disks_agree`.
-/
import VmResource.Proofs.BuildOutcome
import VmResource.Proofs.Rebinding
import VmResource.Proofs.RoundTrip

namespace VmResource

open Json (valueOf entriesSet record)

/-- The payload of a disk says that an instance starts from it. -/
def Json.SaysBoot (p : Json) : Prop :=
  ∃ es, p = .object es ∧ es.lookup (.unicode "boot") = some (.bool true)

namespace DiskConfiguration

/-! ### One disk -/

/-- A disk is written as one to start from exactly if it is one. -/
theorem valueOf_boot {c : DiskConfiguration} {es : List (String × Option Json)}
    (hes : c.entries = .ok es) (name index : Option Json) :
    valueOf (entriesSet (es ++ [("deviceName", name), ("index", index)])) "boot" = .bool true ↔
      c.isBoot = true := by
  cases c with
  | persistent d =>
    cases hes
    obtain ⟨source, mode, boot, autoDelete⟩ := d
    cases boot <;>
      simp [PersistentDisk.entries, Json.valueOf_entriesSet, List.lookup_cons, isBoot]
  | create d =>
    obtain ⟨size, -, rfl⟩ := Except.map_eq_ok_iff.mp hes
    simp [Json.valueOf_entriesSet, List.lookup_cons, isBoot]
  | scratch d =>
    cases hes
    simp [ScratchDisk.entries, Json.valueOf_entriesSet, List.lookup_cons, isBoot]

/-- A disk that is read from what was written of another is one to start from
if the other is, whatever became of its identities. -/
theorem isBoot_of_written {c c' : DiskConfiguration} {es : List (String × Option Json)}
    (hes : c.entries = .ok es) (name index : Option Json)
    (h : ofPayload (record (es ++ [("deviceName", name), ("index", index)])) = .ok c') :
    c'.isBoot = c.isBoot := by
  have hsorts : Choice.json DiskSort.persistent ≠ Choice.json DiskSort.scratch := by decide
  rw [Json.record_eq, ofPayload_eq_ok_iff] at h
  cases c with
  | persistent d =>
    cases hes
    rcases h with ⟨-, -, d', hd', rfl⟩ | ⟨-, hparameters, -⟩ | ⟨hsort, -⟩
    · obtain ⟨_, hall, -, -, hboot, -⟩ := PersistentDisk.ofPayload_eq_ok_iff.mp hd'
      obtain rfl := Json.object.inj hall
      have hwritten : Check.nullable Check.flag _ = .ok d.boot :=
        Check.nullable_flag_map_getD d.boot
      rw [Json.valueOf_entriesSet _ (by simp [PersistentDisk.entries])] at hboot
      exact congrArg (·.getD false) (Check.ok.inj (hboot.symm.trans hwritten))
    · simp [PersistentDisk.entries, Json.valueOf_entriesSet, List.lookup_cons] at hparameters
    · exact absurd hsort hsorts
  | create d =>
    obtain ⟨size, -, rfl⟩ := Except.map_eq_ok_iff.mp hes
    rcases h with ⟨-, hnull, -⟩ | ⟨-, -, d', -, rfl⟩ | ⟨hsort, -⟩
    · simp [CreatedDisk.parameters, record, Json.valueOf_entriesSet, List.lookup_cons] at hnull
    · rfl
    · exact absurd hsort hsorts
  | scratch d =>
    cases hes
    rcases h with ⟨hsort, -⟩ | ⟨hsort, -⟩ | ⟨-, d', -, rfl⟩
    · exact absurd hsort hsorts.symm
    · exact absurd hsort hsorts.symm
    · rfl

theorem isBoot_withProject (project previous : Option Text) (c : DiskConfiguration) :
    (c.withProject project previous).isBoot = c.isBoot := by
  cases c <;> rfl

end DiskConfiguration

namespace AttachedDisk

variable {d e : AttachedDisk} {p : Json}

theorem saysBoot_iff (h : d.payload = .ok p) : p.SaysBoot ↔ d.isBoot = true := by
  obtain ⟨es, hes, rfl⟩ := Except.map_eq_ok_iff.mp h
  have hboot := DiskConfiguration.valueOf_boot hes (d.deviceName.map .text)
    (d.index.map fun i : Nat => .int i)
  rw [← Json.lookup_eq_some_iff (by simp)] at hboot
  rw [isBoot]
  simpa only [Json.SaysBoot, Json.record_eq, Json.object.injEq, exists_eq_left'] using hboot

theorem isBoot_of_payload (h : d.payload = .ok p) (he : ofPayload p = .ok e) :
    e.isBoot = d.isBoot := by
  obtain ⟨es, hes, rfl⟩ := Except.map_eq_ok_iff.mp h
  obtain ⟨_, hall, hc, -⟩ := ofPayload_eq_ok_iff.mp he
  rw [← hall] at hc
  exact DiskConfiguration.isBoot_of_written hes _ _ hc

theorem map_isBoot_of_payload : ∀ {ds es : List AttachedDisk} {js : List Json},
    List.Forall₂ (fun d j => AttachedDisk.payload d = .ok j) ds js →
    List.Forall₂ (fun j e => AttachedDisk.ofPayload j = .ok e) js es →
      es.map isBoot = ds.map isBoot
  | [], _, _, .nil, .nil => rfl
  | _ :: _, _, _, .cons h hs, .cons he hes => by
    rw [List.map_cons, List.map_cons, isBoot_of_payload h he, map_isBoot_of_payload hs hes]

end AttachedDisk

namespace Instance

/-! ### The disks of an instance -/

/-- Which disks an instance starts from, in their order. -/
def bootFlags (x : Instance) : List Bool := x.disks.map AttachedDisk.isBoot

/-- The disk is one to start from, and no disk before it is. -/
def IsFirstBoot (x : Instance) (d : AttachedDisk) : Prop :=
  ∃ before after, x.disks = before ++ d :: after ∧ d.isBoot = true ∧
    ∀ e ∈ before, e.isBoot = false

theorem bootDisk?_eq_some_iff {x : Instance} {d : AttachedDisk} :
    x.bootDisk? = some d ↔ x.IsFirstBoot d := by
  simp only [bootDisk?, List.find?_eq_some_iff_append, IsFirstBoot, Bool.not_eq_true']
  exact ⟨fun ⟨hd, before, after, h, hbefore⟩ => ⟨before, after, h, hd, hbefore⟩,
    fun ⟨before, after, h, hd, hbefore⟩ => ⟨hd, before, after, h, hbefore⟩⟩

theorem bootDisk?_eq_none_iff {x : Instance} :
    x.bootDisk? = none ↔ ∀ d ∈ x.disks, d.isBoot = false := by
  simp only [bootDisk?, List.find?_eq_none, Bool.not_eq_true]

theorem bootFlags_of_withProject {x y : Instance} {project : Option Text}
    (h : (x.withProject project).outcome = .ok y) : y.bootFlags = x.bootFlags := by
  cases project with
  | none => cases h
  | some p =>
    by_cases hp : p = ""
    · simp only [withProject, if_pos hp] at h
      cases h
    · rw [withProject_of_ne hp] at h
      obtain rfl := Except.ok.inj h
      rw [bootFlags, moved, List.map_map, bootFlags]
      exact List.map_congr_left fun d _ => DiskConfiguration.isBoot_withProject _ _ d.configuration

/-- The payload of an instance has the payloads of its disks in their order. -/
theorem exists_disks_of_payload {x : Instance} {p : Json} (h : x.payload = .ok p) :
    ∃ es js, p = .object es ∧ valueOf es "disks" = .list js ∧
      List.Forall₂ (fun d j => AttachedDisk.payload d = .ok j) x.disks js := by
  obtain ⟨zone, js, created, -, hjs, -, rfl⟩ := payload_eq_ok_iff.mp h
  refine ⟨_, js, Json.record_eq _, ?_, hjs⟩
  rw [valueOf_payloadEntries]
  simp [payloadEntries, List.lookup_cons]

/-- The payload of an instance tells of each disk whether to start from it. -/
theorem saysBoot_of_payload {x : Instance} {p : Json} (h : x.payload = .ok p) :
    ∃ es js, p = .object es ∧ es.lookup (.unicode "disks") = some (.list js) ∧
      List.Forall₂ (fun d j => d.isBoot = true ↔ Json.SaysBoot j) x.disks js := by
  obtain ⟨es, js, rfl, hlist, hjs⟩ := exists_disks_of_payload h
  exact ⟨es, js, rfl, (Json.lookup_eq_some_iff (by simp)).mpr hlist,
    hjs.imp fun _ _ hj => (AttachedDisk.saysBoot_iff hj).symm⟩

/-- An instance that is read from the payload of another starts from the same
disks. -/
theorem bootFlags_of_ofPayload {x y : Instance} {p : Json} (h : x.payload = .ok p)
    (hy : (ofPayload p).outcome = .ok y) : y.bootFlags = x.bootFlags := by
  obtain ⟨es, js, rfl, hlist, hjs⟩ := exists_disks_of_payload h
  obtain ⟨_, hall, hread⟩ := ofPayload_eq_ok_iff.mp hy
  obtain rfl := Json.object.inj hall
  obtain ⟨js', hlist', hjs'⟩ := hread.disks
  obtain rfl := Json.list.inj (hlist.symm.trans hlist')
  exact AttachedDisk.map_isBoot_of_payload hjs hjs'

/-! ### Records -/

/-- The records about the disks to start from: a warning unless there is
exactly one. -/
def bootRecords (id : Identity .vm) (ds : List AttachedDisk) : List Record :=
  if ds.countP AttachedDisk.isBoot = 1 then []
  else [⟨.warning, "Instance " ++ id.name ++ " has " ++ toString (ds.countP AttachedDisk.isBoot) ++
    " boot disks, expected exactly one"⟩]

theorem eq_bootRecords_of_warns {id : Identity .vm} {ds : List AttachedDisk}
    {records : List Record}
    (h : Builder.Warns ((ds.map fun d => Value.resource (.disk d)).countP Value.boots)
      (.ofIdentity id) records) : records = bootRecords id ds := by
  have hcount : (ds.map fun d => Value.resource (.disk d)).countP Value.boots =
      ds.countP AttachedDisk.isBoot := List.countP_map
  rw [hcount] at h
  unfold bootRecords
  split
  · next hone => exact h.1 hone
  · next hne =>
    obtain ⟨name, hname, hrecords⟩ := h.2 hne
    obtain ⟨id', hid, hname'⟩ := Value.property_instance_eq_ok_iff.mp hname
    cases hid
    cases hname'
    exact hrecords

/-- Building from a draft fails without a record, or checks the fields with
the records about the disks. -/
theorem Draft.build_cases (d : Draft) : (∃ e, d.builder.build = .failed e) ∨
    ∃ ds, d.disks = some ds ∧ d.builder.build =
      ⟨(checkFields fun f => some (d.builder.staged f)).orInvalid "InstanceInfo",
        bootRecords d.id ds⟩ := by
  have hends : Builder.Ends d.builder.staged d.builder.build :=
    Builder.ends_build (Value.null_or_list_ofOption _ d.disks)
  generalize d.builder.build = t at hends ⊢
  cases hends with
  | noDisks => exact Or.inl ⟨_, rfl⟩
  | noInterfaces => exact Or.inl ⟨_, rfl⟩
  | uncounted => exact Or.inl ⟨_, rfl⟩
  | checked hdisks _ _ hrecords =>
    cases hds : d.disks with
    | none => exact absurd (by simp [Draft.builder, hds, Value.ofOption]) hdisks
    | some ds =>
      have hlist : d.builder.staged .disks = .list (ds.map fun d => .resource (.disk d)) := by
        simp [Draft.builder, hds, Value.ofOption]
      rw [hlist] at hrecords
      exact Or.inr ⟨ds, rfl, by rw [eq_bootRecords_of_warns hrecords]⟩

/-- The disks of a draft are read one by one. -/
theorem Draft.exists_disks_of_read {es : List (Text × Json)} {d : Draft}
    {ds : List AttachedDisk} (h : read es = .ok d) (hds : d.disks = some ds) :
    ∃ js, valueOf es "disks" = .list js ∧
      List.Forall₂ (fun j d => AttachedDisk.ofPayload j = .ok d) js ds := by
  simp only [read, Except.bind_eq_ok_iff, Except.pure_eq, Except.ok.injEq] at h
  obtain ⟨_, -, _, -, _, -, _, -, _, -, _, -, _, -, disks, hdisks, _, -, _, -, _, -, rfl⟩ := h
  obtain rfl : disks = some ds := hds
  exact Payload.ifSet_parts_eq_some_iff.mp hdisks

/-- What reading a payload comes to: a failure without a record, or what
checking the fields of a draft comes to, with the records about its disks. -/
theorem ofPayload_cases (p : Json) : (∃ e, ofPayload p = .failed e) ∨
    ∃ es, ∃ d : Draft, ∃ ds js, p = .object es ∧ d.disks = some ds ∧
      valueOf es "disks" = .list js ∧
      List.Forall₂ (fun j d => AttachedDisk.ofPayload j = .ok d) js ds ∧
      (∀ x, checkFields (fun f => some (d.builder.staged f)) = .ok x → d.Makes x) ∧
      ofPayload p =
        match checkFields fun f => some (d.builder.staged f) with
        | .ok x => ⟨.ok x, bootRecords d.id ds ++
            [⟨.debug, "Mapped instance payload " ++ x.selfLink⟩]⟩
        | .refused vs =>
          ⟨.error (.malformed .invalidInstance (some (.invalid "InstanceInfo" vs))),
            bootRecords d.id ds⟩ := by
  cases hb : Builder.ofPayload p with
  | error e =>
    refine Or.inl ⟨e, ?_⟩
    simp only [ofPayload, hb]
  | ok b =>
    cases p with
    | object es =>
      obtain ⟨d, hd, rfl⟩ := Builder.ofPayload_eq_ok_iff.mp hb
      rcases d.build_cases with ⟨e, he⟩ | ⟨ds, hds, hbuild⟩
      · refine Or.inl ⟨buildError e, ?_⟩
        simp only [ofPayload, hb, he]
        rfl
      · obtain ⟨js, hjs, hread⟩ := Draft.exists_disks_of_read hd hds
        have hmakes : ∀ x, checkFields (fun f => some (d.builder.staged f)) = .ok x →
            d.Makes x := by
          intro x hx
          rw [← Draft.build_outcome_eq_ok_iff, hbuild, hx, Check.orInvalid_ok]
        refine Or.inr ⟨es, d, ds, js, rfl, hds, hjs, hread, hmakes, ?_⟩
        simp only [ofPayload, hb, hbuild]
        cases checkFields fun f => some (d.builder.staged f) <;> rfl
    | _ => cases hb

/-- A payload that is read leaves the records about the disks, and one of its
link. -/
theorem records_of_ofPayload {p : Json} {x : Instance} (h : (ofPayload p).outcome = .ok x) :
    (ofPayload p).records =
      bootRecords x.id x.disks ++ [⟨.debug, "Mapped instance payload " ++ x.selfLink⟩] := by
  rcases ofPayload_cases p with ⟨e, he⟩ | ⟨es, d, ds, js, -, hds, -, -, hmakes, hread⟩
  · rw [he] at h
    cases h
  · cases hcheck : checkFields fun f => some (d.builder.staged f) with
    | refused vs =>
      simp only [hread, hcheck] at h
      cases h
    | ok y =>
      simp only [hread, hcheck] at h ⊢
      obtain rfl := Except.ok.inj h
      obtain ⟨hid, -, -, hdisks, -⟩ := hmakes y hcheck
      rw [hid, Option.some.inj (hds.symm.trans hdisks)]

/-- A payload that is not read leaves no record, or a warning about its disks
if what failed were the rules of an instance. -/
theorem records_of_ofPayload_error {p : Json} {e : Error} (h : (ofPayload p).outcome = .error e) :
    (ofPayload p).records = [] ∨ ∃ vs es id js ds,
      e = .malformed .invalidInstance (some (.invalid "InstanceInfo" vs)) ∧ p = .object es ∧
      valueOf es "disks" = .list js ∧
      List.Forall₂ (fun j d => AttachedDisk.ofPayload j = .ok d) js ds ∧
      (ofPayload p).records = bootRecords id ds := by
  rcases ofPayload_cases p with ⟨e', he⟩ | ⟨es, d, ds, js, rfl, -, hjs, hdisks, -, hread⟩
  · exact Or.inl (by rw [he, Traced.failed])
  · cases hcheck : checkFields fun f => some (d.builder.staged f) with
    | ok y =>
      simp only [hread, hcheck] at h
      cases h
    | refused vs =>
      simp only [hread, hcheck] at h ⊢
      exact Or.inr ⟨vs, es, d.id, js, ds, (Except.error.inj h).symm, rfl, hjs, hdisks, rfl⟩

/-- **The places that tell of boot disks agree.** In the payload of an
instance each disk says that the instance starts from it exactly if it does;
the boot disk is the first one that does, and there is none only if none
does; and an instance that is moved, built again or read from its payload
starts from the same disks. A payload that is read leaves a warning if the
disks to start from are not one, then one record of the link; a payload that
is not read leaves nothing, or the warning alone if the rules of an instance
were what failed, after its disks were read and were not one to start from. -/
theorem boot_disks_agree :
    (∀ x : Instance,
      (∀ p, x.payload = .ok p → ∃ es js, p = .object es ∧
        es.lookup (.unicode "disks") = some (.list js) ∧
        List.Forall₂ (fun d j => d.isBoot = true ↔ Json.SaysBoot j) x.disks js) ∧
      (∀ d, x.bootDisk? = some d ↔ x.IsFirstBoot d) ∧
      (x.bootDisk? = none ↔ ∀ d ∈ x.disks, d.isBoot = false) ∧
      (∀ project y, (x.withProject project).outcome = .ok y → y.bootFlags = x.bootFlags) ∧
      (∃ y, (Builder.ofInstance x).build.outcome = .ok y ∧ y.bootFlags = x.bootFlags) ∧
      ∀ p y, x.payload = .ok p → (ofPayload p).outcome = .ok y → y.bootFlags = x.bootFlags) ∧
    ∀ p,
      (∀ x, (ofPayload p).outcome = .ok x → (ofPayload p).records =
        (if x.disks.countP AttachedDisk.isBoot = 1 then []
          else [⟨.warning, "Instance " ++ x.id.name ++ " has " ++
            toString (x.disks.countP AttachedDisk.isBoot) ++
            " boot disks, expected exactly one"⟩]) ++
          [⟨.debug, "Mapped instance payload " ++ x.selfLink⟩]) ∧
      ∀ e, (ofPayload p).outcome = .error e → (ofPayload p).records = [] ∨
        ∃ vs es js ds warning, e = .malformed .invalidInstance (some (.invalid "InstanceInfo" vs)) ∧
          p = .object es ∧ es.lookup (.unicode "disks") = some (.list js) ∧
          List.Forall₂ (fun j d => AttachedDisk.ofPayload j = .ok d) js ds ∧
          ds.countP AttachedDisk.isBoot ≠ 1 ∧ (ofPayload p).records = [⟨.warning, warning⟩] := by
  refine ⟨fun x => ⟨fun p => saysBoot_of_payload, fun d => bootDisk?_eq_some_iff,
    bootDisk?_eq_none_iff, fun project y => bootFlags_of_withProject,
    ⟨x, Builder.build_ofInstance x, rfl⟩, fun p y => bootFlags_of_ofPayload⟩, ?_⟩
  intro p
  refine ⟨fun x => records_of_ofPayload, ?_⟩
  intro e h
  rcases records_of_ofPayload_error h with
    hnone | ⟨vs, es, id, js, ds, he, hp, hjs, hdisks, hrecords⟩
  · exact Or.inl hnone
  · unfold bootRecords at hrecords
    split at hrecords
    · exact Or.inl hrecords
    · next hne =>
      exact Or.inr ⟨vs, es, js, ds, _, he, hp, (Json.lookup_eq_some_iff (by simp)).mpr hjs, hdisks,
        hne, hrecords⟩

/-- A payload with two disks to start from, and with scratch space, is read. It
leaves the warning and the record of the link, and the instance starts from the
first disk. -/
theorem records_dated : ∃ x, (ofPayload (dated "2020-02-29T12:00:00Z")).outcome = .ok x ∧
    x.bootFlags = [true, true, false] ∧ (∃ d, x.bootDisk? = some d ∧ x.IsFirstBoot d) ∧
    (ofPayload (dated "2020-02-29T12:00:00Z")).records =
      [⟨.warning, "Instance store has 2 boot disks, expected exactly one"⟩,
        ⟨.debug, "Mapped instance payload " ++
          "https://www.googleapis.com/compute/v1/projects/p/zones/eu-1/instances/store"⟩] := by
  obtain ⟨hinstances, hpayloads⟩ := boot_disks_agree
  obtain ⟨x, hx, hflags, d, hd, hcount, hid⟩ : ∃ x,
      (ofPayload (dated "2020-02-29T12:00:00Z")).outcome = .ok x ∧
      x.bootFlags = [true, true, false] ∧ ∃ d, x.bootDisk? = some d ∧
      x.disks.countP AttachedDisk.isBoot = 2 ∧ x.id = furnished.id := by
    refine ⟨createdAt 1582977600000, rfl, rfl, _, rfl, rfl, rfl⟩
  obtain ⟨-, hfirst, -⟩ := hinstances x
  refine ⟨x, hx, hflags, ⟨d, hd, (hfirst d).mp hd⟩, ?_⟩
  rw [(hpayloads _).1 x hx, hcount, selfLink, hid]
  rfl

end Instance
end VmResource
