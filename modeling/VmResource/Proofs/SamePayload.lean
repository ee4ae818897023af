/-
# Payloads tell instances apart

Instances count as equal when their payloads are. A payload has the link of
its instance, so instances that count as equal have one link, and with it one
hash. If no part of an identity holds a `/`, every field of an instance is
told by what stands under its key, and the kind of a disk by which keys there
are: then only instances that agree in every field count as equal.

Key definitions: `Identity.AllSlashFree`.
Key theorems: `Json.eq_of_map_getD_eq`, `DiskConfiguration.eq_of_record_eq`,
`Instance.eq_of_payload_eq`, `Instance.samePayload_tells_apart`.
-/
import VmResource.Proofs.LinkGrammar
import VmResource.Proofs.RoundTrip

namespace VmResource

open Json (valueOf entriesSet valueOf_entriesSet record_eq record texts)

/-! ### What is told by a value -/

/-- What reads back is told by how it is written. -/
theorem injective_of_reads_back {α : Type} {read : Json → Except Error α} {write : α → Json}
    (h : ∀ a, read (write a) = .ok a) : Function.Injective write := by
  intro a b hab
  apply Except.ok.inj (ε := Error)
  calc Except.ok a = read (write a) := (h a).symm
    _ = read (write b) := by rw [hab]
    _ = .ok b := h b

/-- A list that is written item by item is told by its items. -/
theorem eq_of_forall₂ {α β : Type} {R : α → β → Prop} {P : α → Prop}
    (h : ∀ a a' b, P a → P a' → R a b → R a' b → a = a') {as as' : List α} {bs : List β}
    (has : ∀ a ∈ as, P a) (has' : ∀ a ∈ as', P a) (hR : List.Forall₂ R as bs)
    (hR' : List.Forall₂ R as' bs) : as = as' := by
  have hunique : Relator.LeftUnique fun a b => P a ∧ R a b := by
    intro a a' b ha ha'
    exact h a a' b ha.1 ha'.1 ha.2 ha'.2
  exact List.left_unique_forall₂' hunique ((List.forall₂_and_left as bs).mpr ⟨has, hR⟩)
    ((List.forall₂_and_left as' bs).mpr ⟨has', hR'⟩)

namespace Json

/-- Equal records have equal values under every key. -/
theorem valueOf_eq_of_record_eq {es fs : List (String × Option Json)} (h : record es = record fs)
    (key : String) : valueOf (entriesSet es) key = valueOf (entriesSet fs) key := by
  rw [record_eq, record_eq] at h
  rw [Json.object.inj h]

section Optional

variable {α : Type} (write : α → Json)

/-- An optional field is told by the value under its key, null if the field
is unset. -/
theorem eq_of_map_getD_eq {o o' : Option α} (hne : ∀ a, write a ≠ .null)
    (hinj : ∀ a, o = some a → ∀ b, o' = some b → write a = write b → a = b)
    (h : (o.map write).getD .null = (o'.map write).getD .null) : o = o' := by
  cases o with
  | none =>
    cases o' with
    | none => rfl
    | some b => exact absurd h.symm (hne b)
  | some a =>
    cases o' with
    | none => exact absurd h (hne a)
    | some b => exact congrArg some (hinj a rfl b rfl h)

theorem map_getD_injective (hne : ∀ a, write a ≠ .null) (hinj : Function.Injective write) :
    Function.Injective fun o : Option α => (o.map write).getD .null :=
  fun _ _ h => eq_of_map_getD_eq write hne (fun _ _ _ _ hw => hinj hw) h

theorem map_text_getD_injective :
    Function.Injective fun o : Option Text => (o.map Json.text).getD .null :=
  map_getD_injective .text (by simp) fun _ _ => Json.text.inj

theorem map_bool_getD_injective :
    Function.Injective fun o : Option Bool => (o.map Json.bool).getD .null :=
  map_getD_injective .bool (by simp) fun _ _ => Json.bool.inj

theorem map_list_getD_injective {write : α → Json} (hinj : Function.Injective write) :
    Function.Injective fun o : Option (List α) =>
      (o.map fun as => Json.list (as.map write)).getD .null :=
  map_getD_injective _ (by simp) fun _ _ h =>
    List.map_injective_iff.mpr hinj (Json.list.inj h)

end Optional
end Json

theorem Choice.map_json_getD_injective {α : Type} [Choice α] :
    Function.Injective fun o : Option α => (o.map Choice.json).getD .null :=
  Json.map_getD_injective Choice.json (by simp [Choice.json]) fun _ _ h =>
    Choice.name_injective (Text.unicode.inj (Json.text.inj h))

/-! ### Identities -/

namespace Identity

/-- Every identity of a list is without a `/`. -/
def AllSlashFree (ids : List (Sigma Identity)) : Prop := ∀ id ∈ ids, id.2.IsSlashFree

theorem allSlashFree_cons {k : Kind} {id : Identity k} {ids : List (Sigma Identity)} :
    AllSlashFree (⟨k, id⟩ :: ids) ↔ id.IsSlashFree ∧ AllSlashFree ids :=
  List.forall_mem_cons

theorem allSlashFree_listed {k : Kind} {o : Option (Identity k)} :
    AllSlashFree (listed o) ↔ ∀ id, o = some id → id.IsSlashFree := by
  cases o <;> simp [AllSlashFree, listed]

theorem AllPlain.allSlashFree {ids : List (Sigma Identity)} (h : AllPlain ids) :
    AllSlashFree ids :=
  fun id hid => (h id hid).isSlashFree

variable {k : Kind}

theorem eq_of_json_eq {id jd : Identity k} (hid : id.IsSlashFree) (hjd : jd.IsSlashFree)
    (h : id.json = jd.json) : id = jd :=
  eq_of_selfLink_eq hid hjd (Json.text.inj h)

theorem eq_of_map_json_getD_eq {o o' : Option (Identity k)}
    (ho : ∀ id, o = some id → id.IsSlashFree) (ho' : ∀ id, o' = some id → id.IsSlashFree)
    (h : (o.map json).getD .null = (o'.map json).getD .null) : o = o' :=
  Json.eq_of_map_getD_eq json (by simp [json])
    (fun id hid jd hjd => eq_of_json_eq (ho id hid) (ho' jd hjd)) h

end Identity

open Identity (AllSlashFree allSlashFree_cons allSlashFree_listed eq_of_json_eq
  eq_of_map_json_getD_eq)

/-! ### Parts -/

theorem Tags.payload_injective : Function.Injective Tags.payload :=
  injective_of_reads_back Tags.ofPayload_payload

theorem Metadata.payload_injective : Function.Injective Metadata.payload :=
  injective_of_reads_back Metadata.ofPayload_payload

theorem ServiceAccount.payload_injective : Function.Injective ServiceAccount.payload :=
  injective_of_reads_back ServiceAccount.ofPayload_payload

theorem Scheduling.payload_injective : Function.Injective Scheduling.payload :=
  injective_of_reads_back Scheduling.ofPayload_payload

theorem AccessConfig.payload_injective : Function.Injective AccessConfig.payload :=
  injective_of_reads_back AccessConfig.ofPayload_payload

/-- An interface is told by its payload. -/
theorem NetworkInterface.eq_of_payload_eq {n m : NetworkInterface}
    (hn : AllSlashFree n.identities) (hm : AllSlashFree m.identities)
    (h : n.payload = m.payload) : n = m := by
  rw [identities, allSlashFree_cons, allSlashFree_listed] at hn hm
  have hvalue := Json.valueOf_eq_of_record_eq h
  have hnetwork : n.network = m.network :=
    eq_of_json_eq hn.1 hm.1 (by simpa [valueOf_entriesSet] using hvalue "network")
  have hname : n.name = m.name :=
    Json.map_text_getD_injective
      (by simpa [valueOf_entriesSet, List.lookup_cons] using hvalue "name")
  have hip : n.networkIp = m.networkIp :=
    Json.map_text_getD_injective
      (by simpa [valueOf_entriesSet, List.lookup_cons] using hvalue "networkIP")
  have hsubnetwork : n.subnetwork = m.subnetwork :=
    eq_of_map_json_getD_eq hn.2 hm.2
      (by simpa [valueOf_entriesSet, List.lookup_cons] using hvalue "subnetwork")
  have hconfigs : n.accessConfigs = m.accessConfigs :=
    Json.map_list_getD_injective AccessConfig.payload_injective
      (by simpa [valueOf_entriesSet, List.lookup_cons] using hvalue "accessConfigs")
  cases n
  cases m
  rw [NetworkInterface.mk.injEq]
  exact ⟨hnetwork, hname, hip, hsubnetwork, hconfigs⟩

/-! ### Disks -/

namespace PersistentDisk

/-- A persistent disk is told by its entries. -/
theorem eq_of_record_eq {d e : PersistentDisk} (hd : d.source.IsSlashFree)
    (he : e.source.IsSlashFree) {name name' index index' : Option Json}
    (h : record (d.entries ++ [("deviceName", name), ("index", index)]) =
      record (e.entries ++ [("deviceName", name'), ("index", index')])) : d = e := by
  have hvalue := Json.valueOf_eq_of_record_eq h
  simp only [entries, List.cons_append, List.nil_append] at hvalue
  have hsource : d.source = e.source :=
    eq_of_json_eq hd he (by simpa [valueOf_entriesSet, List.lookup_cons] using hvalue "source")
  have hmode : d.mode = e.mode :=
    Choice.map_json_getD_injective
      (by simpa [valueOf_entriesSet, List.lookup_cons] using hvalue "mode")
  have hboot : d.boot = e.boot :=
    Json.map_bool_getD_injective
      (by simpa [valueOf_entriesSet, List.lookup_cons] using hvalue "boot")
  have hautoDelete : d.autoDelete = e.autoDelete :=
    Json.map_bool_getD_injective
      (by simpa [valueOf_entriesSet, List.lookup_cons] using hvalue "autoDelete")
  cases d
  cases e
  rw [PersistentDisk.mk.injEq]
  exact ⟨hsource, hmode, hboot, hautoDelete⟩

end PersistentDisk

namespace CreatedDisk

/-- The text of a size tells the size. -/
theorem sizeGb_eq_of_sizeText {d e : CreatedDisk} {size size' : Option Json}
    (hd : d.sizeText = .ok size) (he : e.sizeText = .ok size')
    (h : size.getD .null = size'.getD .null) : d.sizeGb = e.sizeGb := by
  obtain ⟨hlong, rfl⟩ := sizeText_eq_ok_iff.mp hd
  obtain ⟨hlong', rfl⟩ := sizeText_eq_ok_iff.mp he
  refine Json.eq_of_map_getD_eq _ (by simp) (fun n hn m hm htext => ?_) h
  have hn : Payload.integer "diskSizeGb" (.text (n.1 : Int).repr) = .ok n.1 :=
    Payload.integer_repr (hlong n hn)
  rw [htext, Payload.integer_repr (hlong' m hm)] at hn
  exact Subtype.ext (Int.ofNat.inj (Except.ok.inj hn)).symm

/-- A created disk is told by its entries, most of it by its parameters. -/
theorem eq_of_record_eq {d e : CreatedDisk} (hd : d.image.IsSlashFree)
    (hdtype : ∀ id, d.type = some id → id.IsSlashFree) (he : e.image.IsSlashFree)
    (hetype : ∀ id, e.type = some id → id.IsSlashFree) {es fs : List (String × Option Json)}
    (hes : d.entries = .ok es) (hfs : e.entries = .ok fs) {name name' index index' : Option Json}
    (h : record (es ++ [("deviceName", name), ("index", index)]) =
      record (fs ++ [("deviceName", name'), ("index", index')])) : d = e := by
  obtain ⟨size, hsize, rfl⟩ := Except.map_eq_ok_iff.mp hes
  obtain ⟨size', hsize', rfl⟩ := Except.map_eq_ok_iff.mp hfs
  have hvalue := Json.valueOf_eq_of_record_eq h
  simp only [List.cons_append, List.nil_append] at hvalue
  have hparams : d.parameters size = e.parameters size' := by
    simpa [valueOf_entriesSet, List.lookup_cons] using hvalue "initializeParams"
  have hautoDelete : d.autoDelete = e.autoDelete :=
    Json.map_bool_getD_injective
      (by simpa [valueOf_entriesSet, List.lookup_cons] using hvalue "autoDelete")
  have hparam := Json.valueOf_eq_of_record_eq hparams
  have himage : d.image = e.image :=
    eq_of_json_eq hd he (by simpa [valueOf_entriesSet] using hparam "sourceImage")
  have hname : d.name = e.name :=
    Json.map_text_getD_injective
      (by simpa [valueOf_entriesSet, List.lookup_cons] using hparam "diskName")
  have htype : d.type = e.type :=
    eq_of_map_json_getD_eq hdtype hetype
      (by simpa [valueOf_entriesSet, List.lookup_cons] using hparam "diskType")
  have hsizeGb : d.sizeGb = e.sizeGb :=
    sizeGb_eq_of_sizeText hsize hsize'
      (by simpa [valueOf_entriesSet, List.lookup_cons] using hparam "diskSizeGb")
  cases d
  cases e
  rw [CreatedDisk.mk.injEq]
  exact ⟨himage, hname, htype, hsizeGb, hautoDelete⟩

end CreatedDisk

namespace ScratchDisk

/-- Scratch space is told by its entries. -/
theorem eq_of_record_eq {d e : ScratchDisk} (hd : ∀ id, d.type = some id → id.IsSlashFree)
    (he : ∀ id, e.type = some id → id.IsSlashFree) {name name' index index' : Option Json}
    (h : record (d.entries ++ [("deviceName", name), ("index", index)]) =
      record (e.entries ++ [("deviceName", name'), ("index", index')])) : d = e := by
  have hvalue := Json.valueOf_eq_of_record_eq h
  simp only [entries, List.cons_append, List.nil_append] at hvalue
  have hinterface : d.interface = e.interface :=
    Choice.map_json_getD_injective
      (by simpa [valueOf_entriesSet, List.lookup_cons] using hvalue "interface")
  have htype : d.type = e.type := by
    refine Json.eq_of_map_getD_eq (fun t : Identity .diskType => record [("diskType", some t.json)])
      (fun _ => Json.record_ne_null _) (fun id hid jd hjd hparams => ?_)
      (by simpa [valueOf_entriesSet, List.lookup_cons] using hvalue "initializeParams")
    refine eq_of_json_eq (hd id hid) (he jd hjd) ?_
    simpa [valueOf_entriesSet] using Json.valueOf_eq_of_record_eq hparams "diskType"
  cases d
  cases e
  rw [ScratchDisk.mk.injEq]
  exact ⟨htype, hinterface⟩

end ScratchDisk

namespace DiskConfiguration

/-- The source of a disk that exists already. -/
def source? : DiskConfiguration → Option (Identity .disk)
  | .persistent d => some d.source
  | _ => none

/-- The type that the service has for a configuration. -/
def sort : DiskConfiguration → DiskSort
  | .scratch _ => .scratch
  | _ => .persistent

/-- The kind of a configuration is told by its type and by whether there is a
source. -/
theorem valueOf_kind {c : DiskConfiguration} {es : List (String × Option Json)}
    (hes : c.entries = .ok es) (name index : Option Json) :
    let all := entriesSet (es ++ [("deviceName", name), ("index", index)])
    valueOf all "type" = Choice.json c.sort ∧
      valueOf all "source" = (c.source?.map Identity.json).getD .null := by
  cases c with
  | persistent d =>
    cases hes
    simp [PersistentDisk.entries, sort, source?, valueOf_entriesSet, List.lookup_cons]
  | create d =>
    obtain ⟨size, -, rfl⟩ := Except.map_eq_ok_iff.mp hes
    simp [sort, source?, valueOf_entriesSet, List.lookup_cons]
  | scratch d =>
    cases hes
    simp [ScratchDisk.entries, sort, source?, valueOf_entriesSet, List.lookup_cons]

/-- A configuration is told by its entries, whatever its kind. -/
theorem eq_of_record_eq {c c' : DiskConfiguration} (hc : AllSlashFree c.identities)
    (hc' : AllSlashFree c'.identities) {es es' : List (String × Option Json)}
    (hes : c.entries = .ok es) (hes' : c'.entries = .ok es') {name name' index index' : Option Json}
    (h : record (es ++ [("deviceName", name), ("index", index)]) =
      record (es' ++ [("deviceName", name'), ("index", index')])) : c = c' := by
  have hvalue := Json.valueOf_eq_of_record_eq h
  obtain ⟨htype, hsource⟩ := valueOf_kind hes name index
  obtain ⟨htype', hsource'⟩ := valueOf_kind hes' name' index'
  have hsort : c.sort = c'.sort := by
    rw [hvalue, htype'] at htype
    exact (Choice.name_injective (Text.unicode.inj (Json.text.inj htype))).symm
  rw [hvalue, hsource'] at hsource
  -- of different kinds, the type tells scratch space and a source the disk that exists
  cases c with
  | persistent d =>
    rw [identities, allSlashFree_cons] at hc
    cases c' with
    | persistent e =>
      rw [identities, allSlashFree_cons] at hc'
      cases hes
      cases hes'
      rw [PersistentDisk.eq_of_record_eq hc.1 hc'.1 h]
    | create e => simp [source?, Identity.json] at hsource
    | scratch e => cases hsort
  | create d =>
    rw [identities, allSlashFree_cons, allSlashFree_listed] at hc
    cases c' with
    | persistent e => simp [source?, Identity.json] at hsource
    | create e =>
      rw [identities, allSlashFree_cons, allSlashFree_listed] at hc'
      rw [CreatedDisk.eq_of_record_eq hc.1 hc.2 hc'.1 hc'.2 hes hes' h]
    | scratch e => cases hsort
  | scratch d =>
    rw [identities, allSlashFree_listed] at hc
    cases c' with
    | persistent e => cases hsort
    | create e => cases hsort
    | scratch e =>
      rw [identities, allSlashFree_listed] at hc'
      cases hes
      cases hes'
      rw [ScratchDisk.eq_of_record_eq hc hc' h]

end DiskConfiguration

/-- A disk is told by its payload. -/
theorem AttachedDisk.eq_of_payload_eq {d e : AttachedDisk} {p : Json}
    (hd : AllSlashFree d.configuration.identities) (he : AllSlashFree e.configuration.identities)
    (hdp : d.payload = .ok p) (hep : e.payload = .ok p) : d = e := by
  obtain ⟨es, hes, rfl⟩ := Except.map_eq_ok_iff.mp hdp
  obtain ⟨fs, hfs, h⟩ := Except.map_eq_ok_iff.mp hep
  have hvalue := Json.valueOf_eq_of_record_eq h
  obtain ⟨hname, hindex⟩ := DiskConfiguration.valueOf_after_entries hes (d.deviceName.map .text)
    (d.index.map fun i : Nat => .int i)
  obtain ⟨hname', hindex'⟩ := DiskConfiguration.valueOf_after_entries hfs (e.deviceName.map .text)
    (e.index.map fun i : Nat => .int i)
  have hconfiguration : d.configuration = e.configuration :=
    DiskConfiguration.eq_of_record_eq hd he hes hfs h.symm
  have hdeviceName : d.deviceName = e.deviceName := by
    rw [← hvalue, hname'] at hname
    exact (Json.map_text_getD_injective hname).symm
  have hnumber : d.index = e.index := by
    rw [← hvalue, hindex'] at hindex
    have hint : Function.Injective fun i : Nat => Json.int i := fun _ _ h =>
      Int.ofNat.inj (Json.int.inj h)
    exact (Json.map_getD_injective _ (by simp) hint hindex).symm
  cases d
  cases e
  rw [AttachedDisk.mk.injEq]
  exact ⟨hconfiguration, hdeviceName, hnumber⟩

/-! ### Instances -/

namespace Instance

/-- The identities of an instance are those of its parts. -/
theorem allSlashFree_identities {x : Instance} (h : AllSlashFree x.identities) :
    x.id.IsSlashFree ∧ x.machineType.IsSlashFree ∧
      (∀ n ∈ x.interfaces, AllSlashFree n.identities) ∧
      ∀ d ∈ x.disks, AllSlashFree d.configuration.identities := by
  rw [identities, allSlashFree_cons, allSlashFree_cons] at h
  obtain ⟨hid, htype, hrest⟩ := h
  refine ⟨hid, htype, ?_, ?_⟩
  · intro n hn id hid
    exact hrest id (List.mem_append_left _ (List.mem_flatMap.mpr ⟨n, hn, hid⟩))
  · intro d hd id hid
    exact hrest id (List.mem_append_right _ (List.mem_flatMap.mpr ⟨d, hd, hid⟩))

/-- Instances with one payload have one link. -/
theorem selfLink_eq_of_payload_eq {x y : Instance} {p : Json} (hx : x.payload = .ok p)
    (hy : y.payload = .ok p) : x.selfLink = y.selfLink := by
  obtain ⟨zone, disks, created, -, -, -, rfl⟩ := payload_eq_ok_iff.mp hx
  obtain ⟨zone', disks', created', -, -, -, h⟩ := payload_eq_ok_iff.mp hy
  have hlink := Json.valueOf_eq_of_record_eq h "selfLink"
  rw [valueOf_payloadEntries, valueOf_payloadEntries] at hlink
  have hjson : x.id.json = y.id.json := by
    simpa [payloadEntries, List.lookup_cons] using hlink
  exact Json.text.inj hjson

/-- An instance is told by its payload. -/
theorem eq_of_payload_eq {x y : Instance} {p : Json} (hx : AllSlashFree x.identities)
    (hy : AllSlashFree y.identities) (hxp : x.payload = .ok p) (hyp : y.payload = .ok p) :
    x = y := by
  obtain ⟨hid, htype, hnics, hconfigs⟩ := allSlashFree_identities hx
  obtain ⟨hid', htype', hnics', hconfigs'⟩ := allSlashFree_identities hy
  -- the link of the instance is its identity; name and zone need not be looked at
  have hselfLink := selfLink_eq_of_payload_eq hxp hyp
  obtain ⟨zone, qs, created, -, hqs, hcreated, rfl⟩ := payload_eq_ok_iff.mp hxp
  obtain ⟨zone', qs', created', -, hqs', hcreated', h⟩ := payload_eq_ok_iff.mp hyp
  have hvalue := Json.valueOf_eq_of_record_eq h
  simp only [valueOf_payloadEntries] at hvalue
  have hmachineType : x.machineType = y.machineType :=
    eq_of_json_eq htype htype'
      (by simpa [payloadEntries, List.lookup_cons] using hvalue "machineType")
  have hinterfaces : x.interfaces = y.interfaces := by
    have hpayloads : x.interfaces.map NetworkInterface.payload =
        y.interfaces.map NetworkInterface.payload := by
      simpa [payloadEntries, List.lookup_cons] using hvalue "networkInterfaces"
    refine eq_of_forall₂ (R := fun n q => n.payload = q)
      (fun n m q hn hm h h' => NetworkInterface.eq_of_payload_eq hn hm (h.trans h'.symm))
      hnics hnics' (List.forall₂_map_right_iff.mpr (List.forall₂_same.mpr fun _ _ => rfl)) ?_
    rw [hpayloads]
    exact List.forall₂_map_right_iff.mpr (List.forall₂_same.mpr fun _ _ => rfl)
  have hdisks : x.disks = y.disks := by
    have hpayloads : qs = qs' := by
      simpa [payloadEntries, List.lookup_cons] using hvalue "disks"
    subst hpayloads
    exact eq_of_forall₂ (R := fun d q => AttachedDisk.payload d = .ok q)
      (fun _ _ _ hd he => AttachedDisk.eq_of_payload_eq hd he) hconfigs hconfigs' hqs hqs'
  have hdescription : x.description = y.description :=
    Json.map_text_getD_injective
      (by simpa [payloadEntries, List.lookup_cons] using hvalue "description")
  have htags : x.tags = y.tags :=
    Json.map_getD_injective Tags.payload (fun _ => Json.record_ne_null _) Tags.payload_injective
      (by simpa [payloadEntries, List.lookup_cons] using hvalue "tags")
  have hflag : x.canIpForward = y.canIpForward :=
    Json.map_bool_getD_injective
      (by simpa [payloadEntries, List.lookup_cons] using hvalue "canIpForward")
  have hmetadata : x.metadata = y.metadata :=
    Json.map_getD_injective Metadata.payload (fun _ => Json.record_ne_null _)
      Metadata.payload_injective
      (by simpa [payloadEntries, List.lookup_cons] using hvalue "metadata")
  have haccounts : x.accounts = y.accounts :=
    Json.map_list_getD_injective ServiceAccount.payload_injective
      (by simpa [payloadEntries, List.lookup_cons] using hvalue "serviceAccounts")
  have hscheduling : x.scheduling = y.scheduling :=
    Json.map_getD_injective Scheduling.payload (fun _ => Json.record_ne_null _)
      Scheduling.payload_injective
      (by simpa [payloadEntries, List.lookup_cons] using hvalue "scheduling")
  have hserverId : x.serverId = y.serverId :=
    Json.map_text_getD_injective (by simpa [payloadEntries, List.lookup_cons] using hvalue "id")
  have hinstant : x.created = y.created := by
    have htext : created.getD .null = created'.getD .null := by
      simpa [payloadEntries, List.lookup_cons] using hvalue "creationTimestamp"
    have hread := ifSet_timestamp_createdText hcreated
    rw [htext, ifSet_timestamp_createdText hcreated'] at hread
    exact (Except.ok.inj hread).symm
  have hstatus : x.status = y.status :=
    Choice.map_json_getD_injective
      (by simpa [payloadEntries, List.lookup_cons] using hvalue "status")
  have hmessage : x.statusMessage = y.statusMessage :=
    Json.map_text_getD_injective
      (by simpa [payloadEntries, List.lookup_cons] using hvalue "statusMessage")
  have hplatform : x.cpuPlatform = y.cpuPlatform :=
    Json.map_text_getD_injective
      (by simpa [payloadEntries, List.lookup_cons] using hvalue "cpuPlatform")
  cases x
  cases y
  rw [Instance.mk.injEq]
  exact ⟨Identity.eq_of_selfLink_eq hid hid' hselfLink, hmachineType, hinterfaces, hdisks,
    hdescription, htags, hflag, hmetadata, haccounts, hscheduling, hserverId, hinstant, hstatus,
    hmessage, hplatform⟩

theorem samePayload_eq {x y : Instance} {p q : Json} (hx : x.payload = .ok p)
    (hy : y.payload = .ok q) : x.samePayload y = .ok (decide (p = q)) := by
  rw [samePayload, hx, Except.ok_bind, hy, Except.ok_bind]
  rfl

/-- **Payloads tell instances apart.** Of two instances that can be written,
those that count as equal have one link. If no part of their identities holds
a `/`, as in every instance that was read, they count as equal exactly if
they agree in every field, and have one payload only then. -/
theorem samePayload_tells_apart {x y : Instance} {p q : Json} (hx : x.payload = .ok p)
    (hy : y.payload = .ok q) :
    (x.samePayload y = .ok true → x.selfLink = y.selfLink) ∧
    ((∀ id ∈ x.identities, id.2.IsSlashFree) → (∀ id ∈ y.identities, id.2.IsSlashFree) →
      x.samePayload y = .ok (decide (x = y)) ∧ (p = q ↔ x = y)) ∧
    ∀ r z, (ofPayload r).outcome = .ok z → ∀ id ∈ z.identities, id.2.IsSlashFree := by
  have hsame := samePayload_eq hx hy
  refine ⟨?_, ?_, ?_⟩
  · intro htrue
    rw [hsame, Except.ok.injEq, decide_eq_true_eq] at htrue
    subst htrue
    exact selfLink_eq_of_payload_eq hx hy
  · intro hxfree hyfree
    have hiff : p = q ↔ x = y := by
      refine ⟨?_, ?_⟩
      · rintro rfl
        exact eq_of_payload_eq hxfree hyfree hx hy
      · rintro rfl
        exact Except.ok.inj (hx.symm.trans hy)
    exact ⟨by rw [hsame, decide_eq_decide.mpr hiff], hiff⟩
  · intro r z hread
    exact (allPlain_of_ofPayload hread).allSlashFree

/-- Tags of which no list is known are not the same as an empty list of
them. -/
theorem samePayload_furnished : furnished.samePayload
    { furnished with tags := some ⟨some [], some (.unicode "f")⟩ } = .ok false := by
  let listed : Instance := { furnished with tags := some ⟨some [], some (.unicode "f")⟩ }
  have hfree : ∀ id ∈ furnished.identities, id.2.IsSlashFree := allPlain_furnished.allSlashFree
  obtain ⟨p, hp⟩ := exists_payload_of_eq_furnished (x := furnished) rfl rfl rfl
  obtain ⟨q, hq⟩ := exists_payload_of_eq_furnished (x := listed) rfl rfl rfl
  obtain ⟨-, hsame, -⟩ := samePayload_tells_apart hp hq
  have hne : furnished ≠ listed := by decide
  rw [(hsame hfree hfree).1, decide_eq_false hne]

end Instance
end VmResource
