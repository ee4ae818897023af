/-
# Where odd names of projects come from

A text that is empty or no string names no project. The check of an identity
refuses a project with such a name, and no URL leads to one. A resource that
is put together from other ones takes their identities as they are: it is
free of such projects if they are. So are the parts that are taken out of it
again, and what is read from a payload. A move is another thing, since it
takes the name of the project as it is. An instance refuses to be moved to
the empty name, but an identity, an interface or a disk does not, and none of
them refuses a text that is no string.

Key definitions: `NoName`, `Identity.AllFree`, `Value.Free`, `Value.Yields`,
`Builder.AllStagedFree`.
Key theorems: `Resource.Composite.allFree_of_construct`,
`Resource.allFree_of_withProject`, `Builder.allFree_of_build`,
`Resource.free_of_property`, `Instance.payload_eq_invalid_iff`.
-/
import VmResource.Proofs.Construction
import VmResource.Proofs.RoundTrip

namespace VmResource

open Check

/-- A text that names no project: it is empty or no string. -/
structure NoName where
  text : Text
  not_name : ¬ (text ≠ "" ∧ text.IsUnicode)

variable {w : NoName}

/-! ### Identities -/

namespace Identity

variable {k : Kind}

/-- The project is not of this name. -/
def IsFree (w : NoName) (id : Identity k) : Prop := id.project ≠ some w.text

/-- None of these identities is of the project of this name. -/
def AllFree (w : NoName) (ids : List (Sigma Identity)) : Prop := ∀ id ∈ ids, id.2.IsFree w

theorem IsNamed.isFree {id : Identity k} (h : id.IsNamed) : id.IsFree w := fun hproject =>
  w.not_name (h w.text hproject)

theorem AllPlain.allFree {ids : List (Sigma Identity)} (h : AllPlain ids) : AllFree w ids :=
  fun id hid => (h id hid).isNamed.isFree

theorem allFree_listed {o : Option (Identity k)} :
    AllFree w (listed o) ↔ ∀ id, o = some id → id.IsFree w := by
  cases o <;> simp [AllFree, listed]

/-- Only names are taken for a project. -/
theorem isNamed_of_check {v : Json} {id : Identity k} (h : check k v = .ok id) : id.IsNamed := by
  cases v with
  | object es =>
    obtain ⟨_, names, hproject, -, rfl⟩ := seq_eq_ok_iff.mp h
    obtain ⟨project, -, rfl⟩ := map_eq_ok_iff.mp hproject
    intro p hp
    obtain ⟨n, -, rfl⟩ := Option.map_eq_some_iff.mp hp
    exact ⟨fun hempty => n.text_ne_empty (Text.unicode.inj hempty), trivial⟩
  | _ => cases h

/-- So it is for the project of a zone. -/
theorem isNamed_of_zone {id : Identity k} {z : Identity .zone} (h : id.zone = .ok z) :
    z.IsNamed := by
  rw [zone, orInvalid_eq_ok_iff, Address.check_eq_ok_iff] at h
  exact h.2

end Identity

open Identity (AllFree allFree_listed listed)

/-! ### Values -/

namespace Resource

/-- Every identity in a resource. -/
def identities : Resource → List (Sigma Identity)
  | .identity k id => [⟨k, id⟩]
  | .interface n => n.identities
  | .persistentDisk d => (DiskConfiguration.persistent d).identities
  | .createdDisk d => (DiskConfiguration.create d).identities
  | .scratchDisk d => (DiskConfiguration.scratch d).identities
  | .disk d => d.configuration.identities
  | .vm x => x.identities
  | .tags _ | .metadata _ | .account _ | .scheduling _ | .accessConfig _ => []

theorem identities_resource (c : DiskConfiguration) : c.resource.identities = c.identities := by
  cases c <;> rfl

end Resource

namespace Value

/-- No identity of the resources in a value is of the project of this name. -/
inductive Free (w : NoName) : Value → Prop where
  | plain (v : Json) : Free w (.plain v)
  | resource {r : Resource} (h : AllFree w r.identities) : Free w (.resource r)
  | list {xs : List Value} (h : ∀ x ∈ xs, Free w x) : Free w (.list xs)
  | other : Free w .other

theorem free_resource_iff {r : Resource} : Free w (.resource r) ↔ AllFree w r.identities := by
  refine ⟨fun h => ?_, .resource⟩
  cases h with
  | resource h => exact h

theorem free_list_iff {xs : List Value} : Free w (.list xs) ↔ ∀ x ∈ xs, Free w x := by
  refine ⟨fun h => ?_, .list⟩
  cases h with
  | list h => exact h

theorem free_ofOption {α : Type} {f : α → Value} {o : Option α}
    (h : ∀ a, o = some a → Free w (f a)) : Free w (ofOption f o) := by
  cases o with
  | none => exact .plain .null
  | some a => exact h a rfl

theorem free_ofIdentity {k : Identity.Kind} {id : Identity k} (h : id.IsFree w) :
    Free w (ofIdentity id) :=
  .resource (List.forall_mem_singleton.mpr h)

theorem free_ofText? (o : Option Text) : Free w (ofText? o) := free_ofOption fun _ _ => .plain _

theorem free_ofFlag? (o : Option Bool) : Free w (ofFlag? o) := free_ofOption fun _ _ => .plain _

theorem free_ofMember? {α : Type} [Choice α] (o : Option α) : Free w (ofMember? o) :=
  free_ofOption fun _ _ => .plain _

theorem free_texts (ts : List Text) : Free w (.list (ts.map text)) :=
  .list (List.forall_mem_map.mpr fun _ _ => .plain _)

theorem free_ofTexts? (o : Option (List Text)) : Free w (ofTexts? o) :=
  free_ofOption fun _ _ => free_texts _

/-- None in the values of these entries is. -/
def AllEntriesFree {κ : Type} (w : NoName) (es : List (κ × Value)) : Prop := ∀ e ∈ es, e.2.Free w

theorem allEntriesFree_plainEntries (es : List (Text × Json)) :
    AllEntriesFree w (plainEntries es) :=
  List.forall_mem_map.mpr fun _ _ => .plain _

theorem AllEntriesFree.of_lookup {κ : Type} [BEq κ] [LawfulBEq κ] {es : List (κ × Value)}
    (h : AllEntriesFree w es) {name : κ} {v : Value} (hv : es.lookup name = some v) : v.Free w := by
  obtain ⟨before, after, rfl, -⟩ := List.lookup_eq_some_iff.mp hv
  exact h _ (List.mem_append_right before List.mem_cons_self)

/-! ### Checks of values -/

variable {α : Type} {c : Value → Check α} {P : α → Prop}

/-- What a check makes of a value in which no identity is of the project of
this name has the property `P`. -/
def Yields (w : NoName) (c : Value → Check α) (P : α → Prop) : Prop :=
  ∀ v a, v.Free w → c v = .ok a → P a

theorem yields_made {pick : Resource → Option α} {check : Json → Check α}
    (hpick : ∀ r a, AllFree w r.identities → pick r = some a → P a)
    (hcheck : ∀ v a, check v = .ok a → P a) : Yields w (made pick check) P := by
  intro v a hv h
  cases v with
  | plain v => exact hcheck v a h
  | resource r =>
    rw [made] at h
    split at h
    · next b hb =>
      obtain rfl := Check.ok.inj h
      exact hpick r b (free_resource_iff.mp hv) hb
    · cases h
  | _ => cases h

theorem yields_identity {k : Identity.Kind} :
    Yields w (made (Resource.identity? k) (Identity.check k)) (Identity.IsFree w) := by
  refine yields_made ?_ fun _ _ h => (Identity.isNamed_of_check h).isFree
  intro r id hr hpick
  cases r with
  | identity l jd =>
    rw [Resource.identity?] at hpick
    split at hpick
    · next hkind =>
      subst hkind
      obtain rfl := Option.some.inj hpick
      exact hr ⟨l, jd⟩ List.mem_cons_self
    · cases hpick
  | _ => cases hpick

theorem yields_eachItem (h : Yields w c P) : Yields w (eachItem c) fun as => ∀ a ∈ as, P a := by
  intro v as hv has a ha
  cases v with
  | list xs =>
    obtain ⟨x, hx, hxa⟩ := exists_mem_of_forall₂ (each_eq_ok_iff.mp has) a ha
    exact h x a (free_list_iff.mp hv x hx) hxa
  | plain v =>
    cases v with
    | list xs =>
      obtain ⟨x, -, hxa⟩ := exists_mem_of_forall₂ (each_eq_ok_iff.mp has) a ha
      exact h (.plain x) a (.plain x) hxa
    | _ => cases has
  | _ => cases has

theorem yields_unlessNull (h : Yields w c P) :
    Yields w (unlessNull c) fun o => ∀ a, o = some a → P a := by
  rintro v _ hv ho a rfl
  rw [unlessNull] at ho
  split at ho
  · cases ho
  · obtain ⟨b, hb, hba⟩ := map_eq_ok_iff.mp ho
    obtain rfl := Option.some.inj hba
    exact h v b hv hb

variable {es : List (Text × Value)} {name : String}

theorem Yields.required (h : Yields w c P) (hes : AllEntriesFree w es) {a : α}
    (ha : Value.required es name c = .ok a) : P a := by
  rw [Value.required, field_eq_ok_iff] at ha
  split at ha
  · next v hv => exact h v a (hes.of_lookup hv) ha
  · cases ha

theorem Yields.optional (h : Yields w c P) (hes : AllEntriesFree w es) {o : Option α}
    (ho : Value.optional es name c = .ok o) : ∀ a, o = some a → P a := by
  rw [Value.optional, field_eq_ok_iff] at ho
  have hvalue : ((es.lookup (.unicode name)).getD null).Free w := by
    cases hv : es.lookup (.unicode name) with
    | none => exact .plain .null
    | some v => exact hes.of_lookup hv
  exact yields_unlessNull h _ o hvalue ho

/-- The check of plain data is a call with plain values. -/
theorem of_check_object {fields : List (Text × Json) → Check α}
    {construct : List (Text × Value) → Check α}
    (hobject : ∀ es, object fields (.object es) = construct (plainEntries es))
    (h : ∀ {es}, AllEntriesFree w es → ∀ {a}, construct es = .ok a → P a)
    {v : Json} {a : α} (ha : object fields v = .ok a) : P a := by
  cases v with
  | object es =>
    rw [hobject] at ha
    exact h (allEntriesFree_plainEntries es) ha
  | _ => cases ha

end Value

open Value (AllEntriesFree Yields yields_made yields_identity yields_eachItem of_check_object
  allEntriesFree_plainEntries)

/-! ### Parts -/

section Parts

variable {es : List (Text × Value)} (hes : AllEntriesFree w es)
include hes

theorem NetworkInterface.allFree_of_construct {n : NetworkInterface}
    (h : construct es = .ok n) : AllFree w n.identities := by
  simp only [construct, seq_eq_ok_iff, map_eq_ok_iff] at h
  obtain ⟨_, configs, ⟨_, subnetwork, ⟨_, ip, ⟨_, name, ⟨network, hnetwork, rfl⟩, -, rfl⟩, -, rfl⟩,
    hsubnetwork, rfl⟩, -, rfl⟩ := h
  have hname : network.IsFree w := yields_identity.required hes hnetwork
  have hsubname := yields_identity.optional hes hsubnetwork
  exact List.forall_mem_cons.mpr ⟨hname, allFree_listed.mpr hsubname⟩

theorem PersistentDisk.allFree_of_construct {d : PersistentDisk} (h : construct es = .ok d) :
    AllFree w (DiskConfiguration.persistent d).identities := by
  simp only [construct, seq_eq_ok_iff, map_eq_ok_iff] at h
  obtain ⟨_, _, ⟨_, _, ⟨_, _, ⟨_, source, ⟨_, -, rfl⟩, hsource, rfl⟩, -, rfl⟩, -, rfl⟩, -, rfl⟩ := h
  have hname : source.IsFree w := yields_identity.required hes hsource
  exact List.forall_mem_singleton.mpr hname

theorem CreatedDisk.allFree_of_construct {d : CreatedDisk} (h : construct es = .ok d) :
    AllFree w (DiskConfiguration.create d).identities := by
  simp only [construct, seq_eq_ok_iff, map_eq_ok_iff] at h
  obtain ⟨_, _, ⟨_, _, ⟨_, type, ⟨_, _, ⟨_, image, ⟨_, -, rfl⟩, himage, rfl⟩, -, rfl⟩, htype, rfl⟩,
    -, rfl⟩, -, rfl⟩ := h
  have hname : image.IsFree w := yields_identity.required hes himage
  have htypename := yields_identity.optional hes htype
  exact List.forall_mem_cons.mpr ⟨hname, allFree_listed.mpr htypename⟩

theorem ScratchDisk.allFree_of_construct {d : ScratchDisk} (h : construct es = .ok d) :
    AllFree w (DiskConfiguration.scratch d).identities := by
  simp only [construct, seq_eq_ok_iff, map_eq_ok_iff] at h
  obtain ⟨_, _, ⟨_, type, ⟨_, -, rfl⟩, htype, rfl⟩, -, rfl⟩ := h
  exact allFree_listed.mpr (yields_identity.optional hes htype)

end Parts

namespace DiskConfiguration

theorem allFree_of_check {v : Json} {c : DiskConfiguration} (h : check v = .ok c) :
    AllFree w c.identities := by
  cases v with
  | object es =>
    have hes : AllEntriesFree w (Value.plainEntries es) := allEntriesFree_plainEntries es
    rw [check] at h
    split at h
    · cases h
    · split at h
      · obtain ⟨d, hd, rfl⟩ := map_eq_ok_iff.mp (field_eq_ok_iff.mp h)
        rw [PersistentDisk.check_object] at hd
        exact PersistentDisk.allFree_of_construct hes hd
      · split at h
        · obtain ⟨d, hd, rfl⟩ := map_eq_ok_iff.mp (field_eq_ok_iff.mp h)
          rw [CreatedDisk.check_object] at hd
          exact CreatedDisk.allFree_of_construct hes hd
        · split at h
          · obtain ⟨d, hd, rfl⟩ := map_eq_ok_iff.mp (field_eq_ok_iff.mp h)
            rw [ScratchDisk.check_object] at hd
            exact ScratchDisk.allFree_of_construct hes hd
          · cases h
  | _ => cases h

theorem identities_of_configuration? {r : Resource} {c : DiskConfiguration}
    (h : r.configuration? = some c) : r.identities = c.identities := by
  cases r with
  | persistentDisk d | createdDisk d | scratchDisk d =>
    obtain rfl := Option.some.inj h
    rfl
  | _ => cases h

theorem yields_configuration : Yields w checkValue fun c => AllFree w c.identities := by
  intro v c hv h
  cases v with
  | plain v => exact allFree_of_check h
  | resource r =>
    rw [checkValue] at h
    split at h
    · next d hd =>
      obtain rfl := Check.ok.inj h
      rw [← identities_of_configuration? hd]
      exact Value.free_resource_iff.mp hv
    · cases h
  | _ => cases h

end DiskConfiguration

theorem AttachedDisk.allFree_of_construct {es : List (Text × Value)} (hes : AllEntriesFree w es)
    {d : AttachedDisk} (h : construct es = .ok d) : AllFree w d.configuration.identities := by
  simp only [construct, seq_eq_ok_iff, map_eq_ok_iff] at h
  obtain ⟨_, index, ⟨_, name, ⟨c, hc, rfl⟩, -, rfl⟩, -, rfl⟩ := h
  exact DiskConfiguration.yields_configuration.required hes hc

theorem NetworkInterface.allFree_of_check {v : Json} {n : NetworkInterface} (h : check v = .ok n) :
    AllFree w n.identities :=
  of_check_object (P := fun n => AllFree w n.identities) check_object allFree_of_construct h

theorem AttachedDisk.allFree_of_check {v : Json} {d : AttachedDisk} (h : check v = .ok d) :
    AllFree w d.configuration.identities :=
  of_check_object (P := fun d => AllFree w d.configuration.identities) check_object
    allFree_of_construct h

/-! ### Instances -/

namespace Instance

theorem allFree_identities_iff {x : Instance} :
    AllFree w x.identities ↔ x.id.IsFree w ∧ x.machineType.IsFree w ∧
      (∀ n ∈ x.interfaces, AllFree w n.identities) ∧
      ∀ d ∈ x.disks, AllFree w d.configuration.identities := by
  simp only [identities, AllFree, List.forall_mem_cons, List.forall_mem_append,
    List.forall_mem_flatMap]

theorem yields_interfaces : Yields w (Value.eachItem (Value.made Resource.interface?
    NetworkInterface.check)) fun ns => ∀ n ∈ ns, AllFree w n.identities := by
  refine yields_eachItem (yields_made ?_ fun _ _ => NetworkInterface.allFree_of_check)
  intro r n hr hpick
  cases r with
  | interface m =>
    obtain rfl := Option.some.inj hpick
    exact hr
  | _ => cases hpick

theorem yields_disks : Yields w (Value.eachItem (Value.made Resource.disk? AttachedDisk.check))
    fun ds => ∀ d ∈ ds, AllFree w d.configuration.identities := by
  refine yields_eachItem (yields_made ?_ fun _ _ => AttachedDisk.allFree_of_check)
  intro r d hr hpick
  cases r with
  | disk e =>
    obtain rfl := Option.some.inj hpick
    exact hr
  | _ => cases hpick

theorem requiredField_yields {α : Type} {c : Value → Check α} {P : α → Prop} (h : Yields w c P)
    {given : Field → Option Value} (hgiven : ∀ f v, given f = some v → v.Free w) {f : Field} {a : α}
    (ha : requiredField given f c = .ok a) : P a := by
  rw [requiredField, field_eq_ok_iff] at ha
  split at ha
  · next v hv => exact h v a (hgiven f v hv) ha
  · cases ha

/-- Only four fields of an instance hold identities. -/
theorem allFree_of_checkFields {given : Field → Option Value}
    (hgiven : ∀ f v, given f = some v → v.Free w) {x : Instance} (h : checkFields given = .ok x) :
    AllFree w x.identities := by
  have hpasses := checkFields_eq_ok_iff.mp h
  exact allFree_identities_iff.mpr ⟨requiredField_yields yields_identity hgiven hpasses.id,
    requiredField_yields yields_identity hgiven hpasses.machineType,
    requiredField_yields yields_interfaces hgiven hpasses.interfaces,
    requiredField_yields yields_disks hgiven hpasses.disks⟩

theorem allFree_of_construct {es : List (Text × Value)} (hes : AllEntriesFree w es) {x : Instance}
    (h : construct es = .ok x) : AllFree w x.identities := by
  rw [construct] at h
  split at h
  · exact allFree_of_checkFields (fun _ _ hv => hes.of_lookup hv) h
  · cases h

/-- What is taken out of an instance again is as the instance is. -/
theorem free_get {x : Instance} (h : AllFree w x.identities) (f : Field) : (x.get f).Free w := by
  obtain ⟨hid, htype, hinterfaces, hdisks⟩ := allFree_identities_iff.mp h
  cases f with
  | id => exact Value.free_ofIdentity hid
  | machineType => exact Value.free_ofIdentity htype
  | interfaces => exact .list (List.forall_mem_map.mpr fun n hn => .resource (hinterfaces n hn))
  | disks => exact .list (List.forall_mem_map.mpr fun d hd => .resource (hdisks d hd))
  | description | serverId | statusMessage | cpuPlatform => exact Value.free_ofText? _
  | canIpForward => exact Value.free_ofFlag? _
  | status => exact Value.free_ofMember? _
  | created => exact Value.free_ofOption fun _ _ => .plain _
  | tags | metadata | scheduling =>
    exact Value.free_ofOption fun _ _ => .resource (List.forall_mem_nil _)
  | accounts =>
    refine Value.free_ofOption fun as _ => .list (List.forall_mem_map.mpr fun a _ => ?_)
    exact .resource (List.forall_mem_nil _)

end Instance

/-! ### Resources of any class -/

namespace Resource

theorem Composite.allFree_of_construct {c : Composite} {es : List (Text × Value)}
    (hes : AllEntriesFree w es) {r : Resource} (h : c.construct es = .ok r) :
    AllFree w r.identities := by
  cases c with
  | interface =>
    obtain ⟨n, hn, rfl⟩ := map_eq_ok_iff.mp h
    exact NetworkInterface.allFree_of_construct hes hn
  | persistentDisk =>
    obtain ⟨d, hd, rfl⟩ := map_eq_ok_iff.mp h
    exact PersistentDisk.allFree_of_construct hes hd
  | createdDisk =>
    obtain ⟨d, hd, rfl⟩ := map_eq_ok_iff.mp h
    exact CreatedDisk.allFree_of_construct hes hd
  | scratchDisk =>
    obtain ⟨d, hd, rfl⟩ := map_eq_ok_iff.mp h
    exact ScratchDisk.allFree_of_construct hes hd
  | disk =>
    obtain ⟨d, hd, rfl⟩ := map_eq_ok_iff.mp h
    exact AttachedDisk.allFree_of_construct hes hd
  | vm =>
    obtain ⟨x, hx, rfl⟩ := map_eq_ok_iff.mp h
    exact Instance.allFree_of_construct hes hx

/-- Plain data for an identity are checked, those for another resource are
handed over like values. -/
theorem allFree_of_check {c : Class} {v : Json} {r : Resource} (h : check c v = .ok r) :
    AllFree w r.identities := by
  have hcomposite : ∀ d : Composite, check d.cls v = .ok r → AllFree w r.identities := by
    intro d hd
    have hobject : ∃ es, v = .object es := by
      cases v with
      | object es => exact ⟨es, rfl⟩
      | _ => cases d <;> cases hd
    obtain ⟨es, rfl⟩ := hobject
    rw [d.check_object] at hd
    exact d.allFree_of_construct (allEntriesFree_plainEntries es) hd
  cases c with
  | identity k =>
    obtain ⟨id, hid, rfl⟩ := map_eq_ok_iff.mp h
    exact List.forall_mem_singleton.mpr (Identity.isNamed_of_check hid).isFree
  | interface => exact hcomposite .interface h
  | persistentDisk => exact hcomposite .persistentDisk h
  | createdDisk => exact hcomposite .createdDisk h
  | scratchDisk => exact hcomposite .scratchDisk h
  | disk => exact hcomposite .disk h
  | vm => exact hcomposite .vm h
  | tags | metadata | account | scheduling | accessConfig =>
    obtain ⟨_, -, rfl⟩ := map_eq_ok_iff.mp h
    exact List.forall_mem_nil _

/-- URLs lead to plain identities only, and so do payloads. -/
theorem allFree_of_ofPayload {c : Class} {p : Json} {r : Resource}
    (h : (ofPayload c p).outcome = .ok r) : AllFree w r.identities := by
  cases c with
  | identity k => cases h
  | tags | metadata | account | scheduling | accessConfig =>
    obtain ⟨_, -, rfl⟩ := Except.map_eq_ok_iff.mp h
    exact List.forall_mem_nil _
  | interface =>
    obtain ⟨n, hn, rfl⟩ := Except.map_eq_ok_iff.mp h
    exact (NetworkInterface.allPlain_of_ofPayload hn).allFree
  | persistentDisk =>
    obtain ⟨d, hd, rfl⟩ := Except.map_eq_ok_iff.mp h
    exact (PersistentDisk.allPlain_of_ofPayload hd).allFree
  | createdDisk =>
    obtain ⟨d, hd, rfl⟩ := Except.map_eq_ok_iff.mp h
    exact (CreatedDisk.allPlain_of_ofPayload hd).allFree
  | scratchDisk =>
    obtain ⟨d, hd, rfl⟩ := Except.map_eq_ok_iff.mp h
    exact (ScratchDisk.allPlain_of_ofPayload hd).allFree
  | disk =>
    obtain ⟨d, hd, rfl⟩ := Except.map_eq_ok_iff.mp h
    exact (AttachedDisk.allPlain_of_ofPayload hd).allFree
  | vm =>
    obtain ⟨x, hx, rfl⟩ := Except.map_eq_ok_iff.mp h
    exact (Instance.allPlain_of_ofPayload hx).allFree

end Resource

/-! ### Moves -/

namespace DiskConfiguration

/-- An image that stays behind stays as it is. -/
theorem allFree_withProject {c : DiskConfiguration} (h : AllFree w c.identities)
    {project : Option Text} (hproject : project ≠ some w.text) (previous : Option Text) :
    AllFree w (c.withProject project previous).identities := by
  have htype : ∀ o : Option (Identity .diskType),
      AllFree w (listed (o.map (·.withProject project))) := by
    intro o
    refine allFree_listed.mpr fun id hid => ?_
    obtain ⟨t, -, rfl⟩ := Option.map_eq_some_iff.mp hid
    exact hproject
  cases c with
  | persistent d => exact List.forall_mem_singleton.mpr hproject
  | create d =>
    obtain ⟨himage, -⟩ := List.forall_mem_cons.mp h
    have hmoved : (movedImage project previous d.image).IsFree w := by
      rw [movedImage]
      split
      · exact hproject
      · exact himage
    exact List.forall_mem_cons.mpr ⟨hmoved, htype d.type⟩
  | scratch d => exact htype d.type

end DiskConfiguration

theorem NetworkInterface.allFree_withProject (n : NetworkInterface) {project : Option Text}
    (hproject : project ≠ some w.text) : AllFree w (n.withProject project).identities := by
  intro id hid
  rw [Identity.IsFree, project_of_mem_identities hid]
  exact hproject

namespace Instance

/-- An instance is moved with all its parts. -/
theorem allFree_of_withProject {x y : Instance} (hx : AllFree w x.identities)
    {project : Option Text} (hproject : project ≠ some w.text)
    (h : (x.withProject project).outcome = .ok y) : AllFree w y.identities := by
  cases project with
  | none => cases h
  | some p =>
    by_cases hp : p = ""
    · subst hp
      cases h
    · rw [withProject_of_ne hp] at h
      obtain rfl := Except.ok.inj h
      obtain ⟨-, -, -, hdisks⟩ := allFree_identities_iff.mp hx
      refine allFree_identities_iff.mpr ⟨hproject, hproject, ?_, ?_⟩
      · exact List.forall_mem_map.mpr fun n _ => n.allFree_withProject hproject
      · exact List.forall_mem_map.mpr fun d hd =>
          DiskConfiguration.allFree_withProject (hdisks d hd) hproject x.id.project

end Instance

namespace Resource

theorem allFree_of_configuration {c : DiskConfiguration} (hc : AllFree w c.identities)
    {project : Option Text} (hproject : project ≠ some w.text) {previous : List (Option Text)}
    {s : Resource} (h : (withProject.configuration c project previous).outcome = .ok s) :
    AllFree w s.identities := by
  match previous, h with
  | [], h =>
    obtain rfl := Except.ok.inj h
    rw [identities_resource]
    exact DiskConfiguration.allFree_withProject hc hproject none
  | [q], h =>
    obtain rfl := Except.ok.inj h
    rw [identities_resource]
    exact DiskConfiguration.allFree_withProject hc hproject q
  | _ :: _ :: _, h => cases h

/-- A move to another project than that of this name does not lead there. -/
theorem allFree_of_withProject {r s : Resource} (hr : AllFree w r.identities)
    {args : List (Option Text)} (hargs : args.head?.join ≠ some w.text)
    (h : (r.withProject args).outcome = .ok s) : AllFree w s.identities := by
  cases args with
  | nil => cases r <;> cases h
  | cons project previous =>
    have hproject : project ≠ some w.text := hargs
    cases r with
    | identity k id =>
      cases previous with
      | nil =>
        obtain rfl := Except.ok.inj h
        exact List.forall_mem_singleton.mpr hproject
      | cons _ _ => cases h
    | interface n =>
      cases previous with
      | nil =>
        obtain rfl := Except.ok.inj h
        exact n.allFree_withProject hproject
      | cons _ _ => cases h
    | vm x =>
      cases previous with
      | nil =>
        obtain ⟨y, hy, rfl⟩ := Except.map_eq_ok_iff.mp h
        exact Instance.allFree_of_withProject hr hproject hy
      | cons _ _ => cases h
    | persistentDisk d => exact allFree_of_configuration (c := .persistent d) hr hproject h
    | createdDisk d => exact allFree_of_configuration (c := .create d) hr hproject h
    | scratchDisk d => exact allFree_of_configuration (c := .scratch d) hr hproject h
    | disk d =>
      match previous, h with
      | [], h =>
        obtain rfl := Except.ok.inj h
        exact DiskConfiguration.allFree_withProject hr hproject none
      | [q], h =>
        obtain rfl := Except.ok.inj h
        exact DiskConfiguration.allFree_withProject hr hproject q
      | _ :: _ :: _, h => cases h
    | tags _ | metadata _ | account _ | scheduling _ | accessConfig _ => cases h

/-! ### Parts taken out again -/

open Value (Free free_ofOption free_ofIdentity free_ofText? free_ofTexts? free_ofFlag?
  free_ofMember? ofOption ofIdentity)

/-- A part of a resource has no identity that the resource does not have. -/
theorem allEntriesFree_fields {r : Resource} (h : AllFree w r.identities) :
    AllEntriesFree w r.fields := by
  cases r with
  | identity k id =>
    refine List.forall_mem_cons.mpr ⟨free_ofText? _, fun e he => ?_⟩
    obtain ⟨n, -, hn⟩ := List.mem_map.mp (List.of_mem_zip he).2
    rw [← hn]
    exact .plain _
  | tags t =>
    simp only [fields, AllEntriesFree, List.forall_mem_cons]
    exact ⟨free_ofTexts? _, free_ofText? _, List.forall_mem_nil _⟩
  | metadata m =>
    have hitem : ∀ item, (Metadata.itemValue item).Free w := fun item =>
      .list (List.forall_mem_cons.mpr ⟨.plain _, List.forall_mem_singleton.mpr (free_ofText? _)⟩)
    simp only [fields, AllEntriesFree, List.forall_mem_cons]
    exact ⟨free_ofOption fun items _ => .list (List.forall_mem_map.mpr fun item _ => hitem item),
      free_ofText? _, List.forall_mem_nil _⟩
  | account a =>
    simp only [fields, AllEntriesFree, List.forall_mem_cons]
    exact ⟨.plain _, free_ofTexts? _, List.forall_mem_nil _⟩
  | scheduling s =>
    simp only [fields, AllEntriesFree, List.forall_mem_cons]
    exact ⟨free_ofFlag? _, free_ofMember? _, free_ofFlag? _, List.forall_mem_nil _⟩
  | accessConfig a =>
    simp only [fields, AllEntriesFree, List.forall_mem_cons]
    exact ⟨free_ofText? _, free_ofText? _, free_ofMember? _, List.forall_mem_nil _⟩
  | interface n =>
    obtain ⟨hnetwork, hsubnetwork⟩ := List.forall_mem_cons.mp h
    have hsub : (ofOption ofIdentity n.subnetwork).Free w :=
      free_ofOption fun id hid => free_ofIdentity (allFree_listed.mp hsubnetwork id hid)
    have hconfig : ∀ c, Free w (.resource (.accessConfig c)) := fun c =>
      .resource (List.forall_mem_nil _)
    simp only [fields, AllEntriesFree, List.forall_mem_cons]
    exact ⟨free_ofIdentity hnetwork, free_ofText? _, free_ofText? _, hsub,
      free_ofOption fun cs _ => .list (List.forall_mem_map.mpr fun c _ => hconfig c),
      List.forall_mem_nil _⟩
  | persistentDisk d =>
    have hsource := List.forall_mem_singleton.mp h
    simp only [fields, PersistentDisk.fields, AllEntriesFree, List.forall_mem_cons]
    exact ⟨.plain _, free_ofIdentity hsource, free_ofMember? _, free_ofFlag? _,
      free_ofFlag? _, List.forall_mem_nil _⟩
  | createdDisk d =>
    obtain ⟨himage, htype⟩ := List.forall_mem_cons.mp h
    have htype : (ofOption ofIdentity d.type).Free w :=
      free_ofOption fun id hid => free_ofIdentity (allFree_listed.mp htype id hid)
    simp only [fields, CreatedDisk.fields, AllEntriesFree, List.forall_mem_cons]
    exact ⟨.plain _, free_ofIdentity himage, free_ofText? _, htype,
      free_ofOption fun _ _ => .plain _, free_ofFlag? _, List.forall_mem_nil _⟩
  | scratchDisk d =>
    have htype : (ofOption ofIdentity d.type).Free w :=
      free_ofOption fun id hid => free_ofIdentity (allFree_listed.mp h id hid)
    simp only [fields, ScratchDisk.fields, AllEntriesFree, List.forall_mem_cons]
    exact ⟨.plain _, htype, free_ofMember? _, List.forall_mem_nil _⟩
  | disk d =>
    have hconfiguration : AllFree w d.configuration.resource.identities := by
      rw [identities_resource]
      exact h
    simp only [fields, AllEntriesFree, List.forall_mem_cons]
    exact ⟨.resource hconfiguration, free_ofText? _, free_ofOption fun _ _ => .plain _,
      List.forall_mem_nil _⟩
  | vm x => exact List.forall_mem_map.mpr fun f _ => Instance.free_get h f

/-- A zone is made anew and checked; other properties hold no identity that
the resource does not have. -/
theorem free_of_mem_derived {r : Resource} (h : AllFree w r.identities) {name : String} {v : Value}
    (hv : (name, .ok v) ∈ r.derived) : v.Free w := by
  have hzone : ∀ {k : Identity.Kind} {id : Identity k},
      (name, .ok v) ∈ [("zone_id", ofIdentity <$> id.zone)] → v.Free w := by
    intro k id hmem
    obtain ⟨-, hvalue⟩ := Prod.mk.inj (List.mem_singleton.mp hmem)
    obtain ⟨z, hz, rfl⟩ := Except.map_eq_ok_iff.mp hvalue.symm
    exact free_ofIdentity (Identity.isNamed_of_zone hz).isFree
  have hplain : ∀ {key : String} {u : Json}, (name, .ok v) ∈
      [(key, (.ok (.plain u) : Except Error Value))] → v.Free w := by
    intro key u hmem
    obtain ⟨-, hvalue⟩ := Prod.mk.inj (List.mem_singleton.mp hmem)
    obtain rfl := Except.ok.inj hvalue
    exact .plain u
  cases r with
  | identity k id =>
    cases k with
    | vm | machineType => exact hzone hv
    | _ => cases hv
  | metadata _ | persistentDisk _ | createdDisk _ | scratchDisk _ | disk _ => exact hplain hv
  | vm x =>
    obtain ⟨-, hvalue⟩ := Prod.mk.inj (List.mem_singleton.mp hv)
    obtain rfl := Except.ok.inj hvalue
    obtain ⟨-, -, -, hdisks⟩ := Instance.allFree_identities_iff.mp h
    exact free_ofOption fun d hd => .resource (hdisks d (List.mem_of_find?_eq_some hd))
  | tags _ | account _ | scheduling _ | accessConfig _ | interface _ => cases hv

theorem free_of_property {r : Resource} (h : AllFree w r.identities) {name : String} {v : Value}
    (hv : r.property name = .ok v) : v.Free w := by
  rw [property] at hv
  split at hv
  · next w hlookup =>
    obtain rfl := Except.ok.inj hv
    exact (allEntriesFree_fields h).of_lookup hlookup
  · next w _ hlookup =>
    subst hv
    obtain ⟨before, after, hderived, -⟩ := List.lookup_eq_some_iff.mp hlookup
    have hmem : (name, .ok v) ∈ r.derived := by
      rw [hderived]
      exact List.mem_append_right before List.mem_cons_self
    exact free_of_mem_derived h hmem
  · cases hv

end Resource

/-- The items of a resource are its fields. -/
theorem Value.free_of_items {v : Value} (h : v.Free w) {xs : List Value} (hxs : v.items = .ok xs) :
    ∀ x ∈ xs, x.Free w := by
  cases h with
  | plain v =>
    obtain ⟨vs, -, rfl⟩ := Except.map_eq_ok_iff.mp hxs
    exact List.forall_mem_map.mpr fun v _ => .plain v
  | resource hr =>
    obtain rfl := Except.ok.inj hxs
    refine List.forall_mem_map.mpr fun e he => .list (List.forall_mem_cons.mpr ⟨.plain _, ?_⟩)
    exact List.forall_mem_singleton.mpr (Resource.allEntriesFree_fields hr e he)
  | list hxs' =>
    obtain rfl := Except.ok.inj hxs
    exact hxs'
  | other => cases hxs

/-! ### Builders -/

namespace Builder

open Instance (Field)

/-- No identity that was staged is of the project of this name. -/
def AllStagedFree (w : NoName) (b : Builder) : Prop := ∀ f, (b.staged f).Free w

theorem AllStagedFree.put {b : Builder} (hb : b.AllStagedFree w) {f : Field} {v : Value}
    (hv : v.Free w) : (b.put f v).AllStagedFree w := by
  intro g
  by_cases hg : g = f
  · subst hg
    rw [staged_put_self]
    exact hv
  · rw [staged_put_of_ne b v hg]
    exact hb g

theorem free_of_accepted {f : Field} {v u : Value} (hv : v.Free w) (h : accepted f v = .ok u) :
    u.Free w := by
  rw [accepted] at h
  split at h
  · cases h
  · split at h
    · obtain ⟨xs, hxs, rfl⟩ := Except.map_eq_ok_iff.mp h
      exact .list (Value.free_of_items hv hxs)
    · obtain rfl := Except.ok.inj h
      exact hv

theorem AllStagedFree.set {b b' : Builder} (hb : b.AllStagedFree w) {f : Field} {v : Value}
    (hv : v.Free w) (h : b.set f v = .ok b') : b'.AllStagedFree w := by
  rw [set_eq] at h
  obtain ⟨u, hu, rfl⟩ := Except.map_eq_ok_iff.mp h
  exact hb.put (free_of_accepted hv hu)

theorem allStagedFree_of_start {id machineType : Value} (hid : id.Free w)
    (htype : machineType.Free w) {b : Builder} (h : start id machineType = .ok b) :
    b.AllStagedFree w := by
  obtain ⟨b₁, hb₁, hb⟩ := Except.bind_eq_ok_iff.mp h
  have hempty : empty.AllStagedFree w := fun _ => .plain .null
  exact (hempty.set hid hb₁).set htype hb

theorem allStagedFree_ofInstance {x : Instance} (h : AllFree w x.identities) :
    (ofInstance x).AllStagedFree w :=
  Instance.free_get h

theorem allFree_of_build {b : Builder} (hb : b.AllStagedFree w) {x : Instance}
    (h : b.build.outcome = .ok x) : AllFree w x.identities := by
  have hchecked : Instance.checkFields (fun f => some (b.staged f)) = .ok x :=
    Instance.checkFields_some_eq_ok_iff.mpr (validated_of_build h)
  refine Instance.allFree_of_checkFields (fun f v hv => ?_) hchecked
  obtain rfl := Option.some.inj hv
  exact hb f

theorem allStagedFree_of_ofPayload {p : Json} {b : Builder} (h : ofPayload p = .ok b) :
    b.AllStagedFree w := by
  obtain ⟨es, d, -, hd, hstaged⟩ := Origin.starts (o := .payload p) h
  simp only [Instance.Draft.read, Except.bind_eq_ok_iff, Except.pure_eq, Except.ok.injEq] at hd
  obtain ⟨id, hid, machineType, htype, serverId, -, created, -, status, -, tags, -, interfaces,
    hinterfaces, disks, hdisks, metadata, -, accounts, -, scheduling, -, rfl⟩ := hd
  intro f
  rw [hstaged]
  cases f with
  | id => exact Value.free_ofIdentity (Identity.isPlain_of_read hid).isNamed.isFree
  | machineType => exact Value.free_ofIdentity (Identity.isPlain_of_read htype).isNamed.isFree
  | interfaces =>
    refine Value.free_ofOption fun ns hns => .list (List.forall_mem_map.mpr fun n hn => ?_)
    subst hns
    obtain ⟨v, hv⟩ := Payload.exists_read_of_parts hinterfaces n hn
    exact .resource (NetworkInterface.allPlain_of_ofPayload hv).allFree
  | disks =>
    refine Value.free_ofOption fun ds hds => .list (List.forall_mem_map.mpr fun d hd => ?_)
    subst hds
    obtain ⟨v, hv⟩ := Payload.exists_read_of_parts hdisks d hd
    exact .resource (AttachedDisk.allPlain_of_ofPayload hv).allFree
  | description | canIpForward | statusMessage | cpuPlatform => exact .plain _
  | serverId => exact Value.free_ofText? _
  | created => exact Value.free_ofOption fun _ _ => .plain _
  | status => exact Value.free_ofMember? _
  | tags | metadata | scheduling =>
    exact Value.free_ofOption fun _ _ => .resource (List.forall_mem_nil _)
  | accounts =>
    refine Value.free_ofOption fun as _ => .list (List.forall_mem_map.mpr fun a _ => ?_)
    exact .resource (List.forall_mem_nil _)

end Builder

theorem Instance.allFree_of_of {id machineType disk interface : Value} (hid : id.Free w)
    (htype : machineType.Free w) (hdisk : disk.Free w) (hinterface : interface.Free w)
    {x : Instance}
    (h : (Instance.of id machineType disk interface).outcome = .ok x) : AllFree w x.identities := by
  rw [of_outcome] at h
  obtain ⟨b, hb, hbuild⟩ := Except.bind_eq_ok_iff.mp h
  obtain ⟨b₁, hstart, hb⟩ := Except.bind_eq_ok_iff.mp hb
  obtain ⟨b₂, hdisks, hinterfaces⟩ := Except.bind_eq_ok_iff.mp hb
  have hstaged := Builder.allStagedFree_of_start hid htype hstart
  have hone : ∀ {v : Value}, v.Free w → Value.Free w (.list [v]) := fun hv =>
    .list (List.forall_mem_singleton.mpr hv)
  exact Builder.allFree_of_build ((hstaged.set (hone hdisk) hdisks).set (hone hinterface)
    hinterfaces) hbuild

/-! ### Writing -/

namespace NoName

/-- The rule that a text breaks which names no project. -/
def rule (w : NoName) : Rule := if w.text = "" then .emptyText else .notUnicode

theorem nonempty_text (w : NoName) : nonempty (.text w.text) = .refused [⟨[], w.rule⟩] := by
  obtain ⟨t, ht⟩ := w
  cases t with
  | unicode s =>
    obtain rfl : s = "" := by simpa using ht
    rfl
  | broken => rfl

end NoName

namespace Identity

variable {k : Kind} {id : Identity k}

/-- A zone is refused for its project only. -/
theorem zone_eq_error (h : id.project = some w.text) :
    id.zone = .error (.invalid Kind.zone.title [⟨[.field "project"], w.rule⟩]) := by
  have hproject : optional (zoneIn id.project id.place).told "project" nonempty =
      .refused [⟨[.field "project"], w.rule⟩] := by
    rw [Address.optional_told, zoneIn, h, Option.map_some, Option.getD_some,
      nullable_of_ne_null _ (by simp), w.nonempty_text]
    rfl
  have hname : required (zoneIn id.project id.place).told "zone" nonempty = .ok id.place := by
    have hmem : ("zone", Text.unicode id.place.text) ∈
        Kind.zone.names.zip (zoneIn id.project id.place).names := List.mem_cons_self
    rw [Address.required_told _ hmem, field_eq_ok_iff, nonempty_eq_ok_iff]
  have hnames : Check.names (fun name => required (zoneIn id.project id.place).told name nonempty)
      Kind.zone.names = .ok ⟨[id.place], rfl⟩ :=
    names_eq_ok _ rfl (List.forall_mem_singleton.mpr hname)
  rw [zone, Address.check, check, object, hproject, hnames]
  rfl

theorem zone_eq_error_iff {e : Error} : id.zone = .error e ↔ ∃ w : NoName,
    id.project = some w.text ∧
      e = .invalid Kind.zone.title [⟨[.field "project"], w.rule⟩] := by
  constructor
  · intro h
    have hnamed : ¬ id.IsNamed := fun hnamed => by
      obtain ⟨z, hz⟩ := exists_zone_eq_ok_iff.mpr hnamed
      cases hz.symm.trans h
    obtain ⟨p, hp⟩ := Classical.not_forall.mp hnamed
    obtain ⟨hproject, hname⟩ := Classical.not_imp.mp hp
    have herror := zone_eq_error (w := ⟨p, hname⟩) hproject
    exact ⟨⟨p, hname⟩, hproject, Except.error.inj (h.symm.trans herror)⟩
  · rintro ⟨w, hproject, rfl⟩
    exact zone_eq_error hproject

end Identity

/-- A disk cannot be written only if its size is too long. -/
theorem AttachedDisk.eq_of_payload_eq_error {d : AttachedDisk} {e : Error}
    (h : d.payload = .error e) : e = .integerTooLong := by
  have hentries : d.configuration.entries = .error e := Except.map_eq_error_iff.mp h
  cases hc : d.configuration with
  | create c =>
    rw [hc] at hentries
    have hsize : c.sizeText = .error e := Except.map_eq_error_iff.mp hentries
    rw [CreatedDisk.sizeText] at hsize
    split at hsize
    · cases hsize
    · next n _ =>
      have htext : Payload.integerText n.1 = .error e := Except.map_eq_error_iff.mp hsize
      rw [Payload.integerText] at htext
      split at htext
      · exact (Except.error.inj htext).symm
      · cases htext
  | persistent _ | scratch _ =>
    rw [hc] at hentries
    cases hentries

namespace Instance

theorem eq_of_createdText_eq_error {x : Instance} {e : Error} (h : x.createdText = .error e) :
    e = .instantOutOfRange := by
  rw [createdText] at h
  split at h
  · cases h
  · next n _ =>
    have htext : Payload.timestampText n = .error e := Except.map_eq_error_iff.mp h
    rw [Payload.timestampText] at htext
    split at htext
    · cases htext
    · exact (Except.error.inj htext).symm

/-- Of all that is written with an instance only its zone is checked again,
and refused for its project only. -/
theorem payload_eq_invalid_iff {x : Instance} {subject : String} {vs : List Violation} :
    x.payload = .error (.invalid subject vs) ↔ ∃ w : NoName, x.id.project = some w.text ∧
      subject = Identity.Kind.zone.title ∧ vs = [⟨[.field "project"], w.rule⟩] := by
  constructor
  · intro h
    rw [payload] at h
    rcases Except.bind_eq_error_iff.mp h with hzone | ⟨_, -, h⟩
    · obtain ⟨w, hproject, he⟩ := Identity.zone_eq_error_iff.mp hzone
      obtain ⟨rfl, rfl⟩ := Error.invalid.inj he
      exact ⟨w, hproject, rfl, rfl⟩
    · exfalso
      rcases Except.bind_eq_error_iff.mp h with hdisks | ⟨_, -, h⟩
      · obtain ⟨d, -, hd⟩ := Except.exists_mem_of_mapM_eq_error hdisks
        cases AttachedDisk.eq_of_payload_eq_error hd
      · rcases Except.bind_eq_error_iff.mp h with hcreated | ⟨_, -, h⟩
        · cases eq_of_createdText_eq_error hcreated
        · cases h
  · rintro ⟨w, hproject, rfl, rfl⟩
    rw [payload, Identity.zone_eq_error hproject]
    rfl

end Instance
end VmResource
