/-
# Which payloads are instances

The form of a payload, told without readers: which keys are looked at, which
of them may be absent or null, and what else may stand there. A payload is
read as an instance exactly if it has this form; nothing else about it
matters, neither further keys nor the order of the entries. What a link leads
to may be no string, which no identity has for a part: the links of a payload
that is read are those of identities.

Key definitions: `Json.IsFlag`, `Json.IsUrl`, `Json.IsLink`,
`Json.AreTexts`, `Json.AreObjects`, `Json.ObjectOf`, `Instance.HasForm`,
`Instance.LinksTellStrings`.
Key theorems: `Instance.exists_ofPayload_iff`,
`Instance.is_read_iff_hasForm`.
-/
import VmResource.Proofs.Keys
import VmResource.Proofs.RoundTrip

namespace VmResource

open Check
open Json (ifSet valueOf)

/-! ### Forms of single values -/

namespace Json

/-- Absent, which counts as null, or of a form. -/
def Optional (P : Json → Prop) (v : Json) : Prop := v = .null ∨ P v

def IsText (v : Json) : Prop := ∃ s, v = .text s

/-- A link that leads to a plain address of kind `k`. -/
def IsUrl (k : Identity.Kind) (v : Json) : Prop :=
  ∃ url, ∃ a : Identity.Address k, v = .text url ∧ a.IsPlain ∧ a.LeadsTo url

/-- The link of a plain identity of kind `k`: what it tells are strings. -/
def IsLink (k : Identity.Kind) (v : Json) : Prop :=
  ∃ url, ∃ id : Identity k, v = .text url ∧ id.IsPlain ∧ id.address.LeadsTo url

/-- If the value is a link of kind `k`, what it tells are strings. -/
def TellsStrings (k : Identity.Kind) (v : Json) : Prop :=
  ∀ url, ∀ a : Identity.Address k, v = .text url → a.IsPlain → a.LeadsTo url → a.IsUnicode

/-- The name of a member. -/
def IsMember (α : Type) [Choice α] (v : Json) : Prop := ∃ a : α, v = .text (Choice.name a)

/-- A truth value, a number that is 0 or 1, or a word for a truth value, in
any case of its letters. -/
inductive IsFlag : Json → Prop where
  | bool (b : Bool) : IsFlag (.bool b)
  | int (b : Bool) : IsFlag (.int b.toInt)
  | decimal (d : Decimal) (b : Bool) (h : d.whole? = some b.toInt) : IsFlag (.decimal d)
  | text (s : String) (h : s.toLower ∈ trueWords ++ falseWords) : IsFlag (.text s)

/-- An integer of at most `digitLimit` digits, or a decimal text of as many. -/
inductive IsNumber : Json → Prop where
  | int (n : Int) (h : (Nat.toDigits 10 n.natAbs).length ≤ digitLimit) : IsNumber (.int n)
  | text (s : String) (ds : List Char) (h : Text.IsDecimal s ds) (hlen : ds.length ≤ digitLimit) :
    IsNumber (.text s)

/-- An object whose entries are of a form. -/
def ObjectOf (P : List (Text × Json) → Prop) (v : Json) : Prop := ∃ es, v = .object es ∧ P es

/-- A list of values of a form. -/
def ListOf (P : Json → Prop) (v : Json) : Prop := ∃ xs, v = .list xs ∧ ∀ x ∈ xs, P x

/-- Something whose items are texts: a list of texts, any text, any object. -/
def AreTexts (v : Json) : Prop := ListOf IsText v ∨ IsText v ∨ ∃ es, v = .object es

/-- Something whose items are objects of a form: a list of these, or a text
or an object without items. -/
def AreObjects (P : List (Text × Json) → Prop) (v : Json) : Prop :=
  ListOf (ObjectOf P) v ∨ v = .text "" ∨ v = .object []

end Json

open Json (Optional IsText IsUrl IsLink IsMember IsFlag IsNumber ObjectOf ListOf AreTexts AreObjects
  TellsStrings)

/-! ### Forms of parts -/

/-- The form of the entries of tags. -/
structure Tags.HasForm (es : List (Text × Json)) : Prop where
  items : Optional AreTexts (valueOf es "items")
  fingerprint : Optional IsText (valueOf es "fingerprint")

/-- The form of an item of metadata. -/
structure Metadata.ItemHasForm (es : List (Text × Json)) : Prop where
  key : IsText (valueOf es "key")
  value : Optional IsText (valueOf es "value")

/-- The form of the entries of metadata. -/
structure Metadata.HasForm (es : List (Text × Json)) : Prop where
  items : Optional (AreObjects Metadata.ItemHasForm) (valueOf es "items")
  fingerprint : Optional IsText (valueOf es "fingerprint")

/-- The form of the entries of a service account. -/
structure ServiceAccount.HasForm (es : List (Text × Json)) : Prop where
  email : ∃ s : String, valueOf es "email" = .text s ∧ s ≠ ""
  scopes : Optional AreTexts (valueOf es "scopes")

/-- The form of the entries of scheduling. -/
structure Scheduling.HasForm (es : List (Text × Json)) : Prop where
  automaticRestart : Optional IsFlag (valueOf es "automaticRestart")
  onHostMaintenance : Optional (IsMember Maintenance) (valueOf es "onHostMaintenance")
  preemptible : Optional IsFlag (valueOf es "preemptible")

/-- The form of the entries of an access configuration. -/
structure AccessConfig.HasForm (es : List (Text × Json)) : Prop where
  name : Optional IsText (valueOf es "name")
  natIP : Optional IsText (valueOf es "natIP")
  type : Optional (IsMember AccessType) (valueOf es "type")

/-- The form of the entries of an interface, where `Link` tells what counts as
a link. -/
structure NetworkInterface.HasForm (Link : Identity.Kind → Json → Prop) (es : List (Text × Json)) :
    Prop where
  network : Link .network (valueOf es "network")
  name : Optional IsText (valueOf es "name")
  networkIP : Optional IsText (valueOf es "networkIP")
  subnetwork : Optional (Link .subnetwork) (valueOf es "subnetwork")
  accessConfigs : Optional (AreObjects AccessConfig.HasForm) (valueOf es "accessConfigs")

/-- The form of the entries of an instance, up to that of its disks and of
its instant of creation. -/
structure Instance.HasForm (Link : Identity.Kind → Json → Prop) (es : List (Text × Json)) :
    Prop where
  selfLink : Link .vm (valueOf es "selfLink")
  machineType : Link .machineType (valueOf es "machineType")
  networkInterfaces : ListOf (ObjectOf (NetworkInterface.HasForm Link))
    (valueOf es "networkInterfaces")
  disks : ListOf (fun v => ∃ d, AttachedDisk.ofPayload v = .ok d) (valueOf es "disks")
  id : Optional IsNumber (valueOf es "id")
  creationTimestamp : Optional (fun v => ∃ n, Payload.timestamp v = .ok n)
    (valueOf es "creationTimestamp")
  status : Optional (IsMember Status) (valueOf es "status")
  description : Optional IsText (valueOf es "description")
  statusMessage : Optional IsText (valueOf es "statusMessage")
  cpuPlatform : Optional IsText (valueOf es "cpuPlatform")
  canIpForward : Optional IsFlag (valueOf es "canIpForward")
  tags : Optional (ObjectOf Tags.HasForm) (valueOf es "tags")
  metadata : Optional (ObjectOf Metadata.HasForm) (valueOf es "metadata")
  serviceAccounts : Optional (ListOf (ObjectOf ServiceAccount.HasForm))
    (valueOf es "serviceAccounts")
  scheduling : Optional (ObjectOf Scheduling.HasForm) (valueOf es "scheduling")

/-! ### Reading single values -/

namespace Json

theorem exists_nullable_text_iff {v : Json} :
    (∃ o, nullable Check.text v = .ok o) ↔ Optional IsText v := by
  simp only [exists_nullable_eq_ok_iff, text_eq_ok_iff, Optional, IsText]

theorem flagOfInt_eq_ok_iff {n : Int} {b : Bool} : flagOfInt n = .ok b ↔ n = b.toInt := by
  unfold flagOfInt
  split
  · next h => cases b <;> simp [h]
  · next h0 =>
    split
    · next h => cases b <;> simp [h]
    · next h1 =>
      have hne : n ≠ b.toInt := by cases b <;> simpa using by assumption
      split <;> simp [refuse, hne]

theorem flagOfDecimal_eq_ok_iff {d : Decimal} {b : Bool} :
    flagOfDecimal d = .ok b ↔ d.whole? = some b.toInt := by
  unfold flagOfDecimal
  cases d.whole? with
  | none => simp [refuse]
  | some n =>
    simp only [Option.some.injEq]
    split
    · next h =>
      have hne : n ≠ b.toInt := by
        subst h
        cases b <;> decide
      simp [refuse, hne]
    · exact flagOfInt_eq_ok_iff

theorem exists_flagOfText_iff {s : String} :
    (∃ b, flagOfText s = .ok b) ↔ s.toLower ∈ trueWords ++ falseWords := by
  rw [List.mem_append]
  unfold flagOfText
  split
  · next h => simp [h]
  · next htrue =>
    split
    · next h => simp [h]
    · next hfalse => simp [refuse, htrue, hfalse]

theorem exists_flag_iff {v : Json} : (∃ b, flag v = .ok b) ↔ IsFlag v := by
  refine ⟨?_, ?_⟩
  · intro h
    obtain ⟨b, hb⟩ := h
    cases v with
    | bool c => exact .bool c
    | int n =>
      obtain rfl := flagOfInt_eq_ok_iff.mp hb
      exact .int b
    | decimal d => exact .decimal d b (flagOfDecimal_eq_ok_iff.mp hb)
    | text t =>
      obtain ⟨s, hs, hb⟩ := andThen_eq_ok_iff.mp hb
      obtain rfl := unicode_eq_ok_iff.mp hs
      exact .text s (exists_flagOfText_iff.mp ⟨b, hb⟩)
    | _ => cases hb
  · intro h
    cases h with
    | bool c => exact ⟨c, rfl⟩
    | int b => exact ⟨b, flagOfInt_eq_ok_iff.mpr rfl⟩
    | decimal d b h => exact ⟨b, flagOfDecimal_eq_ok_iff.mpr h⟩
    | text s h => exact exists_flagOfText_iff.mpr h

theorem exists_nullable_flag_iff {v : Json} :
    (∃ o, nullable flag v = .ok o) ↔ Optional IsFlag v := by
  simp only [exists_nullable_eq_ok_iff, exists_flag_iff, Optional]

theorem exists_choice_iff {α : Type} [Choice α] {field : String} {v : Json} :
    (∃ a, Choice.read α field v = .ok a) ↔ IsMember α v := by
  simp only [Choice.read_eq_ok_iff, IsMember]

theorem exists_link_iff {k : Identity.Kind} {v : Json} :
    (∃ id, Identity.read k v = .ok id) ↔ IsLink k v := by
  simp only [Identity.read_eq_ok_iff, IsLink]
  exact exists_comm

theorem isUrl_of_isLink {k : Identity.Kind} {v : Json} (h : IsLink k v) : IsUrl k v := by
  obtain ⟨url, id, hv, hplain, hleads⟩ := h
  exact ⟨url, id.address, hv, (Identity.isPlain_iff.mp hplain).1, hleads⟩

/-- A link without surrogates tells strings. -/
theorem tellsStrings_unicode (k : Identity.Kind) (s : String) :
    TellsStrings k (.text (.unicode s)) := by
  rintro url a hurl hplain hleads
  obtain rfl := Json.text.inj hurl
  exact Identity.Address.isUnicode_of_leadsTo hplain hleads

theorem isLink_of_isUrl {k : Identity.Kind} {v : Json} (htold : TellsStrings k v) (h : IsUrl k v) :
    IsLink k v := by
  obtain ⟨url, a, hv, hplain, hleads⟩ := h
  have hunicode := htold url a hv hplain hleads
  obtain ⟨id, rfl⟩ := Identity.Address.exists_address_eq hunicode
  exact ⟨url, id, hv, Identity.isPlain_iff.mpr ⟨hplain, hunicode.project⟩, hleads⟩

theorem exists_serverId_iff {v : Json} : (∃ s, Payload.serverId v = .ok s) ↔ IsNumber v := by
  rw [Payload.exists_serverId_eq_ok_iff]
  refine ⟨?_, ?_⟩
  · intro h
    rcases h with ⟨n, rfl, hn⟩ | ⟨s, ds, rfl, hs, hlen⟩
    · exact .int n (isLong_eq_false_iff.mp hn)
    · exact .text s ds hs hlen
  · intro h
    cases h with
    | int n h => exact Or.inl ⟨n, rfl, isLong_eq_false_iff.mpr h⟩
    | text s ds h hlen => exact Or.inr ⟨s, ds, rfl, h, hlen⟩

theorem exists_ifSet_choice_iff {α : Type} [Choice α] {field : String} {v : Json} :
    (∃ o, ifSet (Choice.read α field) v = .ok o) ↔ Optional (IsMember α) v := by
  simp only [exists_ifSet_eq_ok_iff, exists_choice_iff, Optional]

theorem exists_ifSet_link_iff {k : Identity.Kind} {v : Json} :
    (∃ o, ifSet (Identity.read k) v = .ok o) ↔ Optional (IsLink k) v := by
  simp only [exists_ifSet_eq_ok_iff, exists_link_iff, Optional]

/-! ### Reading items -/

theorem exists_givesTexts_iff {v : Json} : (∃ o, v.GivesTexts o) ↔ Optional AreTexts v := by
  unfold GivesTexts Optional AreTexts
  rw [exists_givesItems_iff]
  apply or_congr_right
  refine ⟨?_, ?_⟩
  · intro h
    obtain ⟨xs, hxs, hall⟩ := h
    cases v with
    | list ys =>
      cases hxs
      exact Or.inl ⟨_, rfl, hall⟩
    | text s => exact Or.inr (Or.inl ⟨s, rfl⟩)
    | object es => exact Or.inr (Or.inr ⟨es, rfl⟩)
    | _ => cases hxs
  · intro h
    rcases h with ⟨xs, rfl, hall⟩ | ⟨s, rfl⟩ | ⟨es, rfl⟩
    · exact ⟨xs, rfl, hall⟩
    · refine ⟨_, rfl, fun x hx => ?_⟩
      obtain ⟨c, -, rfl⟩ := List.mem_map.mp hx
      exact ⟨_, rfl⟩
    · refine ⟨_, rfl, fun x hx => ?_⟩
      obtain ⟨e, -, rfl⟩ := List.mem_map.mp hx
      exact ⟨_, rfl⟩

/-- Where items are to be objects, a text or an object must not have any. -/
theorem exists_givesObjects_iff {α : Type} {R : Json → α → Prop}
    {P : List (Text × Json) → Prop} (hR : ∀ x, (∃ a, R x a) ↔ ObjectOf P x) {v : Json} :
    (∃ o, GivesItems R v o) ↔ Optional (AreObjects P) v := by
  unfold Optional AreObjects
  rw [exists_givesItems_iff]
  simp only [hR]
  apply or_congr_right
  refine ⟨?_, ?_⟩
  · intro h
    obtain ⟨xs, hxs, hall⟩ := h
    cases v with
    | list ys =>
      cases hxs
      exact Or.inl ⟨_, rfl, hall⟩
    | text s =>
      cases hxs
      have hnil : s.codes = [] := by
        refine List.eq_nil_iff_forall_not_mem.mpr fun c hc => ?_
        have hmem : Text.ofCodes [c] ∈ s.characters := List.mem_map_of_mem hc
        obtain ⟨es, hes, -⟩ := hall _ (List.mem_map_of_mem hmem)
        cases hes
      exact Or.inr (Or.inl (congrArg Json.text (Text.codes_injective hnil)))
    | object es =>
      cases hxs
      have hnil : es = [] := by
        refine List.eq_nil_iff_forall_not_mem.mpr fun e he => ?_
        obtain ⟨fs, hfs, -⟩ := hall _ (List.mem_map.mpr ⟨e, he, rfl⟩)
        cases hfs
      exact Or.inr (Or.inr (by rw [hnil]))
    | _ => cases hxs
  · intro h
    rcases h with ⟨xs, rfl, hall⟩ | rfl | rfl
    · exact ⟨xs, rfl, hall⟩
    · exact ⟨[], rfl, by simp⟩
    · exact ⟨[], rfl, by simp⟩

end Json

/-! ### Reading parts -/

open Json (exists_nullable_text_iff exists_nullable_flag_iff exists_link_iff
  exists_ifSet_choice_iff exists_ifSet_link_iff exists_givesTexts_iff exists_givesObjects_iff)

theorem Tags.exists_ofPayload_iff {v : Json} :
    (∃ t, Tags.ofPayload v = .ok t) ↔ ObjectOf Tags.HasForm v := by
  simp only [Tags.ofPayload_eq_ok_iff]
  refine ⟨?_, ?_⟩
  · intro h
    obtain ⟨t, es, hv, hitems, hfingerprint⟩ := h
    exact ⟨es, hv, exists_givesTexts_iff.mp ⟨_, hitems⟩,
      exists_nullable_text_iff.mp ⟨_, hfingerprint⟩⟩
  · intro h
    obtain ⟨es, hv, hitems, hfingerprint⟩ := h
    obtain ⟨values, hvalues⟩ := exists_givesTexts_iff.mpr hitems
    obtain ⟨fingerprint, hfingerprint⟩ := exists_nullable_text_iff.mpr hfingerprint
    exact ⟨⟨values, fingerprint⟩, es, hv, hvalues, hfingerprint⟩

theorem Metadata.exists_isEntry_iff {v : Json} :
    (∃ item, Metadata.IsEntry v item) ↔ ObjectOf Metadata.ItemHasForm v := by
  refine ⟨?_, ?_⟩
  · intro h
    obtain ⟨item, es, hv, hkey, hvalue⟩ := h
    exact ⟨es, hv, ⟨_, hkey⟩, exists_nullable_text_iff.mp ⟨_, hvalue⟩⟩
  · intro h
    obtain ⟨es, hv, ⟨key, hkey⟩, hvalue⟩ := h
    obtain ⟨value, hvalue⟩ := exists_nullable_text_iff.mpr hvalue
    exact ⟨(key, value), es, hv, hkey, hvalue⟩

theorem Metadata.exists_ofPayload_iff {v : Json} :
    (∃ m, Metadata.ofPayload v = .ok m) ↔ ObjectOf Metadata.HasForm v := by
  simp only [Metadata.ofPayload_eq_ok_iff]
  refine ⟨?_, ?_⟩
  · intro h
    obtain ⟨m, es, hv, hitems, hfingerprint⟩ := h
    exact ⟨es, hv, (exists_givesObjects_iff fun _ => Metadata.exists_isEntry_iff).mp ⟨_, hitems⟩,
      exists_nullable_text_iff.mp ⟨_, hfingerprint⟩⟩
  · intro h
    obtain ⟨es, hv, hitems, hfingerprint⟩ := h
    obtain ⟨items, hitems⟩ :=
      (exists_givesObjects_iff fun _ => Metadata.exists_isEntry_iff).mpr hitems
    obtain ⟨fingerprint, hfingerprint⟩ := exists_nullable_text_iff.mpr hfingerprint
    exact ⟨⟨items, fingerprint⟩, es, hv, hitems, hfingerprint⟩

theorem ServiceAccount.exists_ofPayload_iff {v : Json} :
    (∃ a, ServiceAccount.ofPayload v = .ok a) ↔ ObjectOf ServiceAccount.HasForm v := by
  simp only [ServiceAccount.ofPayload_eq_ok_iff]
  refine ⟨?_, ?_⟩
  · intro h
    obtain ⟨a, es, hv, hemail, hscopes⟩ := h
    exact ⟨es, hv, ⟨a.email.text, hemail, a.email.text_ne_empty⟩,
      exists_givesTexts_iff.mp ⟨_, hscopes⟩⟩
  · intro h
    obtain ⟨es, hv, ⟨email, hemail, hne⟩, hscopes⟩ := h
    obtain ⟨scopes, hscopes⟩ := exists_givesTexts_iff.mpr hscopes
    exact ⟨⟨⟨email, hne⟩, scopes⟩, es, hv, hemail, hscopes⟩

theorem Scheduling.exists_ofPayload_iff {v : Json} :
    (∃ s, Scheduling.ofPayload v = .ok s) ↔ ObjectOf Scheduling.HasForm v := by
  simp only [Scheduling.ofPayload_eq_ok_iff]
  refine ⟨?_, ?_⟩
  · intro h
    obtain ⟨s, es, hv, hrestart, hmaintenance, hpreemptible⟩ := h
    exact ⟨es, hv, exists_nullable_flag_iff.mp ⟨_, hrestart⟩,
      exists_ifSet_choice_iff.mp ⟨_, hmaintenance⟩, exists_nullable_flag_iff.mp ⟨_, hpreemptible⟩⟩
  · intro h
    obtain ⟨es, hv, hrestart, hmaintenance, hpreemptible⟩ := h
    obtain ⟨restart, hrestart⟩ := exists_nullable_flag_iff.mpr hrestart
    obtain ⟨maintenance, hmaintenance⟩ := exists_ifSet_choice_iff.mpr hmaintenance
    obtain ⟨preemptible, hpreemptible⟩ := exists_nullable_flag_iff.mpr hpreemptible
    exact ⟨⟨restart, maintenance, preemptible⟩, es, hv, hrestart, hmaintenance, hpreemptible⟩

theorem AccessConfig.exists_ofPayload_iff {v : Json} :
    (∃ a, AccessConfig.ofPayload v = .ok a) ↔ ObjectOf AccessConfig.HasForm v := by
  simp only [AccessConfig.ofPayload_eq_ok_iff]
  refine ⟨?_, ?_⟩
  · intro h
    obtain ⟨a, es, hv, hname, hnatIp, htype⟩ := h
    exact ⟨es, hv, exists_nullable_text_iff.mp ⟨_, hname⟩,
      exists_nullable_text_iff.mp ⟨_, hnatIp⟩, exists_ifSet_choice_iff.mp ⟨_, htype⟩⟩
  · intro h
    obtain ⟨es, hv, hname, hnatIp, htype⟩ := h
    obtain ⟨name, hname⟩ := exists_nullable_text_iff.mpr hname
    obtain ⟨natIp, hnatIp⟩ := exists_nullable_text_iff.mpr hnatIp
    obtain ⟨type, htype⟩ := exists_ifSet_choice_iff.mpr htype
    exact ⟨⟨name, natIp, type⟩, es, hv, hname, hnatIp, htype⟩

theorem NetworkInterface.exists_ofPayload_iff {v : Json} :
    (∃ n, NetworkInterface.ofPayload v = .ok n) ↔ ObjectOf (NetworkInterface.HasForm IsLink) v := by
  simp only [NetworkInterface.ofPayload_eq_ok_iff]
  refine ⟨?_, ?_⟩
  · intro h
    obtain ⟨n, es, hv, hnetwork, hname, hip, hsubnetwork, hconfigs⟩ := h
    exact ⟨es, hv, exists_link_iff.mp ⟨_, hnetwork⟩, exists_nullable_text_iff.mp ⟨_, hname⟩,
      exists_nullable_text_iff.mp ⟨_, hip⟩, exists_ifSet_link_iff.mp ⟨_, hsubnetwork⟩,
      (exists_givesObjects_iff fun _ => AccessConfig.exists_ofPayload_iff).mp ⟨_, hconfigs⟩⟩
  · intro h
    obtain ⟨es, hv, hnetwork, hname, hip, hsubnetwork, hconfigs⟩ := h
    obtain ⟨network, hnetwork⟩ := exists_link_iff.mpr hnetwork
    obtain ⟨name, hname⟩ := exists_nullable_text_iff.mpr hname
    obtain ⟨ip, hip⟩ := exists_nullable_text_iff.mpr hip
    obtain ⟨subnetwork, hsubnetwork⟩ := exists_ifSet_link_iff.mpr hsubnetwork
    obtain ⟨configs, hconfigs⟩ :=
      (exists_givesObjects_iff fun _ => AccessConfig.exists_ofPayload_iff).mpr hconfigs
    exact ⟨⟨network, name, ip, subnetwork, configs⟩, es, hv, hnetwork, hname, hip, hsubnetwork,
      hconfigs⟩

/-! ### Reading instances -/

/-- Some list is read exactly from a list of readable values. -/
theorem Json.exists_list_iff {α : Type} {read : Json → Except Error α} {P : Json → Prop}
    (hread : ∀ x, (∃ a, read x = .ok a) ↔ P x) {v : Json} :
    (∃ as, ∃ xs, v = .list xs ∧ List.Forall₂ (fun x a => read x = .ok a) xs as) ↔ ListOf P v := by
  simp only [ListOf, ← hread, ← exists_forall₂_iff]
  refine ⟨?_, ?_⟩
  · intro h
    obtain ⟨as, xs, hv, has⟩ := h
    exact ⟨xs, hv, as, has⟩
  · intro h
    obtain ⟨xs, hv, as, has⟩ := h
    exact ⟨as, xs, hv, has⟩

namespace Instance

theorem exists_accounts_iff {v : Json} :
    (∃ o, ifSet (Payload.parts "serviceAccounts" ServiceAccount.ofPayload) v = .ok o) ↔
      Optional (ListOf (ObjectOf ServiceAccount.HasForm)) v := by
  rw [Json.exists_ifSet_eq_ok_iff]
  simp only [Payload.parts_eq_ok_iff]
  rw [Json.exists_list_iff fun _ => ServiceAccount.exists_ofPayload_iff]
  rfl

theorem exists_interfaces_iff {v : Json} :
    (∃ ns, ∃ xs, v = .list xs ∧
      List.Forall₂ (fun x n => NetworkInterface.ofPayload x = .ok n) xs ns) ↔
      ListOf (ObjectOf (NetworkInterface.HasForm IsLink)) v :=
  Json.exists_list_iff fun _ => NetworkInterface.exists_ofPayload_iff

theorem exists_disks_iff {v : Json} :
    (∃ ds, ∃ xs, v = .list xs ∧
      List.Forall₂ (fun x d => AttachedDisk.ofPayload x = .ok d) xs ds) ↔
      ListOf (fun v => ∃ d, AttachedDisk.ofPayload v = .ok d) v :=
  Json.exists_list_iff fun _ => Iff.rfl

theorem exists_ifSet_iff {α : Type} {read : Json → Except Error α} {P : Json → Prop}
    (hread : ∀ {x}, (∃ a, read x = .ok a) ↔ P x) {v : Json} :
    (∃ o, ifSet read v = .ok o) ↔ Optional P v := by
  simp only [Json.exists_ifSet_eq_ok_iff, hread, Optional]

/-- An instance is read from a value exactly if the value is an object of the
form in which links are those of identities. -/
theorem exists_ofPayload_iff {p : Json} :
    (∃ x, (ofPayload p).outcome = .ok x) ↔ ∃ es, p = .object es ∧ HasForm IsLink es := by
  simp only [ofPayload_eq_ok_iff]
  refine ⟨?_, ?_⟩
  · intro h
    obtain ⟨x, es, hp, hread⟩ := h
    refine ⟨es, hp, ?_⟩
    constructor
    case selfLink => exact exists_link_iff.mp ⟨_, hread.id⟩
    case machineType => exact exists_link_iff.mp ⟨_, hread.machineType⟩
    case networkInterfaces => exact exists_interfaces_iff.mp ⟨_, hread.interfaces⟩
    case disks => exact exists_disks_iff.mp ⟨_, hread.disks⟩
    case id => exact (exists_ifSet_iff Json.exists_serverId_iff).mp ⟨_, hread.serverId⟩
    case creationTimestamp => exact (exists_ifSet_iff Iff.rfl).mp ⟨_, hread.created⟩
    case status => exact exists_ifSet_choice_iff.mp ⟨_, hread.status⟩
    case description => exact exists_nullable_text_iff.mp ⟨_, hread.description⟩
    case statusMessage => exact exists_nullable_text_iff.mp ⟨_, hread.statusMessage⟩
    case cpuPlatform => exact exists_nullable_text_iff.mp ⟨_, hread.cpuPlatform⟩
    case canIpForward => exact exists_nullable_flag_iff.mp ⟨_, hread.canIpForward⟩
    case tags => exact (exists_ifSet_iff Tags.exists_ofPayload_iff).mp ⟨_, hread.tags⟩
    case metadata => exact (exists_ifSet_iff Metadata.exists_ofPayload_iff).mp ⟨_, hread.metadata⟩
    case serviceAccounts => exact exists_accounts_iff.mp ⟨_, hread.accounts⟩
    case scheduling =>
      exact (exists_ifSet_iff Scheduling.exists_ofPayload_iff).mp ⟨_, hread.scheduling⟩
  · intro h
    obtain ⟨es, hp, hform⟩ := h
    obtain ⟨id, hid⟩ := exists_link_iff.mpr hform.selfLink
    obtain ⟨machineType, hmachineType⟩ := exists_link_iff.mpr hform.machineType
    obtain ⟨interfaces, hinterfaces⟩ := exists_interfaces_iff.mpr hform.networkInterfaces
    obtain ⟨disks, hdisks⟩ := exists_disks_iff.mpr hform.disks
    obtain ⟨serverId, hserverId⟩ := (exists_ifSet_iff Json.exists_serverId_iff).mpr hform.id
    obtain ⟨created, hcreated⟩ := (exists_ifSet_iff Iff.rfl).mpr hform.creationTimestamp
    obtain ⟨status, hstatus⟩ := exists_ifSet_choice_iff.mpr hform.status
    obtain ⟨description, hdescription⟩ := exists_nullable_text_iff.mpr hform.description
    obtain ⟨statusMessage, hstatusMessage⟩ := exists_nullable_text_iff.mpr hform.statusMessage
    obtain ⟨cpuPlatform, hcpuPlatform⟩ := exists_nullable_text_iff.mpr hform.cpuPlatform
    obtain ⟨canIpForward, hcanIpForward⟩ := exists_nullable_flag_iff.mpr hform.canIpForward
    obtain ⟨tags, htags⟩ := (exists_ifSet_iff Tags.exists_ofPayload_iff).mpr hform.tags
    obtain ⟨metadata, hmetadata⟩ :=
      (exists_ifSet_iff Metadata.exists_ofPayload_iff).mpr hform.metadata
    obtain ⟨accounts, haccounts⟩ := exists_accounts_iff.mpr hform.serviceAccounts
    obtain ⟨scheduling, hscheduling⟩ :=
      (exists_ifSet_iff Scheduling.exists_ofPayload_iff).mpr hform.scheduling
    exact ⟨⟨id, machineType, interfaces, disks, description, tags, canIpForward, metadata,
      accounts, scheduling, serverId, created, status, statusMessage, cpuPlatform⟩, es, hp,
      ⟨hid, hmachineType, hinterfaces, hdisks, hdescription, htags, hcanIpForward, hmetadata,
        haccounts, hscheduling, hserverId, hcreated, hstatus, hstatusMessage, hcpuPlatform⟩⟩

/-! ### Links and the links of identities -/

/-- What is told by the links of a payload beside its disks are strings. -/
structure LinksTellStrings (p : Json) : Prop where
  selfLink : TellsStrings .vm (p.within "selfLink")
  machineType : TellsStrings .machineType (p.within "machineType")
  network : ∀ xs, p.within "networkInterfaces" = .list xs →
    ∀ x ∈ xs, TellsStrings .network (x.within "network")
  subnetwork : ∀ xs, p.within "networkInterfaces" = .list xs →
    ∀ x ∈ xs, TellsStrings .subnetwork (x.within "subnetwork")

theorem HasForm.isUrl {es : List (Text × Json)} (h : HasForm IsLink es) : HasForm IsUrl es := by
  obtain ⟨xs, hxs, hinterfaces⟩ := h.networkInterfaces
  refine { h with
    selfLink := Json.isUrl_of_isLink h.selfLink
    machineType := Json.isUrl_of_isLink h.machineType
    networkInterfaces := ⟨xs, hxs, fun x hx => ?_⟩ }
  obtain ⟨fs, hfs, hform⟩ := hinterfaces x hx
  exact ⟨fs, hfs, { hform with
    network := Json.isUrl_of_isLink hform.network
    subnetwork := hform.subnetwork.imp_right Json.isUrl_of_isLink }⟩

theorem HasForm.isLink {es : List (Text × Json)} (htold : LinksTellStrings (.object es))
    (h : HasForm IsUrl es) : HasForm IsLink es := by
  obtain ⟨xs, hxs, hinterfaces⟩ := h.networkInterfaces
  refine { h with
    selfLink := Json.isLink_of_isUrl htold.selfLink h.selfLink
    machineType := Json.isLink_of_isUrl htold.machineType h.machineType
    networkInterfaces := ⟨xs, hxs, fun x hx => ?_⟩ }
  obtain ⟨fs, rfl, hform⟩ := hinterfaces x hx
  exact ⟨fs, rfl, { hform with
    network := Json.isLink_of_isUrl (htold.network xs hxs _ hx) hform.network
    subnetwork := hform.subnetwork.imp_right
      (Json.isLink_of_isUrl (htold.subnetwork xs hxs _ hx)) }⟩

/-- **The form of a payload.** Where links tell strings, an instance is read
from a value if and only if the value is an object of this form. -/
theorem is_read_iff_hasForm {p : Json} (htold : LinksTellStrings p) :
    (∃ x, (ofPayload p).outcome = .ok x) ↔ ∃ es, p = .object es ∧ HasForm IsUrl es := by
  rw [exists_ofPayload_iff]
  constructor
  · rintro ⟨es, rfl, h⟩
    exact ⟨es, rfl, h.isUrl⟩
  · rintro ⟨es, rfl, h⟩
    exact ⟨es, rfl, h.isLink htold⟩

/-- The links of this payload tell strings, so it is of this form. -/
theorem hasForm_dated : LinksTellStrings (dated "2020-02-29T12:00:00Z") ∧
    ∃ es, dated "2020-02-29T12:00:00Z" = .object es ∧ HasForm IsUrl es := by
  have htold : LinksTellStrings (dated "2020-02-29T12:00:00Z") := by
    obtain ⟨n, hn, hnetwork, hsubnetwork⟩ : ∃ n,
        (dated "2020-02-29T12:00:00Z").within "networkInterfaces" = .list [n] ∧
          TellsStrings .network (n.within "network") ∧
          TellsStrings .subnetwork (n.within "subnetwork") :=
      ⟨_, rfl, Json.tellsStrings_unicode _ _, Json.tellsStrings_unicode _ _⟩
    refine ⟨Json.tellsStrings_unicode _ _, Json.tellsStrings_unicode _ _, ?_, ?_⟩
    all_goals
      intro xs hxs x hx
      obtain rfl := Json.list.inj (hn.symm.trans hxs)
      obtain rfl := List.mem_singleton.mp hx
      assumption
  exact ⟨htold, (is_read_iff_hasForm htold).mp ⟨_, rfl⟩⟩

/-- A payload with an account that has this address. -/
def withAccount (email : Text) : Json :=
  .object [("selfLink", .text "zones/n/instances/i"),
    ("machineType", .text "zones/n/machineTypes/m"),
    ("networkInterfaces", .list []), ("disks", .list []),
    ("serviceAccounts", .list [.object [("email", .text email)]])]

/-- Of two addresses that are not empty one is refused, the one that is no
string. -/
theorem half_email_is_refused : Text.halfPair ≠ "" ∧
    (∃ x, (ofPayload (withAccount "e")).outcome = .ok x) ∧
    (ofPayload (withAccount Text.halfPair)).outcome = .error (.malformed (.part "serviceAccounts")
      (some (.invalid "ServiceAccount" [⟨[.field "email"], .notUnicode⟩]))) :=
  ⟨by decide, ⟨_, rfl⟩, rfl⟩

end Instance
end VmResource
