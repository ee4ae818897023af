/-
# Payloads of parts, field by field

What a part is read from: an object, each field of the part from the value
of its own key, and nothing else. So a part is read exactly if each of its
fields is, and a part that is written reads back as it was if its identities
are plain.

Key definitions: `Json.GivesTexts`, `Json.GivesItems`.
Key theorems: for each part `ofPayload_eq_ok_iff` and `ofPayload_payload`.
-/
import VmResource.Payload.Read
import VmResource.Payload.Write
import VmResource.Proofs.Entries
import VmResource.Proofs.Identities

namespace VmResource

open Check
open Json (ifSet valueOf entriesSet valueOf_entriesSet record_eq texts)

/-! ### Members and links -/

namespace Choice

variable {α : Type} [Choice α]

/-- A member is read from its name alone. -/
theorem read_eq_ok_iff {field : String} {v : Json} {a : α} :
    read α field v = .ok a ↔ v = .text (name a) := by
  cases v with
  | text t =>
    cases t with
    | broken => simp [read]
    | unicode s =>
      simp only [read, Json.text.injEq, Text.unicode.injEq]
      cases hs : (ofName? s : Option α) with
      | none =>
        simp only [reduceCtorEq, false_iff]
        rintro rfl
        simp at hs
      | some b =>
        rw [ofName?_eq_some_iff] at hs
        subst hs
        exact ⟨fun h => congrArg name (Except.ok.inj h), fun h => congrArg _ (name_injective h)⟩
  | _ => simp [read]

theorem read_map_getD (field : String) (o : Option α) :
    ifSet (read α field) ((o.map json).getD .null) = .ok o :=
  Json.ifSet_map_getD fun _ _ => ⟨by simp [json], read_eq_ok_iff.mpr rfl⟩

end Choice

namespace Identity

variable {k : Kind}

theorem read_json {id : Identity k} (h : id.IsPlain) : read k id.json = .ok id :=
  read_eq_ok_iff.mpr ⟨id.selfLink, rfl, h, id.address.leadsTo_link⟩

theorem read_map_getD {o : Option (Identity k)} (h : ∀ id, o = some id → id.IsPlain) :
    ifSet (read k) ((o.map json).getD .null) = .ok o :=
  Json.ifSet_map_getD fun id hid => ⟨by simp [json], read_json (h id hid)⟩

theorem isPlain_of_read {v : Json} {id : Identity k} (h : read k v = .ok id) : id.IsPlain := by
  obtain ⟨url, -, hplain, -⟩ := read_eq_ok_iff.mp h
  exact hplain

theorem isPlain_of_ifSet_read {v : Json} {o : Option (Identity k)}
    (h : ifSet (read k) v = .ok o) : ∀ id, o = some id → id.IsPlain := by
  rintro id rfl
  rcases Json.ifSet_eq_ok_iff.mp h with ⟨-, hnone⟩ | ⟨-, a, ha, hsome⟩
  · cases hnone
  · obtain rfl := Option.some.inj hsome
    exact isPlain_of_read ha

theorem ne_null_of_read {v : Json} {id : Identity k} (h : read k v = .ok id) : v ≠ .null := by
  rintro rfl
  simp [read] at h

end Identity

/-! ### Items -/

namespace Json

section Items

variable {α β : Type} {R : Json → α → Prop} {v : Json}

/-- The value is null, or its items give, one by one, those of `o`. -/
def GivesItems (R : Json → α → Prop) (v : Json) (o : Option (List α)) : Prop :=
  (v = .null ∧ o = none) ∨ ∃ xs as, v.items = .ok xs ∧ List.Forall₂ R xs as ∧ o = some as

theorem ne_null_of_items {xs : List Json} (h : v.items = .ok xs) : v ≠ .null := by
  rintro rfl
  cases h

theorem ifSet_items_eq_ok_iff {o : Option (List Json)} :
    ifSet items v = .ok o ↔ GivesItems Eq v o := by
  rw [ifSet_eq_ok_iff]
  refine or_congr_right ⟨?_, ?_⟩
  · rintro ⟨-, xs, hxs, rfl⟩
    exact ⟨xs, xs, hxs, List.forall₂_same.mpr fun _ _ => rfl, rfl⟩
  · rintro ⟨xs, as, hxs, h, rfl⟩
    rw [List.forall₂_eq_eq_eq] at h
    exact ⟨ne_null_of_items hxs, as, h ▸ hxs, rfl⟩

/-- Items are read one by one. -/
theorem ifSet_mapM_items_eq_ok_iff {read : Json → Except Error α} {o : Option (List α)} :
    ifSet (fun v => do (← v.items).mapM read) v = .ok o ↔
      GivesItems (fun x a => read x = .ok a) v o := by
  rw [ifSet_eq_ok_iff]
  refine or_congr_right ⟨?_, ?_⟩
  · rintro ⟨-, as, has, rfl⟩
    obtain ⟨xs, hxs, has⟩ := Except.bind_eq_ok_iff.mp has
    exact ⟨xs, as, hxs, Except.mapM_eq_ok_iff.mp has, rfl⟩
  · rintro ⟨xs, as, hxs, has, rfl⟩
    refine ⟨ne_null_of_items hxs, as, ?_, rfl⟩
    exact Except.bind_eq_ok_iff.mpr ⟨xs, hxs, Except.mapM_eq_ok_iff.mpr has⟩

/-- Items that were read are checked one by one. -/
theorem givesItems_check_iff {check : α → Check β}
    (checks : Option (List α) → Check (Option (List β))) (hnone : checks none = .ok none)
    (hsome : ∀ as, checks (some as) = some <$> each check as)
    {o : Option (List β)} :
    (∃ as, GivesItems R v as ∧ checks as = .ok o) ↔
      GivesItems (fun x b => ∃ a, R x a ∧ check a = .ok b) v o := by
  refine ⟨?_, ?_⟩
  · intro h
    obtain ⟨_, ⟨hnull, rfl⟩ | ⟨xs, as, hxs, has, rfl⟩, h⟩ := h
    · rw [hnone] at h
      exact Or.inl ⟨hnull, (Check.ok.inj h).symm⟩
    · obtain ⟨bs, hbs, rfl⟩ := map_eq_ok_iff.mp (hsome as ▸ h)
      rw [each_eq_ok_iff] at hbs
      exact Or.inr ⟨xs, bs, hxs, exists_forall₂_and_iff.mp ⟨as, has, hbs⟩, rfl⟩
  · intro h
    rcases h with ⟨hnull, rfl⟩ | ⟨xs, bs, hxs, h, rfl⟩
    · exact ⟨none, Or.inl ⟨hnull, rfl⟩, hnone⟩
    · obtain ⟨as, has, hbs⟩ := exists_forall₂_and_iff.mpr h
      refine ⟨some as, Or.inr ⟨xs, as, hxs, has, rfl⟩, ?_⟩
      rw [hsome, map_eq_ok_iff]
      exact ⟨bs, each_eq_ok_iff.mpr hbs, rfl⟩

/-- Some items are given if each of those that there are gives one. -/
theorem exists_givesItems_iff :
    (∃ o, GivesItems R v o) ↔ v = .null ∨ ∃ xs, v.items = .ok xs ∧ ∀ x ∈ xs, ∃ a, R x a := by
  simp only [← exists_forall₂_iff]
  refine ⟨?_, ?_⟩
  · intro h
    obtain ⟨_, ⟨hnull, -⟩ | ⟨xs, as, hxs, has, -⟩⟩ := h
    · exact Or.inl hnull
    · exact Or.inr ⟨xs, hxs, as, has⟩
  · intro h
    rcases h with hnull | ⟨xs, hxs, as, has⟩
    · exact ⟨none, Or.inl ⟨hnull, rfl⟩⟩
    · exact ⟨some as, Or.inr ⟨xs, as, hxs, has, rfl⟩⟩

/-- An optional list that is written, or left out, is given. -/
theorem givesItems_map_getD {write : α → Json} {o : Option (List α)}
    (h : ∀ as, o = some as → ∀ a ∈ as, R (write a) a) :
    GivesItems R ((o.map fun as => .list (as.map write)).getD .null) o := by
  cases o with
  | none => exact Or.inl ⟨rfl, rfl⟩
  | some as =>
    refine Or.inr ⟨as.map write, as, rfl, ?_, rfl⟩
    rw [List.forall₂_map_left_iff]
    exact List.forall₂_same.mpr (h as rfl)

end Items

/-- The value is null, or its items are the texts of `o`. -/
def GivesTexts (v : Json) (o : Option (List Text)) : Prop :=
  GivesItems (fun x s => x = .text s) v o

theorem exists_ifSet_items_iff {v : Json} {o : Option (List Text)} :
    (∃ xs, ifSet items v = .ok xs ∧ textItems xs = .ok o) ↔ v.GivesTexts o := by
  simp only [ifSet_items_eq_ok_iff]
  rw [givesItems_check_iff textItems rfl fun _ => rfl]
  simp only [text_eq_ok_iff, exists_eq_left', GivesTexts]

theorem givesTexts_map_getD (o : Option (List Text)) :
    GivesTexts ((o.map texts).getD .null) o :=
  givesItems_map_getD fun _ _ _ _ => rfl

end Json

/-! ### Tags -/

namespace Tags

/-- Tags are read field by field. -/
theorem ofPayload_eq_ok_iff {p : Json} {t : Tags} :
    ofPayload p = .ok t ↔ ∃ es, p = .object es ∧ (valueOf es "items").GivesTexts t.values ∧
      nullable text (valueOf es "fingerprint") = .ok t.fingerprint := by
  simp only [← Json.exists_ifSet_items_iff]
  cases p with
  | object es =>
    simp only [ofPayload, Json.get_object, Except.ok_bind, Except.bind_eq_ok_iff,
      Check.orInvalid_eq_ok_iff, seq_eq_ok_iff, map_eq_ok_iff, field_eq_ok_iff, Json.object.injEq,
      exists_eq_left']
    refine ⟨?_, ?_⟩
    · intro h
      obtain ⟨items, hitems, _, fingerprint, ⟨values, hvalues, rfl⟩, hfingerprint, rfl⟩ := h
      exact ⟨⟨items, hitems, hvalues⟩, hfingerprint⟩
    · intro h
      obtain ⟨⟨items, hitems, hvalues⟩, hfingerprint⟩ := h
      exact ⟨items, hitems, _, _, ⟨_, hvalues, rfl⟩, hfingerprint, rfl⟩
  | _ => simp [ofPayload, Json.get]

/-- Tags read back. -/
theorem ofPayload_payload (t : Tags) : ofPayload t.payload = .ok t := by
  refine ofPayload_eq_ok_iff.mpr ⟨_, record_eq _, ?_, ?_⟩
  · simpa [valueOf_entriesSet] using Json.givesTexts_map_getD t.values
  · simp [valueOf_entriesSet, List.lookup_cons]

end Tags

/-! ### Metadata -/

namespace Metadata

/-- An object with a text for its key and for its value, which may be
unset. -/
def IsEntry (v : Json) (item : Text × Option Text) : Prop :=
  ∃ es, v = .object es ∧ valueOf es "key" = .text item.1 ∧
    nullable text (valueOf es "value") = .ok item.2

theorem exists_readItem_iff {v : Json} {item : Text × Option Text} :
    (∃ pair, readItem v = .ok pair ∧ checkItem pair = .ok item) ↔ IsEntry v item := by
  cases v with
  | object es =>
    simp only [readItem, Json.get_object, Except.ok_bind, Except.pure_eq, Except.bind_eq_ok_iff,
      Json.require_eq_ok_iff, checkItem, seq_eq_ok_iff, map_eq_ok_iff, under_eq_ok_iff,
      text_eq_ok_iff, IsEntry, Json.object.injEq, Except.ok.injEq, exists_eq_left']
    refine ⟨?_, ?_⟩
    · intro h
      obtain ⟨_, ⟨_, hkey, rfl⟩, _, value, ⟨key, rfl, rfl⟩, hvalue, rfl⟩ := h
      exact ⟨(Json.lookup_eq_some_iff (by simp)).mp hkey, hvalue⟩
    · intro h
      obtain ⟨hkey, hvalue⟩ := h
      have hlookup := (Json.lookup_eq_some_iff (by simp)).mpr hkey
      exact ⟨_, ⟨_, hlookup, rfl⟩, _, item.2, ⟨item.1, rfl, rfl⟩, hvalue, rfl⟩
  | _ => simp [readItem, Json.require, IsEntry]

theorem exists_ifSet_readItems_iff {v : Json} {o : Option (List (Text × Option Text))} :
    (∃ pairs, ifSet readItems v = .ok pairs ∧ checkItems pairs = .ok o) ↔
      v.GivesItems IsEntry o := by
  have hread : ∀ pairs, ifSet readItems v = .ok pairs ↔
      v.GivesItems (fun x pair => readItem x = .ok pair) pairs :=
    fun _ => Json.ifSet_mapM_items_eq_ok_iff
  simp only [hread]
  rw [Json.givesItems_check_iff checkItems rfl fun _ => rfl]
  simp only [exists_readItem_iff]

/-- Metadata is read field by field. -/
theorem ofPayload_eq_ok_iff {p : Json} {m : Metadata} :
    ofPayload p = .ok m ↔ ∃ es, p = .object es ∧ (valueOf es "items").GivesItems IsEntry m.items ∧
      nullable text (valueOf es "fingerprint") = .ok m.fingerprint := by
  simp only [← exists_ifSet_readItems_iff]
  cases p with
  | object es =>
    simp only [ofPayload, Json.get_object, Except.ok_bind, Except.bind_eq_ok_iff,
      Check.orInvalid_eq_ok_iff, seq_eq_ok_iff, map_eq_ok_iff, field_eq_ok_iff, Json.object.injEq,
      exists_eq_left']
    refine ⟨?_, ?_⟩
    · intro h
      obtain ⟨pairs, hpairs, _, fingerprint, ⟨items, hitems, rfl⟩, hfingerprint, rfl⟩ := h
      exact ⟨⟨pairs, hpairs, hitems⟩, hfingerprint⟩
    · intro h
      obtain ⟨⟨pairs, hpairs, hitems⟩, hfingerprint⟩ := h
      exact ⟨pairs, hpairs, _, _, ⟨_, hitems, rfl⟩, hfingerprint, rfl⟩
  | _ => simp [ofPayload, Json.get]

theorem isEntry_itemPayload (item : Text × Option Text) : IsEntry (itemPayload item) item := by
  refine ⟨_, record_eq _, ?_, ?_⟩ <;> simp [valueOf_entriesSet, List.lookup_cons]

/-- Metadata reads back. -/
theorem ofPayload_payload (m : Metadata) : ofPayload m.payload = .ok m := by
  refine ofPayload_eq_ok_iff.mpr ⟨_, record_eq _, ?_, ?_⟩
  · have hitems : ∀ items, m.items = some items → ∀ item ∈ items, IsEntry (itemPayload item) item :=
      fun _ _ item _ => isEntry_itemPayload item
    simpa [valueOf_entriesSet] using Json.givesItems_map_getD hitems
  · simp [valueOf_entriesSet, List.lookup_cons]

end Metadata

/-! ### Service accounts -/

namespace ServiceAccount

/-- An account is read field by field. -/
theorem ofPayload_eq_ok_iff {p : Json} {a : ServiceAccount} :
    ofPayload p = .ok a ↔ ∃ es, p = .object es ∧ valueOf es "email" = .text a.email.text ∧
      (valueOf es "scopes").GivesTexts a.scopes := by
  simp only [← Json.exists_ifSet_items_iff]
  cases p with
  | object es =>
    simp only [ofPayload, Json.get_object, Except.ok_bind, Except.bind_eq_ok_iff,
      Json.require_eq_ok_iff, Check.orInvalid_eq_ok_iff, seq_eq_ok_iff, map_eq_ok_iff,
      field_eq_ok_iff, nonempty_eq_ok_iff, Json.object.injEq, exists_eq_left']
    refine ⟨?_, ?_⟩
    · intro h
      obtain ⟨items, hitems, _, hlookup, _, scopes, ⟨email, rfl, rfl⟩, hscopes, rfl⟩ := h
      exact ⟨(Json.lookup_eq_some_iff (by simp)).mp hlookup, items, hitems, hscopes⟩
    · intro h
      obtain ⟨hemail, items, hitems, hscopes⟩ := h
      have hlookup := (Json.lookup_eq_some_iff (by simp)).mpr hemail
      exact ⟨items, hitems, _, hlookup, _, _, ⟨_, rfl, rfl⟩, hscopes, rfl⟩
  | _ => simp [ofPayload, Json.get]

/-- An account reads back. -/
theorem ofPayload_payload (a : ServiceAccount) : ofPayload a.payload = .ok a := by
  refine ofPayload_eq_ok_iff.mpr ⟨_, record_eq _, ?_, ?_⟩
  · simp [valueOf_entriesSet]
  · simpa [valueOf_entriesSet, List.lookup_cons] using Json.givesTexts_map_getD a.scopes

end ServiceAccount

/-! ### Scheduling -/

namespace Scheduling

/-- Scheduling is read field by field. -/
theorem ofPayload_eq_ok_iff {p : Json} {s : Scheduling} :
    ofPayload p = .ok s ↔ ∃ es, p = .object es ∧
      nullable flag (valueOf es "automaticRestart") = .ok s.automaticRestart ∧
      ifSet (Choice.read Maintenance "onHostMaintenance") (valueOf es "onHostMaintenance") =
        .ok s.maintenance ∧
      nullable flag (valueOf es "preemptible") = .ok s.preemptible := by
  cases p with
  | object es =>
    simp only [ofPayload, Json.get_object, Except.ok_bind, Except.bind_eq_ok_iff,
      Check.orInvalid_eq_ok_iff, seq_eq_ok_iff, map_eq_ok_iff, field_eq_ok_iff, Json.object.injEq,
      exists_eq_left']
    refine ⟨?_, ?_⟩
    · intro h
      obtain ⟨maintenance, hmaintenance, _, preemptible, ⟨restart, hrestart, rfl⟩, hpreemptible,
        rfl⟩ := h
      exact ⟨hrestart, hmaintenance, hpreemptible⟩
    · intro h
      obtain ⟨hrestart, hmaintenance, hpreemptible⟩ := h
      exact ⟨_, hmaintenance, _, _, ⟨_, hrestart, rfl⟩, hpreemptible, rfl⟩
  | _ => simp [ofPayload, Json.get]

/-- Scheduling reads back. -/
theorem ofPayload_payload (s : Scheduling) : ofPayload s.payload = .ok s := by
  refine ofPayload_eq_ok_iff.mpr ⟨_, record_eq _, ?_, ?_, ?_⟩
  · simp [valueOf_entriesSet]
  · simpa [valueOf_entriesSet, List.lookup_cons] using Choice.read_map_getD _ s.maintenance
  · simp [valueOf_entriesSet, List.lookup_cons]

end Scheduling

/-! ### Network interfaces -/

namespace AccessConfig

/-- An access configuration is read field by field. -/
theorem ofPayload_eq_ok_iff {p : Json} {a : AccessConfig} :
    ofPayload p = .ok a ↔ ∃ es, p = .object es ∧
      nullable text (valueOf es "name") = .ok a.name ∧
      nullable text (valueOf es "natIP") = .ok a.natIp ∧
      ifSet (Choice.read AccessType "access config type") (valueOf es "type") = .ok a.type := by
  cases p with
  | object es =>
    simp only [ofPayload, Json.get_object, Except.ok_bind, Except.bind_eq_ok_iff,
      Check.orInvalid_eq_ok_iff, seq_eq_ok_iff, map_eq_ok_iff, field_eq_ok_iff, Json.object.injEq,
      exists_eq_left']
    refine ⟨?_, ?_⟩
    · intro h
      obtain ⟨type, htype, _, natIp, ⟨name, hname, rfl⟩, hnatIp, rfl⟩ := h
      exact ⟨hname, hnatIp, htype⟩
    · intro h
      obtain ⟨hname, hnatIp, htype⟩ := h
      exact ⟨_, htype, _, _, ⟨_, hname, rfl⟩, hnatIp, rfl⟩
  | _ => simp [ofPayload, Json.get]

/-- An access configuration reads back. -/
theorem ofPayload_payload (a : AccessConfig) : ofPayload a.payload = .ok a := by
  refine ofPayload_eq_ok_iff.mpr ⟨_, record_eq _, ?_, ?_, ?_⟩
  · simp [valueOf_entriesSet]
  · simp [valueOf_entriesSet, List.lookup_cons]
  · simpa [valueOf_entriesSet, List.lookup_cons] using Choice.read_map_getD _ a.type

end AccessConfig

namespace NetworkInterface

/-- An interface is read field by field. -/
theorem ofPayload_eq_ok_iff {p : Json} {n : NetworkInterface} :
    ofPayload p = .ok n ↔ ∃ es, p = .object es ∧
      Identity.read .network (valueOf es "network") = .ok n.network ∧
      nullable text (valueOf es "name") = .ok n.name ∧
      nullable text (valueOf es "networkIP") = .ok n.networkIp ∧
      ifSet (Identity.read .subnetwork) (valueOf es "subnetwork") = .ok n.subnetwork ∧
      (valueOf es "accessConfigs").GivesItems (fun x c => AccessConfig.ofPayload x = .ok c)
        n.accessConfigs := by
  have hconfigs : ∀ {v : Json} {o}, ifSet readAccessConfigs v = .ok o ↔
      v.GivesItems (fun x c => AccessConfig.ofPayload x = .ok c) o :=
    Json.ifSet_mapM_items_eq_ok_iff
  cases p with
  | object es =>
    simp only [ofPayload, Json.get_object, Except.ok_bind, Except.bind_eq_ok_iff, hconfigs,
      Json.require_eq_ok_iff, Check.orInvalid_eq_ok_iff, seq_eq_ok_iff, map_eq_ok_iff,
      field_eq_ok_iff, Json.object.injEq, exists_eq_left']
    refine ⟨?_, ?_⟩
    · intro h
      obtain ⟨subnetwork, hsubnetwork, configs, hconfigs, _, hlookup, network, hnetwork, _, ip,
        ⟨name, hname, rfl⟩, hip, rfl⟩ := h
      rw [Json.lookup_eq_some_iff (Identity.ne_null_of_read hnetwork)] at hlookup
      exact ⟨hlookup ▸ hnetwork, hname, hip, hsubnetwork, hconfigs⟩
    · intro h
      obtain ⟨hnetwork, hname, hip, hsubnetwork, hconfigs⟩ := h
      have hlookup := (Json.lookup_eq_some_iff (Identity.ne_null_of_read hnetwork)).mpr rfl
      exact ⟨_, hsubnetwork, _, hconfigs, _, hlookup, _, hnetwork, _, _, ⟨_, hname, rfl⟩, hip, rfl⟩
  | _ => simp [ofPayload, Json.get]

/-- The identities of an interface that was read are plain. -/
theorem allPlain_of_ofPayload {p : Json} {n : NetworkInterface} (h : ofPayload p = .ok n) :
    Identity.AllPlain n.identities := by
  obtain ⟨es, -, hnetwork, -, -, hsubnetwork, -⟩ := ofPayload_eq_ok_iff.mp h
  rw [identities, Identity.allPlain_cons, Identity.allPlain_listed]
  exact ⟨Identity.isPlain_of_read hnetwork, Identity.isPlain_of_ifSet_read hsubnetwork⟩

/-- An interface reads back if its identities are plain. -/
theorem ofPayload_payload {n : NetworkInterface} (h : Identity.AllPlain n.identities) :
    ofPayload n.payload = .ok n := by
  rw [identities, Identity.allPlain_cons, Identity.allPlain_listed] at h
  refine ofPayload_eq_ok_iff.mpr ⟨_, record_eq _, ?_, ?_, ?_, ?_, ?_⟩
  · simpa [valueOf_entriesSet] using Identity.read_json h.1
  · simp [valueOf_entriesSet, List.lookup_cons]
  · simp [valueOf_entriesSet, List.lookup_cons]
  · simpa [valueOf_entriesSet, List.lookup_cons] using Identity.read_map_getD h.2
  · have hconfigs : ∀ cs, n.accessConfigs = some cs → ∀ c ∈ cs,
        AccessConfig.ofPayload c.payload = .ok c :=
      fun _ _ c _ => AccessConfig.ofPayload_payload c
    simpa [valueOf_entriesSet, List.lookup_cons] using
      Json.givesItems_map_getD (R := fun x c => AccessConfig.ofPayload x = .ok c) hconfigs

end NetworkInterface
end VmResource
