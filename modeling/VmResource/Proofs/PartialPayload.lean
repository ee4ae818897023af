/-
# Partial payloads stay partial

A payload that is read and written again has the optional keys that it had
before with a value other than null, and no others, at every level: what was
left out is not filled in, and what was sent is not lost, be it false, 0 or
empty. A list comes back as the list of its rewritten items, in their order.
No null is ever written.

Key definitions: `Json.NullFree`, `Json.KeepsKeys`, `Json.KeepsList`,
`Instance.Kept`.
Key theorems: `Json.keepsKeys_record`, `AttachedDisk.kept`,
`Instance.partial_stays_partial`.
-/
import VmResource.Proofs.InstancePayload
import VmResource.Proofs.Keys

namespace VmResource

open Check
open Json (ifSet valueOf entriesSet valueOf_entriesSet record_eq record texts)

/-! ### Values without null -/

namespace Json

/-- There is no null in the value, at any depth. -/
inductive NullFree : Json → Prop where
  | bool (b : Bool) : NullFree (.bool b)
  | int (n : Int) : NullFree (.int n)
  | decimal (d : Decimal) : NullFree (.decimal d)
  | text (t : Text) : NullFree (.text t)
  | list (xs : List Json) (h : ∀ x ∈ xs, NullFree x) : NullFree (.list xs)
  | object (es : List (Text × Json)) (h : ∀ e ∈ es, NullFree e.2) : NullFree (.object es)

/-- A record leaves out what is unset, so it has no null if its values have
none. -/
theorem nullFree_record {entries : List (String × Option Json)}
    (h : ∀ e ∈ entries, ∀ v ∈ e.2, NullFree v) : NullFree (record entries) := by
  refine .object _ fun e he => ?_
  obtain ⟨⟨key, value⟩, hmem, hvalue⟩ := List.mem_filterMap.mp he
  obtain ⟨v, rfl, rfl⟩ := Option.map_eq_some_iff.mp hvalue
  exact h _ hmem v rfl

theorem nullFree_texts (ts : List Text) : NullFree (texts ts) := by
  refine .list _ fun x hx => ?_
  obtain ⟨t, -, rfl⟩ := List.mem_map.mp hx
  exact .text t

theorem nullFree_list_map {α : Type} {write : α → Json} {as : List α}
    (h : ∀ a ∈ as, NullFree (write a)) : NullFree (.list (as.map write)) := by
  refine .list _ fun x hx => ?_
  obtain ⟨a, ha, rfl⟩ := List.mem_map.mp hx
  exact h a ha

/-! ### Keys that are kept -/

/-- The value is an object with an entry for the key. -/
def Has (v : Json) (key : String) : Prop :=
  ∃ es, v = .object es ∧ (es.lookup (.unicode key)).isSome = true

/-- Of these keys, `w` has those that have a value other than null in `v`. -/
def KeepsKeys (keys : List String) (v w : Json) : Prop :=
  ∀ key ∈ keys, w.Has key ↔ v.within key ≠ .null

/-- If `v` is a list, so is `w`, with an item for each of `v`, in the same
order, to which the item of `v` is related. -/
def KeepsList (R : Json → Json → Prop) (v w : Json) : Prop :=
  ∀ xs, v = .list xs → ∃ ys, w = .list ys ∧ List.Forall₂ R xs ys

theorem keepsKeys_null (keys : List String) : KeepsKeys keys .null .null := by
  intro key _
  simp [Has, within]

theorem has_record_iff {entries : List (String × Option Json)} {key : String}
    (h : (entries.map Prod.fst).Nodup) :
    (record entries).Has key ↔ (entries.lookup key).join.isSome = true := by
  rw [← lookup_record h]
  simp [Has, record]

/-- A record keeps a key if it is set for it exactly if a value was there. -/
theorem keepsKeys_record {keys : List String} {es : List (Text × Json)}
    {entries : List (String × Option Json)} (hnodup : (entries.map Prod.fst).Nodup)
    (h : ∀ key ∈ keys, (entries.lookup key).join.isSome = true ↔ valueOf es key ≠ .null) :
    KeepsKeys keys (.object es) (record entries) := by
  intro key hkey
  rw [has_record_iff hnodup]
  exact h key hkey

theorem within_record {entries : List (String × Option Json)} (key : String)
    (h : (entries.map Prod.fst).Nodup) :
    (record entries).within key = (entries.lookup key).join.getD .null :=
  valueOf_entriesSet key h

/-! ### What is set -/

section Set

variable {α : Type} {v : Json} {o : Option α}

theorem isSome_ifSet_iff {read : Json → Except Error α} (h : ifSet read v = .ok o) :
    o.isSome = true ↔ v ≠ .null := by
  rcases ifSet_eq_ok_iff.mp h with ⟨rfl, rfl⟩ | ⟨hne, a, -, rfl⟩
  · simp
  · simp [hne]

theorem isSome_nullable_iff {check : Json → Check α} (h : nullable check v = .ok o) :
    o.isSome = true ↔ v ≠ .null := by
  by_cases hnull : v = .null
  · subst hnull
    rw [nullable_null, Check.ok.injEq] at h
    simp [← h]
  · rw [nullable_of_ne_null check hnull, map_eq_ok_iff] at h
    obtain ⟨a, -, rfl⟩ := h
    simp [hnull]

theorem isSome_givesItems_iff {R : Json → α → Prop} {o : Option (List α)}
    (h : v.GivesItems R o) : o.isSome = true ↔ v ≠ .null := by
  rcases h with ⟨rfl, rfl⟩ | ⟨xs, as, hxs, -, rfl⟩
  · simp
  · simp [ne_null_of_items hxs]

/-- An optional list that is written as it was read keeps its items. -/
theorem keepsList_of_givesItems {R : Json → α → Prop} {K : Json → Json → Prop}
    {write : α → Json} {o : Option (List α)} (h : v.GivesItems R o)
    (hitem : ∀ x a, R x a → K x (write a)) :
    KeepsList K v ((o.map fun as => .list (as.map write)).getD .null) := by
  rintro xs rfl
  rcases h with ⟨hnull, -⟩ | ⟨_, as, hitems, has, rfl⟩
  · cases hnull
  · cases hitems
    refine ⟨as.map write, rfl, ?_⟩
    rw [List.forall₂_map_right_iff]
    exact has.imp hitem

/-- A part that is written as it was read is kept, also if there is none. -/
theorem kept_of_ifSet {read : Json → Except Error α} {write : α → Json}
    {K : Json → Json → Prop} (h : ifSet read v = .ok o) (hnull : K .null .null)
    (hread : ∀ a, read v = .ok a → K v (write a)) : K v ((o.map write).getD .null) := by
  rcases ifSet_eq_ok_iff.mp h with ⟨rfl, rfl⟩ | ⟨-, a, ha, rfl⟩
  · exact hnull
  · exact hread a ha

end Set

end Json

theorem Payload.isSome_givesNumber_iff {α : Type} {field : String} {worth : α → Int} {v : Json}
    {o : Option α} (h : GivesNumber field worth v o) : o.isSome = true ↔ v ≠ .null := by
  rcases h with ⟨rfl, rfl⟩ | ⟨a, ha, rfl⟩
  · simp
  · have hne : v ≠ .null := by
      rintro rfl
      cases ha
    simp [hne]

open Json (NullFree KeepsKeys KeepsList keepsKeys_record nullFree_record isSome_ifSet_iff
  isSome_nullable_iff isSome_givesItems_iff keepsList_of_givesItems within_record)

/-! ### Parts -/

namespace Tags

/-- Tags keep their keys. -/
def Kept (v w : Json) : Prop := KeepsKeys keys.optional v w

theorem kept_null : Kept .null .null := Json.keepsKeys_null _

theorem kept {v : Json} {t : Tags} (h : ofPayload v = .ok t) : Kept v t.payload := by
  obtain ⟨es, rfl, hitems, hfingerprint⟩ := ofPayload_eq_ok_iff.mp h
  refine keepsKeys_record (by simp) ?_
  simpa [keys, List.lookup_cons] using
    ⟨isSome_givesItems_iff hitems, isSome_nullable_iff hfingerprint⟩

theorem nullFree_payload (t : Tags) : t.payload.NullFree := by
  refine nullFree_record ?_
  simp [Json.nullFree_texts, NullFree.text]

end Tags

namespace Metadata

/-- An entry keeps its keys. -/
structure ItemKept (v w : Json) : Prop where
  rewritten : ∃ item, IsEntry v item ∧ w = itemPayload item
  keys : KeepsKeys itemKeys.optional v w

/-- Metadata keep their keys and, if they are a list, their items. -/
structure Kept (v w : Json) : Prop where
  keys : KeepsKeys keys.optional v w
  items : KeepsList ItemKept (v.within "items") (w.within "items")

theorem itemKept {v : Json} {item : Text × Option Text} (h : IsEntry v item) :
    ItemKept v (itemPayload item) := by
  refine ⟨⟨item, h, rfl⟩, ?_⟩
  obtain ⟨es, rfl, -, hvalue⟩ := h
  refine keepsKeys_record (by simp) ?_
  simpa [itemKeys, List.lookup_cons] using isSome_nullable_iff hvalue

theorem kept_null : Kept .null .null := ⟨Json.keepsKeys_null _, fun _ h => (by cases h)⟩

theorem kept {v : Json} {m : Metadata} (h : ofPayload v = .ok m) : Kept v m.payload := by
  obtain ⟨es, rfl, hitems, hfingerprint⟩ := ofPayload_eq_ok_iff.mp h
  constructor
  case keys =>
    refine keepsKeys_record (by simp) ?_
    simpa [Metadata.keys, List.lookup_cons] using
      ⟨isSome_givesItems_iff hitems, isSome_nullable_iff hfingerprint⟩
  case items =>
    rw [payload, within_record "items" (by simp)]
    simpa using keepsList_of_givesItems hitems fun _ _ => itemKept

theorem nullFree_payload (m : Metadata) : m.payload.NullFree := by
  have hitem : ∀ item, (itemPayload item).NullFree := by
    intro item
    refine nullFree_record ?_
    simp [NullFree.text]
  have hitems : ∀ items : List (Text × Option Text),
      (Json.list (items.map itemPayload)).NullFree :=
    fun items => Json.nullFree_list_map fun item _ => hitem item
  refine nullFree_record ?_
  simp only [List.forall_mem_cons, Option.forall_mem_map]
  simp [hitems, NullFree.text]

end Metadata

namespace ServiceAccount

/-- An account keeps its keys. -/
structure Kept (v w : Json) : Prop where
  rewritten : ∃ a, ofPayload v = .ok a ∧ w = a.payload
  keys : KeepsKeys keys.optional v w

theorem kept {v : Json} {a : ServiceAccount} (h : ofPayload v = .ok a) : Kept v a.payload := by
  refine ⟨⟨a, h, rfl⟩, ?_⟩
  obtain ⟨es, rfl, -, hscopes⟩ := ofPayload_eq_ok_iff.mp h
  refine keepsKeys_record (by simp) ?_
  simpa [ServiceAccount.keys, List.lookup_cons] using isSome_givesItems_iff hscopes

theorem nullFree_payload (a : ServiceAccount) : a.payload.NullFree := by
  refine nullFree_record ?_
  simp [Json.nullFree_texts, NullFree.text]

end ServiceAccount

namespace Scheduling

/-- Scheduling keeps its keys. -/
def Kept (v w : Json) : Prop := KeepsKeys keys.optional v w

theorem kept_null : Kept .null .null := Json.keepsKeys_null _

theorem kept {v : Json} {s : Scheduling} (h : ofPayload v = .ok s) : Kept v s.payload := by
  obtain ⟨es, rfl, hrestart, hmaintenance, hpreemptible⟩ := ofPayload_eq_ok_iff.mp h
  refine keepsKeys_record (by simp) ?_
  simpa [keys, List.lookup_cons] using ⟨isSome_nullable_iff hrestart,
    isSome_ifSet_iff hmaintenance, isSome_nullable_iff hpreemptible⟩

theorem nullFree_payload (s : Scheduling) : s.payload.NullFree := by
  refine nullFree_record ?_
  simp only [List.forall_mem_cons, Option.forall_mem_map]
  simp [NullFree.text, NullFree.bool, Choice.json]

end Scheduling

namespace AccessConfig

/-- An access configuration keeps its keys. -/
structure Kept (v w : Json) : Prop where
  rewritten : ∃ c, ofPayload v = .ok c ∧ w = c.payload
  keys : KeepsKeys keys.optional v w

theorem kept {v : Json} {c : AccessConfig} (h : ofPayload v = .ok c) : Kept v c.payload := by
  refine ⟨⟨c, h, rfl⟩, ?_⟩
  obtain ⟨es, rfl, hname, hip, htype⟩ := ofPayload_eq_ok_iff.mp h
  refine keepsKeys_record (by simp) ?_
  simpa [AccessConfig.keys, List.lookup_cons] using
    ⟨isSome_nullable_iff hname, isSome_nullable_iff hip, isSome_ifSet_iff htype⟩

theorem nullFree_payload (c : AccessConfig) : c.payload.NullFree := by
  refine nullFree_record ?_
  simp [NullFree.text, Choice.json]

end AccessConfig

namespace NetworkInterface

/-- An interface keeps its keys and, if they are a list, its access
configurations. -/
structure Kept (v w : Json) : Prop where
  rewritten : ∃ n, ofPayload v = .ok n ∧ w = n.payload
  keys : KeepsKeys keys.optional v w
  accessConfigs : KeepsList AccessConfig.Kept (v.within "accessConfigs")
    (w.within "accessConfigs")

theorem kept {v : Json} {n : NetworkInterface} (h : ofPayload v = .ok n) : Kept v n.payload := by
  have hrewritten : ∃ m, ofPayload v = .ok m ∧ n.payload = m.payload := ⟨n, h, rfl⟩
  obtain ⟨es, rfl, -, hname, hip, hsubnetwork, hconfigs⟩ := ofPayload_eq_ok_iff.mp h
  constructor
  case rewritten => exact hrewritten
  case keys =>
    refine keepsKeys_record (by simp) ?_
    simpa [NetworkInterface.keys, List.lookup_cons] using
      ⟨isSome_nullable_iff hname, isSome_nullable_iff hip, isSome_ifSet_iff hsubnetwork,
        isSome_givesItems_iff hconfigs⟩
  case accessConfigs =>
    rw [payload, within_record "accessConfigs" (by simp)]
    simpa [List.lookup_cons] using keepsList_of_givesItems hconfigs fun _ _ => AccessConfig.kept

theorem nullFree_payload (n : NetworkInterface) : n.payload.NullFree := by
  have hconfigs : ∀ cs : List AccessConfig, (Json.list (cs.map AccessConfig.payload)).NullFree :=
    fun cs => Json.nullFree_list_map fun c _ => c.nullFree_payload
  refine nullFree_record ?_
  simp only [List.forall_mem_cons, Option.forall_mem_map]
  simp [hconfigs, NullFree.text, Identity.json]

end NetworkInterface

/-! ### Disks -/

section Disks

variable {es : List (Text × Json)} {name index : Option Json}

/-- A persistent disk keeps its keys. -/
theorem PersistentDisk.kept {d : PersistentDisk} (h : ofPayload (.object es) = .ok d)
    (hname : name.isSome = true ↔ valueOf es "deviceName" ≠ .null)
    (hindex : index.isSome = true ↔ valueOf es "index" ≠ .null) :
    KeepsKeys DiskKind.persistent.keys.optional (.object es)
      (record (d.entries ++ [("deviceName", name), ("index", index)])) := by
  obtain ⟨_, ⟨⟩, -, hmode, hboot, hautoDelete⟩ := ofPayload_eq_ok_iff.mp h
  refine keepsKeys_record (by simp [entries]) ?_
  simpa [DiskKind.keys, entries, List.lookup_cons] using
    ⟨isSome_ifSet_iff hmode, isSome_nullable_iff hboot, isSome_nullable_iff hautoDelete, hname,
      hindex⟩

/-- A created disk keeps its keys and those of its parameters. -/
theorem CreatedDisk.kept {d : CreatedDisk} (h : ofPayload (.object es) = .ok d)
    (hname : name.isSome = true ↔ valueOf es "deviceName" ≠ .null)
    (hindex : index.isSome = true ↔ valueOf es "index" ≠ .null)
    {entries : List (String × Option Json)} (hentries : d.entries = .ok entries) :
    let w := record (entries ++ [("deviceName", name), ("index", index)])
    KeepsKeys DiskKind.create.keys.optional (.object es) w ∧
      KeepsKeys DiskKind.create.parameters.optional (valueOf es "initializeParams")
        (w.within "initializeParams") := by
  obtain ⟨_, ⟨⟩, ps, hps, -, hdisk, htype, hsize, hautoDelete⟩ := ofPayload_eq_ok_iff.mp h
  obtain ⟨size, htext, rfl⟩ := Except.map_eq_ok_iff.mp hentries
  obtain ⟨-, rfl⟩ := sizeText_eq_ok_iff.mp htext
  refine ⟨?_, ?_⟩
  · refine keepsKeys_record (by simp) ?_
    simpa [DiskKind.keys, List.lookup_cons] using
      ⟨isSome_nullable_iff hautoDelete, hname, hindex⟩
  · rw [within_record "initializeParams" (by simp), hps]
    simp only [List.cons_append, List.lookup_cons, String.reduceBEq, Option.join_some,
      Option.getD_some]
    refine keepsKeys_record (by simp) ?_
    simpa [DiskKind.parameters, List.lookup_cons] using
      ⟨isSome_nullable_iff hdisk, isSome_ifSet_iff htype, Payload.isSome_givesNumber_iff hsize⟩

/-- Scratch space keeps its keys and that of its parameters. -/
theorem ScratchDisk.kept {d : ScratchDisk} (h : ofPayload (.object es) = .ok d)
    (hname : name.isSome = true ↔ valueOf es "deviceName" ≠ .null)
    (hindex : index.isSome = true ↔ valueOf es "index" ≠ .null) :
    let w := record (d.entries ++ [("deviceName", name), ("index", index)])
    KeepsKeys DiskKind.scratch.keys.optional (.object es) w ∧
      KeepsKeys DiskKind.scratch.parameters.optional (valueOf es "initializeParams")
        (w.within "initializeParams") := by
  obtain ⟨hinterface, -, htype⟩ := ofPayload_object_eq_ok_iff.mp h
  refine ⟨?_, ?_⟩
  · refine keepsKeys_record (by simp [entries]) ?_
    simpa [DiskKind.keys, entries, List.lookup_cons] using
      ⟨isSome_ifSet_iff hinterface, hname, hindex⟩
  · rw [within_record "initializeParams" (by simp [entries])]
    intro key hkey
    obtain rfl : key = "diskType" := by simpa [DiskKind.parameters] using hkey
    rw [← isSome_ifSet_iff htype]
    cases hdisk : d.type with
    | none => simp [entries, List.lookup_cons, hdisk, Json.Has]
    | some t => simp [entries, List.lookup_cons, hdisk, Json.has_record_iff]

end Disks

namespace DiskConfiguration

variable {es : List (Text × Json)} {c : DiskConfiguration}
  {entries : List (String × Option Json)}

/-- A disk of any kind keeps its keys and those of its parameters. -/
theorem kept (h : ofPayload (.object es) = .ok c) (hentries : c.entries = .ok entries)
    {name index : Option Json} (hname : name.isSome = true ↔ valueOf es "deviceName" ≠ .null)
    (hindex : index.isSome = true ↔ valueOf es "index" ≠ .null) :
    let w := record (entries ++ [("deviceName", name), ("index", index)])
    KeepsKeys c.kind.keys.optional (.object es) w ∧
      KeepsKeys c.kind.parameters.optional (valueOf es "initializeParams")
        (w.within "initializeParams") := by
  rcases ofPayload_eq_ok_iff.mp h with ⟨-, -, d, hd, rfl⟩ | ⟨-, -, d, hd, rfl⟩ | ⟨-, d, hd, rfl⟩
  · cases hentries
    refine ⟨PersistentDisk.kept hd hname hindex, ?_⟩
    intro key hkey
    cases hkey
  · exact CreatedDisk.kept hd hname hindex hentries
  · cases hentries
    exact ScratchDisk.kept hd hname hindex

theorem nullFree_entries (hentries : c.entries = .ok entries) :
    ∀ e ∈ entries, ∀ v ∈ e.2, v.NullFree := by
  cases c with
  | persistent d =>
    cases hentries
    simp only [PersistentDisk.entries, List.forall_mem_cons, Option.forall_mem_map]
    simp [NullFree.text, NullFree.bool, Choice.json, Identity.json]
  | create d =>
    obtain ⟨size, htext, rfl⟩ := Except.map_eq_ok_iff.mp hentries
    obtain ⟨-, rfl⟩ := CreatedDisk.sizeText_eq_ok_iff.mp htext
    have hparams : (d.parameters (d.sizeGb.map fun n => .text (n.1 : Int).repr)).NullFree := by
      refine nullFree_record ?_
      simp only [List.forall_mem_cons, Option.forall_mem_map]
      simp [NullFree.text, Identity.json]
    generalize d.parameters _ = params at hparams ⊢
    simp only [List.forall_mem_cons, Option.forall_mem_map]
    simp [hparams, NullFree.text, NullFree.bool, Choice.json]
  | scratch d =>
    cases hentries
    have hparams : ∀ t : Identity .diskType, (record [("diskType", some t.json)]).NullFree := by
      intro t
      refine nullFree_record ?_
      simp [NullFree.text, Identity.json]
    simp only [ScratchDisk.entries, List.forall_mem_cons, Option.forall_mem_map]
    simp [hparams, NullFree.text, NullFree.bool, Choice.json]

end DiskConfiguration

namespace AttachedDisk

/-- A disk is of the kind that it was, and keeps the keys that its kind has
and those of its parameters. -/
structure Kept (v w : Json) : Prop where
  rewritten : ∃ d, ofPayload v = .ok d ∧ d.payload = .ok w
  keys : ∃ es kind, v = .object es ∧ DiskConfiguration.kindIn es = some kind ∧
    KeepsKeys kind.keys.optional v w ∧
    KeepsKeys kind.parameters.optional (v.within "initializeParams")
      (w.within "initializeParams")

theorem kept {v w : Json} {d : AttachedDisk} (h : ofPayload v = .ok d) (hw : d.payload = .ok w) :
    Kept v w := by
  refine ⟨⟨d, h, hw⟩, ?_⟩
  obtain ⟨es, rfl, hc, hname, hindex⟩ := ofPayload_eq_ok_iff.mp h
  obtain ⟨entries, hentries, rfl⟩ := Except.map_eq_ok_iff.mp hw
  refine ⟨es, _, rfl, DiskConfiguration.kindIn_of_ofPayload hc, ?_⟩
  refine DiskConfiguration.kept hc hentries ?_ ?_
  · rw [Option.isSome_map]
    exact isSome_nullable_iff hname
  · rw [Option.isSome_map]
    exact Payload.isSome_givesNumber_iff hindex

theorem nullFree_payload {w : Json} {d : AttachedDisk} (hw : d.payload = .ok w) : w.NullFree := by
  obtain ⟨entries, hentries, rfl⟩ := Except.map_eq_ok_iff.mp hw
  refine nullFree_record ?_
  rw [List.forall_mem_append]
  refine ⟨DiskConfiguration.nullFree_entries hentries, ?_⟩
  simp only [List.forall_mem_cons, Option.forall_mem_map]
  simp [NullFree.text, NullFree.int]

end AttachedDisk

/-! ### Instances -/

namespace Instance

/-- An instance keeps its keys, its lists and what its parts have. -/
structure Kept (p r : Json) : Prop where
  keys : KeepsKeys keys.optional p r
  interfaces : KeepsList NetworkInterface.Kept (p.within "networkInterfaces")
    (r.within "networkInterfaces")
  disks : KeepsList AttachedDisk.Kept (p.within "disks") (r.within "disks")
  accounts : KeepsList ServiceAccount.Kept (p.within "serviceAccounts")
    (r.within "serviceAccounts")
  tags : Tags.Kept (p.within "tags") (r.within "tags")
  metadata : Metadata.Kept (p.within "metadata") (r.within "metadata")
  scheduling : Scheduling.Kept (p.within "scheduling") (r.within "scheduling")

/-- The instant of creation is written as a text, if it is set. -/
theorem exists_eq_map_of_createdText {x : Instance} {created : Option Json}
    (h : x.createdText = .ok created) :
    ∃ text : Int → String, created = x.created.map fun n => .text (text n) := by
  unfold createdText at h
  cases hn : x.created with
  | none =>
    rw [hn] at h
    cases h
    exact ⟨fun _ => "", rfl⟩
  | some n =>
    rw [hn] at h
    obtain ⟨s, -, rfl⟩ := Except.map_eq_ok_iff.mp h
    exact ⟨fun _ => s, rfl⟩

theorem kept {es : List (Text × Json)} {x : Instance} (h : x.IsReadFrom es)
    {zone : Identity .zone} {disks : List Json} {created : Option Json}
    (hdisks : List.Forall₂ (fun d q => AttachedDisk.payload d = .ok q) x.disks disks)
    (hcreated : x.createdText = .ok created) :
    Kept (.object es) (record (x.payloadEntries zone disks created)) := by
  have hnodup : ((x.payloadEntries zone disks created).map Prod.fst).Nodup := by
    simp [payloadEntries]
  constructor
  case keys =>
    refine keepsKeys_record hnodup ?_
    have hset : created.isSome = true ↔ valueOf es "creationTimestamp" ≠ .null := by
      obtain ⟨text, rfl⟩ := exists_eq_map_of_createdText hcreated
      rw [Option.isSome_map]
      exact isSome_ifSet_iff h.created
    simpa [Instance.keys, payloadEntries, List.lookup_cons] using
      ⟨isSome_ifSet_iff h.serverId, hset, isSome_nullable_iff h.description,
        isSome_ifSet_iff h.status, isSome_nullable_iff h.statusMessage, isSome_ifSet_iff h.tags,
        isSome_nullable_iff h.canIpForward, isSome_ifSet_iff h.metadata,
        isSome_ifSet_iff h.accounts, isSome_ifSet_iff h.scheduling,
        isSome_nullable_iff h.cpuPlatform⟩
  case interfaces =>
    rw [within_record "networkInterfaces" hnodup]
    have hparts : ifSet (Payload.parts "networkInterfaces" NetworkInterface.ofPayload)
        (valueOf es "networkInterfaces") = .ok (some x.interfaces) :=
      Payload.ifSet_parts_eq_some_iff.mpr h.interfaces
    have hgives := Payload.givesItems_of_parts hparts
    simpa [payloadEntries, List.lookup_cons] using
      keepsList_of_givesItems hgives fun _ _ => NetworkInterface.kept
  case disks =>
    rw [within_record "disks" hnodup]
    obtain ⟨xs, hxs, hread⟩ := h.disks
    intro ys hys
    obtain rfl : xs = ys := Json.list.inj (hxs.symm.trans hys)
    refine ⟨disks, by simp [payloadEntries, List.lookup_cons], ?_⟩
    have hboth := exists_forall₂_and_iff.mp ⟨x.disks, hread, hdisks⟩
    refine hboth.imp fun v w hvw => ?_
    obtain ⟨d, hd, hw⟩ := hvw
    exact AttachedDisk.kept hd hw
  case accounts =>
    rw [within_record "serviceAccounts" hnodup]
    have hgives := Payload.givesItems_of_parts h.accounts
    simpa [payloadEntries, List.lookup_cons] using
      keepsList_of_givesItems hgives fun _ _ => ServiceAccount.kept
  case tags =>
    rw [within_record "tags" hnodup]
    simpa [payloadEntries, List.lookup_cons] using
      Json.kept_of_ifSet h.tags Tags.kept_null fun _ => Tags.kept
  case metadata =>
    rw [within_record "metadata" hnodup]
    simpa [payloadEntries, List.lookup_cons] using
      Json.kept_of_ifSet h.metadata Metadata.kept_null fun _ => Metadata.kept
  case scheduling =>
    rw [within_record "scheduling" hnodup]
    simpa [payloadEntries, List.lookup_cons] using
      Json.kept_of_ifSet h.scheduling Scheduling.kept_null fun _ => Scheduling.kept

theorem nullFree_payload {x : Instance} {r : Json} (h : x.payload = .ok r) : r.NullFree := by
  obtain ⟨zone, disks, created, -, hdisks, hcreated, rfl⟩ := payload_eq_ok_iff.mp h
  obtain ⟨text, rfl⟩ := exists_eq_map_of_createdText hcreated
  have hinterfaces : (Json.list (x.interfaces.map NetworkInterface.payload)).NullFree :=
    Json.nullFree_list_map fun n _ => n.nullFree_payload
  have hall : (Json.list disks).NullFree := by
    refine .list _ fun w hw => ?_
    obtain ⟨d, -, hd⟩ := exists_mem_of_forall₂ hdisks w hw
    exact AttachedDisk.nullFree_payload hd
  have haccounts : ∀ as : List ServiceAccount,
      (Json.list (as.map ServiceAccount.payload)).NullFree :=
    fun as => Json.nullFree_list_map fun a _ => a.nullFree_payload
  refine nullFree_record ?_
  simp only [payloadEntries, List.forall_mem_cons, Option.forall_mem_map]
  simp [hinterfaces, hall, haccounts, NullFree.text, NullFree.bool, Choice.json, Identity.json,
    Tags.nullFree_payload, Metadata.nullFree_payload, Scheduling.nullFree_payload]

/-- **Partial payloads stay partial.** What is written for an instance that
was read has no null, and it has what the payload had that was read: of the
optional keys those with a value other than null, at every level, and of each
list the items. -/
theorem partial_stays_partial {p r : Json} {x : Instance} (h : (ofPayload p).outcome = .ok x)
    (hr : x.payload = .ok r) : r.NullFree ∧ Kept p r := by
  refine ⟨nullFree_payload hr, ?_⟩
  obtain ⟨es, rfl, hread⟩ := ofPayload_eq_ok_iff.mp h
  obtain ⟨zone, disks, created, -, hdisks, hcreated, rfl⟩ := payload_eq_ok_iff.mp hr
  exact kept hread hdisks hcreated

/-- A payload with an empty description, no forwarding, no metadata and an
interface without access configurations. -/
def sparse : Json :=
  .object [("selfLink", .text "projects/p/zones/z/instances/i"),
    ("machineType", .text "projects/p/zones/z/machineTypes/m"), ("description", .text ""),
    ("canIpForward", .bool false), ("metadata", .null),
    ("networkInterfaces",
      .list [.object [("network", .text "projects/p/global/networks/n"),
        ("accessConfigs", .list [])]]),
    ("disks", .list [.object [("type", .text "SCRATCH"), ("index", .int 0)]])]

/-- It is written as sparse as it was: what is empty or false stays, and what
is null goes. -/
theorem sparse_stays_sparse : ∃ x r, (ofPayload sparse).outcome = .ok x ∧ x.payload = .ok r ∧
    r.Has "description" ∧ r.Has "canIpForward" ∧ ¬ r.Has "metadata" := by
  have hwritten : ∃ r, ((ofPayload sparse).outcome >>= payload) = .ok r := ⟨_, rfl⟩
  obtain ⟨r, h⟩ := hwritten
  obtain ⟨x, hread, hr⟩ := Except.bind_eq_ok_iff.mp h
  obtain ⟨-, hkept⟩ := partial_stays_partial hread hr
  refine ⟨x, r, hread, hr, ?_, ?_, ?_⟩
  · exact (hkept.keys "description" (by decide)).mpr (by decide)
  · exact (hkept.keys "canIpForward" (by decide)).mpr (by decide)
  · exact fun h => (hkept.keys "metadata" (by decide)).mp h rfl

end Instance
end VmResource
