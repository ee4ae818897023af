/-
# Links that are given a project

A payload may leave the project out of its links, to be filled in later. It
makes no difference whether this is done in the links, before anything is
read, or by moving the instance that was read: every link of the payload is
found in one identity, of the instance or of something in it, and to put a
project in front of the one is to move the other.

Key definitions: `Json.mapValues`, `Identity.qualified`,
`Identity.CarriesProject`, `Instance.links`, `Instance.mapLinks`.
Key theorems: `Identity.fills_qualified`, `NetworkInterface.ofPayload_mapLinks`,
`AttachedDisk.ofPayload_mapLinks`, `Instance.exists_link_of_mem_identities`,
`Instance.qualified_links_read_moved`.
-/
import VmResource.Proofs.Keys
import VmResource.Proofs.Rebinding
import VmResource.Proofs.RoundTrip

namespace VmResource

open Json (ifSet valueOf)

/-- What is related stays so under two functions, item by item, if these keep
the relation on the items that there are. -/
theorem forall₂_map_of_mem {α β γ δ : Type} {R : α → β → Prop} {S : γ → δ → Prop} {g : α → γ}
    {h : β → δ} {xs : List α} {ys : List β} (hrel : List.Forall₂ R xs ys)
    (hmap : ∀ x, ∀ y ∈ ys, R x y → S (g x) (h y)) : List.Forall₂ S (xs.map g) (ys.map h) := by
  induction hrel with
  | nil => exact .nil
  | cons hxy _ ih =>
    exact .cons (hmap _ _ List.mem_cons_self hxy)
      (ih fun x y hy => hmap x y (List.mem_cons_of_mem _ hy))

/-! ### Changing the values of an object -/

namespace Json

/-- Changes the values of an object, key by key. -/
def mapValues (f : Text → Json → Json) : Json → Json
  | .object es => .object (es.map fun e => (e.1, f e.1 e.2))
  | v => v

/-- Changes the items of a list. -/
def mapItems (f : Json → Json) : Json → Json
  | .list xs => .list (xs.map f)
  | v => v

/-- Changes a text. -/
def mapText (f : Text → Text) : Json → Json
  | .text s => .text (f s)
  | v => v

/-- The items of a list. -/
def elements : Json → List Json
  | .list xs => xs
  | _ => []

/-- The text that a value is, if it is one. -/
def ownText : Json → List Text
  | .text s => [s]
  | _ => []

/-- Changes the texts under some keys. -/
def mapTextsAt (keys : List Text) (f : Text → Text) : Json → Json :=
  mapValues fun key => if key ∈ keys then mapText f else id

/-- The texts under some keys. -/
def textsAt (keys : List Text) (v : Json) : List Text :=
  keys.flatMap fun key => (v.within key).ownText

theorem lookup_mapValues (f : Text → Json → Json) (es : List (Text × Json)) (key : Text) :
    (es.map fun e => (e.1, f e.1 e.2)).lookup key = (es.lookup key).map (f key) := by
  induction es with
  | nil => rfl
  | cons e es ih =>
    rw [List.map_cons, List.lookup_cons, List.lookup_cons]
    cases hkey : key == e.1 with
    | false => exact ih
    | true =>
      obtain rfl : key = e.1 := by simpa using hkey
      rfl

/-- The value of a key is the changed one, if nothing is made of null. -/
theorem valueOf_mapValues {f : Text → Json → Json} {key : Text} (h : f key .null = .null)
    (es : List (Text × Json)) :
    valueOf (es.map fun e => (e.1, f e.1 e.2)) key = f key (valueOf es key) := by
  rw [valueOf, lookup_mapValues, valueOf]
  cases es.lookup key with
  | none => exact h.symm
  | some v => rfl

theorem within_mapValues {f : Text → Json → Json} {key : Text} (h : f key .null = .null)
    (v : Json) : (v.mapValues f).within key = f key (v.within key) := by
  cases v with
  | object es => exact valueOf_mapValues h es
  | _ => exact h.symm

theorem ownText_mapText (f : Text → Text) (v : Json) :
    (v.mapText f).ownText = v.ownText.map f := by
  cases v <;> rfl

theorem elements_mapItems (f : Json → Json) (v : Json) :
    (v.mapItems f).elements = v.elements.map f := by
  cases v <;> rfl

theorem mapValues_eq_null_iff {f : Text → Json → Json} {v : Json} :
    v.mapValues f = .null ↔ v = .null := by
  cases v <;> simp [mapValues]

theorem within_mapTextsAt_of_mem {keys : List Text} {key : Text} (h : key ∈ keys)
    (f : Text → Text) (v : Json) :
    (v.mapTextsAt keys f).within key = (v.within key).mapText f := by
  rw [mapTextsAt, within_mapValues (by simp [h, mapText])]
  simp only [if_pos h]

theorem within_mapTextsAt_of_not_mem {keys : List Text} {key : Text} (h : key ∉ keys)
    (f : Text → Text) (v : Json) : (v.mapTextsAt keys f).within key = v.within key := by
  rw [mapTextsAt, within_mapValues (by simp [h])]
  simp only [if_neg h, id_eq]

/-- Where the value under each key is the changed one, the texts are. -/
theorem textsAt_eq_map {keys : List Text} {f : Text → Text} {v w : Json}
    (h : ∀ key ∈ keys, w.within key = (v.within key).mapText f) :
    w.textsAt keys = (v.textsAt keys).map f := by
  rw [textsAt, textsAt, List.map_flatMap]
  refine List.flatMap_congr fun key hkey => ?_
  rw [h key hkey, ownText_mapText]

theorem isBlank_mapTextsAt (keys : List Text) (f : Text → Text) (v : Json) :
    (v.mapTextsAt keys f).isBlank = v.isBlank := by
  cases v with
  | object es => simp [mapTextsAt, mapValues, isBlank]
  | _ => rfl

/-- A change of items that changes what they hold changes what the list
holds. -/
theorem flatMap_elements_mapItems {links : Json → List Text} {f : Text → Text}
    {change : Json → Json} (h : ∀ v, links (change v) = (links v).map f) (v : Json) :
    (v.mapItems change).elements.flatMap links = (v.elements.flatMap links).map f := by
  rw [elements_mapItems, List.flatMap_map, List.map_flatMap]
  exact List.flatMap_congr fun w _ => h w

end Json

open Json (mapText mapTextsAt textsAt mapItems mapValues)

/-! ### Links -/

namespace Identity

variable {k : Kind} {project : Option Text} {f : Text → Text}

/-- A link with a project before it, and a lead before that. -/
def qualified (lead project url : Text) : Text :=
  lead ++ .unicode "projects/" ++ project ++ .unicode "/" ++ url

/-- The link tells the project of the resource that it leads to. -/
def CarriesProject (url : Text) : Prop :=
  ∃ (k : Kind) (a : Address k), Address.ofUrl? k url = some a ∧ a.project ≠ none

/-- A link carries no project if, whatever kind of resource it is taken to
lead to, none is read from it. -/
theorem not_carriesProject_iff {url : Text} :
    ¬ CarriesProject url ↔ ∀ k, (Address.ofUrl? k url).bind (·.project) = none := by
  constructor
  · intro h k
    rw [Option.bind_eq_none_iff]
    intro a ha
    by_contra hproject
    exact h ⟨k, a, ha, hproject⟩
  · rintro h ⟨k, a, ha, hproject⟩
    have hnone := h k
    rw [ha, Option.bind_some] at hnone
    exact hproject hnone

/-- What is read from a link without a project has none. -/
theorem project_of_not_carriesProject {url : Text} (h : ¬ CarriesProject url) {id : Identity k}
    (hread : read k (.text url) = .ok id) : id.project = none := by
  obtain ⟨_, ⟨⟩, hplain, hleads⟩ := read_eq_ok_iff.mp hread
  by_contra hproject
  exact h ⟨k, id.address,
    Address.ofUrl?_eq_some_iff.mpr ⟨(isPlain_iff.mp hplain).1, hleads⟩, hproject⟩

/-- A change of links that moves whatever is read from them, if it has no
project yet. -/
def Fills (project : Option Text) (f : Text → Text) : Prop :=
  ∀ (k : Kind) (url : Text) (id : Identity k), read k (.text url) = .ok id → id.project = none →
    read k (.text (f url)) = .ok (id.withProject project)

section Qualified

variable {lead q url : Text} {id : Identity k}

/-- With a project in front of it, a link leads to the address in the
project. -/
theorem leadsTo_qualified (hlead : IsLead lead) (h : read k (.text url) = .ok id)
    (hnone : id.project = none) :
    Address.LeadsTo (qualified lead q url) (id.withProject (some q)).address := by
  obtain ⟨_, ⟨⟩, -, hleads⟩ := read_eq_ok_iff.mp h
  have hurl : url = id.address.relativePath := (Address.leadsTo_of_none hnone).mp hleads
  rw [Address.leadsTo_of_some (p := q) rfl]
  exact ⟨lead, hlead, congrArg _ hurl⟩

/-- To put a project in front of a link is to move what it leads to. -/
theorem fills_qualified (hlead : IsLead lead) (hq : q ≠ "") (hsegment : Text.IsSegment q)
    (hunicode : q.IsUnicode) : Fills (some q) (qualified lead q) := by
  intro k url id h hnone
  refine read_eq_ok_iff.mpr ⟨_, rfl, ⟨?_, ?_⟩, leadsTo_qualified hlead h hnone⟩
  · rintro _ ⟨⟩
    exact ⟨hq, hsegment, hunicode⟩
  · obtain ⟨_, -, hplain, -⟩ := read_eq_ok_iff.mp h
    exact hplain.names

/-- A link with a project in front of it is read only if the project is a
string. -/
theorem isUnicode_of_read_qualified (hlead : IsLead lead) (hq : q ≠ "")
    (hsegment : Text.IsSegment q) (h : read k (.text url) = .ok id) (hnone : id.project = none)
    {jd : Identity k} (hread : read k (.text (qualified lead q url)) = .ok jd) : q.IsUnicode := by
  obtain ⟨_, -, hplain, -⟩ := read_eq_ok_iff.mp h
  obtain ⟨_, ⟨⟩, hjd, hleads⟩ := read_eq_ok_iff.mp hread
  have haddress : Address.IsPlain (id.withProject (some q)).address := by
    refine ⟨?_, (isPlain_iff.mp hplain).1.names⟩
    rintro _ ⟨⟩
    exact ⟨hq, hsegment⟩
  -- the link leads to both addresses, and there is only one
  have hsame := Option.some.inj
    ((Address.ofUrl?_eq_some_iff.mpr ⟨haddress, leadsTo_qualified hlead h hnone⟩).symm.trans
      (Address.ofUrl?_eq_some_iff.mpr ⟨(isPlain_iff.mp hjd).1, hleads⟩))
  obtain rfl := address_injective hsame
  exact (hjd.project q rfl).2.2

end Qualified

theorem exists_text_of_read {v : Json} {id : Identity k} (h : read k v = .ok id) :
    ∃ url ∈ v.ownText, read k (.text url) = .ok id := by
  obtain ⟨url, rfl, -⟩ := read_eq_ok_iff.mp h
  exact ⟨url, List.mem_singleton.mpr rfl, h⟩

theorem exists_text_of_ifSet_read {v : Json} {o : Option (Identity k)}
    (h : ifSet (read k) v = .ok o) : ∀ id ∈ listed o, ∃ url ∈ v.ownText,
      read id.1 (.text url) = .ok id.2 := by
  intro id hid
  rcases Json.ifSet_eq_ok_iff.mp h with ⟨-, rfl⟩ | ⟨-, jd, hjd, rfl⟩
  · simp [listed] at hid
  · obtain rfl : id = ⟨k, jd⟩ := by simpa [listed] using hid
    exact exists_text_of_read hjd

/-- What is read of a changed link is moved. -/
theorem read_mapText (hf : Fills project f) {v : Json} {id : Identity k}
    (h : read k v = .ok id) (hnone : id.project = none) :
    read k (v.mapText f) = .ok (id.withProject project) := by
  obtain ⟨url, rfl, -⟩ := read_eq_ok_iff.mp h
  exact hf k url id h hnone

theorem ifSet_read_mapText (hf : Fills project f) {v : Json} {o : Option (Identity k)}
    (h : ifSet (read k) v = .ok o) (hnone : ∀ id ∈ listed o, id.2.project = none) :
    ifSet (read k) (v.mapText f) = .ok (o.map (·.withProject project)) := by
  rcases Json.ifSet_eq_ok_iff.mp h with ⟨rfl, rfl⟩ | ⟨-, id, hid, rfl⟩
  · rfl
  · have hread := read_mapText hf hid (hnone ⟨k, id⟩ (by simp [listed]))
    rw [Json.ifSet_of_ne_null _ (ne_null_of_read hread), hread]
    rfl

end Identity

open Identity (Fills)

/-! ### Interfaces -/

namespace NetworkInterface

/-- The keys of an interface that have links. -/
def linkKeys : List Text := ["network", "subnetwork"]

/-- The links of an interface. -/
def links : Json → List Text := textsAt linkKeys

/-- Changes the links of an interface. -/
def mapLinks (f : Text → Text) : Json → Json := mapTextsAt linkKeys f

/-- The links of an interface are the changed ones. -/
theorem links_mapLinks (f : Text → Text) (v : Json) :
    links (mapLinks f v) = (links v).map f :=
  Json.textsAt_eq_map fun _ hkey => Json.within_mapTextsAt_of_mem hkey f v

/-- Each identity of an interface is read from one of its links. -/
theorem exists_link_of_mem_identities {v : Json} {n : NetworkInterface}
    (h : ofPayload v = .ok n) :
    ∀ id ∈ n.identities, ∃ url ∈ links v, Identity.read id.1 (.text url) = .ok id.2 := by
  obtain ⟨es, rfl, hnetwork, -, -, hsubnetwork, -⟩ := ofPayload_eq_ok_iff.mp h
  intro id hid
  rcases List.mem_cons.mp hid with rfl | hid
  · obtain ⟨url, hmem, hurl⟩ := Identity.exists_text_of_read hnetwork
    exact ⟨url, List.mem_flatMap.mpr ⟨"network", by decide, hmem⟩, hurl⟩
  · obtain ⟨url, hmem, hurl⟩ := Identity.exists_text_of_ifSet_read hsubnetwork id hid
    exact ⟨url, List.mem_flatMap.mpr ⟨"subnetwork", by decide, hmem⟩, hurl⟩

/-- An interface with changed links is read as the moved one. -/
theorem ofPayload_mapLinks {project : Option Text} {f : Text → Text}
    (hf : Fills project f) {v : Json} {n : NetworkInterface} (h : ofPayload v = .ok n)
    (hnone : ∀ id ∈ n.identities, id.2.project = none) :
    ofPayload (mapLinks f v) = .ok (n.withProject project) := by
  obtain ⟨es, rfl, hnetwork, hname, hip, hsubnetwork, hconfigs⟩ := ofPayload_eq_ok_iff.mp h
  have hlink : ∀ key ∈ linkKeys,
      (mapLinks f (.object es)).within key = (valueOf es key).mapText f :=
    fun key hkey => Json.within_mapTextsAt_of_mem hkey f _
  have hother : ∀ key, key ∉ linkKeys →
      (mapLinks f (.object es)).within key = valueOf es key :=
    fun key hkey => Json.within_mapTextsAt_of_not_mem hkey f _
  have hobject : ∃ fs, mapLinks f (.object es) = .object fs := ⟨_, rfl⟩
  obtain ⟨fs, hfs⟩ := hobject
  simp only [hfs, Json.within_object] at hlink hother
  refine ofPayload_eq_ok_iff.mpr ⟨fs, hfs, ?_, ?_, ?_, ?_, ?_⟩
  · rw [hlink "network" (by decide)]
    exact Identity.read_mapText hf hnetwork (hnone _ List.mem_cons_self)
  · rwa [hother "name" (by decide)]
  · rwa [hother "networkIP" (by decide)]
  · rw [hlink "subnetwork" (by decide)]
    exact Identity.ifSet_read_mapText hf hsubnetwork fun id hid =>
      hnone id (List.mem_cons_of_mem _ hid)
  · rwa [hother "accessConfigs" (by decide)]

end NetworkInterface

/-! ### Disks -/

namespace DiskKind

/-- The keys of a disk that have links. -/
def linkKeys : DiskKind → List Text
  | .persistent => ["source"]
  | .create | .scratch => []

/-- The keys of the parameters of a disk that have links. -/
def parameterLinkKeys : DiskKind → List Text
  | .persistent => []
  | .create => ["sourceImage", "diskType"]
  | .scratch => ["diskType"]

/-- What becomes of the value of a key when the links of a disk change. -/
def changeLinks (kind : DiskKind) (f : Text → Text) (key : Text) : Json → Json :=
  if key = "initializeParams" then mapTextsAt kind.parameterLinkKeys f
  else if key ∈ kind.linkKeys then mapText f else id

/-- The links of a disk of a kind. -/
def links (kind : DiskKind) (v : Json) : List Text :=
  v.textsAt kind.linkKeys ++ (v.within "initializeParams").textsAt kind.parameterLinkKeys

variable {kind : DiskKind} {f : Text → Text} {key : Text}

theorem changeLinks_parameters :
    kind.changeLinks f "initializeParams" = mapTextsAt kind.parameterLinkKeys f := if_pos rfl

theorem changeLinks_of_mem (h : key ∈ kind.linkKeys) : kind.changeLinks f key = mapText f := by
  have hne : key ≠ "initializeParams" := by
    rintro rfl
    revert h
    cases kind <;> decide
  rw [changeLinks, if_neg hne, if_pos h]

theorem changeLinks_of_not_mem (hne : key ≠ "initializeParams") (h : key ∉ kind.linkKeys) :
    kind.changeLinks f key = id := by
  rw [changeLinks, if_neg hne, if_neg h]

theorem changeLinks_null : kind.changeLinks f key .null = .null := by
  unfold changeLinks
  split_ifs <;> rfl

theorem within_mapValues_changeLinks (kind : DiskKind) (f : Text → Text) (v : Json)
    (key : Text) : (v.mapValues (kind.changeLinks f)).within key =
      kind.changeLinks f key (v.within key) :=
  Json.within_mapValues changeLinks_null v

/-- The links of a disk of a kind are the changed ones. -/
theorem links_mapValues (kind : DiskKind) (f : Text → Text) (v : Json) :
    kind.links (v.mapValues (kind.changeLinks f)) = (kind.links v).map f := by
  have hown : (v.mapValues (kind.changeLinks f)).textsAt kind.linkKeys =
      (v.textsAt kind.linkKeys).map f := by
    refine Json.textsAt_eq_map fun key hkey => ?_
    rw [within_mapValues_changeLinks, changeLinks_of_mem hkey]
  have hparams : ((v.mapValues (kind.changeLinks f)).within "initializeParams").textsAt
      kind.parameterLinkKeys =
        ((v.within "initializeParams").textsAt kind.parameterLinkKeys).map f := by
    refine Json.textsAt_eq_map fun key hkey => ?_
    rw [within_mapValues_changeLinks, changeLinks_parameters, Json.within_mapTextsAt_of_mem hkey]
  rw [links, hown, hparams, links, List.map_append]

end DiskKind

namespace DiskConfiguration

variable {project : Option Text} {f : Text → Text} {es : List (Text × Json)}

/-- The kind of a disk does not depend on its links. -/
theorem kindIn_mapValues_changeLinks (kind : DiskKind) (f : Text → Text)
    (es : List (Text × Json)) :
    kindIn (es.map fun e => (e.1, kind.changeLinks f e.1 e.2)) = kindIn es := by
  apply kindIn_congr
  · rw [sortIn, Json.lookup_mapValues, sortIn,
      DiskKind.changeLinks_of_not_mem (by decide) (by cases kind <;> decide), Option.map_id, id_eq]
  · rw [Json.valueOf_mapValues DiskKind.changeLinks_null, DiskKind.changeLinks_parameters,
      mapTextsAt, Json.mapValues_eq_null_iff]

/-- Each identity of a disk is read from one of its links. -/
theorem exists_link_of_mem_identities {kind : DiskKind} {c : DiskConfiguration}
    (h : readAs kind (.object es) = .ok c) :
    ∀ id ∈ c.identities, ∃ url ∈ kind.links (.object es),
      Identity.read id.1 (.text url) = .ok id.2 := by
  intro id hid
  cases kind with
  | persistent =>
    obtain ⟨d, hd, rfl⟩ := Except.map_eq_ok_iff.mp h
    obtain ⟨_, ⟨⟩, hsource, -⟩ := PersistentDisk.ofPayload_eq_ok_iff.mp hd
    obtain rfl := List.mem_singleton.mp hid
    obtain ⟨url, hmem, hurl⟩ := Identity.exists_text_of_read hsource
    refine ⟨url, List.mem_append_left _ ?_, hurl⟩
    exact List.mem_flatMap.mpr ⟨"source", by decide, hmem⟩
  | create =>
    obtain ⟨d, hd, rfl⟩ := Except.map_eq_ok_iff.mp h
    obtain ⟨_, ⟨⟩, ps, hps, himage, -, htype, -⟩ := CreatedDisk.ofPayload_eq_ok_iff.mp hd
    have hlink : ∀ key ∈ DiskKind.create.parameterLinkKeys, ∀ url ∈ (valueOf ps key).ownText,
        url ∈ DiskKind.create.links (.object es) := by
      intro key hkey url hmem
      refine List.mem_append_right _ (List.mem_flatMap.mpr ⟨key, hkey, ?_⟩)
      rwa [Json.within_object, hps]
    rcases List.mem_cons.mp hid with rfl | hid
    · obtain ⟨url, hmem, hurl⟩ := Identity.exists_text_of_read himage
      exact ⟨url, hlink "sourceImage" (by decide) url hmem, hurl⟩
    · obtain ⟨url, hmem, hurl⟩ := Identity.exists_text_of_ifSet_read htype id hid
      exact ⟨url, hlink "diskType" (by decide) url hmem, hurl⟩
  | scratch =>
    obtain ⟨d, hd, rfl⟩ := Except.map_eq_ok_iff.mp h
    obtain ⟨-, -, htype⟩ := ScratchDisk.ofPayload_object_eq_ok_iff.mp hd
    obtain ⟨url, hmem, hurl⟩ := Identity.exists_text_of_ifSet_read htype id hid
    refine ⟨url, List.mem_append_right _ ?_, hurl⟩
    exact List.mem_flatMap.mpr ⟨"diskType", by decide, hmem⟩

/-- A disk of a kind with changed links is read as the moved one; its image
moves as well, since it is in no project yet. -/
theorem readAs_mapValues (hf : Fills project f) (previous : Option Text) {kind : DiskKind}
    {c : DiskConfiguration} (h : readAs kind (.object es) = .ok c)
    (hnone : ∀ id ∈ c.identities, id.2.project = none) :
    readAs kind ((Json.object es).mapValues (kind.changeLinks f)) =
      .ok (c.withProject project previous) := by
  have hvalue := fun key =>
    DiskKind.within_mapValues_changeLinks kind f (.object es) key
  have hobject : ∃ fs, (Json.object es).mapValues (kind.changeLinks f) = .object fs := ⟨_, rfl⟩
  obtain ⟨fs, hfs⟩ := hobject
  simp only [hfs, Json.within_object] at hvalue ⊢
  -- a key without links has the value that it had
  have hother : ∀ key : Text, key ≠ "initializeParams" → key ∉ kind.linkKeys →
      valueOf fs key = valueOf es key := by
    intro key hne hkey
    rw [hvalue, DiskKind.changeLinks_of_not_mem hne hkey, id_eq]
  have hparams : valueOf fs "initializeParams" =
      (valueOf es "initializeParams").mapTextsAt kind.parameterLinkKeys f := by
    rw [hvalue, DiskKind.changeLinks_parameters]
  cases kind with
  | persistent =>
    obtain ⟨d, hd, rfl⟩ := Except.map_eq_ok_iff.mp h
    obtain ⟨_, ⟨⟩, hsource, hmode, hboot, hdelete⟩ := PersistentDisk.ofPayload_eq_ok_iff.mp hd
    refine Except.map_eq_ok_iff.mpr ⟨_, PersistentDisk.ofPayload_eq_ok_iff.mpr
      ⟨fs, rfl, ?_, ?_, ?_, ?_⟩, rfl⟩
    · rw [hvalue, DiskKind.changeLinks_of_mem (by decide)]
      exact Identity.read_mapText hf hsource (hnone _ List.mem_cons_self)
    · rwa [hother "mode" (by decide) (by decide)]
    · rwa [hother "boot" (by decide) (by decide)]
    · rwa [hother "autoDelete" (by decide) (by decide)]
  | create =>
    obtain ⟨d, hd, rfl⟩ := Except.map_eq_ok_iff.mp h
    obtain ⟨_, ⟨⟩, ps, hps, himage, hname, htype, hsize, hdelete⟩ :=
      CreatedDisk.ofPayload_eq_ok_iff.mp hd
    have himageNone : d.image.project = none := hnone _ List.mem_cons_self
    have hmoves : imageMoves previous d.image = true := imageMoves_iff.mpr (Or.inl himageNone)
    have hlink : ∀ key ∈ DiskKind.create.parameterLinkKeys,
        (valueOf fs "initializeParams").within key = (valueOf ps key).mapText f := by
      intro key hkey
      rw [hparams, Json.within_mapTextsAt_of_mem hkey, hps, Json.within_object]
    have hplain : ∀ key, key ∉ DiskKind.create.parameterLinkKeys →
        (valueOf fs "initializeParams").within key = valueOf ps key := by
      intro key hkey
      rw [hparams, Json.within_mapTextsAt_of_not_mem hkey, hps, Json.within_object]
    have hqs : ∃ qs, valueOf fs "initializeParams" = .object qs := by
      rw [hparams, hps]
      exact ⟨_, rfl⟩
    obtain ⟨qs, hqs⟩ := hqs
    simp only [hqs, Json.within_object] at hlink hplain
    rw [withProject_create, movedImage, if_pos hmoves]
    refine Except.map_eq_ok_iff.mpr ⟨_, CreatedDisk.ofPayload_eq_ok_iff.mpr
      ⟨fs, rfl, qs, hqs, ?_, ?_, ?_, ?_, ?_⟩, rfl⟩
    · rw [hlink "sourceImage" (by decide)]
      exact Identity.read_mapText hf himage himageNone
    · rwa [hplain "diskName" (by decide)]
    · rw [hlink "diskType" (by decide)]
      exact Identity.ifSet_read_mapText hf htype fun id hid =>
        hnone id (List.mem_cons_of_mem _ hid)
    · rwa [hplain "diskSizeGb" (by decide)]
    · rwa [hother "autoDelete" (by decide) (by decide)]
  | scratch =>
    obtain ⟨d, hd, rfl⟩ := Except.map_eq_ok_iff.mp h
    obtain ⟨hinterface, hform, htype⟩ := ScratchDisk.ofPayload_object_eq_ok_iff.mp hd
    refine Except.map_eq_ok_iff.mpr ⟨_, ScratchDisk.ofPayload_object_eq_ok_iff.mpr
      ⟨?_, ?_, ?_⟩, rfl⟩
    · rwa [hother "interface" (by decide) (by decide)]
    · rw [hparams]
      rcases hform with hblank | ⟨ps, hps⟩
      · exact Or.inl (by rwa [Json.isBlank_mapTextsAt])
      · exact Or.inr ⟨_, by rw [hps]; rfl⟩
    · rw [hparams, Json.within_mapTextsAt_of_mem (by decide)]
      exact Identity.ifSet_read_mapText hf htype hnone

end DiskConfiguration

namespace AttachedDisk

open DiskConfiguration (kindIn)

/-- The links of a disk; there are none in a disk of an unknown type. -/
def links : Json → List Text
  | .object es =>
    match kindIn es with
    | some kind => kind.links (.object es)
    | none => []
  | _ => []

/-- Changes the links of a disk. -/
def mapLinks (f : Text → Text) : Json → Json
  | .object es =>
    match kindIn es with
    | some kind => mapValues (kind.changeLinks f) (.object es)
    | none => .object es
  | v => v

variable {es : List (Text × Json)} {kind : DiskKind}

theorem links_of_kindIn (h : kindIn es = some kind) :
    links (.object es) = kind.links (.object es) := by
  simp only [links, h]

theorem mapLinks_of_kindIn (h : kindIn es = some kind) (f : Text → Text) :
    mapLinks f (.object es) = mapValues (kind.changeLinks f) (.object es) := by
  simp only [mapLinks, h]

/-- The links of a disk are the changed ones. -/
theorem links_mapLinks (f : Text → Text) (v : Json) :
    links (mapLinks f v) = (links v).map f := by
  cases v with
  | object es =>
    cases hkind : kindIn es with
    | none => simp only [mapLinks, links, hkind, List.map_nil]
    | some kind =>
      rw [mapLinks_of_kindIn hkind, links_of_kindIn hkind, ← DiskKind.links_mapValues]
      refine links_of_kindIn ?_
      rw [DiskConfiguration.kindIn_mapValues_changeLinks, hkind]
  | _ => rfl

/-- Each identity of a disk is read from one of its links. -/
theorem exists_link_of_mem_identities {v : Json} {d : AttachedDisk} (h : ofPayload v = .ok d) :
    ∀ id ∈ d.configuration.identities, ∃ url ∈ links v,
      Identity.read id.1 (.text url) = .ok id.2 := by
  obtain ⟨es, rfl, hconfiguration, -⟩ := ofPayload_eq_ok_iff.mp h
  have hkind := DiskConfiguration.kindIn_of_ofPayload hconfiguration
  rw [DiskConfiguration.ofPayload_of_kindIn hkind] at hconfiguration
  rw [links_of_kindIn hkind]
  exact DiskConfiguration.exists_link_of_mem_identities hconfiguration

/-- A disk with changed links is read as the moved one. -/
theorem ofPayload_mapLinks {project : Option Text} {f : Text → Text}
    (hf : Fills project f) (previous : Option Text) {v : Json} {d : AttachedDisk}
    (h : ofPayload v = .ok d) (hnone : ∀ id ∈ d.configuration.identities, id.2.project = none) :
    ofPayload (mapLinks f v) = .ok (d.withProject project previous) := by
  obtain ⟨es, rfl, hconfiguration, hname, hindex⟩ := ofPayload_eq_ok_iff.mp h
  have hkind := DiskConfiguration.kindIn_of_ofPayload hconfiguration
  rw [DiskConfiguration.ofPayload_of_kindIn hkind] at hconfiguration
  have hread := DiskConfiguration.readAs_mapValues hf previous hconfiguration hnone
  have hother : ∀ key ∈ [Text.unicode "deviceName", .unicode "index"],
      valueOf (es.map fun e => (e.1, d.configuration.kind.changeLinks f e.1 e.2)) key =
        valueOf es key := by
    intro key hkey
    rw [Json.valueOf_mapValues DiskKind.changeLinks_null, DiskKind.changeLinks_of_not_mem, id_eq]
    · rintro rfl
      revert hkey
      decide
    · revert key
      cases d.configuration.kind <;> decide
  have hkind' : kindIn (es.map fun e => (e.1, d.configuration.kind.changeLinks f e.1 e.2)) =
      some d.configuration.kind := by
    rw [DiskConfiguration.kindIn_mapValues_changeLinks, hkind]
  rw [mapLinks_of_kindIn hkind]
  refine ofPayload_eq_ok_iff.mpr ⟨_, rfl, ?_, ?_, ?_⟩
  · rw [DiskConfiguration.ofPayload_of_kindIn hkind']
    exact hread
  · rwa [hother "deviceName" (by decide)]
  · rwa [hother "index" (by decide)]

end AttachedDisk

/-! ### Instances -/

namespace Instance

/-- The keys of an instance that have links themselves. -/
def linkKeys : List Text := ["selfLink", "machineType"]

/-- The links of an instance: its own, the one of its machine type, and those
of its interfaces and its disks. -/
def links (p : Json) : List Text :=
  p.textsAt linkKeys ++ (p.within "networkInterfaces").elements.flatMap NetworkInterface.links ++
    (p.within "disks").elements.flatMap AttachedDisk.links

/-- What becomes of the value of a key when the links of an instance
change. -/
def changeLinks (f : Text → Text) (key : Text) (v : Json) : Json :=
  if key ∈ linkKeys then v.mapText f
  else if key = "networkInterfaces" then v.mapItems (NetworkInterface.mapLinks f)
  else if key = "disks" then v.mapItems (AttachedDisk.mapLinks f)
  else v

/-- Changes the links of an instance. -/
def mapLinks (f : Text → Text) : Json → Json := mapValues (changeLinks f)

variable {f : Text → Text} {key : Text} {v : Json}

theorem changeLinks_null : changeLinks f key .null = .null := by
  unfold changeLinks
  split_ifs <;> rfl

theorem changeLinks_of_mem (h : key ∈ linkKeys) : changeLinks f key v = v.mapText f := if_pos h

theorem changeLinks_of_not_mem
    (h : key ∉ .unicode "networkInterfaces" :: .unicode "disks" :: linkKeys) :
    changeLinks f key v = v := by
  rw [List.mem_cons, List.mem_cons, not_or, not_or] at h
  rw [changeLinks, if_neg h.2.2, if_neg h.1, if_neg h.2.1]

theorem within_mapLinks (f : Text → Text) (p : Json) (key : Text) :
    (mapLinks f p).within key = changeLinks f key (p.within key) :=
  Json.within_mapValues changeLinks_null p

theorem within_interfaces_mapLinks (f : Text → Text) (p : Json) :
    (mapLinks f p).within "networkInterfaces" =
      (p.within "networkInterfaces").mapItems (NetworkInterface.mapLinks f) :=
  within_mapLinks f p _

theorem within_disks_mapLinks (f : Text → Text) (p : Json) :
    (mapLinks f p).within "disks" = (p.within "disks").mapItems (AttachedDisk.mapLinks f) :=
  within_mapLinks f p _

/-- The links of an instance are the changed ones. -/
theorem links_mapLinks (f : Text → Text) (p : Json) :
    links (mapLinks f p) = (links p).map f := by
  have hown : (mapLinks f p).textsAt linkKeys = (p.textsAt linkKeys).map f := by
    refine Json.textsAt_eq_map fun key hkey => ?_
    rw [within_mapLinks, changeLinks_of_mem hkey]
  rw [links, hown, within_interfaces_mapLinks, within_disks_mapLinks,
    Json.flatMap_elements_mapItems (NetworkInterface.links_mapLinks f),
    Json.flatMap_elements_mapItems (AttachedDisk.links_mapLinks f), links, List.map_append,
    List.map_append]

/-- Each identity of an instance is read from one of the links of its
payload. -/
theorem exists_link_of_mem_identities {p : Json} {x : Instance}
    (h : (ofPayload p).outcome = .ok x) :
    ∀ id ∈ x.identities, ∃ url ∈ links p, Identity.read id.1 (.text url) = .ok id.2 := by
  obtain ⟨es, rfl, hread⟩ := ofPayload_eq_ok_iff.mp h
  obtain ⟨ns, hns, hinterfaces⟩ := hread.interfaces
  obtain ⟨ds, hds, hdisks⟩ := hread.disks
  have hown : ∀ key ∈ linkKeys, ∀ url ∈ (valueOf es key).ownText, url ∈ links (.object es) := by
    intro key hkey url hmem
    refine List.mem_append_left _ (List.mem_append_left _ ?_)
    exact List.mem_flatMap.mpr ⟨key, hkey, hmem⟩
  intro id hid
  rw [identities, List.mem_cons, List.mem_cons, List.mem_append, List.mem_flatMap,
    List.mem_flatMap] at hid
  rcases hid with rfl | rfl | ⟨n, hn, hid⟩ | ⟨d, hd, hid⟩
  · obtain ⟨url, hmem, hurl⟩ := Identity.exists_text_of_read hread.id
    exact ⟨url, hown "selfLink" (by decide) url hmem, hurl⟩
  · obtain ⟨url, hmem, hurl⟩ := Identity.exists_text_of_read hread.machineType
    exact ⟨url, hown "machineType" (by decide) url hmem, hurl⟩
  · obtain ⟨v, hv, hn⟩ := exists_mem_of_forall₂ hinterfaces n hn
    obtain ⟨url, hmem, hurl⟩ := NetworkInterface.exists_link_of_mem_identities hn id hid
    refine ⟨url, List.mem_append_left _ (List.mem_append_right _ ?_), hurl⟩
    rw [Json.within_object, hns]
    exact List.mem_flatMap.mpr ⟨v, hv, hmem⟩
  · obtain ⟨v, hv, hd⟩ := exists_mem_of_forall₂ hdisks d hd
    obtain ⟨url, hmem, hurl⟩ := AttachedDisk.exists_link_of_mem_identities hd id hid
    refine ⟨url, List.mem_append_right _ ?_, hurl⟩
    rw [Json.within_object, hds]
    exact List.mem_flatMap.mpr ⟨v, hv, hmem⟩

/-- A payload with changed links is read as the moved instance. -/
theorem ofPayload_mapLinks {q : Text} (hf : Fills (some q) f) {p : Json} {x : Instance}
    (h : (ofPayload p).outcome = .ok x) (hnone : ∀ id ∈ x.identities, id.2.project = none) :
    (ofPayload (mapLinks f p)).outcome = .ok (x.moved q) := by
  obtain ⟨es, rfl, hread⟩ := ofPayload_eq_ok_iff.mp h
  obtain ⟨ns, hns, hinterfaces⟩ := hread.interfaces
  obtain ⟨ds, hds, hdisks⟩ := hread.disks
  have hvalue := within_mapLinks f (.object es)
  have hobject : ∃ fs, mapLinks f (.object es) = .object fs := ⟨_, rfl⟩
  obtain ⟨fs, hfs⟩ := hobject
  simp only [hfs, Json.within_object] at hvalue ⊢
  have hother : ∀ key, key ∉ .unicode "networkInterfaces" :: .unicode "disks" :: linkKeys →
      valueOf fs key = valueOf es key := by
    intro key hkey
    rw [hvalue, changeLinks_of_not_mem hkey]
  simp only [identities, List.forall_mem_cons, List.forall_mem_append,
    List.forall_mem_flatMap] at hnone
  obtain ⟨hid, htype, hnetworks, hconfigurations⟩ := hnone
  refine ofPayload_eq_ok_iff.mpr ⟨fs, rfl, ?_⟩
  constructor
  case id =>
    rw [hvalue, changeLinks_of_mem (by decide)]
    exact Identity.read_mapText hf hread.id hid
  case machineType =>
    rw [hvalue, changeLinks_of_mem (by decide)]
    exact Identity.read_mapText hf hread.machineType htype
  case interfaces =>
    refine ⟨ns.map (NetworkInterface.mapLinks f), by rw [hvalue, hns]; rfl, ?_⟩
    exact forall₂_map_of_mem hinterfaces fun v n hn hv =>
      NetworkInterface.ofPayload_mapLinks hf hv (hnetworks n hn)
  case disks =>
    refine ⟨ds.map (AttachedDisk.mapLinks f), by rw [hvalue, hds]; rfl, ?_⟩
    exact forall₂_map_of_mem hdisks fun v d hd hv =>
      AttachedDisk.ofPayload_mapLinks hf x.id.project hv (hconfigurations d hd)
  case description => exact (hother "description" (by decide)).symm ▸ hread.description
  case tags => exact (hother "tags" (by decide)).symm ▸ hread.tags
  case canIpForward => exact (hother "canIpForward" (by decide)).symm ▸ hread.canIpForward
  case metadata => exact (hother "metadata" (by decide)).symm ▸ hread.metadata
  case accounts => exact (hother "serviceAccounts" (by decide)).symm ▸ hread.accounts
  case scheduling => exact (hother "scheduling" (by decide)).symm ▸ hread.scheduling
  case serverId => exact (hother "id" (by decide)).symm ▸ hread.serverId
  case created => exact (hother "creationTimestamp" (by decide)).symm ▸ hread.created
  case status => exact (hother "status" (by decide)).symm ▸ hread.status
  case statusMessage => exact (hother "statusMessage" (by decide)).symm ▸ hread.statusMessage
  case cpuPlatform => exact (hother "cpuPlatform" (by decide)).symm ▸ hread.cpuPlatform

/-- A payload with a project in front of its links is read only if the project
is a string. -/
theorem isUnicode_of_ofPayload_mapLinks {q lead : Text} (hlead : Identity.IsLead lead)
    (hq : q ≠ "") (hsegment : Text.IsSegment q) {p : Json} {x y : Instance}
    (h : (ofPayload p).outcome = .ok x) (hnone : x.id.project = none)
    (hread : (ofPayload (mapLinks (Identity.qualified lead q) p)).outcome = .ok y) :
    q.IsUnicode := by
  obtain ⟨es, rfl, hx⟩ := ofPayload_eq_ok_iff.mp h
  obtain ⟨fs, hfs, hy⟩ := ofPayload_eq_ok_iff.mp hread
  obtain ⟨url, hurl, -⟩ := Identity.read_eq_ok_iff.mp hx.id
  have hvalue := within_mapLinks (Identity.qualified lead q) (.object es) "selfLink"
  rw [changeLinks_of_mem (by decide), hfs, Json.within_object, Json.within_object, hurl] at hvalue
  have hid := hx.id
  rw [hurl] at hid
  have hid' := hy.id
  rw [hvalue] at hid'
  exact Identity.isUnicode_of_read_qualified hlead hq hsegment hid hnone hid'

/-- **Filling in the project.** Of a payload whose links tell no project, it
makes no difference whether a project is put in front of each link or the
instance that is read is moved to the project, if the project is a string;
with any other text in front of its links, the payload is not read. -/
theorem qualified_links_read_moved {p : Json} {x : Instance} {q lead : Text}
    (h : (ofPayload p).outcome = .ok x)
    (hbare : ∀ url ∈ links p, ¬ Identity.CarriesProject url) (hq : q ≠ "")
    (hsegment : Text.IsSegment q) (hlead : Identity.IsLead lead) :
    links (mapLinks (Identity.qualified lead q) p) = (links p).map (Identity.qualified lead q) ∧
    (x.withProject (some q)).outcome = .ok (x.moved q) ∧
    ∀ y, (ofPayload (mapLinks (Identity.qualified lead q) p)).outcome = .ok y ↔
      q.IsUnicode ∧ (x.withProject (some q)).outcome = .ok y := by
  have hnone : ∀ id ∈ x.identities, id.2.project = none := by
    intro id hid
    obtain ⟨url, hmem, hurl⟩ := exists_link_of_mem_identities h id hid
    exact Identity.project_of_not_carriesProject (hbare url hmem) hurl
  have hmoved : (x.withProject (some q)).outcome = .ok (x.moved q) := withProject_of_ne hq x
  have hread : q.IsUnicode →
      (ofPayload (mapLinks (Identity.qualified lead q) p)).outcome = .ok (x.moved q) :=
    fun hunicode =>
      ofPayload_mapLinks (Identity.fills_qualified hlead hq hsegment hunicode) h hnone
  refine ⟨links_mapLinks _ p, hmoved, fun y => ⟨fun hy => ?_, ?_⟩⟩
  · have hunicode := isUnicode_of_ofPayload_mapLinks hlead hq hsegment h
      (hnone ⟨_, x.id⟩ List.mem_cons_self) hy
    rw [hmoved, ← hread hunicode]
    exact ⟨hunicode, hy⟩
  · rintro ⟨hunicode, hy⟩
    rw [hread hunicode, ← hmoved, hy]

/-- A payload whose links leave the project open, with an interface and one
disk of each kind. -/
def projectLeftOpen : Json :=
  .object [("selfLink", .text "zones/z/instances/i"),
    ("machineType", .text "zones/z/machineTypes/m"),
    ("networkInterfaces", .list [.object [("network", .text "global/networks/n"),
      ("subnetwork", .text "regions/r/subnetworks/s")]]),
    ("disks", .list [.object [("source", .text "zones/z/disks/d")],
      .object [("initializeParams", .object [("sourceImage", .text "global/images/g"),
        ("diskType", .text "zones/z/diskTypes/t"), ("diskSizeGb", .int 10)])],
      .object [("type", .text "SCRATCH"), ("initializeParams", .object [])]])]

theorem not_carriesProject_projectLeftOpen :
    ∀ url ∈ links projectLeftOpen, ¬ Identity.CarriesProject url := by
  have hlinks : links projectLeftOpen = ["zones/z/instances/i", "zones/z/machineTypes/m",
      "global/networks/n", "regions/r/subnetworks/s", "zones/z/disks/d", "global/images/g",
      "zones/z/diskTypes/t"] := by decide
  simp only [Identity.not_carriesProject_iff]
  rw [hlinks]
  intro url hmem k
  revert url
  cases k <;> decide

/-- Its links are qualified with a host before the project. -/
theorem moved_projectLeftOpen : ∃ x y, (ofPayload projectLeftOpen).outcome = .ok x ∧
    (∀ url ∈ links projectLeftOpen, ¬ Identity.CarriesProject url) ∧ Text.unicode "q" ≠ "" ∧
    Text.IsSegment "q" ∧ Identity.IsLead "https://host/" ∧
    (ofPayload (mapLinks (Identity.qualified "https://host/" "q") projectLeftOpen)).outcome =
      .ok y ∧ (x.withProject (some (.unicode "q"))).outcome = .ok y ∧
    y.id.project = some (.unicode "q") := by
  obtain ⟨x, hx⟩ : ∃ x, (ofPayload projectLeftOpen).outcome = .ok x := ⟨_, rfl⟩
  have hbare := not_carriesProject_projectLeftOpen
  have hlead : Identity.IsLead "https://host/" := Or.inr ⟨"https://host", by decide, by decide⟩
  obtain ⟨-, hmoved, hread⟩ := qualified_links_read_moved hx hbare
    (by decide : Text.unicode "q" ≠ "") (by decide) hlead
  exact ⟨x, x.moved "q", hx, hbare, by decide, by decide, hlead,
    (hread _).mpr ⟨trivial, hmoved⟩, hmoved, rfl⟩

/-- Qualified with a text that is no string, they are not read, although the
instance itself is moved there. -/
theorem half_project_is_not_read : ∃ x, (ofPayload projectLeftOpen).outcome = .ok x ∧
    (∀ url ∈ links projectLeftOpen, ¬ Identity.CarriesProject url) ∧
    Text.halfPair ≠ "" ∧ Text.IsSegment Text.halfPair ∧ Identity.IsLead "" ∧
    (∃ y, (x.withProject (some Text.halfPair)).outcome = .ok y) ∧
    (ofPayload (mapLinks (Identity.qualified "" Text.halfPair) projectLeftOpen)).outcome =
      .error (.invalid "InstanceId" [⟨[.field "project"], .notUnicode⟩]) :=
  ⟨_, rfl, not_carriesProject_projectLeftOpen, by decide, by decide, Or.inl rfl, ⟨_, rfl⟩, rfl⟩

end Instance
end VmResource
