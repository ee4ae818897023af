/-
# Links tell kinds and addresses apart

Every path ends in the name of the resource with the word for its kind
before it, so a link leads to addresses of one kind only, and to only one
address of that kind. The identity at this address is read from the link if
there is one; an address with a part that is no string has none, and the link
is refused then although it leads there. The own links of identities tell
them apart whatever their kinds, provided that no part of them holds a `/`:
then the names and the project are found again, each at its place among the
segments.

Key definitions: `Identity.Kind.word`, `Identity.IsSlashFree`.
Key theorems: `Identity.Address.sigma_eq_of_leadsTo`,
`Identity.links_of_kind`, `Identity.sigma_eq_of_selfLink_eq`,
`Identity.own_links_identify`.
-/
import Mathlib.Data.List.TakeDrop
import VmResource.Proofs.IdentityLink

namespace VmResource

namespace Identity

open Text

variable {k l : Kind}

/-! ### The word for a kind -/

/-- The last word of the path of a resource. -/
def Kind.word : Kind → String
  | .zone => "zones"
  | .vm => "instances"
  | .machineType => "machineTypes"
  | .disk => "disks"
  | .diskType => "diskTypes"
  | .image => "images"
  | .network => "networks"
  | .subnetwork => "subnetworks"

theorem Kind.word_injective {k l : Kind} (h : k.word = l.word) : k = l := by
  cases k <;> cases l <;> first | rfl | exact absurd h (by decide)

/-- A template ends in the word for its kind and a slot. -/
theorem Kind.exists_template_eq (k : Kind) :
    ∃ front name, k.template = front ++ [.word k.word, .slot name] := by
  refine ⟨k.template.dropLast.dropLast, k.names.getLast k.names_ne_nil, ?_⟩
  cases k <;> rfl

theorem slotNames_append : ∀ ps qs : List Part, slotNames (ps ++ qs) = slotNames ps ++ slotNames qs
  | [], _ => rfl
  | .word _ :: ps, qs => slotNames_append ps qs
  | .slot n :: ps, qs => congrArg (n :: ·) (slotNames_append ps qs)

/-- The names left over by one template go to the next one. -/
theorem fill_append : ∀ (ps qs : List Part) (ns : List Text),
    (slotNames ps).length ≤ ns.length →
    fill (ps ++ qs) ns = fill ps ns ++ fill qs (ns.drop (slotNames ps).length)
  | [], _, _, _ => rfl
  | .word w :: ps, qs, ns, h => congrArg (Text.unicode w :: ·) (fill_append ps qs ns h)
  | .slot _ :: _, _, [], h => absurd h (Nat.not_succ_le_zero _)
  | .slot _ :: ps, qs, n :: ns, h => by
    have hns : (slotNames ps).length ≤ ns.length := Nat.le_of_succ_le_succ h
    exact congrArg (n :: ·) (fill_append ps qs ns hns)

/-! ### What a link leads to -/

namespace Address

/-- The last two segments of a path are the word for the kind and the name of
the resource. -/
theorem exists_segments_eq (a : Address k) :
    ∃ front name, a.segments = front ++ [.unicode k.word, name] := by
  obtain ⟨front, slot, htemplate⟩ := k.exists_template_eq
  have hlength : a.names.length = (slotNames front).length + 1 := by
    have h := a.names_length
    rw [Kind.names, htemplate, slotNames_append, List.length_append] at h
    exact h
  have hne : a.names ≠ [] := List.ne_nil_of_length_eq_add_one hlength
  have hdrop : a.names.drop (slotNames front).length = [a.names.getLast hne] := by
    rw [← List.drop_length_sub_one hne, hlength, Nat.add_sub_cancel]
  refine ⟨fill front a.names, a.names.getLast hne, ?_⟩
  rw [segments, htemplate, fill_append _ _ _ (by omega), hdrop]
  rfl

/-- Segments that end in two paths end in the word for one kind. -/
theorem kind_eq_of_append_segments_eq {a : Address k} {b : Address l}
    {before before' : List Text} (h : before ++ a.segments = before' ++ b.segments) : k = l := by
  obtain ⟨front, name, ha⟩ := a.exists_segments_eq
  obtain ⟨front', name', hb⟩ := b.exists_segments_eq
  rw [ha, hb, ← List.append_assoc, ← List.append_assoc] at h
  have hends : [Text.unicode k.word, name] = [.unicode l.word, name'] := (List.append_inj' h rfl).2
  exact Kind.word_injective (Text.unicode.inj (List.cons.inj hends).1)

/-- A link leads to one plain address at most, of whatever kind. -/
theorem sigma_eq_of_leadsTo {url : Text} {a : Address k} {b : Address l} (ha : a.IsPlain)
    (hb : b.IsPlain) (h : a.LeadsTo url) (h' : b.LeadsTo url) :
    (⟨k, a⟩ : Sigma Address) = ⟨l, b⟩ := by
  have hurl : ofUrl? k url = some a := ofUrl?_eq_some_iff.mpr ⟨ha, h⟩
  have hurl' : ofUrl? l url = some b := ofUrl?_eq_some_iff.mpr ⟨hb, h'⟩
  obtain ⟨before, hsegs, -⟩ := ofSegments?_eq_some_iff.mp hurl
  obtain ⟨before', hsegs', -⟩ := ofSegments?_eq_some_iff.mp hurl'
  obtain rfl : k = l := kind_eq_of_append_segments_eq (hsegs.symm.trans hsegs')
  rw [Option.some.inj (hurl.symm.trans hurl')]

end Address

theorem isUrl_text_iff {url : Text} :
    isUrl k (.text url) = true ↔ ∃ a : Address k, a.IsPlain ∧ a.LeadsTo url := by
  simp only [isUrl, Option.isSome_iff_exists, Address.ofUrl?_eq_some_iff]

/-- An address whose parts are strings is that of an identity, which is found
there. -/
theorem exists_check_eq_ok {a : Address k} (ha : a.IsPlain) (hunicode : a.IsUnicode) :
    ∃ id : Identity k, a.check = .ok id ∧ id.address = a := by
  obtain ⟨id, rfl⟩ := Address.exists_address_eq hunicode
  exact ⟨id, check_address fun p hp => ⟨(ha.project p hp).1, hunicode.project p hp⟩, rfl⟩

/-- **The links of a kind.** A text is a link of a kind exactly if it leads
to a plain address of the kind, that is, if it is the path of one, or has
`projects/`, the project and the path after a lead. It leads then to no other
address, of this kind or another, and whatever is read from it is read from
every link that leads there, the own link of the address among them: the
identity of this address if its parts are strings, and otherwise a refusal of
the parts that are not. Any other text is malformed. -/
theorem links_of_kind (k : Kind) (url : Text) :
    if isUrl k (.text url) then
      ∃ a : Address k, a.IsPlain ∧ a.LeadsTo url ∧
        (a.IsUnicode → ∃ id : Identity k, id.address = a ∧ read k (.text url) = .ok id ∧
          read k (.text id.selfLink) = .ok id) ∧
        (¬ a.IsUnicode → read k (.text url) =
          .error (.invalid k.title (a.brokenFields.map fun name => ⟨[.field name], .notUnicode⟩))) ∧
        (∀ l, ∀ b : Address l, b.IsPlain → b.LeadsTo url → (⟨l, b⟩ : Sigma Address) = ⟨k, a⟩) ∧
        (∀ l, isUrl l (.text url) = true → l = k) ∧
        (∀ url', a.LeadsTo url' →
          isUrl k (.text url') = true ∧ read k (.text url') = read k (.text url)) ∧
        a.LeadsTo a.link
    else
      (¬ ∃ a : Address k, a.IsPlain ∧ a.LeadsTo url) ∧
        read k (.text url) = .error (.malformed (.notUrl k.title url) none) := by
  split
  · next hurl =>
    obtain ⟨a, hplain, hleads⟩ := isUrl_text_iff.mp hurl
    have hread : ∀ url', a.LeadsTo url' → read k (.text url') = a.check.orInvalid k.title :=
      fun _ => read_of_leadsTo hplain
    have hother : ∀ l, ∀ b : Address l, b.IsPlain → b.LeadsTo url →
        (⟨l, b⟩ : Sigma Address) = ⟨k, a⟩ := fun l b hb h =>
      Address.sigma_eq_of_leadsTo hb hplain h hleads
    refine ⟨a, hplain, hleads, fun hunicode => ?_, fun hbroken => ?_, hother, fun l hl => ?_,
      fun url' h => ⟨isUrl_text_iff.mpr ⟨a, hplain, h⟩, ?_⟩, a.leadsTo_link⟩
    · obtain ⟨id, hcheck, rfl⟩ := exists_check_eq_ok hplain hunicode
      refine ⟨id, rfl, ?_, ?_⟩
      · rw [hread url hleads, hcheck, Check.orInvalid_ok]
      · rw [selfLink, hread _ id.address.leadsTo_link, hcheck, Check.orInvalid_ok]
    · exact read_of_not_isUnicode hplain hleads hbroken
    · obtain ⟨b, hb, h⟩ := isUrl_text_iff.mp hl
      exact congrArg Sigma.fst (hother l b hb h)
    · rw [hread url' h, hread url hleads]
  · next hurl =>
    have hnone : Address.ofUrl? k url = none := by simpa [isUrl] using hurl
    refine ⟨fun h => hurl (isUrl_text_iff.mpr h), ?_⟩
    rw [read, hnone]

/-- The name of a zone may be no string in a link, but not in an identity. -/
theorem half_zone_is_no_identity :
    let url := Text.unicode "zones/" ++ halfPair
    isUrl .zone (.text url) = true ∧
      read .zone (.text url) = .error (.invalid "ZoneId" [⟨[.field "zone"], .notUnicode⟩]) :=
  ⟨rfl, rfl⟩

/-! ### Own links -/

/-- No part of the identity holds a `/`; the project may even lack a name. -/
structure IsSlashFree (id : Identity k) : Prop where
  project : ∀ p, id.project = some p → IsSegment p
  names : ∀ n ∈ id.names, IsSegment n.text

theorem IsPlain.isSlashFree {id : Identity k} (h : id.IsPlain) : id.IsSlashFree :=
  ⟨fun p hp => (h.project p hp).2.1, h.names⟩

theorem IsSlashFree.names_address {id : Identity k} (h : id.IsSlashFree) :
    ∀ n ∈ id.address.names, IsSegment n :=
  List.forall_mem_map.mpr h.names

/-- The segments of an own link before those of the path. -/
def segmentsBefore : Option Text → List Text
  | none => []
  | some p =>
    Text.segments (.unicode "https://www.googleapis.com/compute/v1") ++ [.unicode "projects", p]

theorem segmentsBefore_injective {project project' : Option Text}
    (h : segmentsBefore project = segmentsBefore project') : project = project' := by
  cases project with
  | none =>
    cases project' with
    | none => rfl
    | some p' => simp [segmentsBefore] at h
  | some p =>
    cases project' with
    | none => simp [segmentsBefore] at h
    | some p' =>
      have hends : [Text.unicode "projects", p] = [.unicode "projects", p'] :=
        List.append_cancel_left h
      rw [(List.cons.inj (List.cons.inj hends).2).1]

/-- An own link is read as the segments of the project and of the path. -/
theorem segments_selfLink {id : Identity k} (h : id.IsSlashFree) :
    Text.segments id.selfLink = segmentsBefore id.project ++ id.address.segments := by
  have hpath := Address.segments_relativePath h.names_address
  rw [selfLink, Address.link]
  change Text.segments (match id.project with | none => _ | some p => _) = _
  cases hproject : id.project with
  | none => exact hpath
  | some p =>
    have hbase : Text.unicode Address.baseUrl =
        .unicode "https://www.googleapis.com/compute/v1" ++ .unicode "/" := rfl
    have hlink : Text.unicode Address.baseUrl ++ .unicode "projects/" ++ p ++ .unicode "/" ++
        id.address.relativePath =
          .unicode "https://www.googleapis.com/compute/v1" ++ .unicode "/" ++
            (.unicode "projects/" ++ p ++ .unicode "/" ++ id.address.relativePath) := by
      rw [hbase]
      simp only [Text.append_assoc]
    simp only [hlink, segments_append, Address.segments_projects (h.project p hproject), hpath,
      segmentsBefore, List.append_assoc]

/-- The names are found again in the path. -/
theorem Address.eq_of_segments_eq {a b : Address k} (hproject : a.project = b.project)
    (h : a.segments = b.segments) : a = b := by
  have ha := match?_fill k.template a.names ⟨a.names_length, a.names_ne_empty⟩
  have hb := match?_fill k.template b.names ⟨b.names_length, b.names_ne_empty⟩
  have hfill : fill k.template a.names = fill k.template b.names := h
  rw [hfill, hb] at ha
  have hnames : b.names = a.names := congrArg Subtype.val (Option.some.inj ha)
  cases a
  cases b
  simp_all

/-- **Own links tell identities apart**, of one kind and of different ones, if
no part of them holds a `/`. -/
theorem sigma_eq_of_selfLink_eq {id : Identity k} {jd : Identity l} (hid : id.IsSlashFree)
    (hjd : jd.IsSlashFree) (h : id.selfLink = jd.selfLink) :
    (⟨k, id⟩ : Sigma Identity) = ⟨l, jd⟩ := by
  have hsegs : segmentsBefore id.project ++ id.address.segments =
      segmentsBefore jd.project ++ jd.address.segments := by
    rw [← segments_selfLink hid, ← segments_selfLink hjd, h]
  obtain rfl : k = l := Address.kind_eq_of_append_segments_eq hsegs
  -- paths of one kind are of one length, so the segments before them agree too
  have hlen : id.address.segments.length = jd.address.segments.length :=
    id.address.segments_length.trans jd.address.segments_length.symm
  obtain ⟨hbefore, hpath⟩ := List.append_inj' hsegs hlen
  have haddress : id.address = jd.address :=
    Address.eq_of_segments_eq (segmentsBefore_injective hbefore) hpath
  rw [address_injective haddress]

theorem eq_of_selfLink_eq {id jd : Identity k} (hid : id.IsSlashFree) (hjd : jd.IsSlashFree)
    (h : id.selfLink = jd.selfLink) : id = jd := by
  have hsigma := sigma_eq_of_selfLink_eq hid hjd h
  rw [Sigma.mk.injEq] at hsigma
  exact eq_of_heq hsigma.2

/-- An identity is read from its own link exactly if it is plain. -/
theorem read_selfLink_eq_ok_iff {id : Identity k} :
    read k (.text id.selfLink) = .ok id ↔ id.IsPlain := by
  rw [read_eq_ok_iff]
  refine ⟨?_, fun hplain => ⟨id.selfLink, rfl, hplain, id.address.leadsTo_link⟩⟩
  rintro ⟨-, -, hplain, -⟩
  exact hplain

/-- The names of an identity are strings, so only its project can be broken. -/
theorem brokenFields_address {id : Identity k} {p : Text} (hp : id.project = some p)
    (hbroken : ¬ p.IsUnicode) : id.address.brokenFields = ["project"] := by
  have hnames : ∀ e ∈ k.names.zip id.address.names, e.2.IsUnicode := by
    intro e he
    obtain ⟨n, -, hn⟩ := List.mem_map.mp (List.of_mem_zip he).2
    exact hn ▸ trivial
  have hproject : id.address.project.getD "" = p := by rw [address, hp, Option.getD_some]
  rw [Address.brokenFields, Address.parts,
    List.filter_cons_of_pos (by simpa [hproject] using hbroken),
    List.filter_eq_nil_iff.mpr (by simpa using fun a b h => hnames (a, b) h)]
  rfl

/-- An own link through a project that is no string is refused. -/
theorem read_selfLink_eq_error {id : Identity k} {p : Text} (hp : id.project = some p)
    (hne : p ≠ "") (hseg : IsSegment p) (hbroken : ¬ p.IsUnicode)
    (hnames : ∀ n ∈ id.names, IsSegment n.text) :
    read k (.text id.selfLink) = .error (.invalid k.title [⟨[.field "project"], .notUnicode⟩]) := by
  have hplain : id.address.IsPlain := by
    refine ⟨fun q hq => ?_, List.forall_mem_map.mpr hnames⟩
    obtain rfl : p = q := Option.some.inj (hp.symm.trans hq)
    exact ⟨hne, hseg⟩
  have hunicode : ¬ id.address.IsUnicode := fun h => hbroken (h.project p hp)
  rw [selfLink, read_of_not_isUnicode hplain id.address.leadsTo_link hunicode,
    brokenFields_address hp hbroken]
  rfl

/-- Whatever the project was, the new one decides. -/
theorem isPlain_withProject_iff {id : Identity k} {q : Text} :
    (id.withProject (some q)).IsPlain ↔
      (q ≠ "" ∧ IsSegment q ∧ q.IsUnicode) ∧ ∀ n ∈ id.names, IsSegment n.text := by
  refine ⟨fun h => ⟨h.project q rfl, h.names⟩, ?_⟩
  rintro ⟨hq, hnames⟩
  refine ⟨fun p hp => ?_, hnames⟩
  obtain rfl : q = p := Option.some.inj hp
  exact hq

/-- **Own links identify.** However it was obtained, an identity is read from
its own link if and only if its project is none or a string that is not
empty, and no part of it holds a `/`; a project that is no string is refused
there. Identities without a `/` have one link only if they are one identity
of one kind. Once the names hold no `/`, every project that is a string and
can be a segment can be given, and with it the identity is read from its own
link, whatever project it had. -/
theorem own_links_identify (id : Identity k) :
    (read k (.text id.selfLink) = .ok id ↔
      (∀ p, id.project = some p → p ≠ "" ∧ IsSegment p ∧ p.IsUnicode) ∧
        ∀ n ∈ id.names, IsSegment n.text) ∧
    ((∀ n ∈ id.names, IsSegment n.text) → ∀ p, id.project = some p →
      p ≠ "" → IsSegment p → ¬ p.IsUnicode → read k (.text id.selfLink) =
        .error (.invalid k.title [⟨[.field "project"], .notUnicode⟩])) ∧
    (∀ l, ∀ jd : Identity l, id.IsSlashFree → jd.IsSlashFree →
      (id.selfLink = jd.selfLink ↔ (⟨k, id⟩ : Sigma Identity) = ⟨l, jd⟩)) ∧
    ((∀ n ∈ id.names, IsSegment n.text) → ∀ q : Text, q ≠ "" → IsSegment q → q.IsUnicode →
      read k (.text (id.withProject (some q)).selfLink) = .ok { id with project := some q }) := by
  refine ⟨?_, ?_, ?_, ?_⟩
  · rw [read_selfLink_eq_ok_iff]
    exact ⟨fun h => ⟨h.project, h.names⟩, fun h => ⟨h.1, h.2⟩⟩
  · intro hnames p hp hne hseg hbroken
    exact read_selfLink_eq_error hp hne hseg hbroken hnames
  · intro l jd hid hjd
    refine ⟨sigma_eq_of_selfLink_eq hid hjd, fun h => ?_⟩
    cases h
    rfl
  · intro hnames q hq hseg hunicode
    have hplain := isPlain_withProject_iff.mpr ⟨⟨hq, hseg, hunicode⟩, hnames⟩
    exact read_selfLink_eq_ok_iff.mpr hplain

/-- An instance whose zone and name are words of paths is not found in a
project that is a path, nor in one that is no string, is told apart in a
project without a name from what it is in none, and is found again in a
project whose name is such a word too. -/
theorem own_link_among_words :
    let id : Identity .vm := ⟨some (.unicode "projects/zones"), [⟨"projects", by decide⟩,
      ⟨"instances", by decide⟩], rfl⟩
    read .vm (.text id.selfLink) ≠ .ok id ∧
      read .vm (.text (id.withProject (some halfPair)).selfLink) =
        .error (.invalid "InstanceId" [⟨[.field "project"], .notUnicode⟩]) ∧
      (id.withProject (some (.unicode ""))).selfLink ≠ (id.withProject none).selfLink ∧
      read .vm (.text (id.withProject (some (.unicode "zones"))).selfLink) =
        .ok { id with project := some (.unicode "zones") } := by
  intro id
  obtain ⟨hown, -, -, hmoved⟩ := own_links_identify id
  obtain ⟨-, hhalf, -, -⟩ := own_links_identify (id.withProject (some halfPair))
  obtain ⟨-, -, htold, -⟩ := own_links_identify (id.withProject (some (.unicode "")))
  have hnames : ∀ n ∈ id.names, IsSegment n.text := by decide
  refine ⟨?_, ?_, ?_, hmoved hnames "zones" (by decide) (by decide) (by decide)⟩
  · rw [ne_eq, hown]
    rintro ⟨hproject, -⟩
    exact absurd (hproject _ rfl).2.1 (by decide)
  · exact hhalf hnames halfPair rfl (by decide) (by decide) (by decide)
  · have hempty : (id.withProject (some (.unicode ""))).IsSlashFree :=
      ⟨fun p hp => Option.some.inj hp ▸ (by decide), hnames⟩
    have hnone : (id.withProject none).IsSlashFree := ⟨nofun, hnames⟩
    rw [ne_eq, htold _ _ hempty hnone]
    decide

/-- A zone can be moved to a project that is no string, and is not found there
from its own link. -/
theorem half_project_is_not_found :
    let id : Identity .zone := withProject (some halfPair) ⟨none, [⟨"z", by decide⟩], rfl⟩
    (∀ p, id.project = some p → p ≠ "" ∧ IsSegment p) ∧ (∀ n ∈ id.names, IsSegment n.text) ∧
      read .zone (.text id.selfLink) =
        .error (.invalid "ZoneId" [⟨[.field "project"], .notUnicode⟩]) := by
  refine ⟨?_, by decide, rfl⟩
  rintro p hp
  obtain rfl := Option.some.inj hp
  decide

/-- An own link with a `/` in the project leads to another project. -/
example : read .zone (.text (Identity.selfLink (k := .zone)
    ⟨some (.unicode "a/projects/b"), [⟨"z", by decide⟩], rfl⟩)) =
      .ok ⟨some (.unicode "b"), [⟨"z", by decide⟩], rfl⟩ := by rfl

end Identity
end VmResource
