/-
# The identity at an address

The parts of an address are those of an identity if they are strings and the
project, if there is one, is not empty. So an identity is read from the links
that lead to its address, if there are any; a link to an address with a
broken part is refused, for nothing else than the broken parts.

Key definitions: `Identity.Address.brokenFields`,
`Identity.Address.IsUnicode`, `Identity.IsNamed`, `Identity.IsPlain`.
Key theorems: `Identity.Address.check_eq_ok_iff`,
`Identity.Address.check_eq_refused`, `Identity.read_eq_ok_iff`,
`Identity.read_text_eq_error`.
-/
import VmResource.Identity.Link
import VmResource.Proofs.Entries
import VmResource.Proofs.Link
import VmResource.Proofs.Violations

namespace VmResource
namespace Identity

open Text

variable {k : Kind}

/-! ### The parts of an address -/

/-- No two slots of a template have one name, and none is called as the
project is. -/
theorem Kind.nodup_names (k : Kind) : ("project" :: k.names).Nodup := by cases k <;> decide

namespace Address

/-- The parts of an address by the names of their fields; a project that is
not told counts as empty. -/
def parts (a : Address k) : List (String × Text) :=
  ("project", a.project.getD "") :: k.names.zip a.names

/-- The fields whose parts are no strings. -/
def brokenFields (a : Address k) : List String :=
  (a.parts.filter fun e => ¬ e.2.IsUnicode).map Prod.fst

/-- Every part of the address is a string. -/
structure IsUnicode (a : Address k) : Prop where
  project : ∀ p, a.project = some p → p.IsUnicode
  names : ∀ n ∈ a.names, n.IsUnicode

theorem brokenFields_eq_nil_iff {a : Address k} : a.brokenFields = [] ↔ a.IsUnicode := by
  have hnames : (∀ e ∈ k.names.zip a.names, e.2.IsUnicode) ↔ ∀ n ∈ a.names, n.IsUnicode := by
    have hlength : a.names.length ≤ k.names.length := Nat.le_of_eq a.names_length
    conv => rhs; rw [← List.map_snd_zip hlength]
    simp only [List.forall_mem_map]
  have hproject : (a.project.getD "").IsUnicode ↔ ∀ p, a.project = some p → p.IsUnicode := by
    cases a.project <;> simp
  rw [brokenFields, List.map_eq_nil_iff, List.filter_eq_nil_iff]
  simp only [decide_not, Bool.not_eq_true, Bool.not_eq_false', decide_eq_true_eq, parts,
    List.forall_mem_cons, hnames, hproject]
  exact ⟨fun h => ⟨h.1, h.2⟩, fun h => ⟨h.project, h.names⟩⟩

theorem map_fst_told (a : Address k) :
    a.told.map Prod.fst = ("project" :: k.names).map Text.unicode := by
  have hlength : (k.names.map Text.unicode).length ≤ (a.names.map Json.text).length :=
    Nat.le_of_eq (by rw [List.length_map, List.length_map, a.names_length])
  rw [told, List.map_cons, List.map_fst_zip hlength, List.map_cons]

theorem nodup_told (a : Address k) : (a.told.map Prod.fst).Nodup := by
  rw [map_fst_told]
  exact List.Pairwise.map _ (fun _ _ hne => by simpa using hne) k.nodup_names

/-- The checks of the names find the names that are told. -/
theorem required_told (a : Address k) {e : String × Text} (h : e ∈ k.names.zip a.names) :
    Check.required a.told e.1 Check.nonempty = Check.field e.1 (Check.nonempty (.text e.2)) := by
  have hmem : (Text.unicode e.1, Json.text e.2) ∈ a.told := by
    refine List.mem_cons_of_mem _ ?_
    rw [List.zip_map]
    exact List.mem_map.mpr ⟨e, h, rfl⟩
  rw [Check.required, Json.lookup_eq_some_of_mem a.nodup_told hmem]

/-- The check of the project finds the one that is told. -/
theorem optional_told (a : Address k) :
    Check.optional a.told "project" Check.nonempty =
      Check.field "project" (Check.nullable Check.nonempty ((a.project.map .text).getD .null)) := by
  rw [Check.optional, Json.lookup_eq_some_of_mem a.nodup_told List.mem_cons_self, Option.getD_some]

/-- A text that is not empty is refused at most for being no string. -/
theorem violations_nonempty {t : Text} (h : t ≠ "") :
    (Check.nonempty (.text t)).violations = if t.IsUnicode then [] else [⟨[], .notUnicode⟩] := by
  cases t with
  | unicode s =>
    have hs : s ≠ "" := fun he => h (he ▸ rfl)
    simp [Check.nonempty, Check.unicode, Check.andThen, Check.nonemptyOf, hs, Check.violations]
  | broken => rfl

/-- An address whose project has a name is refused for its broken parts only. -/
theorem violations_check {a : Address k} (h : a.project ≠ some (.unicode "")) :
    a.check.violations = a.brokenFields.map fun name => ⟨[.field name], .notUnicode⟩ := by
  -- what each part adds to the list, whether it is broken or not
  let told : String × Text → List Violation := fun e =>
    if e.2.IsUnicode then [] else [⟨[.field e.1], .notUnicode⟩]
  have hlist : (a.brokenFields.map fun name => ⟨[.field name], .notUnicode⟩) =
      a.parts.flatMap told := by
    rw [brokenFields, List.map_map]
    induction a.parts with
    | nil => rfl
    | cons e es ih =>
      by_cases he : e.2.IsUnicode <;> simpa [told, List.filter_cons, he] using ih
  have hproject : (Check.optional a.told "project" Check.nonempty).violations =
      told ("project", a.project.getD "") := by
    rw [optional_told, Check.violations_field]
    cases hp : a.project with
    | none => rfl
    | some p =>
      have hne : p ≠ "" := fun he => h (he ▸ hp)
      rw [Option.map_some, Option.getD_some, Check.nullable_of_ne_null _ (by simp),
        Check.violations_map, violations_nonempty hne]
      by_cases hu : p.IsUnicode <;> simp [told, hu, Violation.under]
  have hnames : (Check.names (fun name => Check.required a.told name Check.nonempty)
      k.names).violations = (k.names.zip a.names).flatMap told := by
    have hlength : k.names.length ≤ a.names.length := Nat.le_of_eq a.names_length.symm
    rw [Check.violations_names]
    conv => lhs; rw [← List.map_fst_zip hlength]
    rw [List.flatMap_map]
    refine List.flatMap_congr fun e he => ?_
    rw [required_told a he, Check.violations_field,
      violations_nonempty (a.names_ne_empty e.2 (List.of_mem_zip he).2)]
    by_cases hu : e.2.IsUnicode <;> simp [told, hu, Violation.under]
  rw [hlist, check, Identity.check, Check.object, Check.violations_seq, Check.violations_map,
    hproject, hnames]
  rfl

end Address

/-- The project, if it is known, is a string that is not empty. -/
def IsNamed (id : Identity k) : Prop := ∀ p, id.project = some p → p ≠ "" ∧ p.IsUnicode

/-- No part of the identity holds a `/`, and its project is a string that is
not empty. -/
structure IsPlain (id : Identity k) : Prop where
  project : ∀ p, id.project = some p → p ≠ "" ∧ IsSegment p ∧ p.IsUnicode
  names : ∀ n ∈ id.names, IsSegment n.text

instance (id : Identity k) : Decidable id.IsPlain :=
  decidable_of_iff ((∀ p ∈ id.project, p ≠ "" ∧ IsSegment p ∧ p.IsUnicode) ∧
      ∀ n ∈ id.names, IsSegment n.text)
    ⟨fun h => ⟨h.1, h.2⟩, fun h => ⟨h.project, h.names⟩⟩

theorem isPlain_iff {id : Identity k} :
    id.IsPlain ↔ id.address.IsPlain ∧ ∀ p, id.project = some p → p.IsUnicode := by
  have hnames : (∀ n ∈ id.address.names, IsSegment n) ↔ ∀ n ∈ id.names, IsSegment n.text :=
    List.forall_mem_map
  constructor
  · intro h
    exact ⟨⟨fun p hp => ⟨(h.project p hp).1, (h.project p hp).2.1⟩, hnames.mpr h.names⟩,
      fun p hp => (h.project p hp).2.2⟩
  · rintro ⟨h, hunicode⟩
    exact ⟨fun p hp => ⟨(h.project p hp).1, (h.project p hp).2, hunicode p hp⟩, hnames.mp h.names⟩

theorem IsPlain.isNamed {id : Identity k} (h : id.IsPlain) : id.IsNamed := fun p hp =>
  ⟨(h.project p hp).1, (h.project p hp).2.2⟩

theorem address_injective {id jd : Identity k} (h : id.address = jd.address) : id = jd := by
  obtain ⟨project, names, hlength⟩ := id
  obtain ⟨project', names', hlength'⟩ := jd
  simp only [address, Address.mk.injEq] at h
  obtain ⟨rfl, hnames⟩ := h
  have htexts : ∀ n m : NonemptyText, Text.unicode n.text = .unicode m.text → n = m := by
    rintro ⟨n, hn⟩ ⟨m, hm⟩ he
    obtain rfl : n = m := Text.unicode.inj he
    rfl
  obtain rfl := List.map_injective_iff.mpr htexts hnames
  rfl

/-- Names pass together if each of them does. -/
theorem names_eq_ok (f : String → Check NonemptyText) : ∀ {keys : List String}
    {ns : List NonemptyText} (hlen : ns.length = keys.length),
    (∀ e ∈ keys.zip ns, f e.1 = .ok e.2) → Check.names f keys = .ok ⟨ns, hlen⟩
  | [], [], _, _ => rfl
  | [], _ :: _, hlen, _ => by simp at hlen
  | _ :: _, [], hlen, _ => by simp at hlen
  | key :: keys, n :: ns, hlen, h => by
    have hrest : ns.length = keys.length := Nat.succ.inj hlen
    have hfirst : f key = .ok n := h (key, n) List.mem_cons_self
    have ih := names_eq_ok f hrest fun e he => h e (List.mem_cons_of_mem _ he)
    rw [Check.names, hfirst, ih]
    rfl

/-- An identity passes the checks of its own fields if its project is a string
that is not empty. -/
theorem check_address {id : Identity k} (h : id.IsNamed) : id.address.check = .ok id := by
  have hnames : ∀ e ∈ k.names.zip id.names,
      Check.required id.address.told e.1 Check.nonempty = .ok e.2 := by
    intro e he
    have hmem : (e.1, Text.unicode e.2.text) ∈ k.names.zip id.address.names := by
      rw [address, List.zip_map_right]
      exact List.mem_map.mpr ⟨e, he, rfl⟩
    rw [Address.required_told _ hmem, Check.field_eq_ok_iff, Check.nonempty_eq_ok_iff]
  have hproject : ∃ p : Option NonemptyText,
      Check.optional id.address.told "project" Check.nonempty = .ok p ∧
        p.map (fun p => Text.unicode p.text) = id.project := by
    rw [Address.optional_told]
    cases hp : id.project with
    | none => exact ⟨none, by rw [address, hp]; rfl, rfl⟩
    | some p =>
      obtain ⟨hne, hunicode⟩ := h p hp
      obtain ⟨s, rfl⟩ := Text.isUnicode_iff.mp hunicode
      have hs : s ≠ "" := fun he => hne (he ▸ rfl)
      have hnonempty : Check.nonempty (.text (.unicode s)) = .ok ⟨s, hs⟩ :=
        Check.nonempty_eq_ok_iff.mpr rfl
      refine ⟨some ⟨s, hs⟩, ?_, rfl⟩
      rw [address, hp, Option.map_some, Option.getD_some, Check.field_eq_ok_iff,
        Check.nullable_of_ne_null _ (by simp), hnonempty]
      rfl
  obtain ⟨p, hp, hmap⟩ := hproject
  rw [Address.check, check, Check.object, hp, names_eq_ok _ id.names_length hnames, Check.map_ok,
    Check.ok_seq_ok, hmap]

namespace Address

/-- An address without broken parts, whose project has a name, is that of an
identity. -/
theorem exists_address_eq {a : Address k} (h : a.IsUnicode) :
    ∃ id : Identity k, id.address = a := by
  have hstrings : ∀ ns : List Text, (∀ n ∈ ns, n ≠ "" ∧ n.IsUnicode) →
      ∃ ms : List NonemptyText, ms.map (fun m => Text.unicode m.text) = ns := by
    intro ns hns
    induction ns with
    | nil => exact ⟨[], rfl⟩
    | cons n ns ih =>
      obtain ⟨⟨hne, hunicode⟩, hrest⟩ := List.forall_mem_cons.mp hns
      obtain ⟨ms, rfl⟩ := ih hrest
      obtain ⟨s, rfl⟩ := Text.isUnicode_iff.mp hunicode
      exact ⟨⟨s, fun he => hne (he ▸ rfl)⟩ :: ms, rfl⟩
  obtain ⟨ms, hms⟩ := hstrings a.names fun n hn => ⟨a.names_ne_empty n hn, h.names n hn⟩
  obtain ⟨project, names, hlength, hne⟩ := a
  obtain rfl : _ = names := hms
  exact ⟨⟨project, ms, by simpa using hlength⟩, rfl⟩

/-- A link that is a string leads to strings only. -/
theorem isUnicode_of_leadsTo {s : String} {a : Address k} (ha : a.IsPlain)
    (h : a.LeadsTo (.unicode s)) : a.IsUnicode := by
  obtain ⟨before, hsegs, hbefore⟩ :=
    ofSegments?_eq_some_iff.mp (ofUrl?_eq_some_iff.mpr ⟨ha, h⟩)
  have hall : ∀ t ∈ before ++ a.segments, t.IsUnicode := by
    rw [← hsegs, ← isUnicode_path_iff, path_segments]
    trivial
  refine ⟨fun p hp => hall p ?_, fun n hn => hall n ?_⟩
  · rcases projectBefore?_eq_some_iff.mp hbefore with ⟨-, hnone⟩ | ⟨lead, q, rfl, hsome, -⟩
    · cases hp.symm.trans hnone
    · obtain rfl := Option.some.inj (hp.symm.trans hsome)
      simp
  · exact List.mem_append_right _ (mem_fill a.names_length hn)

/-- **The identity at an address.** The parts of an address make the identity
whose address it is, provided that they are strings and the project, if there
is one, is not empty. -/
theorem check_eq_ok_iff {a : Address k} {id : Identity k} :
    a.check = .ok id ↔ id.address = a ∧ id.IsNamed := by
  refine ⟨fun h => ?_, fun ⟨ha, hp⟩ => ha ▸ check_address hp⟩
  have hproject : a.project ≠ some (.unicode "") := by
    intro he
    rw [check, Identity.check, Check.object, Check.seq_eq_ok_iff] at h
    obtain ⟨_, _, hfirst, -, -⟩ := h
    obtain ⟨p, hp, -⟩ := Check.map_eq_ok_iff.mp hfirst
    rw [optional_told, he] at hp
    cases hp
  have hbroken : a.brokenFields = [] := by
    have hviolations := violations_check hproject
    rw [h] at hviolations
    exact List.map_eq_nil_iff.mp hviolations.symm
  have hunicode := brokenFields_eq_nil_iff.mp hbroken
  obtain ⟨jd, rfl⟩ := exists_address_eq hunicode
  have hpart : jd.IsNamed := fun p hp =>
    ⟨fun he => hproject (he ▸ hp), hunicode.project p hp⟩
  obtain rfl : jd = id := Check.ok.inj ((check_address hpart).symm.trans h)
  exact ⟨rfl, hpart⟩

/-- **The refusal of an address.** If a part of it is no string, it is refused
for every such part. -/
theorem check_eq_refused {a : Address k} (hproject : a.project ≠ some (.unicode ""))
    (h : ¬ a.IsUnicode) :
    a.check = .refused (a.brokenFields.map fun name => ⟨[.field name], .notUnicode⟩) := by
  have hviolations := violations_check hproject
  cases hcheck : a.check with
  | ok id =>
    rw [hcheck] at hviolations
    exact absurd (brokenFields_eq_nil_iff.mp (List.map_eq_nil_iff.mp hviolations.symm)) h
  | refused vs =>
    rw [hcheck] at hviolations
    exact congrArg Check.refused hviolations

end Address

/-! ### Reading an identity -/

/-- What a link gives is what the check of the address gives to which it
leads. -/
theorem read_of_leadsTo {url : Text} {a : Address k} (ha : a.IsPlain) (h : a.LeadsTo url) :
    read k (.text url) = a.check.orInvalid k.title := by
  simp only [read, Address.ofUrl?_eq_some_iff.mpr ⟨ha, h⟩]

/-- A link to an address with broken parts is refused for these. -/
theorem read_of_not_isUnicode {url : Text} {a : Address k} (ha : a.IsPlain) (h : a.LeadsTo url)
    (hbroken : ¬ a.IsUnicode) : read k (.text url) =
      .error (.invalid k.title (a.brokenFields.map fun name => ⟨[.field name], .notUnicode⟩)) := by
  rw [read_of_leadsTo ha h, Address.check_eq_refused ha.project_ne_empty hbroken]
  rfl

/-- A value of a payload is read as the identity to whose address its text
leads. -/
theorem read_eq_ok_iff {v : Json} {id : Identity k} :
    read k v = .ok id ↔ ∃ url, v = .text url ∧ id.IsPlain ∧ id.address.LeadsTo url := by
  cases v with
  | text url =>
    simp only [Json.text.injEq, exists_eq_left', isPlain_iff, read]
    constructor
    · intro h
      split at h
      · next a hurl =>
        obtain ⟨rfl, hproject⟩ := Address.check_eq_ok_iff.mp (Check.orInvalid_eq_ok_iff.mp h)
        obtain ⟨hplain, hleads⟩ := Address.ofUrl?_eq_some_iff.mp hurl
        exact ⟨⟨hplain, fun p hp => (hproject p hp).2⟩, hleads⟩
      · cases h
    · rintro ⟨⟨hplain, hunicode⟩, hleads⟩
      have hcheck : id.address.check = .ok id :=
        check_address fun p hp => ⟨(hplain.project p hp).1, hunicode p hp⟩
      simp only [Address.ofUrl?_eq_some_iff.mpr ⟨hplain, hleads⟩, hcheck, Check.orInvalid_ok]
  | _ => simp [read]

/-- A text that leads to no address is malformed, and one that leads to an
address with broken parts is refused for these. -/
theorem read_text_eq_error {url : Text} {e : Error} (h : read k (.text url) = .error e) :
    (¬ (∃ a : Address k, a.IsPlain ∧ a.LeadsTo url) ∧
        e = .malformed (.notUrl k.title url) none) ∨
      ∃ a : Address k, a.IsPlain ∧ a.LeadsTo url ∧ ¬ a.IsUnicode ∧
        e = .invalid k.title (a.brokenFields.map fun name => ⟨[.field name], .notUnicode⟩) := by
  by_cases hurl : ∃ a : Address k, a.IsPlain ∧ a.LeadsTo url
  · obtain ⟨a, hplain, hleads⟩ := hurl
    by_cases hunicode : a.IsUnicode
    · obtain ⟨id, rfl⟩ := Address.exists_address_eq hunicode
      have hread : read k (.text url) = .ok id :=
        read_eq_ok_iff.mpr ⟨url, rfl, isPlain_iff.mpr ⟨hplain, hunicode.project⟩, hleads⟩
      cases hread.symm.trans h
    · rw [read_of_not_isUnicode hplain hleads hunicode] at h
      exact Or.inr ⟨a, hplain, hleads, hunicode, (Except.error.inj h).symm⟩
  · have hnone : Address.ofUrl? k url = none := by
      rw [Option.eq_none_iff_forall_ne_some]
      exact fun a ha => hurl ⟨a, Address.ofUrl?_eq_some_iff.mp ha⟩
    rw [read, hnone] at h
    exact Or.inl ⟨hurl, (Except.error.inj h).symm⟩

end Identity
end VmResource
