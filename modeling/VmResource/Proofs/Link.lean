/-
# Which links lead to an address

A link leads to an address if it is the path of the address, or has
`projects/`, the project and the path, with a lead before them that is empty
or ends in `/` and stays on one line. Links are read segment by segment, so
an address can be led to exactly if no part of it holds a `/` and its
project, if it has one, has a name; it is then read from every link that
leads to it, its own among them.

Key definitions: `Identity.IsLead`, `Identity.Address.IsPlain`,
`Identity.Address.LeadsTo`.
Key theorems: `Identity.Address.ofUrl?_eq_some_iff`,
`Identity.Address.leadsTo_link`.
-/
import VmResource.Identity.Address

namespace VmResource

/-! ### Segments -/

namespace Text

theorem not_mem_of_mem_splitOn {c : CodePoint} : ∀ {cs part : List CodePoint},
    part ∈ cs.splitOn c → c ∉ part
  | [], part, h => by simp_all
  | d :: cs, part, h => by
    rw [List.splitOn_cons_eq_if_modifyHead] at h
    split at h
    · rcases List.mem_cons.mp h with rfl | h
      · exact List.not_mem_nil
      · exact not_mem_of_mem_splitOn h
    · next hd =>
      cases hcs : cs.splitOn c with
      | nil => exact absurd hcs (List.splitOn_ne_nil c cs)
      | cons first rest =>
        rw [hcs, List.modifyHead_cons, List.mem_cons] at h
        rcases h with rfl | h
        · have hmem : first ∈ cs.splitOn c := hcs ▸ List.mem_cons_self
          have hfirst : c ∉ first := not_mem_of_mem_splitOn hmem
          have hne : ¬ c = d := fun he => hd (by simp [he])
          simp [hne, hfirst]
        · have hmem : part ∈ cs.splitOn c := hcs ▸ List.mem_cons_of_mem _ h
          exact not_mem_of_mem_splitOn hmem

/-- A segment of a text holds no `/`. -/
theorem isSegment_of_mem_segments {s t : Text} (h : s ∈ segments t) : IsSegment s := by
  have hcodes : s.codes ∈ t.codes.splitOn (.char '/') := by
    rw [← codes_segments]
    exact List.mem_map_of_mem h
  exact not_mem_of_mem_splitOn hcodes

/-- The code points of two texts with a `/` between them. -/
theorem codes_append_slash (t u : Text) :
    (t ++ .unicode "/" ++ u).codes = t.codes ++ .char '/' :: u.codes := by
  have hslash : codes (.unicode "/") = [.char '/'] := rfl
  rw [codes_append, codes_append, hslash, List.append_assoc, List.singleton_append]

theorem path_append : ∀ {as bs : List Text}, as ≠ [] → bs ≠ [] →
    path (as ++ bs) = path as ++ .unicode "/" ++ path bs
  | [], _, ha, _ => absurd rfl ha
  | [a], bs, _, hb => by
    rw [← codes_inj, codes_append_slash]
    simp [codes_path, List.intercalate_cons_of_ne_nil, hb]
  | a :: b :: as, bs, _, hb => by
    have ih : path (b :: as ++ bs) = path (b :: as) ++ .unicode "/" ++ path bs :=
      path_append (List.cons_ne_nil b as) hb
    rw [← codes_inj, codes_append_slash] at ih ⊢
    simp only [codes_path, List.map_cons, List.cons_append, List.intercalate_cons_cons] at ih ⊢
    rw [ih]
    simp only [List.append_assoc]

theorem path_singleton (t : Text) : path [t] = t := by
  rw [← codes_inj, codes_path]
  simp

/-- A `/` between two texts only adds the segments of the one to those of the
other. -/
theorem segments_append (t u : Text) :
    segments (t ++ .unicode "/" ++ u) = segments t ++ segments u := by
  have hpath : path (segments t ++ segments u) = t ++ .unicode "/" ++ u := by
    rw [path_append (segments_ne_nil t) (segments_ne_nil u), path_segments, path_segments]
  rw [← hpath]
  refine segments_path (by simp [segments_ne_nil]) fun s hs => ?_
  rcases List.mem_append.mp hs with hs | hs
  · exact isSegment_of_mem_segments hs
  · exact isSegment_of_mem_segments hs

theorem segments_of_isSegment {t : Text} (h : IsSegment t) : segments t = [t] := by
  have hpath := segments_path (List.cons_ne_nil t []) (by simpa using h)
  rwa [path_singleton] at hpath

/-- The code points of a path are those of its segments, and `/`. -/
theorem mem_path_iff {c : CodePoint} (hc : c ≠ .char '/') : ∀ {segs : List Text},
    c ∈ (path segs).codes ↔ ∃ s ∈ segs, c ∈ s.codes
  | [] => by
    rw [codes_path]
    simp
  | [s] => by
    rw [codes_path]
    simp
  | s :: t :: segs => by
    have ih : c ∈ (path (t :: segs)).codes ↔ _ := mem_path_iff hc
    have hpath : path (s :: t :: segs) = path [s] ++ .unicode "/" ++ path (t :: segs) :=
      path_append (List.cons_ne_nil s []) (List.cons_ne_nil t segs)
    rw [hpath, codes_append_slash, path_singleton, List.mem_append, List.mem_cons, ih]
    simp [hc]

/-- A path is a string exactly if its segments are. -/
theorem isUnicode_path_iff {segs : List Text} :
    (path segs).IsUnicode ↔ ∀ s ∈ segs, s.IsUnicode := by
  simp only [isUnicode_iff_forall_not_mem]
  constructor
  · exact fun h s hs u hu => h u ((mem_path_iff (by simp)).mpr ⟨s, hs, hu⟩)
  · intro h u hu
    obtain ⟨s, hs, hmem⟩ := (mem_path_iff (by simp)).mp hu
    exact h s hs u hmem

end Text

namespace Identity

open Text

variable {k : Kind}

/-! ### Addresses that a link can lead to -/

/-- What may come before `projects/`: nothing, or a text on one line that
ends in `/`. -/
def IsLead (t : Text) : Prop := t = "" ∨ ∃ s : Text, t = s ++ .unicode "/" ∧ .char '\n' ∉ s.codes

namespace Address

/-- No part of the address holds a `/`, and its project has a name. -/
structure IsPlain (a : Address k) : Prop where
  project : ∀ p, a.project = some p → p ≠ "" ∧ IsSegment p
  names : ∀ n ∈ a.names, IsSegment n

theorem IsPlain.project_ne_empty {a : Address k} (h : a.IsPlain) :
    a.project ≠ some (.unicode "") := fun he => (h.project _ he).1 rfl

/-- The link leads to the address. -/
def LeadsTo (url : Text) (a : Address k) : Prop :=
  match a.project with
  | none => url = a.relativePath
  | some p => ∃ lead, IsLead lead ∧
      url = lead ++ .unicode "projects/" ++ p ++ .unicode "/" ++ a.relativePath

theorem isOneLine_iff {t : Text} : isOneLine t = true ↔ .char '\n' ∉ t.codes := by
  simp [isOneLine]

theorem isSegment_of_mem_fill : ∀ {ps : List Part} {ns : List Text} {s : Text},
    (∀ w, Part.word w ∈ ps → IsSegment (.unicode w)) → (∀ n ∈ ns, IsSegment n) →
    s ∈ fill ps ns → IsSegment s
  | [], _, _, _, _, h => by simp [fill] at h
  | .word w :: ps, ns, s, hw, hn, h => by
    rcases List.mem_cons.mp h with rfl | h
    · exact hw _ List.mem_cons_self
    · exact isSegment_of_mem_fill (fun v hv => hw v (List.mem_cons_of_mem _ hv)) hn h
  | .slot _ :: _, [], _, _, _, h => by simp [fill] at h
  | .slot _ :: ps, n :: ns, s, hw, hn, h => by
    rcases List.mem_cons.mp h with rfl | h
    · exact hn _ List.mem_cons_self
    · exact isSegment_of_mem_fill (fun v hv => hw v (List.mem_cons_of_mem _ hv))
        (fun m hm => hn m (List.mem_cons_of_mem _ hm)) h

theorem mem_fill : ∀ {ps : List Part} {ns : List Text} {n : Text},
    ns.length = (slotNames ps).length → n ∈ ns → n ∈ fill ps ns
  | [], _ :: _, _, hl, _ => by simp [slotNames] at hl
  | .word w :: ps, ns, n, hl, h => by
    have hns : ns.length = (slotNames ps).length := hl
    exact List.mem_cons_of_mem _ (mem_fill hns h)
  | .slot _ :: ps, m :: ns, n, hl, h => by
    have hns : ns.length = (slotNames ps).length := by simpa [slotNames] using hl
    rcases List.mem_cons.mp h with rfl | h
    · exact List.mem_cons_self
    · exact List.mem_cons_of_mem _ (mem_fill hns h)

theorem isSegment_of_word_mem_template {w : String} (h : Part.word w ∈ k.template) :
    IsSegment (.unicode w) := by
  cases k <;> simp only [Kind.template, List.mem_cons, Part.word.injEq, reduceCtorEq,
    List.not_mem_nil, or_false, false_or] at h <;> rcases h with rfl | rfl <;> decide

theorem segments_ne_nil (a : Address k) : a.segments ≠ [] := by
  have hl := a.segments_length
  intro h
  rw [h] at hl
  cases k <;> simp [Kind.template] at hl

theorem isSegment_of_mem_segments {a : Address k} (h : ∀ n ∈ a.names, IsSegment n)
    {s : Text} (hs : s ∈ a.segments) : IsSegment s :=
  isSegment_of_mem_fill (fun _ => isSegment_of_word_mem_template) h hs

/-- The path of an address is read as its segments. -/
theorem segments_relativePath {a : Address k} (h : ∀ n ∈ a.names, IsSegment n) :
    Text.segments a.relativePath = a.segments :=
  segments_path a.segments_ne_nil fun _ => isSegment_of_mem_segments h

/-! ### Reading a link -/

/-- The segments before a path name a project exactly if they are none, or
end in `projects` and its name after segments on one line. -/
theorem projectBefore?_eq_some_iff {before : List Text} {project : Option Text} :
    projectBefore? before = some project ↔
      (before = [] ∧ project = none) ∨
      ∃ lead p, before = lead ++ [.unicode "projects", p] ∧ project = some p ∧ p ≠ "" ∧
        ∀ s ∈ lead, isOneLine s = true := by
  refine ⟨?_, ?_⟩
  · intro h
    simp only [projectBefore?] at h
    split at h
    · next hb => exact Or.inl ⟨by simpa using hb, (Option.some.inj h).symm⟩
    · cases h
    · next p word rest hb =>
      obtain rfl : before = rest.reverse ++ [word, p] := by
        rw [← List.reverse_reverse before, hb]
        simp
      split at h
      · next hword =>
        obtain ⟨rfl, hp, hrest⟩ := hword
        exact Or.inr ⟨rest.reverse, p, rfl, (Option.some.inj h).symm, hp, by simpa using hrest⟩
      · cases h
  · intro h
    rcases h with ⟨rfl, rfl⟩ | ⟨lead, p, rfl, rfl, hp, hlead⟩
    · rfl
    · simpa [projectBefore?, hp] using hlead

/-- An address is read from segments exactly if they end in its own and the
ones before these name its project. -/
theorem ofSegments?_eq_some_iff {segs : List Text} {a : Address k} :
    ofSegments? k segs = some a ↔
      ∃ before, segs = before ++ a.segments ∧ projectBefore? before = some a.project := by
  refine ⟨?_, ?_⟩
  · intro h
    simp only [ofSegments?] at h
    split at h
    · next names project hnames hproject =>
      obtain rfl := Option.some.inj h
      refine ⟨_, ?_, hproject⟩
      rw [Address.segments, fill_match? hnames, List.take_append_drop]
    · cases h
  · intro h
    obtain ⟨before, rfl, hbefore⟩ := h
    exact ofSegments?_append a hbefore

theorem leadsTo_of_none {url : Text} {a : Address k} (h : a.project = none) :
    LeadsTo url a ↔ url = a.relativePath := by
  rw [LeadsTo, h]

theorem leadsTo_of_some {url p : Text} {a : Address k} (h : a.project = some p) :
    LeadsTo url a ↔ ∃ lead, IsLead lead ∧
      url = lead ++ .unicode "projects/" ++ p ++ .unicode "/" ++ a.relativePath := by
  rw [LeadsTo, h]

/-- A project and a path make one segment for each. -/
theorem segments_projects {p : Text} (hp : IsSegment p) (rest : Text) :
    Text.segments (.unicode "projects/" ++ p ++ .unicode "/" ++ rest) =
      [.unicode "projects", p] ++ Text.segments rest := by
  have hword : IsSegment (.unicode "projects") := by decide
  have hslash : Text.unicode "projects/" = .unicode "projects" ++ .unicode "/" := rfl
  rw [hslash, segments_append, segments_append, segments_of_isSegment hword,
    segments_of_isSegment hp]
  rfl

/-- A lead makes segments on one line before the others. -/
theorem exists_segments_of_isLead {lead : Text} (h : IsLead lead) (rest : Text) :
    ∃ segs, Text.segments (lead ++ rest) = segs ++ Text.segments rest ∧
      ∀ s ∈ segs, isOneLine s = true := by
  rcases h with rfl | ⟨t, rfl, ht⟩
  · exact ⟨[], by simp, by simp⟩
  · refine ⟨Text.segments t, segments_append t rest, fun s hs => isOneLine_iff.mpr fun hc => ?_⟩
    rw [← path_segments t] at ht
    exact ht ((mem_path_iff (by decide)).mpr ⟨s, hs, hc⟩)

/-- Segments on one line before others make a lead. -/
theorem exists_isLead_of_segments {segs rest : List Text} (hrest : rest ≠ [])
    (h : ∀ s ∈ segs, isOneLine s = true) :
    ∃ lead, IsLead lead ∧ path (segs ++ rest) = lead ++ path rest := by
  by_cases hsegs : segs = []
  · exact ⟨"", Or.inl rfl, by simp [hsegs]⟩
  · refine ⟨path segs ++ .unicode "/", Or.inr ⟨path segs, rfl, fun hc => ?_⟩,
      path_append hsegs hrest⟩
    obtain ⟨s, hs, hcs⟩ := (mem_path_iff (by decide)).mp hc
    exact isOneLine_iff.mp (h s hs) hcs

/-- The path after `projects/` and a project. -/
theorem path_projects (p : Text) (a : Address k) :
    path (.unicode "projects" :: p :: a.segments) =
      .unicode "projects/" ++ p ++ .unicode "/" ++ a.relativePath := by
  have hpath := path_append (show [Text.unicode "projects", p] ≠ [] by simp) a.segments_ne_nil
  have hfront := path_append (List.cons_ne_nil (Text.unicode "projects") []) (List.cons_ne_nil p [])
  rw [path_singleton, path_singleton, unicode_append] at hfront
  rw [List.singleton_append] at hfront
  exact hpath.trans (congrArg (· ++ .unicode "/" ++ a.relativePath) hfront)

/-- **Reading is leading.** An address is read from a link exactly if it is
plain and the link leads to it. -/
theorem ofUrl?_eq_some_iff {url : Text} {a : Address k} :
    ofUrl? k url = some a ↔ a.IsPlain ∧ LeadsTo url a := by
  rw [ofUrl?, ofSegments?_eq_some_iff]
  refine ⟨?_, ?_⟩
  · intro h
    obtain ⟨before, hsegs, hbefore⟩ := h
    have hmem : ∀ s ∈ before ++ a.segments, IsSegment s := fun s hs =>
      Text.isSegment_of_mem_segments (hsegs ▸ hs)
    have hurl : url = path (before ++ a.segments) := by rw [← hsegs, path_segments]
    have hnames : ∀ n ∈ a.names, IsSegment n := fun n hn =>
      hmem _ (List.mem_append_right _ (mem_fill a.names_length hn))
    rcases projectBefore?_eq_some_iff.mp hbefore with
      ⟨rfl, hnone⟩ | ⟨lead, p, rfl, hsome, hp, hlead⟩
    · exact ⟨⟨by simp [hnone], hnames⟩, (leadsTo_of_none hnone).mpr hurl⟩
    · refine ⟨⟨fun q hq => ?_, hnames⟩, (leadsTo_of_some hsome).mpr ?_⟩
      · obtain rfl : p = q := Option.some.inj (hsome.symm.trans hq)
        exact ⟨hp, hmem p (by simp)⟩
      · obtain ⟨t, ht, hpath⟩ := exists_isLead_of_segments
          (show [Text.unicode "projects", p] ++ a.segments ≠ [] by simp) hlead
        refine ⟨t, ht, ?_⟩
        have hprojects : path ([.unicode "projects", p] ++ a.segments) = _ := path_projects p a
        rw [hurl, List.append_assoc, hpath, hprojects]
        simp only [append_assoc]
  · intro h
    obtain ⟨hplain, hurl⟩ := h
    cases hproject : a.project with
    | none =>
      rw [(leadsTo_of_none hproject).mp hurl, segments_relativePath hplain.names]
      exact ⟨[], rfl, rfl⟩
    | some p =>
      obtain ⟨hp, hpseg⟩ := hplain.project p hproject
      obtain ⟨lead, hlead, rfl⟩ := (leadsTo_of_some hproject).mp hurl
      obtain ⟨segs, hsegs, hone⟩ := exists_segments_of_isLead hlead
        (.unicode "projects/" ++ p ++ .unicode "/" ++ a.relativePath)
      refine ⟨segs ++ [.unicode "projects", p], ?_, projectBefore?_eq_some_iff.mpr
        (Or.inr ⟨segs, p, rfl, rfl, hp, hone⟩)⟩
      rw [segments_projects hpseg, segments_relativePath hplain.names] at hsegs
      simpa only [append_assoc, List.append_assoc] using hsegs

/-- The own link of an address leads to it. -/
theorem leadsTo_link (a : Address k) : LeadsTo a.link a := by
  cases hproject : a.project with
  | none => rw [leadsTo_of_none hproject, link, hproject]
  | some p =>
    rw [leadsTo_of_some hproject, link, hproject]
    exact ⟨.unicode baseUrl, Or.inr ⟨"https://www.googleapis.com/compute/v1", rfl, by decide⟩, rfl⟩

end Address

end Identity
end VmResource
