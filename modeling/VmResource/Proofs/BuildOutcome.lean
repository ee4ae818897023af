/-
# What building comes to

Whatever was staged, building comes to one of four ends. Without disks or
interfaces it fails at once. A disk that does not tell whether the instance
starts from it cannot be counted, and a count other than one must be warned
of under the name of the instance; if either cannot be done, building fails
as well. After that the fields are checked, and the violations of all that
fail are listed field by field, or there is an instance. Only the last two
ends can leave a record.

Key definitions: `Value.property`, `Value.boots`, `Builder.NeverAccepted`,
`Builder.Uncountable`, `Builder.Warns`.
Key theorems: `Builder.bootCount_eq_ok`, `Builder.ends_build`,
`Builder.build_ends_by_what_is_staged`.
-/
import VmResource.Proofs.BuilderRun
import VmResource.Proofs.Refusals

namespace VmResource

open Instance (Field)

namespace Value

/-! ### Properties of a value -/

/-- What a value tells under a name; only resources tell anything. -/
def property : Value → String → Except Error Value
  | .resource r, name => r.property name
  | _, _ => .error .attributeMissing

/-- A value tells something under a name. -/
def HasProperty (v : Value) (name : String) : Prop := ∃ w, v.property name = .ok w

/-- A value tells that an instance starts from it. -/
def boots (v : Value) : Bool :=
  match v.property "boot" with
  | .ok (.plain (.bool b)) => b
  | _ => false

/-- The values in a list. -/
def elements : Value → List Value
  | .list xs => xs
  | _ => []

theorem null_or_list_ofOption {α : Type} (items : α → List Value) (o : Option α) :
    ofOption (fun a => .list (items a)) o = .null ∨
      ∃ xs, ofOption (fun a => .list (items a)) o = .list xs := by
  cases o with
  | none => exact Or.inl rfl
  | some a => exact Or.inr ⟨items a, rfl⟩

theorem lookup_zip_eq_none {names : List String} {vs : List Value} {key : String}
    (h : key ∉ names) : (names.zip vs).lookup key = none := by
  rw [List.lookup_eq_none_iff]
  rintro ⟨name, v⟩ hmem
  have hname : name ∈ names := (List.of_mem_zip hmem).1
  exact bne_iff_ne.mpr fun hkey => h (hkey ▸ hname)

/-- Whether to start from a value is what it tells, if it tells it. -/
theorem isBootDisk_eq (v : Value) : v.isBootDisk = (fun _ => v.boots) <$> v.property "boot" := by
  cases v with
  | resource r =>
    cases r with
    | persistentDisk d =>
      obtain ⟨source, mode, boot, autoDelete⟩ := d
      cases boot <;> rfl
    | identity k id =>
      have hnames : "boot" ∉ k.names := by cases k <;> decide
      have hfields : (Resource.identity k id).fields.lookup "boot" = none :=
        lookup_zip_eq_none hnames
      have hderived : (Resource.identity k id).derived.lookup "boot" = none := by
        cases k <;> rfl
      simp only [isBootDisk, property, Resource.property, hfields, hderived]
      rfl
    | _ => rfl
  | _ => rfl

theorem isBootDisk_eq_ok_iff {v : Value} {b : Bool} :
    v.isBootDisk = .ok b ↔ v.HasProperty "boot" ∧ v.boots = b := by
  rw [isBootDisk_eq, Except.map_eq_ok_iff]
  simp only [HasProperty, exists_and_right]

theorem isBootDisk_eq_error {v : Value} {e : Error} (h : v.isBootDisk = .error e) :
    ¬ v.HasProperty "boot" ∧ e = .attributeMissing := by
  refine ⟨?_, ?_⟩
  · intro hv
    rw [isBootDisk_eq_ok_iff.mpr ⟨hv, rfl⟩] at h
    cases h
  · unfold isBootDisk at h
    split at h
    · cases h
    · cases h
    · exact (Except.error.inj h).symm

/-- Only the identity of an instance names one. -/
theorem property_instance_eq_ok_iff {v w : Value} : v.property "instance" = .ok w ↔
    ∃ id : Identity .vm, v = .resource (.identity .vm id) ∧ w = .text id.name := by
  cases v with
  | resource r =>
    cases r with
    | identity k id =>
      by_cases hk : k = .vm
      · subst hk
        obtain ⟨project, names, hlen⟩ := id
        match names, hlen with
        | [place, name], hlen =>
          have hname : (Value.resource (.identity .vm ⟨project, [place, name], hlen⟩)).property
              "instance" = .ok (.text name.text) := rfl
          rw [hname]
          simp [Identity.name, eq_comm]
      · have hnames : "instance" ∉ k.names := by
          cases k <;> first | exact absurd rfl hk | decide
        have hfields : (Resource.identity k id).fields.lookup "instance" = none :=
          lookup_zip_eq_none hnames
        have hderived : (Resource.identity k id).derived.lookup "instance" = none := by
          cases k <;> rfl
        simp only [property, Resource.property, hfields, hderived]
        refine iff_of_false (by simp) ?_
        rintro ⟨id', hid, -⟩
        cases hid
        exact hk rfl
    | _ => exact iff_of_false (fun h => by cases h) (by simp)
  | _ => exact iff_of_false (fun h => by cases h) (by simp)

end Value

namespace Builder

/-! ### What was never staged -/

/-- No value was accepted for a field: the builder began without one, and no
call brought one. -/
def NeverAccepted (b₀ : Builder) (calls : List Call) (f : Field) : Prop :=
  b₀.staged f = .null ∧ ∀ c ∈ calls, c.accepted? f = none

theorem lastAccepted_eq_none_iff {f : Field} {calls : List Call} :
    lastAccepted f calls = none ↔ ∀ c ∈ calls, c.accepted? f = none := by
  rw [lastAccepted, List.getLast?_eq_none_iff, List.filterMap_eq_nil_iff]

/-- A collection that was accepted is a list. -/
theorem exists_list_of_lastAccepted {f : Field} {calls : List Call} {w : Value}
    (hf : f.isCollection = true) (h : lastAccepted f calls = some w) : ∃ xs, w = .list xs := by
  obtain ⟨c, -, hc⟩ := List.mem_filterMap.mp (List.mem_of_getLast? h)
  cases c with
  | build => cases hc
  | set g v =>
    rw [Call.accepted?] at hc
    split at hc
    · rw [Except.toOption_eq_some_iff, accepted, hf] at hc
      split at hc
      · cases hc
      · obtain ⟨xs, -, rfl⟩ := Except.map_eq_ok_iff.mp hc
        exact ⟨xs, rfl⟩
    · cases hc

/-- Disks and interfaces are lists from the start, or null. -/
theorem null_or_list_of_start {o : Origin} {b₀ : Builder} (h : o.builder = .ok b₀) {f : Field}
    (hf : f = .disks ∨ f = .interfaces) :
    b₀.staged f = .null ∨ ∃ xs, b₀.staged f = .list xs := by
  have hstarts := Origin.starts h
  cases o with
  | fresh id machineType =>
    obtain ⟨-, -, hnull⟩ := hstarts
    rcases hf with rfl | rfl
    · exact Or.inl (hnull .disks (by decide) (by decide))
    · exact Or.inl (hnull .interfaces (by decide) (by decide))
  | copy x =>
    rw [show b₀.staged = x.get from hstarts]
    rcases hf with rfl | rfl
    · exact Or.inr ⟨_, rfl⟩
    · exact Or.inr ⟨_, rfl⟩
  | payload p =>
    obtain ⟨es, d, -, -, hstaged⟩ := hstarts
    rw [hstaged]
    rcases hf with rfl | rfl
    · exact Value.null_or_list_ofOption _ d.disks
    · exact Value.null_or_list_ofOption _ d.interfaces

/-- After any calls disks and interfaces are null, or a list. -/
theorem null_or_list_after {o : Origin} {b₀ : Builder} (h : o.builder = .ok b₀)
    (calls : List Call) {f : Field} (hf : f = .disks ∨ f = .interfaces) :
    (b₀.after calls).staged f = .null ∨ ∃ xs, (b₀.after calls).staged f = .list xs := by
  have hcollection : f.isCollection = true := by
    rcases hf with rfl | rfl <;> rfl
  rw [staged_after]
  cases hlast : lastAccepted f calls with
  | none => exact null_or_list_of_start h hf
  | some w => exact Or.inr (exists_list_of_lastAccepted hcollection hlast)

/-- They are null if none were ever accepted. -/
theorem neverAccepted_iff {b₀ : Builder} {calls : List Call} {f : Field}
    (hf : f = .disks ∨ f = .interfaces) :
    NeverAccepted b₀ calls f ↔ (b₀.after calls).staged f = .null := by
  have hcollection : f.isCollection = true := by
    rcases hf with rfl | rfl <;> rfl
  rw [staged_after, NeverAccepted, ← lastAccepted_eq_none_iff]
  cases hlast : lastAccepted f calls with
  | none => simp
  | some w =>
    obtain ⟨xs, rfl⟩ := exists_list_of_lastAccepted hcollection hlast
    simp [Value.null]

/-! ### Counting disks -/

/-- The disks cannot be counted, or what is wrong about their number cannot
be told: one of them does not tell whether it starts the instance, or they
are not one and the instance has no name. -/
def Uncountable (disks : List Value) (id : Value) : Prop :=
  (∃ v ∈ disks, ¬ v.HasProperty "boot") ∨
    (disks.countP Value.boots ≠ 1 ∧ ¬ id.HasProperty "instance")

/-- The records about a number of disks to start from: none if there is one,
and otherwise one warning with the name of the instance. -/
def Warns (count : Nat) (id : Value) (records : List Record) : Prop :=
  (count = 1 → records = []) ∧
  (count ≠ 1 → ∃ name, id.property "instance" = .ok (.text name) ∧
    records = [⟨.warning, "Instance " ++ name ++ " has " ++ toString count ++
      " boot disks, expected exactly one"⟩])

theorem count_flags : ∀ {vs : List Value} {flags : List Bool},
    List.Forall₂ (fun v b => v.isBootDisk = .ok b) vs flags →
      flags.count true = vs.countP Value.boots
  | [], _, .nil => rfl
  | _ :: _, _, .cons hflag hflags => by
    obtain ⟨-, rfl⟩ := Value.isBootDisk_eq_ok_iff.mp hflag
    rw [List.count_cons, List.countP_cons, count_flags hflags]
    simp

variable {b : Builder} {vs : List Value}

theorem bootCount_eq_ok (hvs : b.staged .disks = .list vs)
    (hboot : ∀ v ∈ vs, v.HasProperty "boot") : b.bootCount = .ok (vs.countP Value.boots) := by
  have hflags : vs.mapM Value.isBootDisk = .ok (vs.map Value.boots) := by
    rw [Except.mapM_eq_ok_iff, List.forall₂_map_right_iff, List.forall₂_same]
    exact fun v hv => Value.isBootDisk_eq_ok_iff.mpr ⟨hboot v hv, rfl⟩
  have hcount := count_flags (Except.mapM_eq_ok_iff.mp hflags)
  rw [bootCount, hvs, Value.items, Except.ok_bind, hflags, Except.ok_bind, hcount]
  rfl

theorem bootCount_eq_error (hvs : b.staged .disks = .list vs)
    (hboot : ∃ v ∈ vs, ¬ v.HasProperty "boot") : b.bootCount = .error .attributeMissing := by
  cases hflags : vs.mapM Value.isBootDisk with
  | ok flags =>
    obtain ⟨v, hv, hnone⟩ := hboot
    obtain ⟨flag, -, hflag⟩ := exists_mem_of_forall₂ (Except.mapM_eq_ok_iff.mp hflags).flip v hv
    exact absurd (Value.isBootDisk_eq_ok_iff.mp hflag).1 hnone
  | error e =>
    obtain ⟨v, -, hv⟩ := Except.exists_mem_of_mapM_eq_error hflags
    obtain ⟨-, rfl⟩ := Value.isBootDisk_eq_error hv
    rw [bootCount, hvs, Value.items, Except.ok_bind, hflags]
    rfl

theorem bootWarning_eq_ok {count : Nat} (h : count = 1 ∨ (b.staged .id).HasProperty "instance") :
    ∃ records, b.bootWarning count = .ok records ∧ Warns count (b.staged .id) records := by
  unfold bootWarning
  by_cases hone : count = 1
  · rw [if_pos hone]
    exact ⟨[], rfl, fun _ => rfl, fun hne => absurd hone hne⟩
  · rw [if_neg hone]
    obtain ⟨w, hw⟩ := h.resolve_left hone
    obtain ⟨id, hid, rfl⟩ := Value.property_instance_eq_ok_iff.mp hw
    rw [hid] at hw ⊢
    exact ⟨_, rfl, fun h => absurd h hone, fun _ => ⟨id.name, hw, rfl⟩⟩

theorem bootWarning_eq_error {count : Nat} (hne : count ≠ 1)
    (h : ¬ (b.staged .id).HasProperty "instance") :
    b.bootWarning count = .error .attributeMissing := by
  unfold bootWarning
  rw [if_neg hne]
  split
  · next id hid => exact absurd ⟨_, Value.property_instance_eq_ok_iff.mpr ⟨id, hid, rfl⟩⟩ h
  · rfl

/-- Disks that cannot be counted, or told of, end in an error. -/
theorem bootRecords_eq_error (hvs : b.staged .disks = .list vs)
    (h : Uncountable vs (b.staged .id)) :
    b.bootCount >>= b.bootWarning = .error .attributeMissing := by
  by_cases hboot : ∃ v ∈ vs, ¬ v.HasProperty "boot"
  · rw [bootCount_eq_error hvs hboot]
    rfl
  · obtain ⟨hne, hname⟩ := h.resolve_left hboot
    have hall : ∀ v ∈ vs, v.HasProperty "boot" := by
      intro v hv
      by_contra hnone
      exact hboot ⟨v, hv, hnone⟩
    rw [bootCount_eq_ok hvs hall, Except.ok_bind, bootWarning_eq_error hne hname]

/-- Other disks are counted, and the records tell of their number. -/
theorem bootRecords_eq_ok (hvs : b.staged .disks = .list vs)
    (h : ¬ Uncountable vs (b.staged .id)) :
    ∃ records, b.bootCount >>= b.bootWarning = .ok records ∧
      Warns (vs.countP Value.boots) (b.staged .id) records := by
  have hall : ∀ v ∈ vs, v.HasProperty "boot" := by
    intro v hv
    by_contra hnone
    exact h (Or.inl ⟨v, hv, hnone⟩)
  have hname : vs.countP Value.boots = 1 ∨ (b.staged .id).HasProperty "instance" := by
    by_contra hnot
    exact h (Or.inr (not_or.mp hnot))
  rw [bootCount_eq_ok hvs hall, Except.ok_bind]
  exact bootWarning_eq_ok hname

/-! ### The ends of building -/

/-- What building comes to: each end, and what must be staged for it. -/
inductive Ends (staged : Field → Value) : Traced Instance → Prop
  | noDisks (hnull : staged .disks = .null) : Ends staged (.failed (.notStaged "attached_disks"))
  | noInterfaces (hdisks : staged .disks ≠ .null) (hnull : staged .interfaces = .null) :
    Ends staged (.failed (.notStaged "network_interfaces"))
  | uncounted (hdisks : staged .disks ≠ .null) (hinterfaces : staged .interfaces ≠ .null)
    (hcount : Uncountable (staged .disks).elements (staged .id)) :
    Ends staged (.failed .attributeMissing)
  | checked (hdisks : staged .disks ≠ .null) (hinterfaces : staged .interfaces ≠ .null)
    (hcount : ¬ Uncountable (staged .disks).elements (staged .id)) {records : List Record}
    (hrecords : Warns ((staged .disks).elements.countP Value.boots) (staged .id) records) :
    Ends staged
      ⟨(Instance.checkFields fun f => some (staged f)).orInvalid "InstanceInfo", records⟩

/-- Building looks for disks, then for interfaces, counts the disks, and
checks the fields last. -/
theorem ends_build (hdisks : b.staged .disks = .null ∨ ∃ vs, b.staged .disks = .list vs) :
    Ends b.staged b.build := by
  unfold build
  split
  · next h => exact .noDisks (Value.isNull_iff.mp h)
  · next h =>
    have hne : b.staged .disks ≠ .null := fun hn => h (Value.isNull_iff.mpr hn)
    obtain ⟨vs, hvs⟩ := hdisks.resolve_left hne
    have helements : (b.staged .disks).elements = vs := by rw [hvs, Value.elements]
    split
    · next h' => exact .noInterfaces hne (Value.isNull_iff.mp h')
    · next h' =>
      have hne' : b.staged .interfaces ≠ .null := fun hn => h' (Value.isNull_iff.mpr hn)
      by_cases hcount : Uncountable vs (b.staged .id)
      · rw [bootRecords_eq_error hvs hcount]
        exact .uncounted hne hne' (helements ▸ hcount)
      · obtain ⟨records, hok, hrecords⟩ := bootRecords_eq_ok hvs hcount
        rw [hok]
        exact .checked hne hne' (helements ▸ hcount) (helements ▸ hrecords)

/-- **Building ends by what is staged.** Of a builder of any origin and after
any calls: building fails for disks or interfaces that were never accepted,
disks first; otherwise for a missing property if a disk does not tell whether
it starts the instance, or the disks that do are not one and the identity
names no instance; otherwise for the violations of the staged values, in the
order in which the fields are declared and with one or more for each that
fails; and otherwise not at all. It leaves no record in the first two ends,
and in the last two a single warning if the number of disks to start from is
not one. -/
theorem build_ends_by_what_is_staged {o : Origin} {b₀ : Builder} (h : o.builder = .ok b₀)
    (calls : List Call) :
    let t := (b₀.after calls).build
    let held := fun f => (lastAccepted f calls).getD (b₀.staged f)
    let disks := (held .disks).elements
    let unset := NeverAccepted b₀ calls .disks ∨ NeverAccepted b₀ calls .interfaces
    let uncounted := Uncountable disks (held .id)
    let fails := fun f : Field => ∀ w, f.validated (held f) ≠ .ok w
    (∀ id machineType f, o = .fresh id machineType → f = .disks ∨ f = .interfaces →
      (NeverAccepted b₀ calls f ↔ ∀ c ∈ calls, c.accepted? f = none)) ∧
    (t.outcome = .error (.notStaged "attached_disks") ↔ NeverAccepted b₀ calls .disks) ∧
    (t.outcome = .error (.notStaged "network_interfaces") ↔
      ¬ NeverAccepted b₀ calls .disks ∧ NeverAccepted b₀ calls .interfaces) ∧
    (t.outcome = .error .attributeMissing ↔ ¬ unset ∧ uncounted) ∧
    ((∃ vs, t.outcome = .error (.invalid "InstanceInfo" vs)) ↔
      ¬ unset ∧ ¬ uncounted ∧ ∃ f, fails f) ∧
    (∀ vs, t.outcome = .error (.invalid "InstanceInfo" vs) →
      vs = Field.all.flatMap fun f => f.violations (held f)) ∧
    (∀ f, f.violations (held f) ≠ [] ↔ fails f) ∧
    ((∃ x, t.outcome = .ok x) ↔ ¬ unset ∧ ¬ uncounted ∧ ¬ ∃ f, fails f) ∧
    (unset ∨ uncounted → t.records = []) ∧
    (¬ unset → ¬ uncounted → Warns (disks.countP Value.boots) (held .id) t.records) := by
  intro t held disks unset uncounted fails
  have hheld : (b₀.after calls).staged = held := funext fun f => staged_after f calls b₀
  have hends : Ends (b₀.after calls).staged t :=
    ends_build (null_or_list_after h calls (Or.inl rfl))
  have hdisks : NeverAccepted b₀ calls .disks ↔ held .disks = .null := by
    rw [neverAccepted_iff (Or.inl rfl), hheld]
  have hinterfaces : NeverAccepted b₀ calls .interfaces ↔ held .interfaces = .null := by
    rw [neverAccepted_iff (Or.inr rfl), hheld]
  have hviolations : ∀ f, f.violations (held f) ≠ [] ↔ fails f := by
    intro f
    rw [ne_eq, Field.violations_eq_nil_iff, not_exists]
  refine ⟨?_, ?_⟩
  · rintro id machineType f rfl hf
    have hnull : b₀.staged f = .null := by
      rcases hf with rfl | rfl <;> exact (Origin.starts h).2.2 _ (by decide) (by decide)
    exact and_iff_right hnull
  rw [hheld] at hends
  -- each end fixes which of the conditions hold, and with them every clause
  generalize t = t' at hends ⊢
  cases hends with
  | noDisks hnull =>
    have hunset : unset := Or.inl (hdisks.mpr hnull)
    simp [Traced.failed, hdisks, hnull, hunset, hviolations]
  | noInterfaces hdisks' hnull =>
    have hunset : unset := Or.inr (hinterfaces.mpr hnull)
    simp [Traced.failed, hdisks, hinterfaces, hdisks', hnull, hunset, hviolations]
  | uncounted hdisks' hinterfaces' hcount =>
    have hunset : ¬ unset := by simp [unset, hdisks, hinterfaces, hdisks', hinterfaces']
    have huncounted : uncounted := hcount
    simp [Traced.failed, hdisks, hinterfaces, hdisks', hinterfaces', hunset, huncounted,
      hviolations]
  | checked hdisks' hinterfaces' hcount hrecords =>
    have hunset : ¬ unset := by simp [unset, hdisks, hinterfaces, hdisks', hinterfaces']
    have huncounted : ¬ uncounted := hcount
    have hwarns : Warns (disks.countP Value.boots) (held .id) _ := hrecords
    rcases Instance.checkFields_cases held with ⟨x, hcheck, hpass⟩ | ⟨hcheck, hfail⟩
    · have hfails : ¬ ∃ f, fails f := hpass
      simp only [hcheck, Check.orInvalid_ok]
      simp [hdisks, hinterfaces, hdisks', hinterfaces', hunset, huncounted, hviolations, hfails,
        hwarns]
    · have hfails : ∃ f, fails f := hfail
      simp only [hcheck, Check.orInvalid]
      simp [hdisks, hinterfaces, hdisks', hinterfaces', hunset, huncounted, hviolations, hfails,
        hwarns]

/-- Calls that set two fields to what they do not take, the later one of the
two first, and no disks to start from. -/
def mistyped : List Call :=
  [.set .scheduling .other, .set .interfaces (.list []), .set .description (.plain (.bool true)),
    .set .disks (.list [])]

/-- Both fields are reported, the earlier one first, and the missing disk is
warned of. -/
theorem mistyped_is_reported : ∃ o b₀, Origin.builder o = .ok b₀ ∧
    (b₀.after mistyped).build.outcome = .error (.invalid "InstanceInfo"
      [⟨[.field "description"], .notText⟩, ⟨[.field "scheduling_options"], .notResource⟩]) ∧
    (b₀.after mistyped).build.records =
      [⟨.warning, "Instance i has 0 boot disks, expected exactly one"⟩] := by
  let id : Identity .vm := ⟨none, [⟨"z", by decide⟩, ⟨"i", by decide⟩], rfl⟩
  let machineType : Identity .machineType := ⟨none, [⟨"z", by decide⟩, ⟨"m", by decide⟩], rfl⟩
  let o : Origin := .fresh (.ofIdentity id) (.ofIdentity machineType)
  obtain ⟨b₀, hb₀⟩ : ∃ b₀, o.builder = .ok b₀ := ⟨_, rfl⟩
  obtain ⟨-, -, -, -, hinvalid, hlisted, -, -, -, hwarns⟩ :=
    build_ends_by_what_is_staged hb₀ mistyped
  have hset : ∀ f, f = .disks ∨ f = .interfaces → ¬ NeverAccepted b₀ mistyped f := by
    rintro f (rfl | rfl) ⟨-, hnone⟩
    · cases hnone (.set .disks (.list [])) (by simp [mistyped])
    · cases hnone (.set .interfaces (.list [])) (by simp [mistyped])
  obtain rfl := Except.ok.inj hb₀
  have hunset := not_or.mpr ⟨hset .disks (Or.inl rfl), hset .interfaces (Or.inr rfl)⟩
  have huncounted : ¬ Uncountable [] (.ofIdentity id) := by
    rintro (⟨v, hv, -⟩ | ⟨-, hname⟩)
    · cases hv
    · exact hname ⟨_, rfl⟩
  obtain ⟨vs, hvs⟩ := hinvalid.mpr ⟨hunset, huncounted, .description, fun w hw => by cases hw⟩
  obtain ⟨name, hname, hrecords⟩ := (hwarns hunset huncounted).2 (by decide)
  have hzero : toString 0 = "0" := by decide
  refine ⟨o, _, rfl, ?_, ?_⟩
  · rw [hvs, hlisted vs hvs]
    rfl
  · cases hname
    refine hrecords.trans ?_
    change [Record.mk .warning ("Instance i has " ++ toString 0 ++ _)] = _
    rw [hzero]
    rfl

end Builder
end VmResource
