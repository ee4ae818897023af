/-
# Where assigned state comes from

A session makes instances and builders, numbered in the order in which they
are made, by the constructor, by setters and builds, by copies and moves, and
by reading payloads and messages. Setters for what the service assigns are
not for callers. The constructor refuses such fields, and every other way
from one object to the next keeps them: so an instance has none of them set,
or all of them as one read of the session gave them, from which it descends.

Key definitions: `Session`, `Session.Request`, `Session.perform`,
`Session.Derived`, `Session.Sourced`.
Key theorems: `Instance.construct_eq_refuse`, `Session.makes_cases`,
`Session.AllSourced.perform`, `Session.assigned_only_from_reads`.
-/
import VmResource.Check.Construct
import VmResource.Message
import VmResource.Proofs.BuilderRun
import VmResource.Proofs.Rebinding

namespace VmResource

open Instance (Field)

/-! ### The constructor -/

namespace Instance

open Check

theorem lookup_map_plain (es : List (Text × Json)) (key : Text) :
    (es.map fun e => (e.1, Value.plain e.2)).lookup key = (es.lookup key).map .plain := by
  induction es with
  | nil => rfl
  | cons e es ih =>
    rw [List.map_cons, List.lookup_cons, List.lookup_cons]
    cases key == e.1 with
    | true => rfl
    | false => exact ih

theorem isNull_plain (v : Json) : (Value.plain v).isNull = decide (v = .null) := by
  cases v <;> simp [Value.isNull]

/-- An object is checked as its entries are in a call of the constructor. -/
theorem check_object (es : List (Text × Json)) :
    check (.object es) = construct (es.map fun e => (e.1, .plain e.2)) := by
  have hassigned : assignedAmong (fun f =>
      (es.map fun e => (e.1, Value.plain e.2)).lookup (.unicode f.name)) = assignedIn es := by
    unfold assignedAmong assignedIn
    refine List.filter_congr fun f _ => ?_
    simp only [lookup_map_plain]
    cases es.lookup (.unicode f.name) with
    | none => rfl
    | some v => simp [isNull_plain]
  rw [construct, hassigned, check, Check.object]
  simp only [lookup_map_plain]

/-- The constructor refuses whatever is given for an assigned field, unless
it is null, and tells its name. -/
theorem construct_eq_refuse {es : List (Text × Value)} {f : Field} (hf : f ∈ Field.assigned)
    (h : ((es.lookup (.unicode f.name)).getD .null).isNull = false) :
    ∃ names, construct es = refuse (.serviceAssigned names) ∧ f.name ∈ names := by
  have hmem : f ∈ assignedAmong fun g => es.lookup (.unicode g.name) :=
    List.mem_filter.mpr ⟨hf, by rw [h]; rfl⟩
  refine ⟨(assignedAmong fun g => es.lookup (.unicode g.name)).map Field.name, ?_,
    List.mem_map_of_mem hmem⟩
  rw [construct, if_neg (List.ne_nil_of_mem hmem)]

/-- So does the check of plain data. -/
theorem check_eq_refuse {es : List (Text × Json)} {f : Field} (hf : f ∈ Field.assigned)
    (h : (es.lookup (.unicode f.name)).getD .null ≠ .null) :
    ∃ names, check (.object es) = refuse (.serviceAssigned names) ∧ f.name ∈ names := by
  rw [check_object]
  apply construct_eq_refuse hf
  rw [lookup_map_plain]
  cases hv : es.lookup (.unicode f.name) with
  | none =>
    rw [hv] at h
    exact absurd rfl h
  | some v =>
    rw [hv] at h
    rw [Option.map_some, Option.getD_some, isNull_plain]
    exact decide_eq_false h

/-- What was constructed has no assigned field set. -/
theorem get_of_construct {es : List (Text × Value)} {x : Instance} (h : construct es = .ok x)
    {f : Field} (hf : f ∈ Field.assigned) : x.get f = .null := by
  have hnull : ((es.lookup (.unicode f.name)).getD .null).isNull = true := by
    rw [← Bool.not_eq_false]
    intro hset
    obtain ⟨names, hrefused, -⟩ := construct_eq_refuse hf hset
    rw [hrefused] at h
    cases h
  rw [construct] at h
  split at h
  · have hvalidated := validated_of_checkFields h f
    rw [Value.isNull_iff.mp hnull] at hvalidated
    exact Field.eq_null_of_validated (Field.not_isRequired_of_assigned hf) hvalidated
  · cases h

/-- What was made from plain data has no assigned field set. -/
theorem get_of_check {v : Json} {x : Instance} (h : check v = .ok x) {f : Field}
    (hf : f ∈ Field.assigned) : x.get f = .null := by
  cases v with
  | object es =>
    rw [check_object] at h
    exact get_of_construct h hf
  | _ => cases h

end Instance

/-! ### Builders and moves -/

/-- A new builder has no assigned field staged. -/
theorem Builder.staged_of_start {id machineType : Value} {b : Builder}
    (h : start id machineType = .ok b) {f : Field} (hf : f ∈ Field.assigned) :
    b.staged f = .null := by
  obtain ⟨-, -, hnull⟩ := Origin.starts (o := .fresh id machineType) h
  apply hnull f
  · rintro rfl
    simp [Field.assigned] at hf
  · rintro rfl
    simp [Field.assigned] at hf

namespace Instance

theorem of_outcome (id machineType disk interface : Value) :
    (Instance.of id machineType disk interface).outcome =
      (Builder.start id machineType >>= fun b => b.set .disks (.list [disk]) >>= fun b =>
        b.set .interfaces (.list [interface])) >>= fun b => b.build.outcome := by
  simp only [Instance.of]
  split
  · next b hb =>
    rw [hb]
    rfl
  · next e he =>
    rw [he]
    rfl

/-- The shortcut for one disk and one interface sets no assigned field. -/
theorem get_of_of {id machineType disk interface : Value} {x : Instance}
    (h : (Instance.of id machineType disk interface).outcome = .ok x) {f : Field}
    (hf : f ∈ Field.assigned) : x.get f = .null := by
  rw [of_outcome] at h
  obtain ⟨b, hb, hbuild⟩ := Except.bind_eq_ok_iff.mp h
  obtain ⟨b₁, hstart, hb⟩ := Except.bind_eq_ok_iff.mp hb
  obtain ⟨b₂, hdisks, hinterfaces⟩ := Except.bind_eq_ok_iff.mp hb
  have hstaged : b.staged f = .null := by
    have hne : f ≠ .interfaces ∧ f ≠ .disks := by
      constructor <;> rintro rfl <;> simp [Field.assigned] at hf
    rw [Builder.staged_of_set hinterfaces hne.1, Builder.staged_of_set hdisks hne.2,
      Builder.staged_of_start hstart hf]
  have hvalidated := Builder.validated_of_build hbuild f
  rw [hstaged] at hvalidated
  exact Field.eq_null_of_validated (Field.not_isRequired_of_assigned hf) hvalidated

/-- Moving keeps what the service assigned. -/
theorem get_of_withProject {project : Option Text} {x y : Instance}
    (h : (x.withProject project).outcome = .ok y) {f : Field} (hf : f ∈ Field.assigned) :
    y.get f = x.get f := by
  cases project with
  | none => cases h
  | some p =>
    by_cases hp : p = ""
    · subst hp
      cases h
    · rw [withProject_of_ne hp] at h
      obtain rfl := Except.ok.inj h
      cases f <;> first | rfl | simp [Field.assigned] at hf

end Instance

/-! ### Sessions -/

namespace Session

/-- A field with a setter for callers. -/
abbrev PublicField := { f : Field // f ∉ Field.assigned }

/-- What can be asked for in a session. Objects are told by their numbers;
whatever else a request needs is handed over with it. -/
inductive Request where
  /-- The constructor, called with values for some fields. -/
  | construct (es : List (Text × Value))
  /-- An instance from plain data. -/
  | check (v : Json)
  /-- The constructor, given an instance: it hands this one back. -/
  | again (i : Nat)
  | of (id machineType disk interface : Value)
  | start (id machineType : Value)
  | set (i : Nat) (f : PublicField) (v : Value)
  | build (i : Nat)
  | copy (i : Nat)
  | move (i : Nat) (project : Option Text)
  | read (p : Json)
  | readBuilder (p : Json)
  | readMessage (m : Message)

/-- What a session holds. -/
inductive Object where
  | vm (x : Instance)
  | builder (b : Builder)

/-- The values of the fields of an instance, or those staged in a builder. -/
def Object.value : Object → Field → Value
  | .vm x => x.get
  | .builder b => b.staged

end Session

/-- The objects made so far, each with the request that made it. -/
abbrev Session := List (Session.Request × Session.Object)

namespace Session

/-- The object of a number. -/
def object? (s : Session) (k : Nat) : Option Object := s[k]?.map Prod.snd

/-- The request that made the object of a number. -/
def maker? (s : Session) (k : Nat) : Option Request := s[k]?.map Prod.fst

/-- The instance of a number. -/
def vm? (s : Session) (k : Nat) : Option Instance :=
  match s.object? k with
  | some (.vm x) => some x
  | _ => none

/-- The builder of a number. -/
def builder? (s : Session) (k : Nat) : Option Builder :=
  match s.object? k with
  | some (.builder b) => some b
  | _ => none

/-- The new object that a request makes, if it makes one. -/
def makes? (s : Session) : Request → Option Object
  | .construct es => ((Instance.construct es).orInvalid "InstanceInfo").toOption.map .vm
  | .check v => ((Instance.check v).orInvalid "InstanceInfo").toOption.map .vm
  | .of id machineType disk interface =>
    (Instance.of id machineType disk interface).outcome.toOption.map .vm
  | .start id machineType => (Builder.start id machineType).toOption.map .builder
  | .build i => (s.builder? i).bind fun b => b.build.outcome.toOption.map .vm
  | .copy i => (s.vm? i).map fun x => .builder (Builder.ofInstance x)
  | .move i project => (s.vm? i).bind fun x => (x.withProject project).outcome.toOption.map .vm
  | .read p => (Instance.ofPayload p).outcome.toOption.map .vm
  | .readBuilder p => (Builder.ofPayload p).toOption.map .builder
  | .readMessage m => (Instance.ofMessage m).outcome.toOption.map .vm
  | .again _ | .set _ _ _ => none

/-- The session with another object for a number. -/
def replace (s : Session) (k : Nat) (o : Object) : Session := s.modify k fun e => (e.1, o)

/-- What a request changes of the objects that there are: a setter changes
its builder in place. -/
def edited (s : Session) : Request → Session
  | .set i f v =>
    match s.builder? i with
    | some b => s.replace i (.builder (b.next (.set f.1 v)))
    | none => s
  | _ => s

/-- The session after a request. One that fails changes nothing. -/
def perform (s : Session) (r : Request) : Session :=
  s.edited r ++ ((s.makes? r).map fun o => (r, o)).toList

/-- The session of these requests, one after the other. -/
def run (requests : List Request) : Session := requests.foldl perform []

/-! ### Descent -/

/-- The object that a request makes another one from. -/
def Request.operand? : Request → Option Nat
  | .build i | .copy i | .move i _ => some i
  | _ => none

/-- What a request reads, if it reads and is not refused. -/
def Request.read? : Request → Option (Field → Value)
  | .read p => (Instance.ofPayload p).outcome.toOption.map Instance.get
  | .readBuilder p => (Builder.ofPayload p).toOption.map Builder.staged
  | .readMessage m => (Instance.ofMessage m).outcome.toOption.map Instance.get
  | _ => none

/-- An object descends from itself, and from what the object it was made from
descends from. -/
inductive Derived (s : Session) : Nat → Nat → Prop
  | refl (k : Nat) : Derived s k k
  | next {i j k : Nat} {r : Request} : Derived s i j → s.maker? k = some r → r.operand? = some j →
      Derived s i k

/-- Values for object `k` that have no assigned field set, or all of them as
one read gave them, from which the object descends. -/
def Sourced (s : Session) (k : Nat) (value : Field → Value) : Prop :=
  (∀ f ∈ Field.assigned, value f = .null) ∨
    ∃ i r given, s.maker? i = some r ∧ r.read? = some given ∧ s.Derived i k ∧
      ∀ f ∈ Field.assigned, value f = given f

variable {s t : Session} {k : Nat}

theorem Derived.mono (hmaker : ∀ k r, s.maker? k = some r → t.maker? k = some r) {i : Nat}
    (h : s.Derived i k) : t.Derived i k := by
  induction h with
  | refl => exact .refl _
  | next _ hk hj ih => exact .next ih (hmaker _ _ hk) hj

theorem Sourced.mono (hmaker : ∀ k r, s.maker? k = some r → t.maker? k = some r)
    {value value' : Field → Value} (hvalue : ∀ f ∈ Field.assigned, value' f = value f)
    (h : s.Sourced k value) : t.Sourced k value' := by
  rcases h with hnull | ⟨i, r, given, hi, hread, hderived, hgiven⟩
  · exact Or.inl fun f hf => (hvalue f hf).trans (hnull f hf)
  · exact Or.inr ⟨i, r, given, hmaker i r hi, hread, hderived.mono hmaker,
      fun f hf => (hvalue f hf).trans (hgiven f hf)⟩

/-- What was read is checked as itself. -/
theorem Request.eq_of_validated_read {r : Request} {given : Field → Value}
    (h : r.read? = some given) {f : Field} (hf : f ∈ Field.assigned) {w : Value}
    (hw : f.validated (given f) = Check.ok w) : w = given f := by
  cases r with
  | read p =>
    obtain ⟨x, -, rfl⟩ := Option.map_eq_some_iff.mp h
    exact Field.eq_of_validated_get hw
  | readMessage m =>
    obtain ⟨x, -, rfl⟩ := Option.map_eq_some_iff.mp h
    exact Field.eq_of_validated_get hw
  | readBuilder p =>
    obtain ⟨b, hb, rfl⟩ := Option.map_eq_some_iff.mp h
    obtain ⟨es, d, -, -, hstaged⟩ :=
      Builder.Origin.starts (o := .payload p) (Except.toOption_eq_some_iff.mp hb)
    rw [hstaged] at hw ⊢
    exact Instance.Draft.eq_of_validated hf hw
  | _ => cases h

/-- An object whose fields are checked from those of the object that it is
made from has what this one has. -/
theorem Sourced.next {j : Nat} {r : Request} (hk : s.maker? k = some r) (hj : r.operand? = some j)
    {value value' : Field → Value}
    (hvalue : ∀ f ∈ Field.assigned, f.validated (value f) = Check.ok (value' f))
    (h : s.Sourced j value) : s.Sourced k value' := by
  rcases h with hnull | ⟨i, q, given, hi, hread, hderived, hgiven⟩
  · refine Or.inl fun f hf => ?_
    have hnext := hvalue f hf
    rw [hnull f hf] at hnext
    exact Field.eq_null_of_validated (Field.not_isRequired_of_assigned hf) hnext
  · refine Or.inr ⟨i, q, given, hi, hread, .next hderived hk hj, fun f hf => ?_⟩
    have hnext := hvalue f hf
    rw [hgiven f hf] at hnext
    exact Request.eq_of_validated_read hread hf hnext

/-! ### One request -/

theorem vm?_eq_some_iff {x : Instance} : s.vm? k = some x ↔ s.object? k = some (.vm x) := by
  unfold vm?
  split <;> simp_all

theorem builder?_eq_some_iff {b : Builder} :
    s.builder? k = some b ↔ s.object? k = some (.builder b) := by
  unfold builder?
  split <;> simp_all

/-- A new object has no assigned field set, or is read, or is made from
another one by checking its fields. -/
theorem makes_cases {r : Request} {o : Object} (h : s.makes? r = some o) :
    (∀ f ∈ Field.assigned, o.value f = .null) ∨ r.read? = some o.value ∨
      ∃ j o', r.operand? = some j ∧ s.object? j = some o' ∧
        ∀ f ∈ Field.assigned, f.validated (o'.value f) = Check.ok (o.value f) := by
  cases r with
  | construct es =>
    obtain ⟨x, hx, rfl⟩ := Option.map_eq_some_iff.mp h
    rw [Except.toOption_eq_some_iff, Check.orInvalid_eq_ok_iff] at hx
    exact Or.inl fun f hf => Instance.get_of_construct hx hf
  | check v =>
    obtain ⟨x, hx, rfl⟩ := Option.map_eq_some_iff.mp h
    rw [Except.toOption_eq_some_iff, Check.orInvalid_eq_ok_iff] at hx
    exact Or.inl fun f hf => Instance.get_of_check hx hf
  | of id machineType disk interface =>
    obtain ⟨x, hx, rfl⟩ := Option.map_eq_some_iff.mp h
    exact Or.inl fun f hf => Instance.get_of_of (Except.toOption_eq_some_iff.mp hx) hf
  | start id machineType =>
    obtain ⟨b, hb, rfl⟩ := Option.map_eq_some_iff.mp h
    exact Or.inl fun f hf => Builder.staged_of_start (Except.toOption_eq_some_iff.mp hb) hf
  | build i =>
    obtain ⟨b, hb, hmade⟩ := Option.bind_eq_some_iff.mp h
    obtain ⟨x, hx, rfl⟩ := Option.map_eq_some_iff.mp hmade
    rw [Except.toOption_eq_some_iff] at hx
    refine Or.inr (Or.inr ⟨i, .builder b, rfl, builder?_eq_some_iff.mp hb, ?_⟩)
    exact fun f _ => Builder.validated_of_build hx f
  | copy i =>
    obtain ⟨x, hx, rfl⟩ := Option.map_eq_some_iff.mp h
    refine Or.inr (Or.inr ⟨i, .vm x, rfl, vm?_eq_some_iff.mp hx, ?_⟩)
    exact fun f _ => f.validated_get x
  | move i project =>
    obtain ⟨x, hx, hmade⟩ := Option.bind_eq_some_iff.mp h
    obtain ⟨y, hy, rfl⟩ := Option.map_eq_some_iff.mp hmade
    rw [Except.toOption_eq_some_iff] at hy
    refine Or.inr (Or.inr ⟨i, .vm x, rfl, vm?_eq_some_iff.mp hx, fun f hf => ?_⟩)
    have hkept : y.get f = x.get f := Instance.get_of_withProject hy hf
    change f.validated (x.get f) = Check.ok (y.get f)
    rw [hkept, f.validated_get]
  | read p =>
    obtain ⟨x, hx, rfl⟩ := Option.map_eq_some_iff.mp h
    exact Or.inr (Or.inl (Option.map_eq_some_iff.mpr ⟨x, hx, rfl⟩))
  | readBuilder p =>
    obtain ⟨b, hb, rfl⟩ := Option.map_eq_some_iff.mp h
    exact Or.inr (Or.inl (Option.map_eq_some_iff.mpr ⟨b, hb, rfl⟩))
  | readMessage m =>
    obtain ⟨x, hx, rfl⟩ := Option.map_eq_some_iff.mp h
    exact Or.inr (Or.inl (Option.map_eq_some_iff.mpr ⟨x, hx, rfl⟩))
  | again i => cases h
  | set i f v => cases h

theorem maker?_replace (s : Session) (i : Nat) (o : Object) (k : Nat) :
    (s.replace i o).maker? k = s.maker? k := by
  rw [maker?, maker?, replace, List.getElem?_modify]
  by_cases hk : i = k
  · cases s[k]? <;> simp [hk]
  · cases s[k]? <;> simp [hk]

theorem object?_replace (s : Session) (i : Nat) (o : Object) (k : Nat) :
    (s.replace i o).object? k = if i = k then (s.object? k).map fun _ => o else s.object? k := by
  rw [object?, object?, replace, List.getElem?_modify]
  by_cases hk : i = k
  · cases s[k]? <;> simp [hk]
  · cases s[k]? <;> simp [hk]

theorem maker?_append {r : Request} (h : s.maker? k = some r) (e : Request × Object) :
    maker? (s ++ [e]) k = some r := by
  obtain ⟨d, hd, rfl⟩ := Option.map_eq_some_iff.mp h
  have hk := (List.getElem?_eq_some_iff.mp hd).1
  rw [maker?, List.getElem?_append_left hk, hd]
  rfl

theorem maker?_append_length (s : Session) (e : Request × Object) :
    maker? (s ++ [e]) s.length = some e.1 := by
  rw [maker?, List.getElem?_concat_length]
  rfl

theorem eq_of_getElem?_append {d e : Request × Object} (h : (s ++ [e])[k]? = some d) :
    s[k]? = some d ∨ k = s.length ∧ d = e := by
  rw [List.getElem?_append] at h
  split at h
  · exact Or.inl h
  · next hk =>
    obtain ⟨hlt, hd⟩ := List.getElem?_eq_some_iff.mp h
    rw [List.length_singleton] at hlt
    exact Or.inr ⟨by omega, by rw [← hd, List.getElem_singleton]⟩

theorem edited_set_of_some {i : Nat} {b : Builder} (h : s.builder? i = some b) (f : PublicField)
    (v : Value) :
    s.edited (.set i f v) = s.replace i (.builder (b.next (.set f.1 v))) := by
  rw [edited, h]

theorem edited_set_of_none {i : Nat} (h : s.builder? i = none) (f : PublicField) (v : Value) :
    s.edited (.set i f v) = s := by
  rw [edited, h]

/-- Every object of the session is sourced. -/
def AllSourced (s : Session) : Prop := ∀ k o, s.object? k = some o → s.Sourced k o.value

/-- A setter for callers leaves what the service assigns. -/
theorem AllSourced.edited (h : s.AllSourced) (r : Request) : (s.edited r).AllSourced := by
  cases r with
  | set i f v =>
    cases hb : s.builder? i with
    | none =>
      rw [edited_set_of_none hb]
      exact h
    | some b =>
      rw [edited_set_of_some hb]
      have hmaker : ∀ k q, s.maker? k = some q →
          (s.replace i (.builder (b.next (.set f.1 v)))).maker? k = some q :=
        fun k q hq => (maker?_replace s i _ k).trans hq
      intro k o ho
      rw [object?_replace] at ho
      split at ho
      · next hk =>
        subst hk
        rw [builder?_eq_some_iff.mp hb, Option.map_some, Option.some.injEq] at ho
        subst ho
        refine (h i _ (builder?_eq_some_iff.mp hb)).mono hmaker fun g hg => ?_
        have hother : ¬ f.1 = g := fun he => f.2 (he ▸ hg)
        change (b.next (.set f.1 v)).staged g = b.staged g
        rw [Builder.staged_next, Builder.Call.accepted?, if_neg hother]
        rfl
      · exact (h k o ho).mono hmaker fun _ _ => rfl
  | _ => exact h

theorem edited_of_makes {r : Request} {o : Object} (h : s.makes? r = some o) : s.edited r = s := by
  cases r <;> first | rfl | cases h

theorem perform_of_makes {r : Request} {o : Object} (h : s.makes? r = some o) :
    s.perform r = s ++ [(r, o)] := by
  rw [perform, edited_of_makes h, h]
  rfl

theorem perform_of_not_makes {r : Request} (h : s.makes? r = none) :
    s.perform r = s.edited r := by
  rw [perform, h]
  exact List.append_nil _

/-- **One request.** If every object of a session is sourced, so is every
object after one more request. -/
theorem AllSourced.perform (h : s.AllSourced) (r : Request) : (s.perform r).AllSourced := by
  cases hmade : s.makes? r with
  | none =>
    rw [perform_of_not_makes hmade]
    exact h.edited r
  | some o =>
    rw [perform_of_makes hmade]
    have hmaker : ∀ k q, s.maker? k = some q → maker? (s ++ [(r, o)]) k = some q :=
      fun _ _ hq => maker?_append hq _
    have hlast : maker? (s ++ [(r, o)]) s.length = some r := maker?_append_length s _
    intro k o' ho'
    obtain ⟨d, hd, rfl⟩ := Option.map_eq_some_iff.mp ho'
    rcases eq_of_getElem?_append hd with hold | ⟨rfl, rfl⟩
    · -- an object from before: its number keeps its maker
      have hobject : s.object? k = some d.2 := by rw [object?, hold, Option.map_some]
      exact (h k d.2 hobject).mono hmaker fun _ _ => rfl
    · -- the new object: it is its own source if it was read
      rcases makes_cases hmade with hnull | hread | ⟨j, source, hj, hsource, hvalue⟩
      · exact Or.inl hnull
      · exact Or.inr ⟨_, r, _, hlast, hread, .refl _, fun _ _ => rfl⟩
      · exact ((h j source hsource).mono hmaker fun _ _ => rfl).next hlast hj hvalue

/-! ### Runs -/

/-- Every object of a run is sourced. -/
theorem allSourced_foldl : ∀ (requests : List Request) {s : Session}, s.AllSourced →
    AllSourced (requests.foldl perform s)
  | [], _, h => h
  | r :: rs, _, h => allSourced_foldl rs (h.perform r)

theorem maker?_edited (s : Session) (r : Request) (k : Nat) :
    (s.edited r).maker? k = s.maker? k := by
  cases r with
  | set i f v =>
    cases hb : s.builder? i with
    | none => rw [edited_set_of_none hb]
    | some b => rw [edited_set_of_some hb, maker?_replace]
  | _ => rfl

theorem eq_of_maker?_perform {r q : Request} (h : (s.perform r).maker? k = some q) :
    s.maker? k = some q ∨ q = r := by
  cases hmade : s.makes? r with
  | none =>
    rw [perform_of_not_makes hmade, maker?_edited] at h
    exact Or.inl h
  | some o =>
    rw [perform_of_makes hmade] at h
    obtain ⟨d, hd, rfl⟩ := Option.map_eq_some_iff.mp h
    rcases eq_of_getElem?_append hd with hold | ⟨-, rfl⟩
    · exact Or.inl (by rw [maker?, hold, Option.map_some])
    · exact Or.inr rfl

/-- Objects are made by the requests of the run. -/
theorem mem_of_maker?_foldl {q : Request} : ∀ (requests : List Request) {s : Session},
    maker? (requests.foldl perform s) k = some q → s.maker? k = some q ∨ q ∈ requests
  | [], _, h => Or.inl h
  | r :: rs, _, h => by
    rcases mem_of_maker?_foldl rs h with hmaker | hmem
    · rcases eq_of_maker?_perform hmaker with hold | rfl
      · exact Or.inl hold
      · exact Or.inr List.mem_cons_self
    · exact Or.inr (List.mem_cons_of_mem _ hmem)

/-- **Assigned state comes from reads only.** An instance that is made in a
session, by whatever requests, has no assigned field set, or has all of them
as one request of the session read them from a payload or a message, and
descends from what was read by copies, setters, builds and moves. The
constructor refuses values for these fields, other than null, whatever else
it is given. -/
theorem assigned_only_from_reads {requests : List Request} {k : Nat} {x : Instance}
    (h : (run requests).vm? k = some x) :
    ((∀ f ∈ Field.assigned, x.get f = .null) ∨
      ∃ i r given, r ∈ requests ∧ (run requests).maker? i = some r ∧ r.read? = some given ∧
        (run requests).Derived i k ∧ ∀ f ∈ Field.assigned, x.get f = given f) ∧
    (∀ (es : List (Text × Value)), ∀ f ∈ Field.assigned,
      ((es.lookup (.unicode f.name)).getD .null).isNull = false →
        ∃ names, Instance.construct es = Check.refuse (.serviceAssigned names) ∧ f.name ∈ names) ∧
    ∀ (es : List (Text × Json)), ∀ f ∈ Field.assigned,
      (es.lookup (.unicode f.name)).getD .null ≠ .null →
        ∃ names, Instance.check (.object es) = Check.refuse (.serviceAssigned names) ∧
          f.name ∈ names := by
  refine ⟨?_, fun es f hf hset => Instance.construct_eq_refuse hf hset,
    fun es f hf hset => Instance.check_eq_refuse hf hset⟩
  have hempty : AllSourced [] := fun k o ho => by simp [object?] at ho
  have hsourced := allSourced_foldl requests hempty k (.vm x) (vm?_eq_some_iff.mp h)
  rcases hsourced with hnull | ⟨i, r, given, hi, hread, hderived, hgiven⟩
  · exact Or.inl hnull
  · have hmem : r ∈ requests := by
      rcases mem_of_maker?_foldl requests hi with hnone | hmem
      · simp [maker?] at hnone
      · exact hmem
    exact Or.inr ⟨i, r, given, hmem, hi, hread, hderived, hgiven⟩

/-- A running instance is read, copied, edited and moved, and the constructor
is tried with a status besides. -/
def editing : List Request :=
  [.construct [("status", .text "RUNNING")],
    .readBuilder (.object [("selfLink", .text "projects/p/zones/z/instances/i"),
      ("machineType", .text "projects/p/zones/z/machineTypes/m"), ("status", .text "RUNNING"),
      ("networkInterfaces", .list []), ("disks", .list [])]),
    .build 0, .copy 1, .set 2 ⟨.description, by decide⟩ (.text "mine"),
    .set 2 ⟨.disks, by decide⟩ .null, .build 2, .move 3 (some (.unicode "q"))]

/-- The status of the moved instance was read. -/
theorem status_of_editing : ∃ x i r given, (run editing).vm? 4 = some x ∧
    x.get .status = .text "RUNNING" ∧ r ∈ editing ∧ r.read? = some given ∧
      (run editing).Derived i 4 ∧ given .status = .text "RUNNING" := by
  obtain ⟨x, hx, hstatus⟩ : ∃ x, (run editing).vm? 4 = some x ∧
      x.get .status = .text "RUNNING" := ⟨_, rfl, rfl⟩
  obtain ⟨hassigned, -, -⟩ := assigned_only_from_reads hx
  have hmem : Field.status ∈ Field.assigned := by decide
  rcases hassigned with hnull | ⟨i, r, given, hr, -, hread, hderived, hgiven⟩
  · rw [hnull _ hmem] at hstatus
    cases hstatus
  · exact ⟨x, i, r, given, hx, hstatus, hr, hread, hderived, (hgiven _ hmem).symm.trans hstatus⟩

end Session
end VmResource
