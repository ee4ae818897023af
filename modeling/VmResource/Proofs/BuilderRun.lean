/-
# Runs of a builder

A builder is worked on in place: setters and attempts to build come in any
order and number, and a setter that refuses its value has written nothing
before it does. So what a run leaves in a field is the last value that its
setter accepted, or what was there at the start if it accepted none; an
instance that is built has in each field what this value is checked as; and
calls for different fields may come in either order.

Key definitions: `Builder.setter`, `Builder.Call`, `Builder.next`,
`Builder.after`, `Builder.answers`, `Builder.lastAccepted`, `Builder.Origin`.
Key theorems: `Builder.run_setter`, `Builder.staged_after`,
`Builder.next_comm`, `Builder.last_accepted_wins`.
-/
import VmResource.Proofs.InstancePayload
import VmResource.Proofs.Validated

namespace VmResource
namespace Builder

open Instance (Field)

/-! ### Setters in place -/

/-- The value that a field holds once its setter accepts `v`: `v` itself, or
a copy of its items if the field is a collection. -/
def accepted (f : Field) (v : Value) : Except Error Value :=
  if v.isNull ∧ needsValue f then .error (.argumentMissing f.name)
  else if f.isCollection then Value.list <$> v.items
  else .ok v

theorem set_eq (b : Builder) (f : Field) (v : Value) : b.set f v = b.put f <$> accepted f v := by
  unfold set accepted
  split
  · rfl
  · split
    · cases v.items <;> rfl
    · rfl

/-- A setter keeps all fields but its own. -/
theorem staged_of_set {b b' : Builder} {f g : Field} {v : Value} (h : b.set f v = .ok b')
    (hg : g ≠ f) : b'.staged g = b.staged g := by
  rw [set_eq] at h
  obtain ⟨w, -, rfl⟩ := Except.map_eq_ok_iff.mp h
  exact staged_put_of_ne b w hg

/-- A program that works on a builder in place: what it wrote before it
failed stays written. -/
abbrev InPlace (α : Type) := ExceptT Error (StateM Builder) α

/-- The setter of a field: it looks whether there must be a value, then takes
the items of a collection, and writes at last. -/
def setter (f : Field) (v : Value) : InPlace Unit := do
  if v.isNull ∧ needsValue f then throw (.argumentMissing f.name)
  let w ← if f.isCollection then Value.list <$> ofExcept v.items else pure v
  modify fun b => b.put f w

/-- A setter leaves the builder with another value for the field, or fails
and leaves it as it was. -/
theorem run_setter (b : Builder) (f : Field) (v : Value) : (setter f v).run.run b =
    match accepted f v with
    | .ok w => (.ok (), b.put f w)
    | .error e => (.error e, b) := by
  unfold setter accepted
  by_cases hnull : v.isNull ∧ needsValue f
  · rw [if_pos hnull, if_pos hnull]
    rfl
  · rw [if_neg hnull, if_neg hnull]
    by_cases hf : f.isCollection
    · rw [if_pos hf, if_pos hf]
      cases v.items <;> rfl
    · rw [if_neg hf, if_neg hf]
      rfl

/-! ### Calls -/

/-- What can be called on a builder. -/
inductive Call where
  | set (f : Field) (v : Value)
  | build

/-- What a call comes to. -/
inductive Answer where
  | set (outcome : Except Error Unit)
  | built (t : Traced Instance)

/-- A call, as it works on a builder in place. -/
def Call.program : Call → StateM Builder Answer
  | .set f v => Answer.set <$> (setter f v).run
  | .build => do return .built (← get).build

/-- What a call comes to. -/
def answer (b : Builder) (c : Call) : Answer := (c.program.run b).1

/-- The builder after a call. -/
def next (b : Builder) (c : Call) : Builder := (c.program.run b).2

/-- The builder after calls. -/
def after (b : Builder) (calls : List Call) : Builder := calls.foldl next b

/-- What calls come to, one after the other. -/
def answers (b : Builder) : List Call → List Answer
  | [] => []
  | c :: cs => b.answer c :: (b.next c).answers cs

theorem answer_set (b : Builder) (f : Field) (v : Value) :
    b.answer (.set f v) = .set ((fun _ => ()) <$> accepted f v) := by
  have hrun : b.answer (.set f v) = .set ((setter f v).run.run b).1 := rfl
  rw [hrun, run_setter]
  cases accepted f v <;> rfl

theorem answer_set_eq_error_iff {b : Builder} {f : Field} {v : Value} {e : Error} :
    b.answer (.set f v) = .set (.error e) ↔ accepted f v = .error e := by
  rw [answer_set, Answer.set.injEq]
  cases accepted f v <;> simp

theorem next_set (b : Builder) (f : Field) (v : Value) :
    b.next (.set f v) = ((b.put f <$> accepted f v).toOption).getD b := by
  have hrun : b.next (.set f v) = ((setter f v).run.run b).2 := rfl
  rw [hrun, run_setter]
  cases accepted f v <;> rfl

theorem answer_build (b : Builder) : b.answer .build = .built b.build := rfl

theorem next_build (b : Builder) : b.next .build = b := rfl

theorem after_append (b : Builder) (cs ds : List Call) :
    b.after (cs ++ ds) = (b.after cs).after ds :=
  List.foldl_append

theorem answers_append : ∀ (b : Builder) (cs ds : List Call),
    b.answers (cs ++ ds) = b.answers cs ++ (b.after cs).answers ds
  | _, [], _ => rfl
  | b, c :: cs, ds => by
    rw [List.cons_append, answers, answers, answers_append (b.next c) cs ds]
    rfl

theorem length_answers : ∀ (b : Builder) (cs : List Call), (b.answers cs).length = cs.length
  | _, [] => rfl
  | b, c :: cs => by rw [answers, List.length_cons, length_answers (b.next c) cs, List.length_cons]

/-! ### What a run leaves -/

/-- The value that a call stages for a field, if it does. -/
def Call.accepted? (f : Field) : Call → Option Value
  | .set g v => if g = f then (accepted f v).toOption else none
  | .build => none

/-- The last value that was accepted for a field. -/
def lastAccepted (f : Field) (calls : List Call) : Option Value :=
  (calls.filterMap (Call.accepted? f)).getLast?

/-- A call changes at most the field that it is for. -/
theorem staged_next (b : Builder) (c : Call) (f : Field) :
    (b.next c).staged f = (c.accepted? f).getD (b.staged f) := by
  cases c with
  | build => rfl
  | set g v =>
    rw [next_set, Call.accepted?]
    by_cases hg : g = f
    · subst hg
      rw [if_pos rfl]
      cases accepted g v with
      | error e => rfl
      | ok w => exact staged_put_self b g w
    · rw [if_neg hg]
      cases accepted g v with
      | error e => rfl
      | ok w => exact staged_put_of_ne b w (Ne.symm hg)

/-- A run leaves the last value that was accepted, or the one from before. -/
theorem staged_after (f : Field) : ∀ (calls : List Call) (b : Builder),
    (b.after calls).staged f = (lastAccepted f calls).getD (b.staged f)
  | [], _ => rfl
  | c :: cs, b => by
    have hafter : b.after (c :: cs) = (b.next c).after cs := rfl
    rw [hafter, staged_after f cs, staged_next, lastAccepted, lastAccepted, List.filterMap_cons]
    cases c.accepted? f with
    | none => rfl
    | some w =>
      rw [List.getLast?_cons]
      rfl

/-- A setter refuses null where there must be a value, and for a collection
whatever has no items. -/
theorem accepted_eq_error_iff {f : Field} {v : Value} :
    (∃ e, accepted f v = .error e) ↔
      (v.isNull ∧ (f = .id ∨ f = .machineType ∨ f.isCollection)) ∨
        (f.isCollection ∧ ∀ xs, v.items ≠ .ok xs) := by
  have hneeds : needsValue f ↔ f = .id ∨ f = .machineType ∨ f.isCollection := by
    simp [needsValue]
  unfold accepted
  rw [← hneeds]
  by_cases hnull : v.isNull ∧ needsValue f
  · rw [if_pos hnull]
    exact iff_of_true ⟨_, rfl⟩ (Or.inl hnull)
  · rw [if_neg hnull]
    by_cases hf : f.isCollection
    · rw [if_pos hf]
      cases v.items <;> simp [hnull, hf]
    · simp [hnull, hf]

/-- What a field other than a collection holds is the value that was set. -/
theorem eq_of_accepted {f : Field} {v w : Value} (hf : f.isCollection = false)
    (h : accepted f v = .ok w) : w = v := by
  unfold accepted at h
  split at h
  · cases h
  · rw [hf] at h
    exact (Except.ok.inj h).symm

/-! ### Calls for two fields -/

/-- Setters of two fields may be called in either order. -/
theorem next_comm (b : Builder) {f g : Field} (v w : Value) (h : f ≠ g) :
    (b.next (.set f v)).next (.set g w) = (b.next (.set g w)).next (.set f v) := by
  rw [next_set, next_set, next_set, next_set]
  cases accepted f v with
  | error e => rfl
  | ok v' =>
    cases accepted g w with
    | error e => rfl
    | ok w' => exact put_comm b v' w' h

/-- Exchanging two setters of a run exchanges what they come to, and changes
neither what any other call comes to nor what the run leaves. -/
theorem run_comm (b : Builder) (pre post : List Call) {f g : Field} (v w : Value) (h : f ≠ g) :
    b.after (pre ++ .set g w :: .set f v :: post) = b.after (pre ++ .set f v :: .set g w :: post) ∧
    ∃ as a a' bs, as.length = pre.length ∧
      b.answers (pre ++ .set f v :: .set g w :: post) = as ++ a :: a' :: bs ∧
      b.answers (pre ++ .set g w :: .set f v :: post) = as ++ a' :: a :: bs := by
  have hcomm := next_comm (b.after pre) v w h
  refine ⟨?_, ?_⟩
  · rw [after_append, after_append]
    change ((_ : Builder).next _).after post = ((_ : Builder).next _).after post
    rw [hcomm]
  · refine ⟨b.answers pre, .set ((fun _ => ()) <$> accepted f v),
      .set ((fun _ => ()) <$> accepted g w),
      (((b.after pre).next (.set f v)).next (.set g w)).answers post, length_answers b pre, ?_, ?_⟩
    · rw [answers_append, answers, answers, answer_set, answer_set]
    · rw [answers_append, answers, answers, answer_set, answer_set, hcomm]

/-! ### Where builders come from -/

/-- A builder is made for an identity and a machine type, from an instance or
from a payload. -/
inductive Origin where
  | fresh (id machineType : Value)
  | copy (x : Instance)
  | payload (p : Json)

namespace Origin

/-- The builder of an origin. -/
def builder : Origin → Except Error Builder
  | .fresh id machineType => start id machineType
  | .copy x => .ok (ofInstance x)
  | .payload p => Builder.ofPayload p

/-- The values that a builder starts with: what it is made for and null, the
fields of the instance, or what was read. -/
def Starts (staged : Field → Value) : Origin → Prop
  | .fresh id machineType => staged .id = id ∧ staged .machineType = machineType ∧
    ∀ f, f ≠ .id → f ≠ .machineType → staged f = .null
  | .copy x => staged = x.get
  | .payload p => ∃ es d, p = .object es ∧ Instance.Draft.read es = .ok d ∧
    staged = d.builder.staged

theorem starts {o : Origin} {b : Builder} (h : o.builder = .ok b) : o.Starts b.staged := by
  cases o with
  | fresh id machineType =>
    obtain ⟨b', hid, htype⟩ := Except.bind_eq_ok_iff.mp h
    rw [set_eq] at hid htype
    obtain ⟨v, hv, rfl⟩ := Except.map_eq_ok_iff.mp hid
    obtain ⟨w, hw, rfl⟩ := Except.map_eq_ok_iff.mp htype
    obtain rfl := eq_of_accepted rfl hv
    obtain rfl := eq_of_accepted rfl hw
    refine ⟨rfl, rfl, ?_⟩
    intro f hfid hftype
    rw [staged_put_of_ne _ _ hftype, staged_put_of_ne _ _ hfid]
    rfl
  | copy x =>
    obtain rfl := Except.ok.inj h
    rfl
  | payload p =>
    cases p with
    | object es =>
      obtain ⟨d, hd, rfl⟩ := Builder.ofPayload_eq_ok_iff.mp h
      exact ⟨es, d, rfl, hd, rfl⟩
    | _ => cases h

end Origin

/-- **The last accepted value wins.** Of a builder of any origin and after
any calls: a setter refuses null where there must be a value, and for a
collection whatever has no items, and then leaves the builder as it was, as
building always does; each field holds the last value that was accepted for
it, or the one from the start; and an instance that is built has in each
field what this value is checked as, so it agrees in the fields that were not
set with the instance that the builder was made from, which is built again if
nothing was set. Two setters of different fields, one after the other, may be
exchanged. -/
theorem last_accepted_wins {o : Origin} {b₀ : Builder} (h : o.builder = .ok b₀)
    (calls : List Call) :
    let b := b₀.after calls
    o.Starts b₀.staged ∧
    (∀ f v, (∃ e, b.answer (.set f v) = .set (.error e)) ↔
      (v.isNull ∧ (f = .id ∨ f = .machineType ∨ f.isCollection)) ∨
        (f.isCollection ∧ ∀ xs, v.items ≠ .ok xs)) ∧
    (∀ f v e, b.answer (.set f v) = .set (.error e) → b.next (.set f v) = b) ∧
    (b.answer .build = .built b.build ∧ b.next .build = b) ∧
    (∀ f, b.staged f = (lastAccepted f calls).getD (b₀.staged f)) ∧
    (∀ x, b.build.outcome = .ok x →
      (∀ f : Field, f.validated ((lastAccepted f calls).getD (b₀.staged f)) =
        Check.ok (x.get f)) ∧
      (∀ f, lastAccepted f calls = none → (∀ y, o = .copy y → x.get f = y.get f) ∧
        ∀ id t, o = .fresh id t → ¬ f.IsRequired → x.get f = .null)) ∧
    (∀ y, o = .copy y → b₀.build.outcome = .ok y) ∧
    ∀ pre post f g v w, calls = pre ++ .set f v :: .set g w :: post → f ≠ g →
      b₀.after (pre ++ .set g w :: .set f v :: post) = b ∧
      ∃ as a a' bs, as.length = pre.length ∧ b₀.answers calls = as ++ a :: a' :: bs ∧
        b₀.answers (pre ++ .set g w :: .set f v :: post) = as ++ a' :: a :: bs := by
  intro b
  have hstarts := Origin.starts h
  -- the fields hold what `staged_after` says; the cases left are refusals, builds and exchanges
  refine ⟨hstarts, ?_, ?_, ⟨answer_build b, next_build b⟩, fun f => staged_after f calls b₀, ?_, ?_,
    ?_⟩
  · intro f v
    simp only [answer_set_eq_error_iff]
    exact accepted_eq_error_iff
  · intro f v e hrefused
    rw [next_set, answer_set_eq_error_iff.mp hrefused]
    rfl
  · intro x hbuild
    have hvalidated : ∀ f : Field,
        f.validated ((lastAccepted f calls).getD (b₀.staged f)) = Check.ok (x.get f) := by
      intro f
      rw [← staged_after]
      exact validated_of_build hbuild f
    refine ⟨hvalidated, ?_⟩
    -- a field that was not set has what its first value is checked as: the same
    intro f hunset
    have hfirst := hvalidated f
    rw [hunset, Option.getD_none] at hfirst
    refine ⟨?_, ?_⟩
    · rintro y rfl
      rw [show b₀.staged = y.get from hstarts] at hfirst
      exact Field.eq_of_validated_get hfirst
    · rintro id t rfl hf
      have hnull : b₀.staged f = .null :=
        hstarts.2.2 f (fun hid => hf (Or.inl hid)) fun ht => hf (Or.inr (Or.inl ht))
      rw [hnull] at hfirst
      exact Field.eq_null_of_validated hf hfirst
  · rintro y rfl
    rw [← Except.ok.inj h]
    exact build_ofInstance y
  · rintro pre post f g v w rfl hfg
    exact run_comm b₀ pre post v w hfg

/-- Calls that set a description twice, and fail in between. -/
def describing : List Call :=
  [.set .interfaces (.list []), .set .disks (.list []), .set .description (.text "first"),
    .set .disks .null, .build, .set .accounts .other, .set .description (.text "last")]

/-- The second of two descriptions is the one that is built, and accounts that
were refused are unset. -/
theorem describing_wins : ∃ o b₀ x, Origin.builder o = .ok b₀ ∧
    (b₀.after describing).build.outcome = .ok x ∧ x.get .description = .text "last" ∧
      x.get .accounts = .null := by
  let id : Identity .vm := ⟨none, [⟨"z", by decide⟩, ⟨"i", by decide⟩], rfl⟩
  let machineType : Identity .machineType := ⟨none, [⟨"z", by decide⟩, ⟨"m", by decide⟩], rfl⟩
  let o : Origin := .fresh (.ofIdentity id) (.ofIdentity machineType)
  obtain ⟨b₀, hb₀⟩ : ∃ b₀, o.builder = .ok b₀ := ⟨_, rfl⟩
  obtain ⟨x, hx⟩ : ∃ x, (b₀.after describing).build.outcome = .ok x := by
    obtain rfl := Except.ok.inj hb₀
    exact ⟨_, rfl⟩
  obtain ⟨-, -, -, -, -, hbuilt, -⟩ := last_accepted_wins hb₀ describing
  obtain ⟨hvalidated, hunset⟩ := hbuilt x hx
  refine ⟨o, b₀, x, hb₀, hx, ?_, ?_⟩
  · exact (Check.ok.inj (hvalidated .description)).symm
  · exact (hunset .accounts rfl).2 _ _ rfl (by simp [Field.IsRequired])

end Builder
end VmResource
