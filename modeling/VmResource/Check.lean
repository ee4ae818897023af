/-
# Checks

The outcome of checking a value against the rules of a field or a resource:
what the value stands for, or every violation found, in the order of the
fields. Checks of several fields are put together with `<*>`, which collects
the violations of both sides; a check never stops at the first one.

Key definitions: `Check`, `Check.under`, `Check.each`, `Check.names`.
Key theorems: `Check.seq_eq_ok_iff`, `Check.field_eq_ok_iff`.
-/
import VmResource.Violation

namespace VmResource

universe u v

/-- What a value stands for, or the violations that keep it from standing
for anything. -/
inductive Check (α : Type u) where
  | ok (a : α)
  | refused (vs : List Violation)
deriving DecidableEq, Repr

namespace Check

variable {α : Type u} {β : Type v}

/-- Changes what a check found, not what it refused. -/
def map (f : α → β) : Check α → Check β
  | .ok a => .ok (f a)
  | .refused vs => .refused vs

/-- Both checks, with the violations of the first before those of the second. -/
def seq (f : Check (α → β)) (a : Check α) : Check β :=
  match f, a with
  | .ok f, .ok a => .ok (f a)
  | .ok _, .refused vs => .refused vs
  | .refused vs, .ok _ => .refused vs
  | .refused vs, .refused vs' => .refused (vs ++ vs')

instance : Applicative Check where
  pure := .ok
  map f c := c.map f
  seq f a := f.seq (a ())

@[simp] theorem pure_eq {α : Type u} (a : α) : (pure a : Check α) = .ok a := rfl

@[simp] theorem map_ok {α β : Type u} (f : α → β) (a : α) : f <$> (Check.ok a) = .ok (f a) := rfl

@[simp] theorem map_refused {α β : Type u} (f : α → β) (vs : List Violation) :
    f <$> (Check.refused vs : Check α) = .refused vs := rfl

@[simp] theorem ok_seq_ok {α β : Type u} (f : α → β) (a : α) :
    (Check.ok f <*> Check.ok a : Check β) = .ok (f a) := rfl

@[simp] theorem ok_seq_refused {α β : Type u} (f : α → β) (vs : List Violation) :
    (Check.ok f <*> (Check.refused vs : Check α) : Check β) = .refused vs := rfl

@[simp] theorem refused_seq_ok {α β : Type u} (vs : List Violation) (a : α) :
    ((Check.refused vs : Check (α → β)) <*> Check.ok a : Check β) = .refused vs := rfl

@[simp] theorem refused_seq_refused {α β : Type u} (vs vs' : List Violation) :
    ((Check.refused vs : Check (α → β)) <*> (Check.refused vs' : Check α) : Check β) =
      .refused (vs ++ vs') := rfl

theorem map_eq_ok_iff {α β : Type u} {f : α → β} {c : Check α} {b : β} :
    f <$> c = .ok b ↔ ∃ a, c = .ok a ∧ f a = b := by
  cases c <;> simp

/-- Both checks pass exactly if each of them does. -/
theorem seq_eq_ok_iff {α β : Type u} {f : Check (α → β)} {a : Check α} {b : β} :
    f <*> a = .ok b ↔ ∃ g x, f = .ok g ∧ a = .ok x ∧ g x = b := by
  cases f <;> cases a <;> simp

/-- The value itself breaks `rule`. -/
def refuse (rule : Rule) : Check α := .refused [⟨[], rule⟩]

/-- A check of the part at `step`, seen from the whole. -/
def under (step : Step) : Check α → Check α
  | .ok a => .ok a
  | .refused vs => .refused (vs.map (Violation.under step))

/-- A check of the field `name`, seen from the resource. -/
def field (name : String) (c : Check α) : Check α := c.under (.field name)

@[simp] theorem under_ok (step : Step) (a : α) : (Check.ok a).under step = .ok a := rfl

@[simp] theorem field_ok (name : String) (a : α) : (Check.ok a).field name = .ok a := rfl

theorem under_eq_ok_iff {step : Step} {c : Check α} {a : α} : c.under step = .ok a ↔ c = .ok a := by
  cases c <;> simp [under]

theorem field_eq_ok_iff {name : String} {c : Check α} {a : α} : c.field name = .ok a ↔ c = .ok a :=
  under_eq_ok_iff

/-- Checks the items of a list, the first of them at position `i`. -/
def eachFrom {α : Type v} {β : Type u} (f : α → Check β) : Nat → List α → Check (List β)
  | _, [] => .ok []
  | i, a :: as => List.cons <$> (f a).under (.item i) <*> eachFrom f (i + 1) as

/-- Checks every item of a list, each at its position. -/
def each {α : Type v} {β : Type u} (f : α → Check β) (as : List α) : Check (List β) :=
  eachFrom f 0 as

/-- Checks one thing for every name, in the order of the names. -/
def names (f : String → Check α) :
    (names : List String) → Check { as : List α // as.length = names.length }
  | [] => .ok ⟨[], rfl⟩
  | n :: ns => (fun a as => ⟨a :: as.1, by simp [as.2]⟩) <$> f n <*> names f ns

end Check
end VmResource
