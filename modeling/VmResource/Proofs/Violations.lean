/-
# The violations of a check

The violations of checks that are put together are those of each of them,
one after the other. No check refuses a value without a reason, so a check
has no violations exactly if it passes.

Key definitions: `Check.violations`, `Check.Tells`.
Key theorems: `Check.violations_eq_nil_iff`, `Check.violations_names`.
-/
import VmResource.Check.Scalar

namespace VmResource

namespace Check

/-! ### Violations -/

section Violations

universe u

variable {α β : Type u}

/-- What a check found wrong. -/
def violations : Check α → List Violation
  | .ok _ => []
  | .refused vs => vs

/-- A check that refuses a value tells why. -/
def Tells (c : Check α) : Prop := c ≠ .refused []

theorem violations_map (f : α → β) (c : Check α) : (f <$> c).violations = c.violations := by
  cases c <;> rfl

/-- Both checks are heard, the first one first. -/
theorem violations_seq (f : Check (α → β)) (c : Check α) :
    (f <*> c).violations = f.violations ++ c.violations := by
  cases f with
  | ok f => cases c <;> rfl
  | refused vs =>
    cases c with
    | ok a => exact (List.append_nil vs).symm
    | refused vs' => rfl

theorem violations_field (name : String) (c : Check α) :
    (c.field name).violations = c.violations.map (Violation.under (.field name)) := by
  cases c <;> rfl

/-- The violations of one check for every name are those of each, in order. -/
theorem violations_names (f : String → Check α) : ∀ ns : List String,
    (names f ns).violations = ns.flatMap fun n => (f n).violations
  | [] => rfl
  | n :: ns => by
    rw [names, violations_seq, violations_map, violations_names f ns]
    rfl

theorem violations_eq_nil_iff {c : Check α} (h : c.Tells) :
    c.violations = [] ↔ ∃ a, c = .ok a := by
  cases c with
  | ok a => exact iff_of_true rfl ⟨a, rfl⟩
  | refused vs =>
    refine iff_of_false ?_ (by simp)
    rintro rfl
    exact h rfl

/-! ### Passing -/

theorem exists_map_eq_ok_iff {f : α → β} {c : Check α} :
    (∃ b, f <$> c = .ok b) ↔ ∃ a, c = .ok a := by
  cases c <;> simp

theorem exists_seq_eq_ok_iff {f : Check (α → β)} {c : Check α} :
    (∃ b, f <*> c = .ok b) ↔ (∃ g, f = .ok g) ∧ ∃ a, c = .ok a := by
  cases f <;> cases c <;> simp

theorem exists_field_eq_ok_iff {name : String} {c : Check α} :
    (∃ a, c.field name = .ok a) ↔ ∃ a, c = .ok a := by
  simp only [field_eq_ok_iff]

/-! ### Reasons -/

theorem tells_ok (a : α) : (Check.ok a).Tells := by
  intro h
  cases h

theorem tells_refuse (rule : Rule) : (refuse rule : Check α).Tells := by
  intro h
  cases h

theorem Tells.map {c : Check α} (h : c.Tells) (f : α → β) : (f <$> c).Tells := by
  cases c with
  | ok a => exact tells_ok (f a)
  | refused vs =>
    rintro hvs
    cases hvs
    exact h rfl

theorem Tells.seq {f : Check (α → β)} {c : Check α} (hf : f.Tells) (hc : c.Tells) :
    (f <*> c).Tells := by
  cases f with
  | ok f =>
    have hmap : (Check.ok f <*> c) = f <$> c := by cases c <;> rfl
    rw [hmap]
    exact hc.map f
  | refused vs =>
    have hvs : vs ≠ [] := fun hnil => hf (hnil ▸ rfl)
    cases c with
    | ok a =>
      rw [refused_seq_ok]
      simpa [Tells] using hvs
    | refused vs' =>
      rw [refused_seq_refused]
      simp [Tells, hvs]

theorem Tells.under {c : Check α} (h : c.Tells) (step : Step) : (c.under step).Tells := by
  cases c with
  | ok a => exact tells_ok a
  | refused vs =>
    have hvs : vs ≠ [] := fun hnil => h (hnil ▸ rfl)
    simpa [Tells, Check.under] using hvs

theorem Tells.field {c : Check α} (h : c.Tells) (name : String) : (c.field name).Tells :=
  h.under (.field name)

end Violations

/-! ### Checks of single values -/

variable {α β : Type}

theorem tells_eachFrom {f : α → Check β} (h : ∀ a, (f a).Tells) :
    ∀ (i : Nat) (as : List α), (eachFrom f i as).Tells
  | _, [] => tells_ok _
  | i, a :: as => (((h a).under (.item i)).map _).seq (tells_eachFrom h (i + 1) as)

theorem tells_list {item : Json → Check α} (h : ∀ v, (item v).Tells) (v : Json) :
    (list item v).Tells := by
  cases v with
  | list xs => exact tells_eachFrom h 0 xs
  | _ => exact tells_refuse _

theorem tells_nullable {c : Json → Check α} (h : ∀ v, (c v).Tells) (v : Json) :
    (nullable c v).Tells := by
  cases v with
  | null => exact tells_ok _
  | _ => exact (h _).map _

theorem tells_required {c : Json → Check α} (h : ∀ v, (c v).Tells) (es : List (Text × Json))
    (name : String) : (required es name c).Tells := by
  unfold required
  cases es.lookup (.unicode name) with
  | none => exact (tells_refuse _).field name
  | some v => exact (h v).field name

theorem tells_optional {c : Json → Check α} (h : ∀ v, (c v).Tells) (es : List (Text × Json))
    (name : String) : (optional es name c).Tells :=
  (tells_nullable h _).field name

theorem tells_object {fields : List (Text × Json) → Check α} (h : ∀ es, (fields es).Tells)
    (v : Json) : (object fields v).Tells := by
  cases v with
  | object es => exact h es
  | _ => exact tells_refuse _

theorem Tells.andThen {c : Check α} {f : α → Check β} (hc : c.Tells) (hf : ∀ a, (f a).Tells) :
    (c.andThen f).Tells := by
  cases c with
  | ok a => exact hf a
  | refused vs =>
    intro h
    cases h
    exact hc rfl

theorem tells_names {f : String → Check α} (h : ∀ name, (f name).Tells) :
    ∀ ns : List String, (names f ns).Tells
  | [] => tells_ok _
  | n :: ns => ((h n).map _).seq (tells_names h ns)

theorem tells_text (v : Json) : (text v).Tells := by
  cases v with
  | text s => exact tells_ok s
  | _ => exact tells_refuse _

theorem tells_unicode (t : Text) : (unicode t).Tells := by
  cases t with
  | unicode s => exact tells_ok s
  | broken => exact tells_refuse _

theorem tells_nonemptyOf (s : String) : (nonemptyOf s).Tells := by
  unfold nonemptyOf
  split
  · exact tells_refuse _
  · exact tells_ok _

theorem tells_nonempty (v : Json) : (nonempty v).Tells := by
  cases v with
  | text t => exact (tells_unicode t).andThen tells_nonemptyOf
  | _ => exact tells_refuse _

theorem tells_memberOf [Choice α] (s : String) : (memberOf α s).Tells := by
  unfold memberOf
  split
  · exact tells_ok _
  · exact tells_refuse _

theorem tells_member [Choice α] (v : Json) : (member α v).Tells := by
  cases v with
  | text t => exact (tells_unicode t).andThen tells_memberOf
  | _ => exact tells_refuse _

theorem tells_flagOfInt (n : Int) : (flagOfInt n).Tells := by
  unfold flagOfInt
  split
  · exact tells_ok _
  · split
    · exact tells_ok _
    · split <;> exact tells_refuse _

theorem tells_flagOfText (s : String) : (flagOfText s).Tells := by
  unfold flagOfText
  split
  · exact tells_ok _
  · split
    · exact tells_ok _
    · exact tells_refuse _

theorem tells_flag (v : Json) : (flag v).Tells := by
  cases v with
  | bool b => exact tells_ok b
  | int n => exact tells_flagOfInt n
  | decimal d =>
    simp only [flag, flagOfDecimal]
    split
    · split
      · exact tells_refuse _
      · exact tells_flagOfInt _
    · exact tells_refuse _
  | text t => exact (tells_unicode t).andThen tells_flagOfText
  | _ => exact tells_refuse _

theorem tells_integerOfText (s : String) : (integerOfText s).Tells := by
  unfold integerOfText
  split
  · exact tells_refuse _
  · split
    · exact tells_ok _
    · exact tells_refuse _

theorem tells_integer (v : Json) : (integer v).Tells := by
  cases v with
  | int n => exact tells_ok n
  | bool b => exact tells_ok _
  | decimal d =>
    simp only [integer, integerOfDecimal]
    split
    · split
      · exact tells_ok _
      · exact tells_refuse _
    · exact tells_refuse _
  | text t => exact (tells_unicode t).andThen tells_integerOfText
  | _ => exact tells_refuse _

theorem tells_positive (v : Json) : (positive v).Tells := by
  refine (tells_integer v).andThen fun n => ?_
  unfold positiveOf
  split
  · exact tells_ok _
  · exact tells_refuse _

theorem tells_natural (v : Json) : (natural v).Tells := by
  refine (tells_integer v).andThen fun n => ?_
  unfold naturalOf
  split
  · exact tells_ok _
  · exact tells_refuse _

end Check

end VmResource
