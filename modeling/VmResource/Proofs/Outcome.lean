/-
# When a reader succeeds

A reader of payloads is put together from smaller ones: one after the other,
item by item, with the errors of a part told as errors of the whole. The
value that the whole comes to is told by the values that its steps came to,
so every reader opens into its steps.

Key theorems: `Except.bind_eq_ok_iff`, `Except.mapM_eq_ok_iff`,
`Check.each_eq_ok_iff`.
-/
import Mathlib.Data.List.Forall2
import VmResource.Error

namespace VmResource

/-! ### Lists, item by item -/

section Lists

variable {α β γ : Type} {R : α → β → Prop} {S : β → γ → Prop}

/-- A list is related to some list if each of its items is to something. -/
theorem exists_forall₂_iff : ∀ {xs : List α},
    (∃ ys, List.Forall₂ R xs ys) ↔ ∀ x ∈ xs, ∃ y, R x y
  | [] => by simp
  | x :: xs => by
    rw [List.forall_mem_cons, ← exists_forall₂_iff]
    refine ⟨?_, ?_⟩
    · intro h
      obtain ⟨_, h⟩ := h
      obtain ⟨y, ys, hy, hys, -⟩ := List.forall₂_cons_left_iff.mp h
      exact ⟨⟨y, hy⟩, ys, hys⟩
    · intro h
      obtain ⟨⟨y, hy⟩, ys, hys⟩ := h
      exact ⟨y :: ys, .cons hy hys⟩

/-- Each item on the right belongs to one on the left. -/
theorem exists_mem_of_forall₂ {xs : List α} {ys : List β} (h : List.Forall₂ R xs ys) :
    ∀ y ∈ ys, ∃ x ∈ xs, R x y := by
  induction h with
  | nil => simp
  | @cons x y xs ys hxy _ ih =>
    intro z hz
    rcases List.mem_cons.mp hz with rfl | hz
    · exact ⟨x, List.mem_cons_self, hxy⟩
    · obtain ⟨w, hw, hwz⟩ := ih z hz
      exact ⟨w, List.mem_cons_of_mem _ hw, hwz⟩

/-- Two relations one after the other, item by item. -/
theorem exists_forall₂_and_iff : ∀ {xs : List α} {zs : List γ},
    (∃ ys, List.Forall₂ R xs ys ∧ List.Forall₂ S ys zs) ↔
      List.Forall₂ (fun x z => ∃ y, R x y ∧ S y z) xs zs
  | [], zs => by simp
  | x :: xs, zs => by
    rw [List.forall₂_cons_left_iff]
    refine ⟨?_, ?_⟩
    · intro h
      obtain ⟨_, hR, hS⟩ := h
      obtain ⟨y, ys, hy, hys, rfl⟩ := List.forall₂_cons_left_iff.mp hR
      obtain ⟨z, zs, hz, hzs, rfl⟩ := List.forall₂_cons_left_iff.mp hS
      exact ⟨z, zs, ⟨y, hy, hz⟩, exists_forall₂_and_iff.mp ⟨ys, hys, hzs⟩, rfl⟩
    · intro h
      obtain ⟨z, zs, ⟨y, hy, hz⟩, h, rfl⟩ := h
      obtain ⟨ys, hys, hzs⟩ := exists_forall₂_and_iff.mpr h
      exact ⟨y :: ys, .cons hy hys, .cons hz hzs⟩

end Lists

/-! ### Results -/

namespace Except

variable {ε α β : Type}

@[simp] theorem pure_eq (a : α) : (pure a : Except ε α) = .ok a := rfl

@[simp] theorem ok_bind (a : α) (f : α → Except ε β) : (Except.ok a >>= f) = f a := rfl

@[simp] theorem error_bind (e : ε) (f : α → Except ε β) :
    ((Except.error e : Except ε α) >>= f) = .error e := rfl

/-- Two steps come to what the second makes of the value of the first. -/
theorem bind_eq_ok_iff {x : Except ε α} {f : α → Except ε β} {b : β} :
    x >>= f = .ok b ↔ ∃ a, x = .ok a ∧ f a = .ok b := by
  cases x <;> simp

theorem map_eq_ok_iff {x : Except ε α} {f : α → β} {b : β} :
    f <$> x = .ok b ↔ ∃ a, x = .ok a ∧ f a = b := by
  cases x <;> simp [Functor.map, Except.map]

theorem toOption_eq_some_iff {x : Except ε α} {a : α} : x.toOption = some a ↔ x = .ok a := by
  cases x <;> simp [Except.toOption]

theorem map_toOption_eq_some_iff {x : Except ε α} {f : α → β} {b : β} :
    x.toOption.map f = some b ↔ ∃ a, x = .ok a ∧ f a = b := by
  simp only [Option.map_eq_some_iff, toOption_eq_some_iff]

theorem mapError_eq_ok_iff {x : Except ε α} {f : ε → ε} {a : α} :
    x.mapError f = .ok a ↔ x = .ok a := by
  cases x <;> simp [Except.mapError]

/-- A list is read if each of its items is. -/
theorem mapM_eq_ok_iff {f : α → Except ε β} : ∀ {xs : List α} {ys : List β},
    xs.mapM f = .ok ys ↔ List.Forall₂ (fun x y => f x = .ok y) xs ys
  | [], ys => by cases ys <;> simp
  | x :: xs, ys => by
    rw [List.mapM_cons, bind_eq_ok_iff, List.forall₂_cons_left_iff]
    refine ⟨?_, ?_⟩
    · intro h
      obtain ⟨b, hb, h⟩ := h
      obtain ⟨bs, hbs, h⟩ := bind_eq_ok_iff.mp h
      exact ⟨b, bs, hb, mapM_eq_ok_iff.mp hbs, (Except.ok.inj h).symm⟩
    · intro h
      obtain ⟨b, bs, hb, hbs, rfl⟩ := h
      exact ⟨b, hb, bind_eq_ok_iff.mpr ⟨bs, mapM_eq_ok_iff.mpr hbs, rfl⟩⟩

/-- Two steps fail as the first of them that fails. -/
theorem bind_eq_error_iff {x : Except ε α} {f : α → Except ε β} {e : ε} :
    x >>= f = .error e ↔ x = .error e ∨ ∃ a, x = .ok a ∧ f a = .error e := by
  cases x <;> simp

theorem map_eq_error_iff {x : Except ε α} {f : α → β} {e : ε} :
    f <$> x = .error e ↔ x = .error e := by
  cases x <;> simp [Functor.map, Except.map]

/-- A list fails as one of its items. -/
theorem exists_mem_of_mapM_eq_error {f : α → Except ε β} {e : ε} : ∀ {xs : List α},
    xs.mapM f = .error e → ∃ x ∈ xs, f x = .error e
  | [], h => by cases h
  | x :: xs, h => by
    rw [List.mapM_cons] at h
    rcases bind_eq_error_iff.mp h with hx | ⟨_, -, h⟩
    · exact ⟨x, List.mem_cons_self, hx⟩
    · rcases bind_eq_error_iff.mp h with hxs | ⟨_, -, h⟩
      · obtain ⟨y, hy, hfailed⟩ := exists_mem_of_mapM_eq_error hxs
        exact ⟨y, List.mem_cons_of_mem _ hy, hfailed⟩
      · cases h

end Except

/-! ### Checks -/

namespace Check

/-- What two checks make is known by what each of them makes. -/
theorem exists_seq_and_iff {α β : Type} {f : Check (α → β)} {c : Check α} {P : β → Prop} :
    (∃ b, f <*> c = .ok b ∧ P b) ↔ ∃ g, f = .ok g ∧ ∃ a, c = .ok a ∧ P (g a) := by
  cases f <;> cases c <;> simp

theorem exists_map_and_iff {α β : Type} {f : α → β} {c : Check α} {P : β → Prop} :
    (∃ b, f <$> c = .ok b ∧ P b) ↔ ∃ a, c = .ok a ∧ P (f a) := by
  cases c <;> simp

theorem eachFrom_eq_ok_iff {α β : Type} {f : α → Check β} :
    ∀ {i : Nat} {xs : List α} {ys : List β},
      eachFrom f i xs = .ok ys ↔ List.Forall₂ (fun x y => f x = .ok y) xs ys
  | _, [], ys => by cases ys <;> simp [eachFrom]
  | i, x :: xs, ys => by
    simp only [eachFrom, seq_eq_ok_iff, map_eq_ok_iff, under_eq_ok_iff, eachFrom_eq_ok_iff,
      List.forall₂_cons_left_iff]
    refine ⟨?_, ?_⟩
    · intro h
      obtain ⟨_, bs, ⟨b, hb, rfl⟩, hbs, rfl⟩ := h
      exact ⟨b, bs, hb, hbs, rfl⟩
    · intro h
      obtain ⟨b, bs, hb, hbs, rfl⟩ := h
      exact ⟨_, bs, ⟨b, hb, rfl⟩, hbs, rfl⟩

/-- A list passes if each of its items does. -/
theorem each_eq_ok_iff {α β : Type} {f : α → Check β} {xs : List α} {ys : List β} :
    each f xs = .ok ys ↔ List.Forall₂ (fun x y => f x = .ok y) xs ys :=
  eachFrom_eq_ok_iff

end Check
end VmResource
