/-
# The entries of a payload

Readers look keys up and mostly treat an absent key as a null value; writers
leave out what is unset. Seen through `valueOf`, the value of a key or null,
the two are inverse: what is written under a key is found there, and a field
that was left out is found to be null, which reads as unset.

Key definitions: `Json.valueOf`, `Json.entriesSet`.
Key theorems: `Json.valueOf_entriesSet`, `Json.ifSet_eq_ok_iff`,
`Json.ifSet_map_getD`, `Check.nullable_map_getD`.
-/
import VmResource.Check.Scalar
import VmResource.Proofs.Outcome

namespace VmResource

namespace Json

/-- The value of a key among entries, null if none of them has it. -/
def valueOf (es : List (Text × Json)) (key : Text) : Json := (es.lookup key).getD .null

/-- The entries of those that have a value. -/
def entriesSet (entries : List (String × Option Json)) : List (Text × Json) :=
  entries.filterMap fun (key, value) => value.map (.unicode key, ·)

theorem record_eq (entries : List (String × Option Json)) :
    record entries = .object (entriesSet entries) := rfl

theorem record_ne_null (entries : List (String × Option Json)) : record entries ≠ .null := by
  simp [record]

/-- What is written under a key is found there. -/
theorem valueOf_entriesSet {entries : List (String × Option Json)} (key : String)
    (h : (entries.map Prod.fst).Nodup) :
    valueOf (entriesSet entries) key = (entries.lookup key).join.getD .null := by
  rw [valueOf, entriesSet, lookup_record h]

/-! ### Looking up -/

/-- Of entries with distinct keys each is the one found under its key. -/
theorem lookup_eq_some_of_mem {κ α : Type} [BEq κ] [LawfulBEq κ] {es : List (κ × α)}
    (hkeys : (es.map Prod.fst).Nodup) {key : κ} {v : α} (h : (key, v) ∈ es) :
    es.lookup key = some v := by
  induction es with
  | nil => simp at h
  | cons e es ih =>
    obtain ⟨first, w⟩ := e
    rw [List.map_cons, List.nodup_cons] at hkeys
    rw [List.lookup_cons]
    rcases List.mem_cons.mp h with hfirst | hrest
    · obtain ⟨rfl, rfl⟩ := Prod.mk.inj hfirst
      simp
    · have hne : key ≠ first := by
        rintro rfl
        exact hkeys.1 (List.mem_map.mpr ⟨(key, v), hrest, rfl⟩)
      rw [show (key == first) = false from beq_false_of_ne hne]
      exact ih hkeys.2 hrest

@[simp] theorem get_object (es : List (Text × Json)) (key : String) :
    (Json.object es).get key = .ok (valueOf es key) := rfl

theorem get_eq_ok_iff {v w : Json} {key : String} :
    v.get key = .ok w ↔ ∃ es, v = .object es ∧ valueOf es key = w := by
  cases v <;> simp [get, valueOf]

/-- Only an object has keys. -/
theorem get_bind_of_not_object {α : Type} {v : Json} {key : String} {f : Json → Except Error α}
    (h : ∀ es, v ≠ .object es) : v.get key >>= f = .error .attributeMissing := by
  cases v with
  | object es => exact absurd rfl (h es)
  | _ => rfl

/-- A value other than null is one that an entry has. -/
theorem lookup_eq_some_iff {es : List (Text × Json)} {key : Text} {v : Json} (h : v ≠ .null) :
    es.lookup key = some v ↔ valueOf es key = v := by
  rw [valueOf]
  cases es.lookup key with
  | none => simpa using h.symm
  | some w => simp

theorem require_eq_ok_iff {v w : Json} {key : String} :
    v.require key = .ok w ↔ ∃ es, v = .object es ∧ es.lookup (.unicode key) = some w := by
  cases v with
  | object es =>
    simp only [require, object.injEq, exists_eq_left']
    cases es.lookup (.unicode key) <;> simp
  | _ => simp [require]

/-! ### Values that may be unset -/

theorem ifSet_null {α : Type} (read : Json → Except Error α) : ifSet read .null = .ok none := rfl

theorem ifSet_of_ne_null {α : Type} (read : Json → Except Error α) {v : Json} (h : v ≠ .null) :
    ifSet read v = some <$> read v := by
  cases v with
  | null => exact absurd rfl h
  | _ => rfl

/-- A value is read as unset if it is null, and as itself otherwise. -/
theorem ifSet_eq_ok_iff {α : Type} {read : Json → Except Error α} {v : Json} {o : Option α} :
    ifSet read v = .ok o ↔
      (v = .null ∧ o = none) ∨ (v ≠ .null ∧ ∃ a, read v = .ok a ∧ o = some a) := by
  by_cases h : v = .null
  · subst h
    simp [ifSet_null, eq_comm]
  · rw [ifSet_of_ne_null read h, Except.map_eq_ok_iff]
    simp [h, eq_comm]

/-- Some value is read exactly if null or a readable value is there. -/
theorem exists_ifSet_eq_ok_iff {α : Type} {read : Json → Except Error α} {v : Json} :
    (∃ o, ifSet read v = .ok o) ↔ v = .null ∨ ∃ a, read v = .ok a := by
  by_cases h : v = .null
  · simp [h, ifSet_null]
  · simp [ifSet_of_ne_null read h, Except.map_eq_ok_iff, h]

/-- An optional field that is written, or left out, is read back. -/
theorem ifSet_map_getD {α : Type} {read : Json → Except Error α} {write : α → Json}
    {o : Option α} (h : ∀ a, o = some a → write a ≠ .null ∧ read (write a) = .ok a) :
    ifSet read ((o.map write).getD .null) = .ok o := by
  cases o with
  | none => rfl
  | some a =>
    obtain ⟨hne, hread⟩ := h a rfl
    rw [Option.map_some, Option.getD_some, ifSet_of_ne_null read hne, hread]
    rfl

end Json

namespace Check

open Json (valueOf)

theorem nullable_null {α : Type} (c : Json → Check α) : nullable c .null = .ok none := rfl

theorem nullable_of_ne_null {α : Type} (c : Json → Check α) {v : Json} (h : v ≠ .null) :
    nullable c v = some <$> c v := by
  cases v with
  | null => exact absurd rfl h
  | _ => rfl

/-- A field may be null or pass its check. -/
theorem exists_nullable_eq_ok_iff {α : Type} {c : Json → Check α} {v : Json} :
    (∃ o, nullable c v = .ok o) ↔ v = .null ∨ ∃ a, c v = .ok a := by
  by_cases h : v = .null
  · simp [h, nullable_null]
  · simp [nullable_of_ne_null c h, map_eq_ok_iff, h]

/-- An optional field that is written, or left out, passes its check as it
was. -/
theorem nullable_map_getD {α : Type} {c : Json → Check α} {write : α → Json} {o : Option α}
    (h : ∀ a, write a ≠ .null ∧ c (write a) = .ok a) :
    nullable c ((o.map write).getD .null) = .ok o := by
  cases o with
  | none => rfl
  | some a =>
    obtain ⟨hne, hc⟩ := h a
    rw [Option.map_some, Option.getD_some, nullable_of_ne_null c hne, hc]
    rfl

@[simp] theorem nullable_text_map_getD (o : Option Text) :
    nullable text ((o.map .text).getD .null) = .ok o :=
  nullable_map_getD fun _ => ⟨by simp, rfl⟩

@[simp] theorem nullable_flag_map_getD (o : Option Bool) :
    nullable flag ((o.map .bool).getD .null) = .ok o :=
  nullable_map_getD fun _ => ⟨by simp, rfl⟩

theorem text_eq_ok_iff {v : Json} {t : Text} : text v = .ok t ↔ v = .text t := by
  cases v <;> simp [text, refuse]

theorem andThen_eq_ok_iff {α β : Type} {c : Check α} {f : α → Check β} {b : β} :
    c.andThen f = .ok b ↔ ∃ a, c = .ok a ∧ f a = .ok b := by
  cases c <;> simp [andThen]

theorem unicode_eq_ok_iff {t : Text} {s : String} : unicode t = .ok s ↔ t = .unicode s := by
  cases t <;> simp [unicode, refuse]

theorem nonemptyOf_eq_ok_iff {s : String} {n : NonemptyText} :
    nonemptyOf s = .ok n ↔ s = n.text := by
  unfold nonemptyOf
  split
  · next hs =>
    subst hs
    simpa [refuse] using Ne.symm n.text_ne_empty
  · exact ⟨fun h => ok.inj h ▸ rfl, fun h => by subst h; rfl⟩

theorem nonempty_eq_ok_iff {v : Json} {n : NonemptyText} :
    nonempty v = .ok n ↔ v = .text (.unicode n.text) := by
  cases v with
  | text t => simp [nonempty, andThen_eq_ok_iff, unicode_eq_ok_iff, nonemptyOf_eq_ok_iff]
  | _ => simp [nonempty, refuse]

end Check
end VmResource
