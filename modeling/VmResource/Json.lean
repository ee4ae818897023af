/-
# JSON values

A payload is a JSON value: what the service sends for a resource, and what
is sent back to it. Objects keep their entries in the order given; numbers
written with a point are kept apart from whole ones, since a field may take
the one and refuse the other.

Key definitions: `Json`, `Json.alike`, `Json.record`, `Json.isBlank`.
Key theorems: `Json.same_iff`, which makes equality of values decidable, and
`Json.lookup_record`.
-/
import VmResource.Decimal.Nearest
import VmResource.Text

namespace VmResource

/-- A JSON value. -/
inductive Json where
  | null
  | bool (b : Bool)
  | int (n : Int)
  | decimal (d : Decimal)
  | text (t : Text)
  | list (xs : List Json)
  | object (entries : List (Text × Json))
deriving Inhabited

namespace Json

/-! ### Equality -/

mutual

/-- Two values are the same when they have the same form and parts, entries
of objects in the same order. -/
def same : Json → Json → Bool
  | .null, .null => true
  | .bool a, .bool b => a == b
  | .int a, .int b => a == b
  | .decimal a, .decimal b => a == b
  | .text a, .text b => a == b
  | .list xs, .list ys => sameItems xs ys
  | .object xs, .object ys => sameEntries xs ys
  | _, _ => false

/-- `same`, item by item. -/
def sameItems : List Json → List Json → Bool
  | [], [] => true
  | x :: xs, y :: ys => same x y && sameItems xs ys
  | _, _ => false

/-- `same`, entry by entry. -/
def sameEntries : List (Text × Json) → List (Text × Json) → Bool
  | [], [] => true
  | (k, x) :: xs, (l, y) :: ys => k == l && same x y && sameEntries xs ys
  | _, _ => false

end

mutual

theorem same_iff : ∀ a b : Json, same a b = true ↔ a = b
  | .null, b => by cases b <;> simp [same]
  | .bool a, b => by cases b <;> simp [same]
  | .int a, b => by cases b <;> simp [same]
  | .decimal a, b => by cases b <;> simp [same]
  | .text a, b => by cases b <;> simp [same]
  | .list xs, b => by cases b <;> simp [same, sameItems_iff xs]
  | .object xs, b => by cases b <;> simp [same, sameEntries_iff xs]

theorem sameItems_iff : ∀ xs ys : List Json, sameItems xs ys = true ↔ xs = ys
  | [], ys => by cases ys <;> simp [sameItems]
  | x :: xs, ys => by cases ys <;> simp [sameItems, same_iff x, sameItems_iff xs]

theorem sameEntries_iff : ∀ xs ys : List (Text × Json), sameEntries xs ys = true ↔ xs = ys
  | [], ys => by cases ys <;> simp [sameEntries]
  | (k, x) :: xs, ys => by
    rcases ys with _ | ⟨⟨l, y⟩, ys⟩ <;> simp [sameEntries, same_iff x, sameEntries_iff xs]

end

instance : DecidableEq Json := fun a b => decidable_of_iff _ (same_iff a b)

/-! ### Values of equal worth -/

/-- The integer that a truth value or a number is worth. -/
def whole? : Json → Option Int
  | .bool b => some (if b then 1 else 0)
  | .int n => some n
  | .decimal d => d.whole?
  | _ => none

/-- Two values without parts are worth the same: truth values count as 0 and
1, and a number has the same worth with and without a point. -/
def alikeScalar (v w : Json) : Bool :=
  match v, w with
  | .decimal a, .decimal b => a.alike b
  | v, w =>
    match v.whole?, w.whole? with
    | some m, some n => m == n
    | _, _ => same v w

mutual

/-- Two values are worth the same, whatever the order of the entries of an
object. -/
def alike : Json → Json → Bool
  | .list xs, .list ys => alikeItems xs ys
  | .object xs, .object ys => xs.length == ys.length && alikeEntries xs ys
  | v, w => alikeScalar v w

/-- `alike`, item by item. -/
def alikeItems : List Json → List Json → Bool
  | [], [] => true
  | x :: xs, y :: ys => alike x y && alikeItems xs ys
  | _, _ => false

/-- Every entry has one like it among others. -/
def alikeEntries : List (Text × Json) → List (Text × Json) → Bool
  | [], _ => true
  | (k, x) :: xs, ys =>
    (match ys.lookup k with
      | some y => alike x y
      | none => false) && alikeEntries xs ys

end

/-! ### Building and classifying values -/

/-- The object of those entries that have a value; an unset entry is left
out, not written as null. -/
def record (entries : List (String × Option Json)) : Json :=
  .object (entries.filterMap fun (key, value) => value.map (.unicode key, ·))

/-- An entry of a record is found under its key if it is set. -/
theorem lookup_record {key : String} {entries : List (String × Option Json)}
    (h : (entries.map Prod.fst).Nodup) :
    (entries.filterMap fun (key, value) => value.map (Text.unicode key, ·)).lookup (.unicode key) =
      (entries.lookup key).join := by
  induction entries with
  | nil => rfl
  | cons e es ih =>
    obtain ⟨k, v⟩ := e
    simp only [List.map_cons, List.nodup_cons, List.mem_map, not_exists, not_and] at h
    simp only [List.filterMap_cons, List.lookup_cons]
    cases hk : key == k with
    | false => cases v <;> simp [List.lookup_cons, hk, ih h.2]
    | true =>
      obtain rfl : key = k := by simpa using hk
      cases v with
      | some x => simp
      | none =>
        have hn : es.lookup key = none :=
          List.lookup_eq_none_iff.mpr fun p hp => by simpa using fun he => h.1 p hp he.symm
        simp [ih h.2, hn]

/-- A list of texts. -/
def texts (ts : List Text) : Json := .list (ts.map .text)

/-- Null, false, zero and the empty text, list and object count as blank. -/
def isBlank : Json → Bool
  | .null => true
  | .bool b => !b
  | .int n => n == 0
  | .decimal d => d.whole? == some 0
  | .text t => t = ""
  | .list xs => xs.isEmpty
  | .object es => es.isEmpty

end Json

end VmResource
