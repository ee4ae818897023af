/-
# Enumerations

A field that takes one of a few members takes it by name, in exact spelling.

Key definitions: `Choice`, `Choice.ofName?`, `Choice.read`.
Key theorems: `Choice.ofName?_name`, `Choice.ofName?_eq_some_iff`.
-/
import VmResource.Json.Access

namespace VmResource

/-- A type of a few members with distinct names. -/
class Choice (α : Type) where
  members : List α
  name : α → String
  mem_members : ∀ a, a ∈ members
  name_injective : ∀ {a b}, name a = name b → a = b

namespace Choice

variable {α : Type} [Choice α]

/-- The member of a name. -/
def ofName? (s : String) : Option α := members.find? (name · = s)

theorem ofName?_eq_some_iff {s : String} {a : α} : ofName? s = some a ↔ name a = s := by
  constructor
  · intro h
    simpa using List.find?_some h
  · intro h
    cases hf : (ofName? s : Option α) with
    | none => exact absurd h (by simpa using List.find?_eq_none.mp hf a (mem_members a))
    | some b =>
      have hb : name b = s := by simpa using List.find?_some hf
      exact congrArg some (name_injective (hb.trans h.symm))

@[simp] theorem ofName?_name (a : α) : ofName? (name a) = some a := ofName?_eq_some_iff.mpr rfl

/-- Reads the member that a value of `field` names. A list or object cannot
be a name at all. -/
def read (α : Type) [Choice α] (field : String) (v : Json) : Except Error α :=
  let unknown := Malformation.unknownMember field v ((members : List α).map name)
  match v with
  | .text (.unicode s) =>
    match ofName? s with
    | some a => .ok a
    | none => .error (.about v unknown (some (.noSuchMember v)))
  | .list _ | .object _ => .error (.about v unknown (some .wrongForm))
  | _ => .error (.about v unknown (some (.noSuchMember v)))

end Choice
end VmResource
