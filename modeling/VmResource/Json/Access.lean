/-
# Reading the parts of a payload

A payload may have any form, so every look into one can fail. An absent key
and a null value mostly mean the same, that a field is unset: `get` makes
them one. Lists, texts (by character) and objects (by key) have items.

Key definitions: `Json.entry?`, `Json.get`, `Json.require`, `Json.items`,
`Json.ifSet`.
-/
import VmResource.Error

namespace VmResource
namespace Json

/-- The value of `key`, if an object has it. -/
def entry? (v : Json) (key : String) : Except Error (Option Json) :=
  match v with
  | .object es => .ok (es.lookup (.unicode key))
  | _ => .error .attributeMissing

/-- The value of `key`, null if an object lacks it. -/
def get (v : Json) (key : String) : Except Error Json :=
  match v with
  | .object es => .ok ((es.lookup (.unicode key)).getD .null)
  | _ => .error .attributeMissing

/-- The value of a key that must be there. -/
def require (v : Json) (key : String) : Except Error Json :=
  match v with
  | .object es =>
    match es.lookup (.unicode key) with
    | some x => .ok x
    | none => .error (.keyMissing key)
  | _ => .error .wrongForm

/-- The items of a list, the characters of a text or the keys of an object. -/
def items : Json → Except Error (List Json)
  | .list xs => .ok xs
  | .text t => .ok (t.characters.map .text)
  | .object es => .ok (es.map fun e => .text e.1)
  | _ => .error .wrongForm

/-- Reads a value unless it is null. -/
def ifSet {α : Type} (read : Json → Except Error α) : Json → Except Error (Option α)
  | .null => .ok none
  | v => some <$> read v

end Json
end VmResource
