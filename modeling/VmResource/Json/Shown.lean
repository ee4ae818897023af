/-
# Values in messages

The form in which a message shows the value that it refuses. Integers are
shown in full, up to `digitLimit` digits: a value that holds a longer one
has no shown form, and whoever needs one reports the long integer instead.

Key definitions: `Json.shown`, `Json.quotable`.
-/
import VmResource.Decimal.Shortest
import VmResource.Json
import VmResource.Text.Integer
import VmResource.Text.Quoted

namespace VmResource

/-- Integers from this size on have too many digits to be written. -/
def longBound : Nat := Nat.pow 10 digitLimit

/-- An integer of more than `digitLimit` digits. -/
def isLong (n : Int) : Bool := longBound ≤ n.natAbs

namespace Json

mutual

/-- A value as messages show it. -/
def shown : Json → String
  | .null => "None"
  | .bool b => if b then "True" else "False"
  | .int n => toString n
  | .decimal d => d.shown
  | .text t => t.quoted
  | .list xs => "[" ++ ", ".intercalate (shownItems xs) ++ "]"
  | .object es => "\x7b" ++ ", ".intercalate (shownEntries es) ++ "\x7d"

/-- The items of a list, each as shown. -/
def shownItems : List Json → List String
  | [] => []
  | x :: xs => shown x :: shownItems xs

/-- The entries of an object, key and value. -/
def shownEntries : List (Text × Json) → List String
  | [] => []
  | (k, x) :: es => (k.quoted ++ ": " ++ shown x) :: shownEntries es

end

mutual

/-- No integer in the value is too long to be written. -/
def quotable : Json → Bool
  | .int n => !isLong n
  | .list xs => quotableItems xs
  | .object es => quotableEntries es
  | _ => true

/-- `quotable` for every item. -/
def quotableItems : List Json → Bool
  | [] => true
  | x :: xs => quotable x && quotableItems xs

/-- `quotable` for every entry. -/
def quotableEntries : List (Text × Json) → Bool
  | [] => true
  | (_, x) :: es => quotable x && quotableEntries es

end

end Json
end VmResource
