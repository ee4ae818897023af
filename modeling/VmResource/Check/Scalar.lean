/-
# Checks of single values

What fields take. Checks are lenient where it does no harm: a truth value
may also be given as 0 or 1 or by a word for it, an integer by a truth
value, by a number without a fraction or by a text that needs some tidying.
A text that is only kept may be broken; one that is looked into must be a
string.

Key definitions: `Check.text`, `Check.unicode`, `Check.nonempty`,
`Check.flag`, `Check.integer`, `Check.member`, `Check.list`,
`Check.nullable`.
-/
import VmResource.Check
import VmResource.Choice
import VmResource.Text.Nonempty
import VmResource.Text.Tidied

namespace VmResource

namespace Check

/-- A second check, of what the first one found. -/
def andThen {α β : Type} (c : Check α) (f : α → Check β) : Check β :=
  match c with
  | .ok a => f a
  | .refused vs => .refused vs

/-- A text, and nothing that could be written as one. -/
def text : Json → Check Text
  | .text t => .ok t
  | _ => refuse .notText

/-- The string of a text. -/
def unicode : Text → Check String
  | .unicode s => .ok s
  | .broken _ _ => refuse .notUnicode

/-- A string of at least one character. -/
def nonemptyOf (s : String) : Check NonemptyText :=
  if h : s = "" then refuse .emptyText else .ok ⟨s, h⟩

/-- A text that is a string of at least one character. -/
def nonempty : Json → Check NonemptyText
  | .text t => (unicode t).andThen nonemptyOf
  | _ => refuse .notText

/-! ### Truth values -/

/-- The words for true, in lower case. -/
def trueWords : List String := ["1", "on", "t", "true", "y", "yes"]

/-- The words for false, in lower case. -/
def falseWords : List String := ["0", "off", "f", "false", "n", "no"]

/-- Integers of 64 bits with sign are below this, 2 to the power of 63. -/
def wordBound : Int := 9223372036854775808

/-- Only 0 and 1 stand for truth values. Other integers of 64 bits can be
told apart from these; larger ones are not even looked at. -/
def flagOfInt (n : Int) : Check Bool :=
  if n = 0 then .ok false
  else if n = 1 then .ok true
  else if -wordBound ≤ n ∧ n < wordBound then refuse .unreadableFlag
  else refuse .notFlag

/-- A number with a point must be whole; the least integer of 64 bits is not
looked at either. -/
def flagOfDecimal (d : Decimal) : Check Bool :=
  match d.whole? with
  | some n => if n = -wordBound then refuse .notFlag else flagOfInt n
  | none => refuse .notFlag

/-- The word may be in any case, but has nothing around it. -/
def flagOfText (s : String) : Check Bool :=
  if s.toLower ∈ trueWords then .ok true
  else if s.toLower ∈ falseWords then .ok false
  else refuse .unreadableFlag

/-- A truth value, or a number or word for one. -/
def flag : Json → Check Bool
  | .bool b => .ok b
  | .int n => flagOfInt n
  | .decimal d => flagOfDecimal d
  | .text t => (unicode t).andThen flagOfText
  | _ => refuse .notFlag

/-! ### Integers -/

/-- The integer of a text, once it is tidied. -/
def integerOfText (s : String) : Check Int :=
  if Text.opensLong s.toList then refuse .longInteger
  else match (Text.tidied? s.toList).bind Text.shortest? with
    | some n => .ok n
    | none => refuse .unreadableInteger

/-- A number with a point must be whole, and small enough for a word. -/
def integerOfDecimal (d : Decimal) : Check Int :=
  match d.whole? with
  | some n => if -wordBound < n ∧ n < wordBound then .ok n else refuse .longInteger
  | none => refuse (if d.isInfinite then .infinite else .fraction)

/-- An integer, or another value that stands for one. -/
def integer : Json → Check Int
  | .int n => .ok n
  | .bool b => .ok (if b then 1 else 0)
  | .decimal d => integerOfDecimal d
  | .text t => (unicode t).andThen integerOfText
  | _ => refuse .notInteger

/-- The integer must be above zero. -/
def positiveOf (n : Int) : Check { n : Nat // 0 < n } :=
  if h : 0 < n then .ok ⟨n.toNat, by omega⟩ else refuse .notPositive

/-- The integer must not be below zero. -/
def naturalOf (n : Int) : Check Nat := if 0 ≤ n then .ok n.toNat else refuse .negative

/-- An integer above zero. -/
def positive (v : Json) : Check { n : Nat // 0 < n } := (integer v).andThen positiveOf

/-- An integer from zero on. -/
def natural (v : Json) : Check Nat := (integer v).andThen naturalOf

/-! ### Members, lists and unset values -/

/-- The member of this exact name. -/
def memberOf (α : Type) [Choice α] (s : String) : Check α :=
  match Choice.ofName? s with
  | some a => .ok a
  | none => refuse .notMember

/-- A member of an enumeration, by its exact name. -/
def member (α : Type) [Choice α] : Json → Check α
  | .text t => (unicode t).andThen (memberOf α)
  | _ => refuse .notMember

/-- A list, each item of it checked at its position. -/
def list {α : Type} (item : Json → Check α) : Json → Check (List α)
  | .list xs => each item xs
  | _ => refuse .notList

/-- Null stands for an unset value. -/
def nullable {α : Type} (c : Json → Check α) : Json → Check (Option α)
  | .null => .ok none
  | v => some <$> c v

/-! ### Entries of an object -/

/-- The field `name` of an object, which must be there. -/
def required {α : Type} (es : List (Text × Json)) (name : String) (c : Json → Check α) :
    Check α :=
  field name (match es.lookup (.unicode name) with
    | some v => c v
    | none => refuse .missing)

/-- The field `name` of an object, unset if it is absent or null. -/
def optional {α : Type} (es : List (Text × Json)) (name : String) (c : Json → Check α) :
    Check (Option α) :=
  field name (nullable c ((es.lookup (.unicode name)).getD .null))

/-- A resource is given as an object of its fields. -/
def object {α : Type} (fields : List (Text × Json) → Check α) : Json → Check α
  | .object es => fields es
  | _ => refuse .notResource

end Check
end VmResource
