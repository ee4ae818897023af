/-
# Violations

A value that is to become a resource is checked against the rules of its
fields. Each rule that it breaks is one violation, with the path to the
offending part: names of fields and positions in lists, outermost first.

Key definitions: `Violation`, `Rule`, `Rule.code`.
-/

namespace VmResource

/-- One step of the path to a part of a value. -/
inductive Step where
  | field (name : String)
  | item (index : Nat)
deriving DecidableEq, Repr

/-- The rule that a part of a value breaks. -/
inductive Rule where
  /-- A required field is absent. -/
  | missing
  | notText
  /-- A text with half of a surrogate pair, where a string is due. -/
  | notUnicode
  /-- A text that must not be empty is. -/
  | emptyText
  /-- Neither a truth value nor a number nor a text that could stand for one. -/
  | notFlag
  /-- A number or text that stands for no truth value. -/
  | unreadableFlag
  | notInteger
  /-- A number with a fraction where a whole one is due. -/
  | fraction
  /-- An infinite number where a whole one is due. -/
  | infinite
  /-- A text that is no integer. -/
  | unreadableInteger
  /-- The text of an integer with too many digits. -/
  | longInteger
  | notPositive
  | negative
  /-- No member of an enumeration. -/
  | notMember
  | notList
  /-- More items than the place can hold. -/
  | tooManyItems
  /-- Neither an object nor a resource of the class that is due. -/
  | notResource
  /-- Nothing that could have a kind. -/
  | noKinds
  | kindMissing
  | kindUnknown
  /-- A kind other than that of the class. -/
  | wrongKind
  /-- Fields that only the service sets. -/
  | serviceAssigned (names : List String)
  /-- An assignment to a field of a value that never changes. -/
  | immutable
deriving DecidableEq, Repr

namespace Rule

/-- The short name of a rule, as reports give it. -/
def code : Rule → String
  | .missing => "missing"
  | .notText => "string_type"
  | .notUnicode => "string_unicode"
  | .emptyText => "string_too_short"
  | .notFlag => "bool_type"
  | .unreadableFlag => "bool_parsing"
  | .notInteger => "int_type"
  | .fraction => "int_from_float"
  | .infinite => "finite_number"
  | .unreadableInteger => "int_parsing"
  | .longInteger => "int_parsing_size"
  | .notPositive => "greater_than"
  | .negative => "greater_than_equal"
  | .notMember => "enum"
  | .notList => "tuple_type"
  | .tooManyItems => "too_long"
  | .notResource => "model_type"
  | .noKinds => "model_attributes_type"
  | .kindMissing => "union_tag_not_found"
  | .kindUnknown => "union_tag_invalid"
  | .wrongKind => "literal_error"
  | .serviceAssigned _ => "value_error"
  | .immutable => "frozen_instance"

/-- The sentence that goes with a rule, where its short name is not enough. -/
def message? : Rule → Option String
  | .serviceAssigned names =>
    some ("Value error, " ++ ", ".intercalate names ++ " can only be set by the service")
  | _ => none

end Rule

/-- A broken rule and where it is broken. -/
structure Violation where
  path : List Step
  rule : Rule
deriving DecidableEq, Repr

namespace Violation

/-- The same violation, seen from the value that holds this one at `step`. -/
def under (step : Step) (v : Violation) : Violation := ⟨step :: v.path, v.rule⟩

end Violation
end VmResource
