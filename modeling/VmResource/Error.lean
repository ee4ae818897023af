/-
# Errors

What can go wrong, by its cause. A reason for which a payload is malformed
has a message of its own; so has an argument that is missing where a
resource is built. The other errors are plain facts about a value (it has no
such key, it is no object, …) that the reader of a payload meets on its way
and that mostly end as the cause of a malformed part.

Key definitions: `Error`, `Malformation`, `Error.message`, `Error.about`.
-/
import VmResource.Json.Shown
import VmResource.Check

namespace VmResource

/-- Why payload data does not have its expected form. -/
inductive Malformation where
  /-- The URL of an identity of the class `title` is no text. -/
  | urlNotText (title : String) (got : Json)
  /-- A text is no URL of the class `title`. -/
  | notUrl (title : String) (url : Text)
  /-- A value of `field` names none of the `expected` members. -/
  | unknownMember (field : String) (got : Json) (expected : List String)
  | notInteger (field : String) (got : Json)
  | timestampNotText (got : Json)
  | notDateTime (text : Text)
  /-- A date-time with numbers out of range. -/
  | noSuchDateTime (text : Text)
  /-- A part of an instance could not be read. -/
  | part (field : String)
  | partsNotList (field : String) (got : Json)
  | instanceNotObject (got : Json)
  | noSelfLink
  | noMachineType
  /-- The payload lacks a part that an instance needs. -/
  | incomplete (why : String)
  /-- The parts of the payload break the rules of an instance. -/
  | invalidInstance

namespace Malformation

/-- The sentence of a reason; it ends before what the cause would add. -/
def message : Malformation → String
  | .urlNotText title got => title ++ " URL must be a string, got " ++ got.shown
  | .notUrl title url => url.quoted ++ " is not a valid " ++ title ++ " URL"
  | .unknownMember field got expected =>
    "Unknown " ++ field ++ " " ++ got.shown ++ ", expected one of " ++ ", ".intercalate expected
  | .notInteger field got => field ++ " must be an integer, got " ++ got.shown
  | .timestampNotText got => "Timestamp must be a string, got " ++ got.shown
  | .notDateTime text => text.quoted ++ " is not an ISO-8601 date-time"
  | .noSuchDateTime text => "Malformed timestamp " ++ text.quoted
  | .part field => "Malformed " ++ field
  | .partsNotList field got => field ++ " must be a list, got " ++ got.shown
  | .instanceNotObject got => "Instance payload must be a dict, got " ++ got.shown
  | .noSelfLink => "Instance payload has no selfLink"
  | .noMachineType => "Instance payload has no machineType"
  | .incomplete why => "Incomplete instance payload: " ++ why
  | .invalidInstance => "Invalid instance payload"

end Malformation

/-- What keeps an operation from its result. -/
inductive Error where
  /-- A required argument is null. -/
  | argumentMissing (name : String)
  /-- A field without which nothing is built was never set. -/
  | notStaged (name : String)
  /-- A resource was to move to a project without a name. -/
  | projectMissing
  /-- Payload data of the wrong form, and what was found wrong first, if the
  reason does not tell it all. -/
  | malformed (reason : Malformation) (cause : Option Error)
  /-- A value of the class `subject` breaks rules. -/
  | invalid (subject : String) (violations : List Violation)
  /-- An object has no such key. -/
  | keyMissing (key : String)
  /-- No member of an enumeration has this name. -/
  | noSuchMember (name : Json)
  /-- A value has no parts of the kind asked for: it has no keys, or no items,
  or cannot be a name. -/
  | wrongForm
  /-- What was to be a pair has more or fewer than two items. -/
  | notPair
  /-- A value has no such attribute. -/
  | attributeMissing
  /-- An integer has more digits than its decimal text may have. -/
  | integerTooLong
  /-- No severity has this name. -/
  | noSuchSeverity
  /-- An instant lies outside the years 1 to 9999. -/
  | instantOutOfRange
  /-- A payload does not fit the fields of a message. -/
  | unfitMessage

namespace Error

/-- The sentence of an error; the plain facts have none of their own. -/
def message : Error → String
  | .argumentMissing name => name ++ " must not be None"
  | .notStaged name => name ++ " must be set before build()"
  | .projectMissing => "project_id is required"
  | .malformed reason _ => reason.message
  | .keyMissing key => Text.quoted key
  | .noSuchMember name => name.shown
  | _ => ""

/-- The error for a malformed value whose message shows `got`; a value that
cannot be shown is reported for its long integer instead. -/
def about (got : Json) (reason : Malformation) (cause : Option Error) : Error :=
  if got.quotable then .malformed reason cause else .integerTooLong

end Error

/-- The outcome of a check as a result: violations become one error about
the class `subject`. -/
def Check.orInvalid {α : Type} (subject : String) : Check α → Except Error α
  | .ok a => .ok a
  | .refused vs => .error (.invalid subject vs)

@[simp] theorem Check.orInvalid_ok {α : Type} (subject : String) (a : α) :
    (Check.ok a).orInvalid subject = .ok a := rfl

theorem Check.orInvalid_eq_ok_iff {α : Type} {subject : String} {c : Check α} {a : α} :
    c.orInvalid subject = .ok a ↔ c = .ok a := by
  cases c <;> simp [Check.orInvalid]

end VmResource
