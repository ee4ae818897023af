/-
# Numbers and instants in payloads

A payload gives an integer as a number or as decimal text, and an instant as
the text of a date-time. Unlike a check, such a reader stops at the first
thing that is wrong and tells the field it belongs to.

Key definitions: `Payload.integer`, `Payload.integerText`,
`Payload.timestamp`, `Payload.timestampText`.
-/
import VmResource.Json.Access
import VmResource.Text.Integer
import VmResource.Time.DateTime

namespace VmResource
namespace Payload

/-- The integer that a value of `field` gives, as a number or in at most
`digitLimit` digits. -/
def integer (field : String) (v : Json) : Except Error Int :=
  match v with
  | .int n => .ok n
  | .text (.unicode s) =>
    match Text.Numeral.ofText? s with
    | some x => if digitLimit < x.digits.length then .error .integerTooLong else .ok x.toInt
    | none => .error (.about v (.notInteger field v) none)
  | _ => .error (.about v (.notInteger field v) none)

/-- The shortest decimal text of an integer, if it is not too long. -/
def integerText (n : Int) : Except Error String :=
  if isLong n then .error .integerTooLong else .ok n.repr

/-- The instant that a date-time text gives. -/
def timestamp (v : Json) : Except Error Int :=
  match v with
  | .text (.unicode s) =>
    match DateTime.ofText? s with
    | none => .error (.malformed (.notDateTime s) none)
    | some t =>
      if t.IsValid then .ok t.instant
      else .error (.malformed (.noSuchDateTime s) (some (.invalid "datetime" [])))
  | .text t => .error (.malformed (.notDateTime t) none)
  | _ => .error (.about v (.timestampNotText v) none)

/-- The date-time text of an instant. -/
def timestampText (n : Int) : Except Error String :=
  match Instant.text? n with
  | some s => .ok s
  | none => .error .instantOutOfRange

end Payload
end VmResource
