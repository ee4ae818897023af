/-
# Messages

A message is a typed record for the same instance as a payload. Made from a
payload, it keeps the fields that it knows, provided that their values fit
the types of the fields, and forgets all others; null leaves a field unset.
A record of which no field is known may also be given by the names of its
fields alone, as a list or a text.
Written as a payload again, it shows the single fields that were set, to
whatever value, and every list and map of every record in it: an empty list
and one that is absent are the same to a message. Integers of 64 bits are
written as decimal text.

Key definitions: `Message`, `Message.ofPayload`, `Message.payload`,
`Instance.message`, `Instance.ofMessage`.
-/
import VmResource.Payload.Instance
import VmResource.Payload.Write
import VmResource.Text.Blank
import VmResource.Text.Digit
import VmResource.Text.Number

namespace VmResource

/-- A message, known by the payload it is written as. -/
structure Message where
  payload : Json
deriving DecidableEq

namespace Message

/-! ### Types of fields -/

/-- How the value given for a field, null if there is none, becomes the one
that is written, if any is. -/
abbrev FieldType := Json → Except Error (Option Json)

/-- A field of one value. -/
def single (read : Json → Except Error Json) : FieldType
  | .null => .ok none
  | v => some <$> read v

/-- A field of many values; null cannot be one of them. -/
def repeated (read : Json → Except Error Json) : FieldType
  | .null => .ok (some (.list []))
  | .list xs => (some ∘ Json.list) <$> xs.mapM read
  | _ => .error .unfitMessage

/-- A list or map of which nothing is ever given. -/
def always (v : Json) : FieldType := fun _ => .ok (some v)

/-- A string; a text with half of a surrogate pair is refused. -/
def text : Json → Except Error Json
  | .text (.unicode s) => .ok (.text s)
  | _ => .error .unfitMessage

/-- A truth value; no number or word stands for one here. -/
def flag : Json → Except Error Json
  | .bool b => .ok (.bool b)
  | _ => .error .unfitMessage

/-- The integer of a text, in digits of any script: a whole number of at most
`digitLimit` digits, or else a decimal that is whole. There may be blanks
around it, but no plain space. -/
def integerOfText? (s : String) : Option Int :=
  if ' ' ∈ s.toList then none
  else (Text.trimmed s.toList).mapM Text.plain? |>.bind fun cs =>
    match (Text.Numeral.ofGroups? cs).filter (·.digits.length ≤ digitLimit) with
    | some x => some x.toInt
    | none => (Decimal.ofText? cs).bind Decimal.whole?

/-- The integer that a value gives, as a number without a fraction or as
text. -/
def integer? : Json → Option Int
  | .int n => some n
  | .decimal d => d.whole?
  | .text (.unicode s) => integerOfText? s
  | _ => none

/-- An integer between two bounds. -/
def integer (low high : Int) (v : Json) : Except Error Int :=
  match integer? v with
  | some n => if low ≤ n ∧ n ≤ high then .ok n else .error .unfitMessage
  | none => .error .unfitMessage

/-- An integer of 32 bits with sign. -/
def int32 (v : Json) : Except Error Json := (integer (-2147483648) 2147483647 v).map .int

/-- An integer of 64 bits with sign, written as text. -/
def int64 (v : Json) : Except Error Json :=
  (integer (-Check.wordBound) (Check.wordBound - 1) v).map fun n => .text n.repr

/-- An integer of 64 bits without sign, written as text. -/
def uint64 (v : Json) : Except Error Json :=
  (integer 0 (2 * Check.wordBound - 1) v).map fun n => .text n.repr

/-- A name in brackets is that of an extension. A line may end after it. -/
def isExtension (name : Text) : Bool :=
  match CodePoint.chars? name.codes with
  | some ('[' :: cs) =>
    let line := if cs.getLast? = some '\n' then cs.dropLast else cs
    line.getLast? = some ']' ∧
      line.dropLast.all fun c => c.isAlphanum ∨ c = '.' ∨ c = '_'
  | _ => false

/-- The names of fields given without values: the items of a list, all of
them texts, or the characters of a text. -/
def names : Json → Except Error (List Text)
  | .list xs => xs.mapM fun
    | .text t => .ok t
    | _ => .error .unfitMessage
  | .text t => .ok t.characters
  | _ => .error .unfitMessage

/-- The entries of a record. Extensions are not taken, and of a field given
by its name alone the value is missed if the field is known. -/
def entries (known : List String) : Json → Except Error (List (Text × Json))
  | .object es => if es.any fun e => isExtension e.1 then .error .unfitMessage else .ok es
  | v => do
    let given ← names v
    if given.any fun name => name ∈ known.map Text.unicode ∨ isExtension name then
      .error .unfitMessage
    else .ok []

/-- A record of fields. -/
def record (fields : List (String × FieldType)) (v : Json) : Except Error Json := do
  let es ← entries (fields.map Prod.fst) v
  let written ← fields.mapM fun (key, type) => do
    return (key, ← type ((es.lookup (.unicode key)).getD .null))
  return Json.record written

/-! ### The records of an instance -/

/-- The tags. -/
def tags : Json → Except Error Json :=
  record [("fingerprint", single text), ("items", repeated text)]

/-- An entry of the metadata. -/
def metadataItem : Json → Except Error Json :=
  record [("key", single text), ("value", single text)]

/-- The metadata. -/
def metadata : Json → Except Error Json :=
  record [("fingerprint", single text), ("items", repeated metadataItem)]

/-- A service account. -/
def serviceAccount : Json → Except Error Json :=
  record [("email", single text), ("scopes", repeated text)]

/-- The scheduling. -/
def scheduling : Json → Except Error Json :=
  record [("automaticRestart", single flag), ("preemptible", single flag),
    ("onHostMaintenance", single text), ("nodeAffinities", always (.list []))]

/-- External access of an interface. -/
def accessConfig : Json → Except Error Json :=
  record [("name", single text), ("natIP", single text), ("type", single text)]

/-- A network interface. -/
def networkInterface : Json → Except Error Json :=
  record [("network", single text), ("name", single text), ("networkIP", single text),
    ("subnetwork", single text), ("accessConfigs", repeated accessConfig),
    ("aliasIpRanges", always (.list [])), ("aliasIpv6Ranges", always (.list [])),
    ("ipv6AccessConfigs", always (.list []))]

/-- What a disk is created with. -/
def initializeParams : Json → Except Error Json :=
  record [("sourceImage", single text), ("diskName", single text), ("diskType", single text),
    ("diskSizeGb", single int64), ("labels", always (.object [])), ("licenses", always (.list [])),
    ("replicaZones", always (.list [])), ("resourceManagerTags", always (.object [])),
    ("resourcePolicies", always (.list []))]

/-- A disk; members are plain texts here, and any text passes. -/
def disk : Json → Except Error Json :=
  record [("type", single text), ("source", single text), ("mode", single text),
    ("deviceName", single text), ("interface", single text), ("boot", single flag),
    ("autoDelete", single flag), ("index", single int32),
    ("initializeParams", single initializeParams), ("guestOsFeatures", always (.list [])),
    ("licenses", always (.list []))]

/-- The record of an instance. -/
def vm : Json → Except Error Json :=
  record [("id", single uint64), ("name", single text), ("selfLink", single text),
    ("zone", single text), ("machineType", single text), ("creationTimestamp", single text),
    ("description", single text), ("status", single text), ("statusMessage", single text),
    ("cpuPlatform", single text), ("canIpForward", single flag), ("tags", single tags),
    ("metadata", single metadata), ("scheduling", single scheduling), ("disks", repeated disk),
    ("networkInterfaces", repeated networkInterface),
    ("serviceAccounts", repeated serviceAccount), ("guestAccelerators", always (.list [])),
    ("labels", always (.object [])), ("resourcePolicies", always (.list []))]

/-- The message of a payload. On its way a payload is written as text, so it
must not hold an integer that is too long for that. -/
def ofPayload (p : Json) : Except Error Message :=
  if p.quotable then Message.mk <$> vm p else .error .integerTooLong

end Message

namespace Instance

/-- The message of an instance. -/
def message (x : Instance) : Except Error Message := x.payload >>= Message.ofPayload

/-- Reads an instance from a message. -/
def ofMessage (m : Message) : Traced Instance := ofPayload m.payload

end Instance
end VmResource
