/-
# Records

Some operations leave records of what they did or found odd. An operation
has its records besides its outcome, also when it fails; which of them are
kept is decided by a threshold. A threshold of 0 stands for none of its own,
and warnings are kept then.

Key definitions: `Record`, `Traced`, `Threshold`, `Threshold.admits`,
`Threshold.ofJson`.
-/
import VmResource.Error

namespace VmResource

/-- How much a record matters. -/
inductive Severity where
  | debug
  | warning
deriving DecidableEq, Repr

namespace Severity

/-- The rank by which severities are compared. -/
def rank : Severity → Int
  | .debug => 10
  | .warning => 30

/-- The name of a severity. -/
def name : Severity → String
  | .debug => "DEBUG"
  | .warning => "WARNING"

end Severity

/-- What an operation has to say. -/
structure Record where
  severity : Severity
  text : Text
deriving DecidableEq, Repr

/-- What an operation came to and the records it left. -/
structure Traced (α : Type) where
  outcome : Except Error α
  records : List Record

namespace Traced

variable {α β : Type}

/-- An outcome without records. -/
def silent (outcome : Except Error α) : Traced α := ⟨outcome, []⟩

/-- A failure without records. -/
def failed (e : Error) : Traced α := ⟨.error e, []⟩

/-- Changes the value, not the records. -/
def map (f : α → β) (t : Traced α) : Traced β := ⟨f <$> t.outcome, t.records⟩

/-- Goes on with the value of a first operation, if there is one. -/
def andThen (t : Traced α) (f : α → Traced β) : Traced β :=
  match t.outcome with
  | .ok a => ⟨(f a).outcome, t.records ++ (f a).records⟩
  | .error e => ⟨.error e, t.records⟩

end Traced

/-- The least rank that a record must have to be kept. -/
structure Threshold where
  level : Int
deriving DecidableEq, Repr

namespace Threshold

/-- Keeps everything. -/
def everything : Threshold := ⟨Severity.debug.rank⟩

/-- Whether a record is kept. -/
def admits (t : Threshold) (r : Record) : Bool :=
  (if t.level = 0 then Severity.warning.rank else t.level) ≤ r.severity.rank

/-- The levels that have names. -/
def named : List (Text × Int) :=
  [("CRITICAL", 50), ("FATAL", 50), ("ERROR", 40), ("WARN", 30), ("WARNING", 30), ("INFO", 20),
    ("DEBUG", 10), ("NOTSET", 0)]

/-- Reads a level, given as a number or by name. -/
def ofJson : Json → Except Error Threshold
  | .int n => .ok ⟨n⟩
  | .bool b => .ok ⟨if b then 1 else 0⟩
  | .text t =>
    match named.lookup t with
    | some n => .ok ⟨n⟩
    | none => .error .noSuchSeverity
  | _ => .error .wrongForm

end Threshold
end VmResource
