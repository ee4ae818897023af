/-
# Addresses

An address is what a link tells of a resource: the project, if it names one,
and the names on the path inside the project. Any text can stand for each of
them; whether they can be parts of an identity is checked later. The link of
an address is the path in its project, or the bare path without one.

An address is read from a URL that ends in its path. `projects/` and the
name of the project may come before the path, and before them anything that
ends in `/` and stays on one line. Since a path has a fixed number of
segments and a name is one segment, a URL can be read in one way only.

Key definitions: `Identity.Address`, `Identity.Address.link`,
`Identity.Address.ofUrl?`, `Identity.Address.told`.
Key theorems: `Identity.Address.ofSegments?_append`.
-/
import VmResource.Identity.Kind
import VmResource.Json
import VmResource.Text.Path

namespace VmResource
namespace Identity

/-- What a link tells of a resource of kind `k`; the names are in the order of
the slots of its path. -/
structure Address (k : Kind) where
  project : Option Text
  names : List Text
  names_length : names.length = k.names.length
  names_ne_empty : ∀ n ∈ names, n ≠ ""
deriving DecidableEq, Repr

namespace Address

variable {k : Kind}

/-! ### Links of addresses -/

/-- The address under which all projects live. -/
def baseUrl : String := "https://www.googleapis.com/compute/v1/"

/-- The segments of the path inside the project. -/
def segments (a : Address k) : List Text := fill k.template a.names

/-- The path inside the project. -/
def relativePath (a : Address k) : Text := Text.path a.segments

/-- The path in the project, with what it takes to get there. -/
def link (a : Address k) : Text :=
  match a.project with
  | none => a.relativePath
  | some p => .unicode baseUrl ++ .unicode "projects/" ++ p ++ .unicode "/" ++ a.relativePath

/-! ### Reading a link -/

/-- A text on one line. -/
def isOneLine (t : Text) : Bool := !t.codes.contains (.char '\n')

/-- The project that the segments before a path name; no segments, no
project. -/
def projectBefore? (before : List Text) : Option (Option Text) :=
  match before.reverse with
  | [] => some none
  | [_] => none
  | project :: word :: rest =>
    if word = "projects" ∧ project ≠ "" ∧ rest.all isOneLine then some (some project) else none

/-- The address whose path ends these segments, with the project that comes
before it. -/
def ofSegments? (k : Kind) (segs : List Text) : Option (Address k) :=
  match match? k.template (segs.drop (segs.length - k.template.length)),
    projectBefore? (segs.take (segs.length - k.template.length)) with
  | some names, some project => some ⟨project, names.1, names.2.1, names.2.2⟩
  | _, _ => none

/-- The address that a URL tells of a resource of kind `k`. -/
def ofUrl? (k : Kind) (url : Text) : Option (Address k) := ofSegments? k url.segments

theorem segments_length (a : Address k) : a.segments.length = k.template.length :=
  fill_length _ _ a.names_length

/-- The path of an address is read back from the end of any segments, with
the project that comes before it. -/
theorem ofSegments?_append {k : Kind} (a : Address k) {before : List Text}
    (h : projectBefore? before = some a.project) :
    ofSegments? k (before ++ a.segments) = some a := by
  have hn : (before ++ a.segments).length - k.template.length = before.length := by
    rw [List.length_append, a.segments_length, Nat.add_sub_cancel]
  rw [ofSegments?, hn, List.drop_left, List.take_left, h]
  simp only [segments, match?_fill _ _ ⟨a.names_length, a.names_ne_empty⟩]

/-! ### Addresses as objects -/

/-- The parts of an address by the names of their fields; an unset project is
null. -/
def told (a : Address k) : List (Text × Json) :=
  (.unicode "project", (a.project.map Json.text).getD .null) ::
    (k.names.map Text.unicode).zip (a.names.map .text)

end Address
end Identity
end VmResource
