/-
# Identities

A resource belongs to a project, which may still be unknown, and has names
that tell it apart inside the project. An identity is made from an object of
these, which are strings of at least one character; its link is that of the
address they are. The project can be replaced at any time, and is taken then
as it is.

Key definitions: `Identity`, `Identity.check`, `Identity.address`,
`Identity.selfLink`, `Identity.withProject`, `Identity.zone`.
-/
import VmResource.Check.Scalar
import VmResource.Identity.Address

namespace VmResource

/-- The identity of a resource of kind `k`; the names are in the order of
the slots of its path. -/
structure Identity (k : Identity.Kind) where
  project : Option Text
  names : List NonemptyText
  names_length : names.length = k.names.length
deriving DecidableEq, Repr

namespace Identity

variable {k : Kind}

/-- Checks an object of the fields of an identity: the project, which may be
unset, and the names. -/
def check (k : Kind) : Json → Check (Identity k) :=
  Check.object fun es =>
    (fun project names => ⟨project.map fun p => .unicode p.text, names.1, names.2⟩) <$>
      Check.optional es "project" Check.nonempty <*>
      Check.names (fun name => Check.required es name Check.nonempty) k.names

/-- The identity at an address. -/
def Address.check (a : Address k) : Check (Identity k) := Identity.check k (.object a.told)

/-- The address of a resource. -/
def address (id : Identity k) : Address k where
  project := id.project
  names := id.names.map fun n => .unicode n.text
  names_length := by rw [List.length_map, id.names_length]
  names_ne_empty := by simpa using fun n _ => n.text_ne_empty

/-- The path inside the project. -/
def relativePath (id : Identity k) : Text := id.address.relativePath

/-- The full address, or the bare path while there is no project. -/
def selfLink (id : Identity k) : Text := id.address.link

/-- The same resource in another project. -/
def withProject (project : Option Text) (id : Identity k) : Identity k := { id with project }

theorem names_ne_nil (id : Identity k) : id.names ≠ [] := fun h =>
  k.names_ne_nil (List.length_eq_zero_iff.mp (by rw [← id.names_length, h]; rfl))

/-- The first name: the zone or region of a resource that is in one. -/
def place (id : Identity k) : NonemptyText := id.names.head id.names_ne_nil

/-- The last name: the one of the resource itself. -/
def name (id : Identity k) : String := (id.names.getLast id.names_ne_nil).text

/-- The address of a zone. -/
def zoneIn (project : Option Text) (zone : NonemptyText) : Address .zone :=
  ⟨project, [.unicode zone.text], rfl, by simpa using zone.text_ne_empty⟩

/-- The zone of a resource that is in one; its parts are checked anew. -/
def zone (id : Identity k) : Except Error (Identity .zone) :=
  (zoneIn id.project id.place).check.orInvalid Kind.zone.title

end Identity
end VmResource
