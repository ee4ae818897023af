/-
# Building instances

A builder holds a value for each field of an instance, whatever it is; null
where nothing was set. A setter that refuses its value leaves the builder as
it was; the values are checked when the instance is built. A collection is
copied when it is set. An instance should have exactly one disk to start
from, and building one that has not leaves a warning.

Key definitions: `Builder`, `Builder.set`, `Builder.start`,
`Builder.ofInstance`, `Builder.build`, `Instance.of`.
Key theorems: `Builder.put_put`, `Builder.put_comm`.
-/
import VmResource.Check.Instance
import VmResource.Journal

namespace VmResource

/-- The values set for the fields of an instance to be. -/
structure Builder where
  staged : Instance.Field → Value

namespace Builder

open Instance (Field)

/-- A builder in which nothing was set. -/
def empty : Builder := ⟨fun _ => .null⟩

/-- The builder with another value for one field. -/
def put (b : Builder) (f : Field) (v : Value) : Builder :=
  ⟨fun g => if g = f then v else b.staged g⟩

@[simp] theorem staged_put_self (b : Builder) (f : Field) (v : Value) :
    (b.put f v).staged f = v := by
  simp [put]

theorem staged_put_of_ne (b : Builder) {f g : Field} (v : Value) (h : g ≠ f) :
    (b.put f v).staged g = b.staged g := by
  simp [put, h]

/-- The second of two values for a field wins. -/
@[simp] theorem put_put (b : Builder) (f : Field) (v w : Value) :
    (b.put f v).put f w = b.put f w := by
  simp only [put, mk.injEq]
  funext g
  split <;> rfl

/-- Values for two fields may come in either order. -/
theorem put_comm (b : Builder) {f g : Field} (v w : Value) (h : f ≠ g) :
    (b.put f v).put g w = (b.put g w).put f v := by
  simp only [put, mk.injEq]
  funext x
  by_cases hf : x = f <;> by_cases hg : x = g <;> simp_all

/-- The identities and the collections cannot be unset. -/
def needsValue (f : Field) : Bool := f = .id ∨ f = .machineType ∨ f.isCollection

/-- Sets a field. A collection must have items. -/
def set (b : Builder) (f : Field) (v : Value) : Except Error Builder :=
  if v.isNull ∧ needsValue f then .error (.argumentMissing f.name)
  else if f.isCollection then v.items.map fun xs => b.put f (.list xs)
  else .ok (b.put f v)

/-- The name of the setter of a field; a mark shows the setters that are only
for what the service assigns. -/
def setterName (f : Field) : String := if f ∈ Field.assigned then "_" ++ f.name else f.name

/-- The field that a setter sets. -/
def fieldOfSetter? (name : String) : Option Field := Field.all.find? (setterName · = name)

/-- A builder for an instance of this identity and machine type. -/
def start (id machineType : Value) : Except Error Builder := do
  (← empty.set .id id).set .machineType machineType

/-- A builder that holds the fields of an instance. -/
def ofInstance (x : Instance) : Builder := ⟨x.get⟩

/-- The number of disks to start from. -/
def bootCount (b : Builder) : Except Error Nat := do
  let flags ← (← (b.staged .disks).items).mapM Value.isBootDisk
  return flags.count true

/-- The warning about `count` disks to start from. It tells the name of the
instance, which must be known. -/
def bootWarning (b : Builder) (count : Nat) : Except Error (List Record) :=
  if count = 1 then .ok []
  else match b.staged .id with
    | .resource (.identity .vm id) =>
      .ok [⟨.warning, "Instance " ++ id.name ++ " has " ++ toString count ++
        " boot disks, expected exactly one"⟩]
    | _ => .error .attributeMissing

/-- Builds the instance. -/
def build (b : Builder) : Traced Instance :=
  if (b.staged .disks).isNull then .failed (.notStaged (Field.name .disks))
  else if (b.staged .interfaces).isNull then .failed (.notStaged (Field.name .interfaces))
  else match b.bootCount >>= b.bootWarning with
    | .error e => .failed e
    | .ok records =>
      ⟨(Instance.checkFields fun f => some (b.staged f)).orInvalid "InstanceInfo", records⟩

end Builder

namespace Instance

/-- An instance with one disk and one interface. -/
def of (id machineType disk interface : Value) : Traced Instance :=
  let staged := do
    let b ← Builder.start id machineType
    let b ← b.set .disks (.list [disk])
    b.set .interfaces (.list [interface])
  match staged with
  | .ok b => b.build
  | .error e => .failed e

end Instance
end VmResource
