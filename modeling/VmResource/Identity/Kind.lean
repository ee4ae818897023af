/-
# Kinds of identities

Each kind of resource has a path of its own: fixed words with slots for
names between them, as `zones/{zone}/disks/{disk}`. Such a template is
filled with names and read back from the segments of a path.

Key definitions: `Identity.Kind`, `Identity.Part`, `Identity.Kind.template`,
`Identity.fill`, `Identity.match?`.
Key theorems: `Identity.match?_fill`, `Identity.fill_match?`,
`Identity.fill_length`.
-/
import VmResource.Text

namespace VmResource
namespace Identity

/-- A segment of a template. -/
inductive Part where
  | word (w : String)
  | slot (name : String)
deriving DecidableEq, Repr

/-- The names of the slots of a template. -/
def slotNames : List Part → List String
  | [] => []
  | .word _ :: ps => slotNames ps
  | .slot n :: ps => n :: slotNames ps

/-- The template with names in its slots. -/
def fill : List Part → List Text → List Text
  | [], _ => []
  | .word w :: ps, ns => .unicode w :: fill ps ns
  | .slot _ :: _, [] => []
  | .slot _ :: ps, n :: ns => n :: fill ps ns

/-- The names in the slots, if the segments have the form of the template. A
name may be any text that is not empty. -/
def match? : (ps : List Part) → List Text →
    Option { ns : List Text // ns.length = (slotNames ps).length ∧ ∀ n ∈ ns, n ≠ "" }
  | [], [] => some ⟨[], rfl, List.forall_mem_nil _⟩
  | .word w :: ps, s :: ss =>
    if s = .unicode w then (match? ps ss).map fun ns => ⟨ns.1, ns.2⟩ else none
  | .slot _ :: ps, s :: ss =>
    if h : s = "" then none
    else (match? ps ss).map fun ns =>
      ⟨s :: ns.1, by simp [slotNames, ns.2.1], List.forall_mem_cons.mpr ⟨h, ns.2.2⟩⟩
  | _, _ => none

/-- A template filled with names that are not empty is read back. -/
theorem match?_fill : ∀ (ps : List Part) (ns : List Text)
    (h : ns.length = (slotNames ps).length ∧ ∀ n ∈ ns, n ≠ ""),
    match? ps (fill ps ns) = some ⟨ns, h⟩
  | [], [], _ => rfl
  | [], _ :: _, h => by simp [slotNames] at h
  | .word w :: ps, ns, h => by
    have hn : ns.length = (slotNames ps).length ∧ ∀ n ∈ ns, n ≠ "" := h
    simp [fill, match?, match?_fill ps ns hn]
  | .slot _ :: _, [], h => by simp [slotNames] at h
  | .slot _ :: ps, n :: ns, h => by
    obtain ⟨hfirst, hrest⟩ := List.forall_mem_cons.mp h.2
    have hn : ns.length = (slotNames ps).length := by simpa [slotNames] using h.1
    simp [fill, match?, hfirst, match?_fill ps ns ⟨hn, hrest⟩]

/-- A filled template has a segment for each of its parts. -/
theorem fill_length : ∀ (ps : List Part) (ns : List Text),
    ns.length = (slotNames ps).length → (fill ps ns).length = ps.length
  | [], _, _ => rfl
  | .word w :: ps, ns, h => by simp [fill, fill_length ps ns h]
  | .slot _ :: _, [], h => by simp [slotNames] at h
  | .slot _ :: ps, n :: ns, h => by
    have hn : ns.length = (slotNames ps).length := by simpa [slotNames] using h
    simp [fill, fill_length ps ns hn]

/-- What is read from segments fills the template with the same segments. -/
theorem fill_match? : ∀ {ps : List Part} {ss : List Text}
    {ns : { ns : List Text // ns.length = (slotNames ps).length ∧ ∀ n ∈ ns, n ≠ "" }},
    match? ps ss = some ns → fill ps ns.1 = ss
  | [], [], _, h => by
    simp only [match?, Option.some.injEq] at h
    subst h
    rfl
  | .word w :: ps, s :: ss, ns, h => by
    simp only [match?] at h
    split at h
    · next hs =>
      obtain ⟨ms, hm, rfl⟩ := Option.map_eq_some_iff.mp h
      simp [fill, fill_match? hm, hs]
    · cases h
  | .slot _ :: ps, s :: ss, ns, h => by
    simp only [match?] at h
    split at h
    · cases h
    · obtain ⟨ms, hm, rfl⟩ := Option.map_eq_some_iff.mp h
      simp [fill, fill_match? hm]
  | [], _ :: _, _, h => by cases h
  | .word _ :: _, [], _, h => by cases h
  | .slot _ :: _, [], _, h => by cases h

/-- The resources that have an identity. -/
inductive Kind where
  | zone
  | vm
  | machineType
  | disk
  | diskType
  | image
  | network
  | subnetwork
deriving DecidableEq, Repr

namespace Kind

/-- The class name of the identities of a kind. -/
def title : Kind → String
  | .zone => "ZoneId"
  | .vm => "InstanceId"
  | .machineType => "MachineTypeId"
  | .disk => "DiskId"
  | .diskType => "DiskTypeId"
  | .image => "ImageId"
  | .network => "NetworkId"
  | .subnetwork => "SubnetworkId"

/-- The path of a resource inside its project. -/
def template : Kind → List Part
  | .zone => [.word "zones", .slot "zone"]
  | .vm => [.word "zones", .slot "zone", .word "instances", .slot "instance"]
  | .machineType => [.word "zones", .slot "zone", .word "machineTypes", .slot "machine_type"]
  | .disk => [.word "zones", .slot "zone", .word "disks", .slot "disk"]
  | .diskType => [.word "zones", .slot "zone", .word "diskTypes", .slot "disk_type"]
  | .image => [.word "global", .word "images", .slot "image"]
  | .network => [.word "global", .word "networks", .slot "network"]
  | .subnetwork => [.word "regions", .slot "region", .word "subnetworks", .slot "subnetwork"]

/-- The names that an identity of a kind has, beside its project. -/
abbrev names (k : Kind) : List String := slotNames k.template

theorem names_ne_nil (k : Kind) : k.names ≠ [] := by cases k <;> decide

end Kind
end Identity
end VmResource
