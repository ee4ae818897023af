/-
# Moving to another project

A resource moves with all the identities in it. Only the image of a created
disk may stay where it is: images of other projects are shared, so an image
moves if it has no project yet or is of the project that the instance is
moved from.

Key definitions: `NetworkInterface.withProject`, `AttachedDisk.withProject`,
`Instance.withProject`.
-/
import VmResource.Instance.Basic
import VmResource.Journal

namespace VmResource

namespace NetworkInterface

/-- Network and subnetwork move together. -/
def withProject (project : Option Text) (nic : NetworkInterface) : NetworkInterface :=
  { nic with
    network := nic.network.withProject project
    subnetwork := nic.subnetwork.map (·.withProject project) }

end NetworkInterface

namespace DiskConfiguration

/-- Whether an image moves along from the project `previous`. -/
def imageMoves (previous : Option Text) (image : Identity .image) : Bool :=
  image.project = none ∨ image.project = previous

/-- The disk in another project; `previous` is the one it is moved from. -/
def withProject (project previous : Option Text) : DiskConfiguration → DiskConfiguration
  | .persistent d => .persistent { d with source := d.source.withProject project }
  | .create d => .create { d with
      image := if imageMoves previous d.image then d.image.withProject project else d.image
      type := d.type.map (·.withProject project) }
  | .scratch d => .scratch { d with type := d.type.map (·.withProject project) }

end DiskConfiguration

namespace AttachedDisk

/-- The disk in another project, its name and index as they were. -/
def withProject (project previous : Option Text) (d : AttachedDisk) : AttachedDisk :=
  { d with configuration := d.configuration.withProject project previous }

end AttachedDisk

namespace Instance

/-- The instance with every identity in `project`. -/
def moved (project : Text) (x : Instance) : Instance :=
  { x with
    id := x.id.withProject project
    machineType := x.machineType.withProject project
    interfaces := x.interfaces.map (·.withProject project)
    disks := x.disks.map (·.withProject project x.id.project) }

/-- Moves an instance to a project, which must have a name. -/
def withProject (project : Option Text) (x : Instance) : Traced Instance :=
  match project with
  | none => .failed .projectMissing
  | some p =>
    if p = "" then .failed .projectMissing
    else ⟨.ok (x.moved p), [⟨.debug, .unicode ("Rebinding " ++ x.id.name ++ " to project ") ++ p⟩]⟩

end Instance
end VmResource
