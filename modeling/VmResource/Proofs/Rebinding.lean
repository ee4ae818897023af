/-
# What moves to another project

Moving an instance to a project gives it and everything that is attached to
it identities in that project, with the names that they had. The image of a
created disk is the exception: it stays where it is if it is of a third
project. Nothing else changes, so after a move no identity is left in the
project that the instance was moved from. Two moves come to the same as the
second one alone unless the first one went to a project that some image had
stayed in: that image is then taken along by the second.

Key definitions: `Identity.MovedTo`, `DiskConfiguration.ImageMovedTo`,
`Instance.MovedTo`.
Key theorems: `Instance.movedTo_iff`, `Instance.withProject_moves`,
`Instance.withProject_withProject_eq_iff`.
-/
import VmResource.Instance.Rebind
import VmResource.Proofs.Identities
import VmResource.Proofs.Outcome

namespace VmResource

/-! ### Relations that are functions -/

section Functions

variable {α β : Type} {R : α → β → Prop} {f : α → β}

/-- What a function relates, it relates in options. -/
theorem optionRel_iff_eq_map (h : ∀ a b, R a b ↔ b = f a) {o : Option α} {o' : Option β} :
    Option.Rel R o o' ↔ o' = o.map f := by
  constructor
  · intro hrel
    cases hrel with
    | some hab => rw [Option.map_some, (h _ _).mp hab]
    | none => rfl
  · rintro rfl
    cases o with
    | none => exact .none
    | some a => exact .some ((h a (f a)).mpr rfl)

/-- What a function relates, it relates in lists, item by item. -/
theorem forall₂_iff_eq_map (h : ∀ a b, R a b ↔ b = f a) {as : List α} {bs : List β} :
    List.Forall₂ R as bs ↔ bs = as.map f := by
  constructor
  · intro hrel
    induction hrel with
    | nil => rfl
    | cons hab _ ih => rw [List.map_cons, ← ih, (h _ _).mp hab]
  · rintro rfl
    rw [List.forall₂_map_right_iff, List.forall₂_same]
    exact fun a _ => (h a (f a)).mpr rfl

end Functions

/-! ### Identities -/

namespace Identity

variable {k : Kind} {project : Option Text} {id jd : Identity k}

/-- The same resource, by its names, in a project. -/
structure MovedTo (project : Option Text) (id jd : Identity k) : Prop where
  names : jd.names = id.names
  project : jd.project = project

theorem movedTo_iff : id.MovedTo project jd ↔ jd = id.withProject project := by
  constructor
  · intro h
    obtain ⟨_, _, _⟩ := jd
    obtain ⟨rfl, rfl⟩ := h
    rfl
  · rintro rfl
    exact ⟨rfl, rfl⟩

theorem optionRel_movedTo_iff {o o' : Option (Identity k)} :
    Option.Rel (MovedTo project) o o' ↔ o' = o.map (·.withProject project) := by
  have hfunction : ∀ id jd : Identity k, id.MovedTo project jd ↔ jd = id.withProject project :=
    fun _ _ => movedTo_iff
  exact optionRel_iff_eq_map hfunction

/-- Of two moves the second counts. -/
theorem withProject_withProject (project project' : Option Text) (id : Identity k) :
    (id.withProject project).withProject project' = id.withProject project' := rfl

/-- An identity that is in a project already does not change there. -/
theorem withProject_eq_self (h : id.project = project) : id.withProject project = id := by
  subst h
  rfl

end Identity

/-! ### Interfaces -/

namespace NetworkInterface

/-- The interface to the same networks of another project. -/
structure MovedTo (project : Option Text) (n m : NetworkInterface) : Prop where
  network : n.network.MovedTo project m.network
  subnetwork : Option.Rel (Identity.MovedTo project) n.subnetwork m.subnetwork
  name : m.name = n.name
  networkIp : m.networkIp = n.networkIp
  accessConfigs : m.accessConfigs = n.accessConfigs

theorem movedTo_iff {project : Option Text} {n m : NetworkInterface} :
    n.MovedTo project m ↔ m = n.withProject project := by
  constructor
  · intro h
    obtain ⟨network, name, ip, subnetwork, configs⟩ := m
    obtain ⟨hnetwork, hsubnetwork, rfl, rfl, rfl⟩ := h
    rw [Identity.movedTo_iff] at hnetwork
    rw [Identity.optionRel_movedTo_iff] at hsubnetwork
    subst hnetwork hsubnetwork
    rfl
  · rintro rfl
    refine ⟨⟨rfl, rfl⟩, ?_, rfl, rfl, rfl⟩
    rw [Identity.optionRel_movedTo_iff]
    rfl

theorem forall₂_movedTo_iff {project : Option Text} {ns ms : List NetworkInterface} :
    List.Forall₂ (MovedTo project) ns ms ↔ ms = ns.map (·.withProject project) := by
  have hfunction : ∀ n m : NetworkInterface, n.MovedTo project m ↔ m = n.withProject project :=
    fun _ _ => movedTo_iff
  exact forall₂_iff_eq_map hfunction

/-- Networks do not stay behind. -/
theorem project_of_mem_identities {project : Option Text} {n : NetworkInterface}
    {id : Sigma Identity} (h : id ∈ (n.withProject project).identities) :
    id.2.project = project := by
  rw [identities, List.mem_cons] at h
  rcases h with rfl | h
  · rfl
  · cases hsub : n.subnetwork with
    | none => simp [withProject, hsub, Identity.listed] at h
    | some sub =>
      simp only [withProject, hsub, Option.map_some, Identity.listed, Option.toList_some,
        List.map_cons, List.map_nil, List.mem_singleton] at h
      subst h
      rfl

end NetworkInterface

/-! ### Disks -/

namespace DiskConfiguration

variable {project previous : Option Text}

/-- The same image, by its name: in the project if it was in none or in the
previous one, otherwise where it was. -/
structure ImageMovedTo (project previous : Option Text) (image image' : Identity .image) :
    Prop where
  names : image'.names = image.names
  moves : image.project = none ∨ image.project = previous → image'.project = project
  stays : image.project ≠ none → image.project ≠ previous → image'.project = image.project

/-- Where the image of a disk is after a move. -/
def movedImage (project previous : Option Text) (image : Identity .image) : Identity .image :=
  if imageMoves previous image then image.withProject project else image

theorem imageMoves_iff {image : Identity .image} :
    imageMoves previous image = true ↔ image.project = none ∨ image.project = previous := by
  rw [imageMoves, decide_eq_true_eq]

theorem imageMovedTo_iff {image image' : Identity .image} :
    ImageMovedTo project previous image image' ↔
      image' = movedImage project previous image := by
  unfold movedImage
  by_cases hmoves : imageMoves previous image = true
  · rw [if_pos hmoves, ← Identity.movedTo_iff]
    rw [imageMoves_iff] at hmoves
    constructor
    · intro h
      exact ⟨h.names, h.moves hmoves⟩
    · intro h
      refine ⟨h.names, fun _ => h.project, fun hnone hprevious => ?_⟩
      exact absurd hmoves (not_or.mpr ⟨hnone, hprevious⟩)
  · rw [if_neg hmoves]
    rw [imageMoves_iff] at hmoves
    constructor
    · intro h
      have hproject := h.stays (fun hn => hmoves (Or.inl hn)) (fun hp => hmoves (Or.inr hp))
      rw [← Identity.withProject_eq_self (rfl : image.project = image.project),
        ← Identity.movedTo_iff]
      exact ⟨h.names, hproject⟩
    · rintro rfl
      exact ⟨rfl, fun hm => absurd hm hmoves, fun _ _ => rfl⟩

/-- The same kind of disk with the same settings, and each of its identities
in the project, up to an image that stays. -/
inductive MovedTo (project previous : Option Text) :
    DiskConfiguration → DiskConfiguration → Prop where
  | persistent (d e : PersistentDisk) (source : d.source.MovedTo project e.source)
    (mode : e.mode = d.mode) (boot : e.boot = d.boot) (autoDelete : e.autoDelete = d.autoDelete) :
    MovedTo project previous (.persistent d) (.persistent e)
  | create (d e : CreatedDisk) (image : ImageMovedTo project previous d.image e.image)
    (type : Option.Rel (Identity.MovedTo project) d.type e.type) (name : e.name = d.name)
    (sizeGb : e.sizeGb = d.sizeGb) (autoDelete : e.autoDelete = d.autoDelete) :
    MovedTo project previous (.create d) (.create e)
  | scratch (d e : ScratchDisk) (type : Option.Rel (Identity.MovedTo project) d.type e.type)
    (interface : e.interface = d.interface) : MovedTo project previous (.scratch d) (.scratch e)

theorem withProject_create (d : CreatedDisk) :
    (create d).withProject project previous =
      create { d with image := movedImage project previous d.image
                      type := d.type.map (·.withProject project) } := rfl

theorem movedTo_iff {c e : DiskConfiguration} :
    MovedTo project previous c e ↔ e = c.withProject project previous := by
  constructor
  · intro h
    cases h with
    | persistent d e hsource hmode hboot hautoDelete =>
      obtain ⟨_, _, _, _⟩ := e
      rw [Identity.movedTo_iff] at hsource
      subst hsource hmode hboot hautoDelete
      rfl
    | create d e himage htype hname hsize hautoDelete =>
      obtain ⟨_, _, _, _, _⟩ := e
      rw [imageMovedTo_iff] at himage
      rw [Identity.optionRel_movedTo_iff] at htype
      subst himage htype hname hsize hautoDelete
      rfl
    | scratch d e htype hinterface =>
      obtain ⟨_, _⟩ := e
      rw [Identity.optionRel_movedTo_iff] at htype
      subst htype hinterface
      rfl
  · rintro rfl
    cases c with
    | persistent d => exact .persistent d _ ⟨rfl, rfl⟩ rfl rfl rfl
    | create d =>
      rw [withProject_create]
      refine .create d _ (imageMovedTo_iff.mpr rfl) ?_ rfl rfl rfl
      rw [Identity.optionRel_movedTo_iff]
    | scratch d =>
      refine .scratch d _ ?_ rfl
      rw [Identity.optionRel_movedTo_iff]

/-- Only an image of a third project is not in the project that its disk was
moved to. -/
theorem project_of_mem_identities {c : DiskConfiguration} {id : Sigma Identity}
    (h : id ∈ (c.withProject project previous).identities) :
    id.2.project = project ∨ (id.2.project ≠ none ∧ id.2.project ≠ previous) := by
  have htype : ∀ o : Option (Identity .diskType),
      id ∈ Identity.listed (o.map (·.withProject project)) → id.2.project = project := by
    intro o ho
    cases o with
    | none => simp [Identity.listed] at ho
    | some t =>
      simp only [Identity.listed, Option.map_some, Option.toList_some, List.map_cons,
        List.map_nil, List.mem_singleton] at ho
      subst ho
      rfl
  cases c with
  | persistent d =>
    rw [withProject, identities, List.mem_singleton] at h
    subst h
    exact Or.inl rfl
  | create d =>
    rw [withProject_create, identities, List.mem_cons] at h
    rcases h with rfl | h
    · by_cases hmoves : imageMoves previous d.image = true
      · left
        simp only [movedImage, if_pos hmoves]
        rfl
      · right
        simp only [movedImage, if_neg hmoves]
        rw [imageMoves_iff, not_or] at hmoves
        exact hmoves
    · exact Or.inl (htype d.type h)
  | scratch d =>
    rw [withProject, identities] at h
    exact Or.inl (htype d.type h)

end DiskConfiguration

namespace AttachedDisk

/-- The disk of the same name at the same index, its configuration moved. -/
structure MovedTo (project previous : Option Text) (d e : AttachedDisk) : Prop where
  configuration : DiskConfiguration.MovedTo project previous d.configuration e.configuration
  deviceName : e.deviceName = d.deviceName
  index : e.index = d.index

theorem movedTo_iff {project previous : Option Text} {d e : AttachedDisk} :
    d.MovedTo project previous e ↔ e = d.withProject project previous := by
  constructor
  · intro h
    obtain ⟨_, _, _⟩ := e
    obtain ⟨hconfiguration, rfl, rfl⟩ := h
    rw [DiskConfiguration.movedTo_iff] at hconfiguration
    subst hconfiguration
    rfl
  · rintro rfl
    exact ⟨DiskConfiguration.movedTo_iff.mpr rfl, rfl, rfl⟩

theorem forall₂_movedTo_iff {project previous : Option Text} {ds es : List AttachedDisk} :
    List.Forall₂ (MovedTo project previous) ds es ↔
      es = ds.map (·.withProject project previous) := by
  have hfunction : ∀ d e : AttachedDisk,
      d.MovedTo project previous e ↔ e = d.withProject project previous :=
    fun _ _ => movedTo_iff
  exact forall₂_iff_eq_map hfunction

end AttachedDisk

/-! ### Instances -/

namespace Instance

/-- The instance with its identities in a project and all else as it was:
interfaces and disks in their order, each moved for itself, and every other
field the same. -/
structure MovedTo (p : Text) (x y : Instance) : Prop where
  id : x.id.MovedTo (some p) y.id
  machineType : x.machineType.MovedTo (some p) y.machineType
  interfaces : List.Forall₂ (NetworkInterface.MovedTo (some p)) x.interfaces y.interfaces
  disks : List.Forall₂ (AttachedDisk.MovedTo (some p) x.id.project) x.disks y.disks
  description : y.description = x.description
  tags : y.tags = x.tags
  canIpForward : y.canIpForward = x.canIpForward
  metadata : y.metadata = x.metadata
  accounts : y.accounts = x.accounts
  scheduling : y.scheduling = x.scheduling
  serverId : y.serverId = x.serverId
  created : y.created = x.created
  status : y.status = x.status
  statusMessage : y.statusMessage = x.statusMessage
  cpuPlatform : y.cpuPlatform = x.cpuPlatform

theorem movedTo_iff {p : Text} {x y : Instance} : x.MovedTo p y ↔ y = x.moved p := by
  constructor
  · intro h
    obtain ⟨_, _, _, _, _, _, _, _, _, _, _, _, _, _, _⟩ := y
    obtain ⟨hid, htype, hinterfaces, hdisks, rfl, rfl, rfl, rfl, rfl, rfl, rfl, rfl, rfl, rfl,
      rfl⟩ := h
    rw [Identity.movedTo_iff] at hid htype
    rw [NetworkInterface.forall₂_movedTo_iff] at hinterfaces
    rw [AttachedDisk.forall₂_movedTo_iff] at hdisks
    subst hid htype hinterfaces hdisks
    rfl
  · rintro rfl
    refine ⟨⟨rfl, rfl⟩, ⟨rfl, rfl⟩, ?_, ?_, rfl, rfl, rfl, rfl, rfl, rfl, rfl, rfl, rfl, rfl, rfl⟩
    · rw [NetworkInterface.forall₂_movedTo_iff]
      rfl
    · rw [AttachedDisk.forall₂_movedTo_iff]
      rfl

/-- Only images of third projects are not in the project that an instance was
moved to. -/
theorem project_of_mem_identities_moved {p : Text} {x : Instance} {id : Sigma Identity}
    (h : id ∈ (x.moved p).identities) :
    id.2.project = some p ∨ (id.2.project ≠ none ∧ id.2.project ≠ x.id.project) := by
  rw [identities, List.mem_cons, List.mem_cons, List.mem_append] at h
  rcases h with rfl | rfl | h | h
  · exact Or.inl rfl
  · exact Or.inl rfl
  · obtain ⟨n, hn, hid⟩ := List.mem_flatMap.mp h
    obtain ⟨m, -, rfl⟩ := List.mem_map.mp hn
    exact Or.inl (NetworkInterface.project_of_mem_identities hid)
  · obtain ⟨d, hd, hid⟩ := List.mem_flatMap.mp h
    obtain ⟨e, -, rfl⟩ := List.mem_map.mp hd
    exact DiskConfiguration.project_of_mem_identities hid

theorem withProject_of_ne {p : Text} (h : p ≠ "") (x : Instance) :
    (x.withProject (some p)).outcome = .ok (x.moved p) := by
  simp only [withProject, if_neg h]

/-- **What moves.** An instance cannot be moved to a project without a name.
Moved to any other project it is as `MovedTo` says, and no identity is left
in the project that it was in before, if that was another one. -/
theorem withProject_moves (x : Instance) (p : Text) :
    if p = "" then (x.withProject (some p)).outcome = .error .projectMissing
    else ∃ y, (x.withProject (some p)).outcome = .ok y ∧ x.MovedTo p y ∧
      (x.id.project ≠ none → x.id.project ≠ some p →
        ∀ id ∈ y.identities, id.2.project ≠ x.id.project) := by
  split
  · next hp =>
    simp only [withProject, if_pos hp]
    rfl
  · next hp =>
    refine ⟨x.moved p, withProject_of_ne hp x, movedTo_iff.mpr rfl, ?_⟩
    intro hnone hother id hid
    rcases project_of_mem_identities_moved hid with hproject | ⟨-, hproject⟩
    · rw [hproject]
      exact hother.symm
    · exact hproject

/-! ### Moving twice -/

end Instance

namespace DiskConfiguration

/-- An image ends in the same place without the first of two moves unless the
first one goes to the project that the image was in. -/
theorem movedImage_movedImage_iff {previous : Option Text} {p q : Text}
    {image : Identity .image} :
    movedImage (some q) (some p) (movedImage (some p) previous image) =
        movedImage (some q) previous image ↔
      p = q ∨ previous = some p ∨ image.project ≠ some p := by
  by_cases hmoves : imageMoves previous image = true
  · -- moved along twice, and taken to the second project also by the second move alone
    have hagain : imageMoves (some p) (image.withProject (some p)) = true :=
      imageMoves_iff.mpr (Or.inr rfl)
    rw [movedImage, movedImage, if_pos hmoves, if_pos hagain, movedImage, if_pos hmoves]
    refine iff_of_true rfl ?_
    rcases imageMoves_iff.mp hmoves with hnone | hprevious
    · right; right
      rw [hnone]
      simp
    · by_cases hp : previous = some p
      · exact Or.inr (Or.inl hp)
      · right; right
        rwa [hprevious]
  · have hmoved : ∀ q, movedImage (some q) previous image = image := fun q => if_neg hmoves
    rw [hmoved, hmoved]
    rw [imageMoves_iff, not_or] at hmoves
    by_cases hp : image.project = some p
    · -- stays at first, and is then in the project that the instance comes from
      have htaken : imageMoves (some p) image = true := imageMoves_iff.mpr (Or.inr hp)
      rw [movedImage, if_pos htaken]
      have hprevious : previous ≠ some p := fun h => hmoves.2 (hp.trans h.symm)
      constructor
      · intro h
        left
        have hproject : some q = image.project := congrArg Identity.project h
        exact Option.some.inj (hp.symm.trans hproject.symm)
      · intro h
        rcases h with rfl | h | h
        · exact Identity.withProject_eq_self hp
        · exact absurd h hprevious
        · exact absurd hp h
    · have hleft : ¬ imageMoves (some p) image = true := by
        rw [imageMoves_iff, not_or]
        exact ⟨hmoves.1, hp⟩
      rw [movedImage, if_neg hleft]
      exact iff_of_true rfl (Or.inr (Or.inr hp))

/-- The image that a disk is created from. -/
def image? : DiskConfiguration → Option (Identity .image)
  | .create d => some d.image
  | _ => none

theorem moved_twice_eq_iff {previous : Option Text} {p q : Text}
    {c : DiskConfiguration} :
    (c.withProject (some p) previous).withProject (some q) (some p) =
        c.withProject (some q) previous ↔
      p = q ∨ previous = some p ∨ ∀ image, c.image? = some image → image.project ≠ some p := by
  have htype : ∀ o : Option (Identity .diskType),
      (o.map (·.withProject (some p))).map (·.withProject (some q)) =
        o.map (·.withProject (some q)) := by
    intro o
    rw [Option.map_map]
    rfl
  cases c with
  | persistent d =>
    exact iff_of_true rfl (Or.inr (Or.inr fun image h => (by cases h)))
  | create d =>
    simp only [withProject_create, htype, create.injEq, CreatedDisk.mk.injEq, and_true,
      image?, Option.some.injEq, forall_eq']
    exact movedImage_movedImage_iff
  | scratch d =>
    simp only [withProject, htype, image?, reduceCtorEq, false_implies, implies_true, or_true]

end DiskConfiguration

namespace Instance

theorem moved_moved_eq_iff {x : Instance} {p q : Text} :
    (x.moved p).moved q = x.moved q ↔
      ∀ d ∈ x.disks, (d.configuration.withProject (some p) x.id.project).withProject (some q)
        (some p) = d.configuration.withProject (some q) x.id.project := by
  have hinterfaces : ∀ ns : List NetworkInterface,
      (ns.map (·.withProject (some p))).map (·.withProject (some q)) =
        ns.map (·.withProject (some q)) := by
    intro ns
    rw [List.map_map]
    refine List.map_congr_left fun n _ => ?_
    simp only [Function.comp_apply, NetworkInterface.withProject, Option.map_map]
    rfl
  simp only [moved, hinterfaces, Identity.withProject_withProject, mk.injEq, and_true, true_and]
  rw [List.map_map, List.map_inj_left]
  refine forall₂_congr fun d _ => ?_
  simp only [Function.comp_apply, AttachedDisk.withProject, AttachedDisk.mk.injEq, and_true]
  rfl

/-- **Moving twice.** An instance that moves to `p` and then to `q` is as if
it had moved to `q` at once if and only if both are the same project, or `p`
is the project that it comes from, or no image of its disks is in `p`. -/
theorem withProject_withProject_eq_iff {x : Instance} {p q : Text} (hp : p ≠ "") (hq : q ≠ "") :
    ∃ y z, ((x.withProject (some p)).andThen (·.withProject (some q))).outcome = .ok y ∧
      (x.withProject (some q)).outcome = .ok z ∧
      (y = z ↔ p = q ∨ x.id.project = some p ∨
        ∀ d ∈ x.disks, ∀ image, d.configuration.image? = some image → image.project ≠ some p) := by
  have htwice : ((x.withProject (some p)).andThen (·.withProject (some q))).outcome =
      .ok ((x.moved p).moved q) := by
    rw [Traced.andThen, withProject_of_ne hp x]
    exact withProject_of_ne hq (x.moved p)
  refine ⟨_, _, htwice, withProject_of_ne hq x, ?_⟩
  rw [moved_moved_eq_iff]
  simp only [DiskConfiguration.moved_twice_eq_iff]
  by_cases hpq : p = q
  · simp [hpq]
  · by_cases hprevious : x.id.project = some p
    · simp [hprevious]
    · simp only [hpq, hprevious, false_or]

/-- An instance of project `a` with a disk that is created from an image of
project `b`. -/
def sharedImage : Instance where
  id := ⟨some (.unicode "a"), [⟨"z", by decide⟩, ⟨"i", by decide⟩], rfl⟩
  machineType := ⟨some (.unicode "a"), [⟨"z", by decide⟩, ⟨"m", by decide⟩], rfl⟩
  interfaces := []
  disks := [
    ⟨.create {
      image := ⟨some (.unicode "b"), [⟨"linux", by decide⟩], rfl⟩
      name := none
      type := none
      sizeGb := none
      autoDelete := none }, none, none⟩]
  description := none
  tags := none
  canIpForward := none
  metadata := none
  accounts := none
  scheduling := none
  serverId := none
  created := none
  status := none
  statusMessage := none
  cpuPlatform := none

/-- On the way through project `b` this instance takes the image along. -/
theorem sharedImage_taken_along : ∃ y z,
    ((sharedImage.withProject (some (.unicode "b"))).andThen
        (·.withProject (some (.unicode "c")))).outcome = .ok y ∧
      (sharedImage.withProject (some (.unicode "c"))).outcome = .ok z ∧ y ≠ z := by
  obtain ⟨y, z, hy, hz, hiff⟩ :=
    withProject_withProject_eq_iff (x := sharedImage) (p := "b") (q := "c") (by decide) (by decide)
  refine ⟨y, z, hy, hz, fun heq => ?_⟩
  rcases hiff.mp heq with hsame | hown | hnone
  · exact absurd hsame (by decide)
  · exact absurd hown (by decide)
  · exact hnone _ List.mem_cons_self _ rfl rfl

end Instance
end VmResource
