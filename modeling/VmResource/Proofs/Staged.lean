/-
# What staged values are checked as

A builder holds what was set for each field. Resources that were set pass
their checks as they are, an unset field stays unset, and only plain values
are looked at: so an instance is what its fields pass as, one by one.

Key definitions: `Instance.PassesAs`, `Instance.Draft`,
`Instance.Draft.builder`, `Instance.Draft.Makes`.
Key theorems: `Instance.checkFields_eq_ok_iff`,
`Instance.Draft.build_outcome_eq_ok_iff`.
-/
import Mathlib.Tactic.MkIffOfInductiveProp
import VmResource.Builder
import VmResource.Proofs.Entries

namespace VmResource

open Check

/-! ### Values of one field -/

namespace Value

variable {α : Type}

theorem isNull_iff {v : Value} : v.isNull = true ↔ v = .null := by
  cases v with
  | plain v => cases v <;> simp [isNull, null]
  | _ => simp [isNull, null]

theorem ofOption_some (f : α → Value) (a : α) : ofOption f (some a) = f a := rfl

theorem unlessNull_of_not_isNull {c : Value → Check α} {v : Value} (h : v.isNull = false) :
    unlessNull c v = some <$> c v := by
  rw [unlessNull, h, if_neg (by decide)]

/-- What an optional field was set to passes if each value it may have been
set to does. -/
theorem unlessNull_ofOption (f : α → Value) {c : Value → Check α}
    (hnull : ∀ a, (f a).isNull = false) (hc : ∀ a, c (f a) = .ok a) (o : Option α) :
    unlessNull c (ofOption f o) = .ok o := by
  cases o with
  | none => rfl
  | some a => rw [ofOption, unlessNull_of_not_isNull (hnull a), hc, map_ok]

/-- A plain value passes as it does outside a builder. -/
theorem unlessNull_plain (rule : Rule) (c : Json → Check α) (v : Json) :
    unlessNull (single rule c) (.plain v) = nullable c v := by
  cases v <;> rfl

variable {pick : Resource → Option α} {c : Json → Check α}

theorem made_resource {r : Resource} {a : α} (h : pick r = some a) :
    made pick c (.resource r) = .ok a := by
  simp only [made, h]

/-- Resources in a list pass. -/
theorem eachItem_resources (make : α → Resource) (h : ∀ a, pick (make a) = some a) (as : List α) :
    eachItem (made pick c) (.list (as.map fun a => .resource (make a))) = .ok as := by
  rw [eachItem, each_eq_ok_iff, List.forall₂_map_left_iff]
  exact List.forall₂_same.mpr fun a _ => made_resource (h a)

theorem unlessNull_resource (make : α → Resource) (h : ∀ a, pick (make a) = some a)
    (o : Option α) :
    unlessNull (made pick c) (ofOption (fun a => .resource (make a)) o) = .ok o :=
  unlessNull_ofOption _ (fun _ => rfl) (fun a => made_resource (h a)) o

theorem unlessNull_resources (make : α → Resource) (h : ∀ a, pick (make a) = some a)
    (o : Option (List α)) :
    unlessNull (eachItem (made pick c))
      (ofOption (fun as => .list (as.map fun a => .resource (make a))) o) = .ok o :=
  unlessNull_ofOption _ (fun _ => rfl) (eachItem_resources make h) o

theorem unlessNull_ofText? (rule : Rule) (o : Option Text) :
    unlessNull (single rule Check.text) (ofText? o) = .ok o :=
  unlessNull_ofOption Value.text (fun _ => rfl) (fun _ => rfl) o

theorem unlessNull_int (rule : Rule) (o : Option Int) :
    unlessNull (single rule integer) (ofOption (fun n => .plain (.int n)) o) = .ok o :=
  unlessNull_ofOption (fun n => .plain (.int n)) (fun _ => rfl) (fun _ => rfl) o

theorem unlessNull_ofMember? [Choice α] (rule : Rule) (o : Option α) :
    unlessNull (single rule (member α)) (ofMember? o) = .ok o := by
  refine unlessNull_ofOption (fun a => Value.text (Choice.name a)) (fun _ => rfl) (fun a => ?_) o
  simp only [Value.text, single, member, unicode, andThen, memberOf, Choice.ofName?_name]

end Value

namespace Instance

open Value

/-! ### All fields -/

/-- Each field given for the instance passes as what the instance has for it. -/
@[mk_iff]
structure PassesAs (given : Field → Option Value) (x : Instance) : Prop where
  id : requiredField given .id (made (Resource.identity? .vm) (Identity.check .vm)) = .ok x.id
  machineType : requiredField given .machineType
    (made (Resource.identity? .machineType) (Identity.check .machineType)) = .ok x.machineType
  interfaces : requiredField given .interfaces
    (eachItem (made Resource.interface? NetworkInterface.check)) = .ok x.interfaces
  disks : requiredField given .disks (eachItem (made Resource.disk? AttachedDisk.check)) =
    .ok x.disks
  description : optionalField given .description (single .notText text) = .ok x.description
  tags : optionalField given .tags (made Resource.tags? Tags.check) = .ok x.tags
  canIpForward : optionalField given .canIpForward (single .notFlag flag) = .ok x.canIpForward
  metadata : optionalField given .metadata (made Resource.metadata? Metadata.check) = .ok x.metadata
  accounts : optionalField given .accounts
    (eachItem (made Resource.account? ServiceAccount.check)) = .ok x.accounts
  scheduling : optionalField given .scheduling (made Resource.scheduling? Scheduling.check) =
    .ok x.scheduling
  serverId : optionalField given .serverId (single .notText text) = .ok x.serverId
  created : optionalField given .created (single .notInteger integer) = .ok x.created
  status : optionalField given .status (single .notMember (member Status)) = .ok x.status
  statusMessage : optionalField given .statusMessage (single .notText text) = .ok x.statusMessage
  cpuPlatform : optionalField given .cpuPlatform (single .notText text) = .ok x.cpuPlatform

/-- An instance passes field by field. -/
theorem checkFields_eq_ok_iff {given : Field → Option Value} {x : Instance} :
    checkFields given = .ok x ↔ PassesAs given x := by
  have hmade : checkFields given = .ok x ↔ ∃ y, checkFields given = .ok y ∧ y = x := by simp
  -- the last field is peeled off first, and stands last
  rw [hmade, checkFields]
  simp only [exists_seq_and_iff, exists_map_and_iff]
  constructor
  · rintro ⟨_, id, _, machineType, _, interfaces, _, disks, _, description, _, tags, _,
      canIpForward, _, metadata, _, accounts, _, scheduling, _, serverId, _, created, _, status,
      _, statusMessage, _, cpuPlatform, rfl⟩
    exact { id, machineType, interfaces, disks, description, tags, canIpForward, metadata,
            accounts, scheduling, serverId, created, status, statusMessage, cpuPlatform }
  · intro h
    exact ⟨_, h.id, _, h.machineType, _, h.interfaces, _, h.disks, _, h.description, _, h.tags, _,
      h.canIpForward, _, h.metadata, _, h.accounts, _, h.scheduling, _, h.serverId, _, h.created, _,
      h.status, _, h.statusMessage, _, h.cpuPlatform, rfl⟩

/-! ### Drafts -/

/-- What is read from a payload before an instance is built: resources and
members for most fields, plain values for those that are only checked. -/
structure Draft where
  id : Identity .vm
  machineType : Identity .machineType
  interfaces : Option (List NetworkInterface)
  disks : Option (List AttachedDisk)
  description : Json
  tags : Option Tags
  canIpForward : Json
  metadata : Option Metadata
  accounts : Option (List ServiceAccount)
  scheduling : Option Scheduling
  serverId : Option Text
  created : Option Int
  status : Option Status
  statusMessage : Json
  cpuPlatform : Json

namespace Draft

/-- A builder in which a draft was staged. -/
def builder (d : Draft) : Builder where
  staged
    | .id => ofIdentity d.id
    | .machineType => ofIdentity d.machineType
    | .interfaces =>
      ofOption (fun ns => .list (ns.map fun n => .resource (.interface n))) d.interfaces
    | .disks => ofOption (fun ds => .list (ds.map fun d => .resource (.disk d))) d.disks
    | .description => .plain d.description
    | .tags => ofOption (fun t => .resource (.tags t)) d.tags
    | .canIpForward => .plain d.canIpForward
    | .metadata => ofOption (fun m => .resource (.metadata m)) d.metadata
    | .accounts => ofOption (fun as => .list (as.map fun a => .resource (.account a))) d.accounts
    | .scheduling => ofOption (fun s => .resource (.scheduling s)) d.scheduling
    | .serverId => ofText? d.serverId
    | .created => ofOption (fun n => .plain (.int n)) d.created
    | .status => ofMember? d.status
    | .statusMessage => .plain d.statusMessage
    | .cpuPlatform => .plain d.cpuPlatform

/-- The draft has all that the instance needs, and its plain values pass. -/
@[mk_iff]
structure Makes (d : Draft) (x : Instance) : Prop where
  id : d.id = x.id
  machineType : d.machineType = x.machineType
  interfaces : d.interfaces = some x.interfaces
  disks : d.disks = some x.disks
  description : nullable text d.description = .ok x.description
  tags : d.tags = x.tags
  canIpForward : nullable flag d.canIpForward = .ok x.canIpForward
  metadata : d.metadata = x.metadata
  accounts : d.accounts = x.accounts
  scheduling : d.scheduling = x.scheduling
  serverId : d.serverId = x.serverId
  created : d.created = x.created
  status : d.status = x.status
  statusMessage : nullable text d.statusMessage = .ok x.statusMessage
  cpuPlatform : nullable text d.cpuPlatform = .ok x.cpuPlatform

/-- Nothing but the plain values of a draft can be refused. -/
theorem checkFields_eq_ok_iff {d : Draft} {ns : List NetworkInterface} {ds : List AttachedDisk}
    (hns : d.interfaces = some ns) (hds : d.disks = some ds) {x : Instance} :
    checkFields (fun f => some (d.builder.staged f)) = .ok x ↔ d.Makes x := by
  have hid : made (Resource.identity? .vm) (Identity.check .vm) (ofIdentity d.id) = .ok d.id :=
    made_resource rfl
  have htype : made (Resource.identity? .machineType) (Identity.check .machineType)
      (ofIdentity d.machineType) = .ok d.machineType := made_resource rfl
  have hinterfaces : eachItem (made Resource.interface? NetworkInterface.check) _ = .ok ns :=
    eachItem_resources Resource.interface (fun _ => rfl) ns
  have hdisks : eachItem (made Resource.disk? AttachedDisk.check) _ = .ok ds :=
    eachItem_resources Resource.disk (fun _ => rfl) ds
  have htags : unlessNull (made Resource.tags? Tags.check) _ = .ok d.tags :=
    unlessNull_resource Resource.tags (fun _ => rfl) d.tags
  have hmetadata : unlessNull (made Resource.metadata? Metadata.check) _ = .ok d.metadata :=
    unlessNull_resource Resource.metadata (fun _ => rfl) d.metadata
  have haccounts : unlessNull (eachItem (made Resource.account? ServiceAccount.check)) _ =
      .ok d.accounts := unlessNull_resources Resource.account (fun _ => rfl) d.accounts
  have hscheduling : unlessNull (made Resource.scheduling? Scheduling.check) _ =
      .ok d.scheduling := unlessNull_resource Resource.scheduling (fun _ => rfl) d.scheduling
  rw [Instance.checkFields_eq_ok_iff, passesAs_iff, makes_iff]
  simp only [requiredField, optionalField, Option.getD_some, builder, hns, hds, ofOption_some,
    field_eq_ok_iff, hid, htype, hinterfaces, hdisks, htags, hmetadata, haccounts, hscheduling,
    unlessNull_plain, unlessNull_ofText?, unlessNull_int, unlessNull_ofMember?, Check.ok.injEq,
    Option.some.injEq]

/-- The disks of a draft are counted, and the warning finds its name. -/
theorem exists_bootWarning_eq_ok {d : Draft} {ds : List AttachedDisk} (hds : d.disks = some ds) :
    ∃ records, d.builder.bootCount >>= d.builder.bootWarning = .ok records := by
  have hflags : (ds.map fun d => Value.resource (.disk d)).mapM Value.isBootDisk =
      .ok (ds.map AttachedDisk.isBoot) := by
    rw [Except.mapM_eq_ok_iff, List.forall₂_map_left_iff, List.forall₂_map_right_iff]
    exact List.forall₂_same.mpr fun _ _ => rfl
  have hcount : d.builder.bootCount = .ok ((ds.map AttachedDisk.isBoot).count true) := by
    simp only [Builder.bootCount, builder, hds, ofOption_some, Value.items, Except.ok_bind, hflags]
    rfl
  rw [hcount, Except.ok_bind]
  unfold Builder.bootWarning
  split
  · exact ⟨_, rfl⟩
  · exact ⟨_, rfl⟩

theorem isNull_staged_disks (d : Draft) : (d.builder.staged .disks).isNull = d.disks.isNone := by
  cases hds : d.disks <;> simp [builder, hds, ofOption, isNull, null]

theorem isNull_staged_interfaces (d : Draft) :
    (d.builder.staged .interfaces).isNull = d.interfaces.isNone := by
  cases hns : d.interfaces <;> simp [builder, hns, ofOption, isNull, null]

/-- Building from a draft fails without disks, then without interfaces, and
otherwise comes to what the fields are checked as. -/
theorem build_outcome (d : Draft) : d.builder.build.outcome =
    match d.disks, d.interfaces with
    | none, _ => .error (.notStaged (Field.name .disks))
    | some _, none => .error (.notStaged (Field.name .interfaces))
    | some _, some _ =>
      (checkFields fun f => some (d.builder.staged f)).orInvalid "InstanceInfo" := by
  rw [Builder.build, isNull_staged_disks, isNull_staged_interfaces]
  cases hds : d.disks with
  | none => rfl
  | some ds =>
    cases hns : d.interfaces with
    | none => rfl
    | some ns =>
      obtain ⟨records, hrecords⟩ := exists_bootWarning_eq_ok hds
      rw [hrecords]
      rfl

/-- **What a draft makes.** An instance is built from a draft exactly if the
draft makes it. -/
theorem build_outcome_eq_ok_iff {d : Draft} {x : Instance} :
    d.builder.build.outcome = .ok x ↔ d.Makes x := by
  rw [build_outcome]
  cases hds : d.disks with
  | none =>
    refine ⟨fun h => (by cases h), fun h => ?_⟩
    exact absurd (hds.symm.trans h.disks) (by simp)
  | some ds =>
    cases hns : d.interfaces with
    | none =>
      refine ⟨fun h => (by cases h), fun h => ?_⟩
      exact absurd (hns.symm.trans h.interfaces) (by simp)
    | some ns => rw [Check.orInvalid_eq_ok_iff, checkFields_eq_ok_iff hns hds]

end Draft

end Instance
end VmResource
