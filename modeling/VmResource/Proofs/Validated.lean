/-
# What each field is checked as

An instance is checked field by field, and each field takes the value that
its own value is checked as. A value that an instance has in a field is
checked as itself: so the fields of an instance, staged in a builder, make
this instance again, wherever they were moved to meanwhile.

Key definitions: `Instance.Field.validated`, `Instance.draft`.
Key theorems: `Instance.checkFields_some_eq_ok_iff`,
`Instance.Field.validated_get`, `Builder.build_ofInstance`.
-/
import VmResource.Proofs.Staged

namespace VmResource

open Check

/-- A value is found again in what an injective function makes of it. -/
theorem Check.map_eq_ok_map_iff {α β : Type} {f : α → β} (hf : Function.Injective f)
    {c : Check α} {a : α} : f <$> c = .ok (f a) ↔ c = .ok a := by
  rw [map_eq_ok_iff]
  refine ⟨?_, fun h => ⟨a, h, rfl⟩⟩
  intro h
  obtain ⟨b, hb, hfb⟩ := h
  rw [hb, hf hfb]

/-! ### Values tell what they are of -/

namespace Value

variable {α : Type}

theorem ofIdentity_injective {k : Identity.Kind} :
    Function.Injective (ofIdentity : Identity k → Value) := by
  intro id jd h
  simpa [ofIdentity] using h

theorem ofOption_injective {f : α → Value} (hnull : ∀ a, (f a).isNull = false)
    (hf : Function.Injective f) : Function.Injective (ofOption f) := by
  have hne : ∀ a, f a ≠ null := by
    intro a h
    have hfalse := hnull a
    rw [h] at hfalse
    cases hfalse
  intro o o' h
  cases o with
  | none =>
    cases o' with
    | none => rfl
    | some b => exact absurd h.symm (hne b)
  | some a =>
    cases o' with
    | none => exact absurd h (hne a)
    | some b => rw [hf h]

theorem ofText?_injective : Function.Injective ofText? :=
  ofOption_injective (fun _ => rfl) fun _ _ h => by simpa [text] using h

theorem ofFlag?_injective : Function.Injective ofFlag? :=
  ofOption_injective (fun _ => rfl) fun _ _ h => by simpa using h

theorem ofMember?_injective [Choice α] : Function.Injective (ofMember? : Option α → Value) :=
  ofOption_injective (fun _ => rfl) fun _ _ h => Choice.name_injective (by simpa [text] using h)

theorem ofInt?_injective :
    Function.Injective (ofOption fun n : Int => .plain (.int n)) :=
  ofOption_injective (fun _ => rfl) fun _ _ h => by simpa using h

section Resources

variable {make : α → Resource} (hmake : Function.Injective make)
include hmake

theorem resource_injective : Function.Injective fun a => Value.resource (make a) :=
  fun _ _ h => hmake (Value.resource.inj h)

theorem resources_injective :
    Function.Injective fun as : List α => Value.list (as.map fun a => .resource (make a)) :=
  fun _ _ h => List.map_injective_iff.mpr (resource_injective hmake) (Value.list.inj h)

theorem ofResource?_injective : Function.Injective (ofOption fun a => .resource (make a)) :=
  ofOption_injective (fun _ => rfl) (resource_injective hmake)

theorem ofResources?_injective :
    Function.Injective (ofOption fun as : List α => .list (as.map fun a => .resource (make a))) :=
  ofOption_injective (fun _ => rfl) (resources_injective hmake)

end Resources

end Value

namespace Instance

open Value

/-! ### One field -/

namespace Field

/-- What a value is checked as in a field: the value that the instance has
there. -/
def validated : Field → Value → Check Value
  | .id, v => ofIdentity <$> made (Resource.identity? .vm) (Identity.check .vm) v
  | .machineType, v =>
    ofIdentity <$> made (Resource.identity? .machineType) (Identity.check .machineType) v
  | .interfaces, v =>
    (fun ns => .list (ns.map fun n => .resource (.interface n))) <$>
      eachItem (made Resource.interface? NetworkInterface.check) v
  | .disks, v =>
    (fun ds => .list (ds.map fun d => .resource (.disk d))) <$>
      eachItem (made Resource.disk? AttachedDisk.check) v
  | .description, v => ofText? <$> unlessNull (single .notText Check.text) v
  | .tags, v =>
    ofOption (fun t => .resource (.tags t)) <$> unlessNull (made Resource.tags? Tags.check) v
  | .canIpForward, v => ofFlag? <$> unlessNull (single .notFlag flag) v
  | .metadata, v =>
    ofOption (fun m => .resource (.metadata m)) <$>
      unlessNull (made Resource.metadata? Metadata.check) v
  | .accounts, v =>
    ofOption (fun as => .list (as.map fun a => .resource (.account a))) <$>
      unlessNull (eachItem (made Resource.account? ServiceAccount.check)) v
  | .scheduling, v =>
    ofOption (fun s => .resource (.scheduling s)) <$>
      unlessNull (made Resource.scheduling? Scheduling.check) v
  | .serverId, v => ofText? <$> unlessNull (single .notText Check.text) v
  | .created, v => ofOption (fun n => .plain (.int n)) <$> unlessNull (single .notInteger integer) v
  | .status, v => ofMember? <$> unlessNull (single .notMember (member Status)) v
  | .statusMessage, v => ofText? <$> unlessNull (single .notText Check.text) v
  | .cpuPlatform, v => ofText? <$> unlessNull (single .notText Check.text) v

/-- The fields that an instance cannot do without. -/
def IsRequired (f : Field) : Prop := f = .id ∨ f = .machineType ∨ f = .interfaces ∨ f = .disks

/-- Any other field may be unset. -/
theorem validated_null {f : Field} (h : ¬ f.IsRequired) : f.validated null = .ok null := by
  cases f <;> first | rfl | exact absurd (by simp [IsRequired]) h

theorem eq_null_of_validated {f : Field} (hf : ¬ f.IsRequired) {w : Value}
    (h : f.validated null = .ok w) : w = null := by
  rw [validated_null hf] at h
  exact (Check.ok.inj h).symm

end Field

/-! ### All fields -/

theorem Field.forall_iff {P : Field → Prop} : (∀ f, P f) ↔
    P .id ∧ P .machineType ∧ P .interfaces ∧ P .disks ∧ P .description ∧ P .tags ∧
      P .canIpForward ∧ P .metadata ∧ P .accounts ∧ P .scheduling ∧ P .serverId ∧ P .created ∧
      P .status ∧ P .statusMessage ∧ P .cpuPlatform := by
  refine ⟨fun h => ⟨h _, h _, h _, h _, h _, h _, h _, h _, h _, h _, h _, h _, h _, h _, h _⟩, ?_⟩
  intro h f
  cases f <;> simp only [h]

/-- An instance is made of staged values exactly if each of its fields is
what the value staged for it is checked as. -/
theorem checkFields_some_eq_ok_iff {staged : Field → Value} {x : Instance} :
    checkFields (fun f => some (staged f)) = .ok x ↔
      ∀ f : Field, f.validated (staged f) = Check.ok (x.get f) := by
  have hinterface : Function.Injective Resource.interface := fun _ _ => Resource.interface.inj
  have hdisk : Function.Injective Resource.disk := fun _ _ => Resource.disk.inj
  have htags : Function.Injective Resource.tags := fun _ _ => Resource.tags.inj
  have hmetadata : Function.Injective Resource.metadata := fun _ _ => Resource.metadata.inj
  have haccount : Function.Injective Resource.account := fun _ _ => Resource.account.inj
  have hscheduling : Function.Injective Resource.scheduling := fun _ _ => Resource.scheduling.inj
  rw [checkFields_eq_ok_iff, passesAs_iff, Field.forall_iff]
  simp only [requiredField, optionalField, Option.getD_some, field_eq_ok_iff]
  exact and_congr (map_eq_ok_map_iff ofIdentity_injective).symm <|
    and_congr (map_eq_ok_map_iff ofIdentity_injective).symm <|
    and_congr (map_eq_ok_map_iff (resources_injective hinterface)).symm <|
    and_congr (map_eq_ok_map_iff (resources_injective hdisk)).symm <|
    and_congr (map_eq_ok_map_iff ofText?_injective).symm <|
    and_congr (map_eq_ok_map_iff (ofResource?_injective htags)).symm <|
    and_congr (map_eq_ok_map_iff ofFlag?_injective).symm <|
    and_congr (map_eq_ok_map_iff (ofResource?_injective hmetadata)).symm <|
    and_congr (map_eq_ok_map_iff (ofResources?_injective haccount)).symm <|
    and_congr (map_eq_ok_map_iff (ofResource?_injective hscheduling)).symm <|
    and_congr (map_eq_ok_map_iff ofText?_injective).symm <|
    and_congr (map_eq_ok_map_iff ofInt?_injective).symm <|
    and_congr (map_eq_ok_map_iff ofMember?_injective).symm <|
    and_congr (map_eq_ok_map_iff ofText?_injective).symm
      (map_eq_ok_map_iff ofText?_injective).symm

theorem requiredField_getD {α : Type} {given : Field → Option Value} {f : Field}
    {c : Value → Check α} {a : α} (h : requiredField given f c = .ok a) :
    requiredField (fun g => some ((given g).getD null)) f c = .ok a := by
  rw [requiredField, field_eq_ok_iff] at h ⊢
  cases hf : given f with
  | none =>
    rw [hf] at h
    cases h
  | some v =>
    rw [hf] at h
    exact h

/-- A field that was left out is checked as null. -/
theorem validated_of_checkFields {given : Field → Option Value} {x : Instance}
    (h : checkFields given = .ok x) (f : Field) :
    f.validated ((given f).getD null) = Check.ok (x.get f) := by
  have hpasses := checkFields_eq_ok_iff.mp h
  have hsome : checkFields (fun g => some ((given g).getD null)) = .ok x :=
    checkFields_eq_ok_iff.mpr
      { hpasses with
        id := requiredField_getD hpasses.id
        machineType := requiredField_getD hpasses.machineType
        interfaces := requiredField_getD hpasses.interfaces
        disks := requiredField_getD hpasses.disks }
  exact checkFields_some_eq_ok_iff.mp hsome f

/-! ### Building an instance again -/

/-- The draft that holds the fields of an instance. -/
def draft (x : Instance) : Draft where
  id := x.id
  machineType := x.machineType
  interfaces := some x.interfaces
  disks := some x.disks
  description := (x.description.map .text).getD .null
  tags := x.tags
  canIpForward := (x.canIpForward.map .bool).getD .null
  metadata := x.metadata
  accounts := x.accounts
  scheduling := x.scheduling
  serverId := x.serverId
  created := x.created
  status := x.status
  statusMessage := (x.statusMessage.map .text).getD .null
  cpuPlatform := (x.cpuPlatform.map .text).getD .null

theorem draft_makes (x : Instance) : x.draft.Makes x where
  id := rfl
  machineType := rfl
  interfaces := rfl
  disks := rfl
  description := nullable_text_map_getD _
  tags := rfl
  canIpForward := nullable_flag_map_getD _
  metadata := rfl
  accounts := rfl
  scheduling := rfl
  serverId := rfl
  created := rfl
  status := rfl
  statusMessage := nullable_text_map_getD _
  cpuPlatform := nullable_text_map_getD _

theorem plain_map_getD {α : Type} (write : α → Json) (o : Option α) :
    Value.plain ((o.map write).getD .null) = ofOption (fun a => .plain (write a)) o := by
  cases o <;> rfl

theorem builder_draft (x : Instance) : x.draft.builder = Builder.ofInstance x := by
  rw [Draft.builder, Builder.ofInstance, Builder.mk.injEq]
  funext f
  cases f with
  | description => exact plain_map_getD Json.text x.description
  | canIpForward => exact plain_map_getD Json.bool x.canIpForward
  | statusMessage => exact plain_map_getD Json.text x.statusMessage
  | cpuPlatform => exact plain_map_getD Json.text x.cpuPlatform
  | _ => rfl

end Instance

namespace Builder

/-- What is built from the fields of an instance is this instance. -/
theorem build_ofInstance (x : Instance) : (ofInstance x).build.outcome = .ok x := by
  rw [← Instance.builder_draft, Instance.Draft.build_outcome_eq_ok_iff]
  exact x.draft_makes

/-- An instance that was built has in each field what the staged value is
checked as. -/
theorem validated_of_build {b : Builder} {x : Instance} (h : b.build.outcome = .ok x)
    (f : Instance.Field) : f.validated (b.staged f) = .ok (x.get f) := by
  unfold build at h
  split at h
  · cases h
  · split at h
    · cases h
    · split at h
      · cases h
      · rw [Check.orInvalid_eq_ok_iff] at h
        exact Instance.checkFields_some_eq_ok_iff.mp h f

end Builder

namespace Instance

open Value

/-- What an instance has in a field is checked as itself. -/
theorem Field.validated_get (f : Field) (x : Instance) : f.validated (x.get f) = .ok (x.get f) :=
  Builder.validated_of_build (Builder.build_ofInstance x) f

theorem Field.eq_of_validated_get {f : Field} {x : Instance} {w : Value}
    (h : f.validated (x.get f) = .ok w) : w = x.get f := by
  rw [f.validated_get] at h
  exact (Check.ok.inj h).symm

/-! ### What the service assigns -/

theorem Field.not_isRequired_of_assigned {f : Field} (h : f ∈ Field.assigned) :
    ¬ f.IsRequired := by
  cases f <;> simp_all [Field.assigned, Field.IsRequired]

theorem ofText?_of_nullable {v : Json} {o : Option Text} (h : nullable Check.text v = .ok o) :
    ofText? o = .plain v := by
  cases v with
  | null =>
    obtain rfl := Check.ok.inj h
    rfl
  | text s =>
    obtain rfl := Check.ok.inj h
    rfl
  | _ => simp [nullable, Check.text, refuse] at h

/-- A draft has texts, integers and members in the fields that the service
assigns, and these are checked as themselves. -/
theorem Draft.eq_of_validated {d : Draft} {f : Field} (hf : f ∈ Field.assigned) {w : Value}
    (h : f.validated (d.builder.staged f) = Check.ok w) : w = d.builder.staged f := by
  cases f with
  | serverId =>
    rw [Field.validated, Draft.builder, unlessNull_ofText?, map_ok, Check.ok.injEq] at h
    exact h.symm
  | created =>
    rw [Field.validated, Draft.builder, unlessNull_int, map_ok, Check.ok.injEq] at h
    exact h.symm
  | status =>
    rw [Field.validated, Draft.builder, unlessNull_ofMember?, map_ok, Check.ok.injEq] at h
    exact h.symm
  | statusMessage =>
    rw [Field.validated, Draft.builder, unlessNull_plain, map_eq_ok_iff] at h
    obtain ⟨o, ho, rfl⟩ := h
    exact ofText?_of_nullable ho
  | cpuPlatform =>
    rw [Field.validated, Draft.builder, unlessNull_plain, map_eq_ok_iff] at h
    obtain ⟨o, ho, rfl⟩ := h
    exact ofText?_of_nullable ho
  | _ => simp [Field.assigned] at hf

end Instance
end VmResource
