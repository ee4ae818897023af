/-
# What a refusal lists

The violations of a check of fields are those of each field under its name,
one field after the other in the order of declaration. Every field that
fails has a violation in the list, so an instance is made of staged values
exactly if each of them passes in its field.

Key definitions: `Instance.Field.violations`.
Key theorems: `Instance.Field.tells_validated`,
`Instance.violations_checkFields`, `Instance.checkFields_cases`.
-/
import VmResource.Proofs.Validated
import VmResource.Proofs.Violations

namespace VmResource

open Check

/-! ### Checks of resources -/

theorem Identity.tells_check (k : Identity.Kind) (v : Json) : (Identity.check k v).Tells :=
  tells_object (fun es => ((tells_optional tells_nonempty es _).map _).seq
    (tells_names (fun name => tells_required tells_nonempty es name) _)) v

theorem Tags.tells_check (v : Json) : (Tags.check v).Tells :=
  tells_object (fun es => ((tells_optional (tells_list tells_text) es _).map _).seq
    (tells_optional tells_text es _)) v

theorem Metadata.tells_checkPair (v : Json) : (Metadata.checkPair v).Tells := by
  unfold Metadata.checkPair
  split
  · exact (((tells_refuse _).under _).map _).seq ((tells_refuse _).under _)
  · exact (((tells_text _).under _).map _).seq ((tells_refuse _).under _)
  · exact (((tells_text _).under _).map _).seq ((tells_nullable tells_text _).under _)
  · exact tells_refuse _
  · exact tells_refuse _

theorem Metadata.tells_check (v : Json) : (Metadata.check v).Tells :=
  tells_object (fun es => ((tells_optional (tells_list Metadata.tells_checkPair) es _).map _).seq
    (tells_optional tells_text es _)) v

theorem ServiceAccount.tells_check (v : Json) : (ServiceAccount.check v).Tells :=
  tells_object (fun es => ((tells_required tells_nonempty es _).map _).seq
    (tells_optional (tells_list tells_text) es _)) v

theorem Scheduling.tells_check (v : Json) : (Scheduling.check v).Tells :=
  tells_object (fun es => (((tells_optional tells_flag es _).map _).seq
    (tells_optional tells_member es _)).seq (tells_optional tells_flag es _)) v

theorem AccessConfig.tells_check (v : Json) : (AccessConfig.check v).Tells :=
  tells_object (fun es => (((tells_optional tells_text es _).map _).seq
    (tells_optional tells_text es _)).seq ((tells_nullable tells_member _).field _)) v

theorem NetworkInterface.tells_check (v : Json) : (NetworkInterface.check v).Tells :=
  tells_object (fun es => (((((tells_required (Identity.tells_check _) es _).map _).seq
    (tells_optional tells_text es _)).seq (tells_optional tells_text es _)).seq
    (tells_optional (Identity.tells_check _) es _)).seq
    (tells_optional (tells_list AccessConfig.tells_check) es _)) v

theorem tells_isKind (kind : String) (v : Json) : (isKind kind v).Tells := by
  cases v with
  | text t =>
    refine (tells_unicode t).andThen fun s => ?_
    split
    · exact tells_ok _
    · exact tells_refuse _
  | _ => exact tells_refuse _

theorem tells_checkKind (es : List (Text × Json)) (kind : String) :
    (checkKind es kind).Tells := by
  unfold checkKind
  split
  · exact (tells_ok _).field _
  · exact (tells_isKind kind _).field _

theorem PersistentDisk.tells_check (v : Json) : (PersistentDisk.check v).Tells :=
  tells_object (fun es => (((((tells_checkKind es _).map _).seq
    (tells_required (Identity.tells_check _) es _)).seq (tells_optional tells_member es _)).seq
    (tells_optional tells_flag es _)).seq (tells_optional tells_flag es _)) v

theorem CreatedDisk.tells_check (v : Json) : (CreatedDisk.check v).Tells :=
  tells_object (fun es => ((((((tells_checkKind es _).map _).seq
    (tells_required (Identity.tells_check _) es _)).seq (tells_optional tells_text es _)).seq
    (tells_optional (Identity.tells_check _) es _)).seq
    (tells_optional tells_positive es _)).seq (tells_optional tells_flag es _)) v

theorem ScratchDisk.tells_check (v : Json) : (ScratchDisk.check v).Tells :=
  tells_object (fun es => (((tells_checkKind es _).map _).seq
    (tells_optional (Identity.tells_check _) es _)).seq (tells_optional tells_member es _)) v

theorem DiskConfiguration.tells_check (v : Json) : (DiskConfiguration.check v).Tells := by
  unfold DiskConfiguration.check
  split
  · split
    · exact tells_refuse _
    · split
      · exact ((PersistentDisk.tells_check _).map _).field _
      · split
        · exact ((CreatedDisk.tells_check _).map _).field _
        · split
          · exact ((ScratchDisk.tells_check _).map _).field _
          · exact tells_refuse _
  · exact tells_refuse _

theorem AttachedDisk.tells_check (v : Json) : (AttachedDisk.check v).Tells :=
  tells_object (fun es => (((tells_required DiskConfiguration.tells_check es _).map _).seq
    (tells_optional tells_text es _)).seq (tells_optional tells_natural es _)) v

/-! ### Checks of staged values -/

namespace Value

variable {α : Type} {c : Json → Check α}

theorem tells_single (rule : Rule) (h : ∀ v, (c v).Tells) (v : Value) :
    (single rule c v).Tells := by
  cases v with
  | plain v => exact h v
  | _ => exact tells_refuse _

theorem tells_made (pick : Resource → Option α) (h : ∀ v, (c v).Tells) (v : Value) :
    (made pick c v).Tells := by
  cases v with
  | plain v => exact h v
  | resource r =>
    simp only [made]
    split
    · exact tells_ok _
    · exact tells_refuse _
  | _ => exact tells_refuse _

theorem tells_eachItem {c : Value → Check α} (h : ∀ v, (c v).Tells) (v : Value) :
    (eachItem c v).Tells := by
  unfold eachItem
  split
  · exact tells_eachFrom h 0 _
  · exact tells_eachFrom (fun v => h (.plain v)) 0 _
  · exact tells_refuse _

theorem tells_unlessNull {c : Value → Check α} (h : ∀ v, (c v).Tells) (v : Value) :
    (unlessNull c v).Tells := by
  unfold unlessNull
  split
  · exact tells_ok _
  · exact (h v).map _

end Value

namespace Instance

open Value

/-- A field that refuses a value tells why. -/
theorem Field.tells_validated (f : Field) (v : Value) : (f.validated v).Tells := by
  cases f with
  | id => exact (tells_made _ (Identity.tells_check _) v).map _
  | machineType => exact (tells_made _ (Identity.tells_check _) v).map _
  | interfaces => exact (tells_eachItem (tells_made _ NetworkInterface.tells_check) v).map _
  | disks => exact (tells_eachItem (tells_made _ AttachedDisk.tells_check) v).map _
  | tags => exact (tells_unlessNull (tells_made _ Tags.tells_check) v).map _
  | canIpForward => exact (tells_unlessNull (tells_single _ tells_flag) v).map _
  | metadata => exact (tells_unlessNull (tells_made _ Metadata.tells_check) v).map _
  | accounts =>
    exact (tells_unlessNull (tells_eachItem (tells_made _ ServiceAccount.tells_check)) v).map _
  | scheduling => exact (tells_unlessNull (tells_made _ Scheduling.tells_check) v).map _
  | created => exact (tells_unlessNull (tells_single _ tells_integer) v).map _
  | status => exact (tells_unlessNull (tells_single _ tells_member) v).map _
  | description | serverId | statusMessage | cpuPlatform =>
    exact (tells_unlessNull (tells_single _ tells_text) v).map _

/-- The violations that a field adds to those of the whole. -/
def Field.violations (f : Field) (v : Value) : List Violation :=
  (f.validated v).violations.map (Violation.under (.field f.name))

/-- A field adds violations exactly if its value fails. -/
theorem Field.violations_eq_nil_iff {f : Field} {v : Value} :
    f.violations v = [] ↔ ∃ w, f.validated v = .ok w := by
  rw [Field.violations, List.map_eq_nil_iff, Check.violations_eq_nil_iff (f.tells_validated v)]

/-- Fields add their violations in the order of their declaration. -/
theorem violations_checkFields (staged : Field → Value) :
    (checkFields fun f => some (staged f)).violations =
      Field.all.flatMap fun f => f.violations (staged f) := by
  simp only [checkFields, violations_seq, violations_map, requiredField, optionalField,
    violations_field, Option.getD_some, Field.all, List.flatMap_cons, List.flatMap_nil,
    Field.violations, Field.validated, List.append_assoc, List.append_nil]

/-- Staged values make an instance exactly if each passes in its field. -/
theorem exists_checkFields_iff {staged : Field → Value} :
    (∃ x, checkFields (fun f => some (staged f)) = .ok x) ↔
      ∀ f : Field, ∃ w, f.validated (staged f) = .ok w := by
  simp only [checkFields, exists_seq_eq_ok_iff, exists_map_eq_ok_iff, requiredField,
    optionalField, exists_field_eq_ok_iff, Option.getD_some, Field.forall_iff, Field.validated,
    and_assoc]

/-- Staged values make an instance and all of them pass, or one of them fails
and the violations are those of all fields. -/
theorem checkFields_cases (staged : Field → Value) :
    (∃ x, checkFields (fun f => some (staged f)) = .ok x ∧
      ¬ ∃ f : Field, ∀ w, f.validated (staged f) ≠ .ok w) ∨
    (checkFields (fun f => some (staged f)) =
        .refused (Field.all.flatMap fun f => f.violations (staged f)) ∧
      ∃ f : Field, ∀ w, f.validated (staged f) ≠ .ok w) := by
  cases hcheck : checkFields fun f => some (staged f) with
  | ok x =>
    refine Or.inl ⟨x, rfl, ?_⟩
    rintro ⟨f, hf⟩
    obtain ⟨w, hw⟩ := exists_checkFields_iff.mp ⟨x, hcheck⟩ f
    exact hf w hw
  | refused vs =>
    refine Or.inr ⟨?_, ?_⟩
    · rw [← violations_checkFields, hcheck, Check.violations]
    · by_contra hnone
      obtain ⟨x, hx⟩ := exists_checkFields_iff.mpr fun f => by
        by_contra hw
        exact hnone ⟨f, not_exists.mp hw⟩
      rw [hcheck] at hx
      cases hx

end Instance
end VmResource
