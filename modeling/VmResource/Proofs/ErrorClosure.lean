/-
# The errors of reading an instance

Whatever is wrong with a payload, reading it ends in an instance or in an
error about malformed data, which no other such error is the cause of: the
first field that cannot be read decides, malformed data of a part is passed
on as it is, and a plain fact about a part is told once, as the cause of an
error about the field. There are two other errors. That of a long integer is
meant for the numbers of a payload, but a refused value that holds such an
integer comes to it as well, since the message would have to show it. And the
links of the instance are read outside of any part, so that the refusal of
one that tells a part which is no string passes through.

Key definitions: `Instance.Draft.firstFailure?`, `Instance.FailsLong`,
`Instance.FailsBroken`, `Instance.HasLongNumber`,
`Instance.ErrorsAreMalformed`.
Key theorems: `Instance.Draft.failure?_read`, `Instance.closed_ofPayload`,
`Instance.errorsAreMalformed_iff`.
-/
import VmResource.Proofs.PartFailure

namespace VmResource

open Error (IsFact IsMalformed IsRefusal IsLinkRefusal)
open Json (ifSet valueOf Optional IsLink IsMember IsNumber ObjectOf ListOf HoldsLong
  ItemFailsLong TellsStrings)

/-! ### Errors of parts -/

theorem Except.mapM_mapError {α β ε : Type} (f : α → Except ε β) (g : ε → ε) : ∀ xs : List α,
    xs.mapM (fun x => (f x).mapError g) = (xs.mapM f).mapError g
  | [] => rfl
  | x :: xs => by
    rw [List.mapM_cons, List.mapM_cons, mapM_mapError f g xs]
    cases f x with
    | error e => rfl
    | ok b => cases xs.mapM f <;> rfl

namespace Payload

variable {α : Type} {field : String} {read : Json → Except Error α}

theorem partError_of_isMalformed {e : Error} (h : e.IsMalformed) : partError field e = e := by
  cases h <;> rfl

theorem partError_of_isFact {e : Error} (h : e.IsFact) :
    partError field e = .malformed (.part field) (some e) := by
  cases h <;> rfl

theorem isMalformed_partError {e : Error} (h : e.IsRefusal) : (partError field e).IsMalformed := by
  rcases h with hmalformed | hfact
  · rw [partError_of_isMalformed hmalformed]
    exact hmalformed
  · rw [partError_of_isFact hfact]
    exact .ofFact _ _ hfact

theorem partError_ne_invalid {e : Error} {subject : String} {vs : List Violation} :
    partError field e ≠ .invalid subject vs := by
  cases e <;> simp [partError]

theorem partError_eq_tooLong_iff {e : Error} :
    partError field e = .integerTooLong ↔ e = .integerTooLong := by
  cases e <;> simp [partError]

/-- A list of parts, each with its own errors. -/
def listed (field : String) (read : Json → Except Error α) : Json → Except Error (List α)
  | .list xs => xs.mapM read
  | v => .error (.about v (.partsNotList field v) none)

/-- Parts are told about one by one as they would be all together. -/
theorem parts_eq_part : parts field read = part field (listed field read) := by
  funext v
  cases v with
  | list xs => exact Except.mapM_mapError read (partError field) xs
  | _ =>
    simp only [parts, part, listed, Error.about]
    split <;> rfl

/-- What is no list at all fails for a long integer if it holds one. -/
def PartsFailLong (through long : Json → Prop) (v : Json) : Prop :=
  ((∀ xs, v ≠ .list xs) ∧ v.HoldsLong) ∨ ItemFailsLong through long v

theorem PartsFailLong.ne_null {through long : Json → Prop} {v : Json}
    (h : PartsFailLong through long v) : v ≠ .null :=
  h.elim (fun h => h.2.ne_null) ItemFailsLong.ne_null

variable {through long : Json → Prop}

theorem closed_listed (hread : ∀ x, Closed IsRefusal (long x) (read x))
    (hthrough : ∀ x, (∃ a, read x = .ok a) ↔ through x) (v : Json) :
    Closed IsRefusal (PartsFailLong through long v) (listed field read v) := by
  cases v with
  | list xs =>
    apply (Closed.mapM hread hthrough xs).of_iff
    simp [PartsFailLong, ItemFailsLong]
  | _ =>
    apply (Closed.about (Or.inl (.bare _))).of_iff
    simp [PartsFailLong, ItemFailsLong]

theorem closed_part {v : Json} {long : Prop} (h : Closed IsRefusal long (read v)) :
    Closed IsMalformed long (part field read v) := by
  unfold part
  cases hv : read v with
  | ok a =>
    rw [hv] at h
    exact (Closed.ok a).of_not h.not_long_of_ok
  | error e =>
    rw [hv] at h
    refine ⟨fun e' he => ?_, ?_⟩
    · rw [← Except.error.inj he]
      exact (h.eq_or e rfl).imp partError_eq_tooLong_iff.mpr isMalformed_partError
    · rw [← h.eq_iff]
      simp only [Except.mapError, Except.error.injEq, partError_eq_tooLong_iff]

theorem closed_parts (hread : ∀ x, Closed IsRefusal (long x) (read x))
    (hthrough : ∀ x, (∃ a, read x = .ok a) ↔ through x) (v : Json) :
    Closed IsMalformed (PartsFailLong through long v) (parts field read v) := by
  rw [parts_eq_part]
  exact closed_part (closed_listed hread hthrough v)

theorem exists_ifSet_part_iff {P : Json → Prop} (hread : ∀ {x}, (∃ a, read x = .ok a) ↔ P x)
    {v : Json} : (∃ o, ifSet (part field read) v = .ok o) ↔ Optional P v := by
  simp only [Json.exists_ifSet_eq_ok_iff, part_eq_ok_iff, hread, Optional]

theorem exists_ifSet_parts_iff {P : Json → Prop} (hread : ∀ {x}, (∃ a, read x = .ok a) ↔ P x)
    {v : Json} : (∃ o, ifSet (parts field read) v = .ok o) ↔ Optional (ListOf P) v := by
  simp only [Json.exists_ifSet_eq_ok_iff, parts_eq_ok_iff, Optional]
  rw [Json.exists_list_iff fun _ => hread]

end Payload

/-! ### The first failure -/

/-- What a reading fails with, if it does. -/
def failure? {α : Type} : Except Error α → Option Error
  | .ok _ => none
  | .error e => some e

/-- The first of some fields that fails, and with what. -/
def firstOf (failures : List (String × Option Error)) : Option (String × Error) :=
  failures.findSome? fun (field, failure) => failure.map (field, ·)

/-- The links, which are read outside of any part. -/
def isLinkField (field : String) : Bool := field = "selfLink" || field = "machineType"

/-- The failure of a field as it is told. -/
def told : String × Error → Error := fun (field, e) =>
  if isLinkField field then e else Payload.partError field e

section Told

variable {α β : Type} {x : Except Error α} {field : String}

theorem failure?_eq_some_iff {e : Error} : failure? x = some e ↔ x = .error e := by
  cases x <;> simp [failure?]

theorem failure?_bind {f : α → Except Error β} {failure : Option Error}
    {failures : List (String × Option Error)}
    (hx : failure? x = failure.map fun e => told (field, e))
    (hf : ∀ a, failure? (f a) = (firstOf failures).map told) :
    failure? (x >>= f) = (firstOf ((field, failure) :: failures)).map told := by
  cases x with
  | ok a =>
    cases failure with
    | none => exact hf a
    | some e => cases hx
  | error e =>
    cases failure with
    | none => cases hx
    | some e' => exact hx

theorem told_of_isMalformed {e : Error} (h : e.IsMalformed) : told (field, e) = e := by
  simp only [told, Payload.partError_of_isMalformed h, ite_self]

/-- Malformed data is told as it is. -/
theorem failure?_of_closed {long : Prop} (h : Closed IsMalformed long x) :
    failure? x = (failure? x).map fun e => told (field, e) := by
  cases x with
  | ok a => rfl
  | error e =>
    have htold : told (field, e) = e := by
      rcases h.eq_or e rfl with rfl | hmalformed
      · exact ite_self _
      · exact told_of_isMalformed hmalformed
    simp only [failure?, Option.map_some, htold]

/-- So is whatever is wrong with a link. -/
theorem failure?_of_isLinkField (h : isLinkField field = true) :
    failure? x = (failure? x).map fun e => told (field, e) := by
  simp only [told, h, if_true, Option.map_id']

theorem failure?_ifSet_part (h : isLinkField field = false) (read : Json → Except Error α)
    (v : Json) : failure? (ifSet (Payload.part field read) v) =
      (failure? (ifSet read v)).map fun e => told (field, e) := by
  simp only [told, h, Bool.false_eq_true, if_false]
  by_cases hv : v = .null
  · subst hv
    rfl
  · rw [Json.ifSet_of_ne_null _ hv, Json.ifSet_of_ne_null _ hv]
    unfold Payload.part
    cases read v <;> rfl

/-- A refusal that is no cause of another error is that of a link. -/
theorem isLinkField_of_told {e : Error} {subject : String} {vs : List Violation}
    (h : told (field, e) = .invalid subject vs) : isLinkField field = true := by
  simp only [told] at h
  split at h
  · assumption
  · exact absurd h Payload.partError_ne_invalid

end Told

open Payload (PartsFailLong)

namespace Instance
namespace Draft

/-- The fields in the order in which they are read, each with what its own
reader fails with. -/
def failures (es : List (Text × Json)) : List (String × Option Error) := [
  ("selfLink", failure? (Identity.read .vm (valueOf es "selfLink"))),
  ("machineType", failure? (Identity.read .machineType (valueOf es "machineType"))),
  ("id", failure? (ifSet Payload.serverId (valueOf es "id"))),
  ("creationTimestamp", failure? (ifSet Payload.timestamp (valueOf es "creationTimestamp"))),
  ("status", failure? (ifSet (Choice.read Status "status") (valueOf es "status"))),
  ("tags", failure? (ifSet Tags.ofPayload (valueOf es "tags"))),
  ("networkInterfaces",
    failure? (ifSet (Payload.listed "networkInterfaces" NetworkInterface.ofPayload)
      (valueOf es "networkInterfaces"))),
  ("disks", failure? (ifSet (Payload.listed "disks" AttachedDisk.ofPayload) (valueOf es "disks"))),
  ("metadata", failure? (ifSet Metadata.ofPayload (valueOf es "metadata"))),
  ("serviceAccounts",
    failure? (ifSet (Payload.listed "serviceAccounts" ServiceAccount.ofPayload)
      (valueOf es "serviceAccounts"))),
  ("scheduling", failure? (ifSet Scheduling.ofPayload (valueOf es "scheduling")))]

/-- The first field that cannot be read, and what its reader fails with. -/
def firstFailure? (es : List (Text × Json)) : Option (String × Error) := firstOf (failures es)

/-- A draft fails with the first failure of a field, told once. -/
theorem failure?_read (es : List (Text × Json)) :
    failure? (read es) = (firstFailure? es).map told := by
  unfold read
  simp only [Payload.parts_eq_part]
  refine failure?_bind (failure?_of_isLinkField rfl) fun id => ?_
  refine failure?_bind (failure?_of_isLinkField rfl) fun machineType => ?_
  have hserver := (Payload.closed_serverId (valueOf es "id")).ifSet
    fun h => h.elim Json.IsLongText.ne_null HoldsLong.ne_null
  refine failure?_bind (failure?_of_closed hserver) fun serverId => ?_
  have hcreated := (Payload.closed_timestamp (valueOf es "creationTimestamp")).ifSet
    HoldsLong.ne_null
  refine failure?_bind (failure?_of_closed hcreated) fun created => ?_
  have hstatus := (Choice.closed_read (α := Status) "status" (valueOf es "status")).ifSet
    HoldsLong.ne_null
  refine failure?_bind (failure?_of_closed hstatus) fun status => ?_
  refine failure?_bind (failure?_ifSet_part rfl _ _) fun tags => ?_
  refine failure?_bind (failure?_ifSet_part rfl _ _) fun interfaces => ?_
  refine failure?_bind (failure?_ifSet_part rfl _ _) fun disks => ?_
  refine failure?_bind (failure?_ifSet_part rfl _ _) fun metadata => ?_
  refine failure?_bind (failure?_ifSet_part rfl _ _) fun accounts => ?_
  refine failure?_bind (failure?_ifSet_part rfl _ _) fun scheduling => ?_
  rfl

/-- The first link that is none of an identity tells a part that is no
string. -/
def LinkIsBroken (es : List (Text × Json)) : Prop :=
  ¬ TellsStrings .vm (valueOf es "selfLink") ∨
    (IsLink .vm (valueOf es "selfLink") ∧ ¬ TellsStrings .machineType (valueOf es "machineType"))

/-- A draft is refused for what its links tell, and for nothing else. -/
theorem exists_read_eq_invalid_iff (es : List (Text × Json)) :
    (∃ subject vs, read es = .error (.invalid subject vs)) ↔ LinkIsBroken es := by
  simp only [← failure?_eq_some_iff, failure?_read, firstFailure?, LinkIsBroken,
    ← Identity.exists_read_eq_invalid_iff, ← Json.exists_link_iff]
  cases hid : Identity.read .vm (valueOf es "selfLink") with
  | error e => simp [failures, firstOf, hid, failure?, told, isLinkField]
  | ok id =>
    cases htype : Identity.read .machineType (valueOf es "machineType") with
    | error e => simp [failures, firstOf, hid, htype, failure?, told, isLinkField]
    | ok machineType =>
      -- the other fields are told as parts
      have hrest : ∀ f ∈ (failures es).drop 2, isLinkField f.1 = false := by
        simp [failures, isLinkField]
      have hfirst : firstOf (failures es) = firstOf ((failures es).drop 2) := by
        simp [failures, firstOf, hid, htype, failure?]
      simp only [failure?, reduceCtorEq, exists_false, and_false, or_false, iff_false]
      rintro ⟨subject, vs, h⟩
      obtain ⟨⟨field, e⟩, hfield, htold⟩ := Option.map_eq_some_iff.mp h
      obtain ⟨⟨name, failure⟩, hf, hmap⟩ := List.exists_of_findSome?_eq_some (hfirst ▸ hfield)
      obtain ⟨_, -, hname⟩ := Option.map_eq_some_iff.mp hmap
      obtain rfl : name = field := congrArg Prod.fst hname
      exact absurd (isLinkField_of_told htold) (by rw [hrest _ hf]; decide)

/-- The steps of reading the fields. Plain fields are only checked at the end
and have none. -/
def steps (es : List (Text × Json)) : List (Prop × Prop) := [
  (IsLink .vm (valueOf es "selfLink"), HoldsLong (valueOf es "selfLink")),
  (IsLink .machineType (valueOf es "machineType"), HoldsLong (valueOf es "machineType")),
  (Optional IsNumber (valueOf es "id"),
    (valueOf es "id").IsLongText ∨ HoldsLong (valueOf es "id")),
  (Optional (fun v => ∃ n, Payload.timestamp v = .ok n) (valueOf es "creationTimestamp"),
    HoldsLong (valueOf es "creationTimestamp")),
  (Optional (IsMember Status) (valueOf es "status"), HoldsLong (valueOf es "status")),
  (Optional (ObjectOf Tags.HasForm) (valueOf es "tags"), False),
  (Optional (ListOf (ObjectOf (NetworkInterface.HasForm IsLink))) (valueOf es "networkInterfaces"),
    PartsFailLong (ObjectOf (NetworkInterface.HasForm IsLink)) (ObjectOf NetworkInterface.FailsLong)
      (valueOf es "networkInterfaces")),
  (Optional (ListOf fun v => ∃ d, AttachedDisk.ofPayload v = .ok d) (valueOf es "disks"),
    PartsFailLong (fun v => ∃ d, AttachedDisk.ofPayload v = .ok d)
      (ObjectOf AttachedDisk.FailsLong) (valueOf es "disks")),
  (Optional (ObjectOf Metadata.HasForm) (valueOf es "metadata"), False),
  (Optional (ListOf (ObjectOf ServiceAccount.HasForm)) (valueOf es "serviceAccounts"),
    PartsFailLong (ObjectOf ServiceAccount.HasForm) (fun _ => False)
      (valueOf es "serviceAccounts")),
  (Optional (ObjectOf Scheduling.HasForm) (valueOf es "scheduling"),
    ObjectOf Scheduling.FailsLong (valueOf es "scheduling"))]

theorem closed_read (es : List (Text × Json)) :
    Closed IsLinkRefusal (FirstLong (steps es)) (read es) := by
  unfold read
  refine Closed.step (Identity.closed_read _ _) Json.exists_link_iff fun id => ?_
  refine Closed.step (Identity.closed_read _ _) Json.exists_link_iff fun machineType => ?_
  -- once the links are read, all that can be wrong is malformed data
  refine Closed.mono ?_ fun _ => Or.inl
  refine Closed.step ((Payload.closed_serverId _).ifSet
    fun h => h.elim Json.IsLongText.ne_null HoldsLong.ne_null)
    (exists_ifSet_iff Json.exists_serverId_iff) fun serverId => ?_
  refine Closed.step ((Payload.closed_timestamp _).ifSet HoldsLong.ne_null)
    (exists_ifSet_iff Iff.rfl) fun created => ?_
  refine Closed.step ((Choice.closed_read _ _).ifSet HoldsLong.ne_null)
    Json.exists_ifSet_choice_iff fun status => ?_
  refine Closed.step ((Payload.closed_part (Tags.closed_ofPayload _)).ifSet False.elim)
    (Payload.exists_ifSet_part_iff Tags.exists_ofPayload_iff) fun tags => ?_
  refine Closed.step ((Payload.closed_parts NetworkInterface.closed_ofPayload
    (fun _ => NetworkInterface.exists_ofPayload_iff) _).ifSet PartsFailLong.ne_null)
    (Payload.exists_ifSet_parts_iff NetworkInterface.exists_ofPayload_iff) fun interfaces => ?_
  refine Closed.step ((Payload.closed_parts AttachedDisk.closed_ofPayload
    (fun _ => Iff.rfl) _).ifSet PartsFailLong.ne_null)
    (Payload.exists_ifSet_parts_iff Iff.rfl) fun disks => ?_
  refine Closed.step ((Payload.closed_part (Metadata.closed_ofPayload _)).ifSet False.elim)
    (Payload.exists_ifSet_part_iff Metadata.exists_ofPayload_iff) fun metadata => ?_
  refine Closed.step ((Payload.closed_parts ServiceAccount.closed_ofPayload
    (fun _ => ServiceAccount.exists_ofPayload_iff) _).ifSet PartsFailLong.ne_null)
    (Payload.exists_ifSet_parts_iff ServiceAccount.exists_ofPayload_iff) fun accounts => ?_
  refine Closed.last (Closed.bind ?_ fun scheduling => .ok _)
  exact (Payload.closed_part (Scheduling.closed_ofPayload _)).ifSet Json.ObjectOf.ne_null

end Draft

/-! ### Instances -/

/-- Building from a draft fails if a part is not there or the draft breaks a
rule, and each is told as an error about the payload. -/
theorem closed_build (d : Draft) :
    Closed IsMalformed False (d.builder.build.outcome.mapError buildError) := by
  rw [Draft.build_outcome]
  cases d.disks with
  | none => exact .error (.ofNotStaged _ _) (by simp [buildError])
  | some ds =>
    cases d.interfaces with
    | none => exact .error (.ofNotStaged _ _) (by simp [buildError])
    | some ns =>
      simp only
      cases checkFields fun f => some (d.builder.staged f) with
      | ok x => exact .ok x
      | refused vs => exact .error (.ofFact _ _ (.invalid _ _)) (by simp [buildError])

/-- When reading a value fails for a long integer: it is no object and holds
one, or both links are there and the first step to fail does so. -/
def FailsLong (p : Json) : Prop :=
  ((∀ es, p ≠ .object es) ∧ HoldsLong p) ∨
    ObjectOf (fun es => valueOf es "selfLink" ≠ .null ∧ valueOf es "machineType" ≠ .null ∧
      FirstLong (Draft.steps es)) p

/-- When reading a value is refused for a link: both links are there, and one
tells a part that is no string. -/
def FailsBroken (p : Json) : Prop :=
  ObjectOf (fun es => valueOf es "selfLink" ≠ .null ∧ valueOf es "machineType" ≠ .null ∧
    Draft.LinkIsBroken es) p

/-- **Error closure.** Reading any value ends in an instance, in an error
about malformed data that no other such error caused, in the refusal of a
link, or exactly under `FailsLong` in the error of a long integer. -/
theorem closed_ofPayload (p : Json) : Closed IsLinkRefusal (FailsLong p) (ofPayload p).outcome := by
  rw [ofPayload_outcome]
  cases p with
  | object es =>
    rw [Builder.ofPayload_object]
    by_cases hlink : valueOf es "selfLink" = .null
    · rw [if_pos hlink]
      apply Closed.of_not (Closed.error (Or.inl (.bare .noSelfLink)) (by simp))
      simp [FailsLong, ObjectOf, hlink]
    · by_cases htype : valueOf es "machineType" = .null
      · rw [if_neg hlink, if_pos htype]
        apply Closed.of_not (Closed.error (Or.inl (.bare .noMachineType)) (by simp))
        simp [FailsLong, ObjectOf, htype]
      · rw [if_neg hlink, if_neg htype, bind_map_left]
        have hbuild : ∀ d : Draft, Closed IsLinkRefusal False
            (d.builder.build.outcome.mapError buildError) := fun d =>
          (closed_build d).mono fun _ => Or.inl
        apply ((Draft.closed_read es).bind hbuild).of_iff
        simp [FailsLong, ObjectOf, hlink, htype]
  | _ =>
    apply Closed.of_iff (Closed.about (Or.inl (.bare _)))
    simp [FailsLong, ObjectOf]

/-- A field that fails first is what the whole fails with. -/
theorem outcome_of_firstFailure {es : List (Text × Json)} {failure : String × Error}
    (hlink : valueOf es "selfLink" ≠ .null) (htype : valueOf es "machineType" ≠ .null)
    (h : Draft.firstFailure? es = some failure) :
    (ofPayload (.object es)).outcome = .error (told failure) := by
  have hread := Draft.failure?_read es
  rw [h] at hread
  rw [ofPayload_outcome, Builder.ofPayload_object, if_neg hlink, if_neg htype]
  cases hd : Draft.read es with
  | ok d =>
    rw [hd] at hread
    cases hread
  | error e =>
    rw [hd] at hread
    rw [Option.some.inj hread]
    rfl

/-- A refusal passes through exactly if a link is refused. -/
theorem exists_outcome_eq_invalid_iff (p : Json) :
    (∃ subject vs, (ofPayload p).outcome = .error (.invalid subject vs)) ↔ FailsBroken p := by
  rw [ofPayload_outcome]
  cases p with
  | object es =>
    rw [Builder.ofPayload_object]
    by_cases hlink : valueOf es "selfLink" = .null
    · rw [if_pos hlink]
      simp [FailsBroken, ObjectOf, hlink]
    · by_cases htype : valueOf es "machineType" = .null
      · rw [if_neg hlink, if_pos htype]
        simp [FailsBroken, ObjectOf, htype]
      · rw [if_neg hlink, if_neg htype, bind_map_left]
        have hread := Draft.exists_read_eq_invalid_iff es
        cases hd : Draft.read es with
        | error e =>
          rw [hd] at hread
          simpa [FailsBroken, ObjectOf, hlink, htype] using hread
        | ok d =>
          rw [hd] at hread
          have hlinks : ¬ Draft.LinkIsBroken es := by
            rw [← hread]
            simp
          have hbuild : ∀ subject vs,
              d.builder.build.outcome.mapError buildError ≠ .error (.invalid subject vs) := by
            intro subject vs h
            rcases (closed_build d).eq_or _ h with he | he <;> cases he
          simpa [FailsBroken, ObjectOf, hlink, htype, hlinks] using hbuild
  | _ => simp [Builder.ofPayload, FailsBroken, ObjectOf, Error.about_ne_invalid]

/-! ### Numbers that are too long -/

/-- The id, or the index or the size of some disk, is an integer of more than
`digitLimit` digits, as a number or as a text. -/
def HasLongNumber (es : List (Text × Json)) : Prop :=
  (valueOf es "id").IsLongNumber ∨
    ∃ xs, valueOf es "disks" = .list xs ∧ ∃ ds, Json.object ds ∈ xs ∧
      ((valueOf ds "index").IsLongNumber ∨
        ∃ ps, valueOf ds "initializeParams" = .object ps ∧ (valueOf ps "diskSizeGb").IsLongNumber)

/-- An error of reading `p` is about malformed data, and no other such error
caused it, or a number of the payload is too long. -/
def ErrorsAreMalformed (p : Json) : Prop :=
  ∀ e, (ofPayload p).outcome = .error e →
    e.IsMalformed ∨ (e = .integerTooLong ∧ ObjectOf HasLongNumber p)

/-- **What reading fails with.** The errors of reading a value are as they
should be if and only if the value has a number that is too long wherever it
fails for a long integer, and no link of it tells a part that is no string.
Either way there are no others, and of the first field that fails malformed
data is passed on as it is and a plain fact told once, as the cause of an
error about the field; only that about a link is told by itself. -/
theorem errorsAreMalformed_iff (p : Json) :
    (ErrorsAreMalformed p ↔ (FailsLong p → ObjectOf HasLongNumber p) ∧ ¬ FailsBroken p) ∧
      (∀ e, (ofPayload p).outcome = .error e →
        e = .integerTooLong ∨ e.IsMalformed ∨ ∃ subject vs, e = .invalid subject vs) ∧
      ((ofPayload p).outcome = .error .integerTooLong ↔ FailsLong p) ∧
      ((∃ subject vs, (ofPayload p).outcome = .error (.invalid subject vs)) ↔ FailsBroken p) ∧
      ∀ es field e, p = .object es → valueOf es "selfLink" ≠ .null →
        valueOf es "machineType" ≠ .null → Draft.firstFailure? es = some (field, e) →
          (e.IsMalformed → (ofPayload p).outcome = .error e) ∧
            (e.IsFact → (ofPayload p).outcome =
              .error (if isLinkField field then e else .malformed (.part field) (some e))) := by
  have hclosed := closed_ofPayload p
  have hinvalid := exists_outcome_eq_invalid_iff p
  refine ⟨?_, hclosed.eq_or, hclosed.eq_iff, hinvalid, ?_⟩
  · constructor
    · refine fun h => ⟨fun hlong => ?_, fun hbroken => ?_⟩
      · rcases h _ (hclosed.eq_iff.mpr hlong) with hmalformed | ⟨-, hnumber⟩
        · exact absurd rfl hmalformed.ne_integerTooLong
        · exact hnumber
      · obtain ⟨subject, vs, he⟩ := hinvalid.mpr hbroken
        rcases h _ he with hmalformed | ⟨hlong, -⟩
        · cases hmalformed
        · cases hlong
    · rintro ⟨hnumber, hlinks⟩ e he
      rcases hclosed.eq_or e he with rfl | hmalformed | ⟨subject, vs, rfl⟩
      · exact Or.inr ⟨rfl, hnumber (hclosed.eq_iff.mp he)⟩
      · exact Or.inl hmalformed
      · exact absurd (hinvalid.mp ⟨subject, vs, he⟩) hlinks
  · rintro es field e rfl hlink htype hfirst
    have houtcome := outcome_of_firstFailure hlink htype hfirst
    refine ⟨fun hmalformed => ?_, fun hfact => ?_⟩
    · rw [houtcome, told_of_isMalformed hmalformed]
    · rw [houtcome, told, Payload.partError_of_isFact hfact]

/-- A payload with a list for its tags. -/
def listedTags : List (Text × Json) :=
  [("selfLink", .text "zones/z/instances/i"), ("machineType", .text "zones/z/machineTypes/m"),
    ("tags", .list [])]

/-- That a list has no keys is told as the cause of an error about the tags. -/
theorem outcome_listedTags : (ofPayload (.object listedTags)).outcome =
    .error (.malformed (.part "tags") (some .attributeMissing)) := by
  obtain ⟨-, -, -, -, hfirst⟩ := errorsAreMalformed_iff (.object listedTags)
  have hlink : valueOf listedTags "selfLink" ≠ .null := by decide
  have htype : valueOf listedTags "machineType" ≠ .null := by decide
  have htags : Draft.firstFailure? listedTags = some ("tags", .attributeMissing) := rfl
  exact (hfirst listedTags "tags" .attributeMissing rfl hlink htype htags).2 .attributeMissing

/-- A payload whose only fault is its status, a number with more than
`digitLimit` digits. -/
def longStatus : List (Text × Json) :=
  [("selfLink", .text "zones/z/instances/i"), ("machineType", .text "zones/z/machineTypes/m"),
    ("status", .int longBound), ("networkInterfaces", .list []), ("disks", .list [])]

/-- The status is refused for its digits, though no id, index or size is there
at all. -/
theorem not_errorsAreMalformed_longStatus : ¬ ErrorsAreMalformed (.object longStatus) := by
  intro h
  have hlong : HoldsLong (.int longBound) := by
    rw [Json.holdsLong_int_iff, isLong, decide_eq_true_eq, Int.natAbs_natCast]
  have hlink : Identity.read .vm (.text "zones/z/instances/i") =
      .ok ⟨none, [⟨"z", by decide⟩, ⟨"i", by decide⟩], rfl⟩ := rfl
  have htype : Identity.read .machineType (.text "zones/z/machineTypes/m") =
      .ok ⟨none, [⟨"z", by decide⟩, ⟨"m", by decide⟩], rfl⟩ := rfl
  -- the links let the reader through, the next two fields are not there
  have hsteps : FirstLong (Draft.steps longStatus) :=
    Or.inr ⟨Json.exists_link_iff.mp ⟨_, hlink⟩, Or.inr ⟨Json.exists_link_iff.mp ⟨_, htype⟩,
      Or.inr ⟨Or.inl rfl, Or.inr ⟨Or.inl rfl, Or.inl hlong⟩⟩⟩⟩
  have hfails : FailsLong (.object longStatus) :=
    Or.inr ⟨longStatus, rfl, fun hnull => (by cases hnull), fun hnull => (by cases hnull), hsteps⟩
  rcases h _ ((closed_ofPayload _).eq_iff.mpr hfails) with hmalformed | ⟨-, hnumber⟩
  · exact hmalformed.ne_integerTooLong rfl
  · obtain ⟨es, hes, hid | ⟨xs, hdisks, ds, hds, -⟩⟩ := hnumber
    · cases hes
      have hnull : ¬ (Json.null).IsLongNumber := by simp [Json.IsLongNumber, Json.IsLongText]
      exact hnull hid
    · cases hes
      cases hdisks
      simp at hds

end Instance
end VmResource
