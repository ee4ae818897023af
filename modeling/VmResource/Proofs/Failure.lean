/-
# How readers fail

A reader that comes to no value fails with an error of a certain class, or
because of an integer that is too long: one that it should read, or one in a
value that it refuses and whose message would have to show it. Readers take
one step after another, so what matters is the first step that fails. For
each reader it is told which class that is and exactly when the integer is
the reason.

Key definitions: `Json.HoldsLong`, `Error.IsFact`, `Error.IsMalformed`,
`Error.IsLinkRefusal`, `FirstLong`, `Closed`.
Key theorems: `Json.quotable_eq_false_iff`, `Closed.step`, `Closed.mapM`,
`Identity.closed_read`, `Identity.exists_read_eq_invalid_iff`,
`Payload.closed_integer`, `Payload.closed_serverId`.
-/
import VmResource.Proofs.Grammar

namespace VmResource

open Json (ifSet valueOf Optional ObjectOf ListOf)

/-! ### Values that cannot be shown -/

theorem isLong_eq_true_iff {n : Int} :
    isLong n = true ↔ digitLimit < (Nat.toDigits 10 n.natAbs).length := by
  rw [← Nat.not_le, ← isLong_eq_false_iff, Bool.not_eq_false]

namespace Json

/-- Somewhere in the value stands an integer of more than `digitLimit`
digits. -/
inductive HoldsLong : Json → Prop where
  | int (n : Int) (h : digitLimit < (Nat.toDigits 10 n.natAbs).length) : HoldsLong (.int n)
  | item (xs : List Json) (x : Json) (hmem : x ∈ xs) (h : HoldsLong x) : HoldsLong (.list xs)
  | entry (es : List (Text × Json)) (e : Text × Json) (hmem : e ∈ es) (h : HoldsLong e.2) :
    HoldsLong (.object es)

@[simp] theorem not_holdsLong_null : ¬ HoldsLong .null := fun h => by cases h

@[simp] theorem not_holdsLong_text (t : Text) : ¬ HoldsLong (.text t) := fun h => by cases h

theorem HoldsLong.ne_null {v : Json} (h : v.HoldsLong) : v ≠ .null := by
  rintro rfl
  exact not_holdsLong_null h

theorem holdsLong_int_iff {n : Int} : HoldsLong (.int n) ↔ isLong n = true := by
  rw [isLong_eq_true_iff]
  refine ⟨fun h => ?_, HoldsLong.int n⟩
  cases h with
  | int _ h => exact h

theorem holdsLong_list_iff {xs : List Json} : HoldsLong (.list xs) ↔ ∃ x ∈ xs, HoldsLong x := by
  refine ⟨?_, ?_⟩
  · intro h
    cases h with
    | item _ x hmem h => exact ⟨x, hmem, h⟩
  · intro h
    obtain ⟨x, hmem, h⟩ := h
    exact .item xs x hmem h

theorem holdsLong_object_iff {es : List (Text × Json)} :
    HoldsLong (.object es) ↔ ∃ e ∈ es, HoldsLong e.2 := by
  refine ⟨?_, ?_⟩
  · intro h
    cases h with
    | entry _ e hmem h => exact ⟨e, hmem, h⟩
  · intro h
    obtain ⟨e, hmem, h⟩ := h
    exact .entry es e hmem h

mutual

/-- A value cannot be shown exactly if it holds a long integer. -/
theorem quotable_eq_false_iff : ∀ v : Json, v.quotable = false ↔ v.HoldsLong
  | .int n => by rw [holdsLong_int_iff, quotable, Bool.not_eq_false']
  | .list xs => by rw [holdsLong_list_iff, quotable, quotableItems_eq_false_iff xs]
  | .object es => by rw [holdsLong_object_iff, quotable, quotableEntries_eq_false_iff es]
  | .null => by simp [quotable]
  | .bool b => ⟨fun h => (by cases h), fun h => (by cases h)⟩
  | .decimal d => ⟨fun h => (by cases h), fun h => (by cases h)⟩
  | .text t => by simp [quotable]

theorem quotableItems_eq_false_iff :
    ∀ xs : List Json, quotableItems xs = false ↔ ∃ x ∈ xs, HoldsLong x
  | [] => by simp [quotableItems]
  | x :: xs => by
    rw [quotableItems, Bool.and_eq_false_iff, quotable_eq_false_iff x,
      quotableItems_eq_false_iff xs, List.exists_mem_cons_iff]

theorem quotableEntries_eq_false_iff :
    ∀ es : List (Text × Json), quotableEntries es = false ↔ ∃ e ∈ es, HoldsLong e.2
  | [] => by simp [quotableEntries]
  | (k, x) :: es => by
    rw [quotableEntries, Bool.and_eq_false_iff, quotable_eq_false_iff x,
      quotableEntries_eq_false_iff es, List.exists_mem_cons_iff]

end

/-- A decimal text of more than `digitLimit` digits. -/
def IsLongText (v : Json) : Prop :=
  ∃ (s : String) (ds : List Char), v = .text s ∧ Text.IsDecimal s ds ∧ digitLimit < ds.length

/-- An integer of more than `digitLimit` digits, as a number or as a text. -/
def IsLongNumber (v : Json) : Prop :=
  v.IsLongText ∨ ∃ n : Int, v = .int n ∧ digitLimit < (Nat.toDigits 10 n.natAbs).length

theorem ObjectOf.ne_null {P : List (Text × Json) → Prop} {v : Json} (h : ObjectOf P v) :
    v ≠ .null := by
  obtain ⟨es, rfl, -⟩ := h
  simp

theorem IsLongText.ne_null {v : Json} (h : v.IsLongText) : v ≠ .null := by
  obtain ⟨s, ds, rfl, -⟩ := h
  simp

end Json

open Json (HoldsLong IsLongText)

/-! ### Classes of errors -/

namespace Error

/-- A plain fact about a value, which tells nothing of the payload that the
value is from. -/
inductive IsFact : Error → Prop where
  | keyMissing (key : String) : IsFact (.keyMissing key)
  | noSuchMember (name : Json) : IsFact (.noSuchMember name)
  | wrongForm : IsFact .wrongForm
  | attributeMissing : IsFact .attributeMissing
  | invalid (subject : String) (violations : List Violation) : IsFact (.invalid subject violations)

/-- Malformed data of a payload. If anything caused the error, that was a
plain fact or a field that was never set: no malformed data is the cause of
other malformed data. -/
inductive IsMalformed : Error → Prop where
  | bare (reason : Malformation) : IsMalformed (.malformed reason none)
  | ofFact (reason : Malformation) (cause : Error) (h : cause.IsFact) :
    IsMalformed (.malformed reason (some cause))
  | ofNotStaged (reason : Malformation) (name : String) :
    IsMalformed (.malformed reason (some (.notStaged name)))

/-- What the reader of a part may fail with. -/
def IsRefusal (e : Error) : Prop := e.IsMalformed ∨ e.IsFact

/-- What the reader of a link may fail with. -/
def IsLinkRefusal (e : Error) : Prop := e.IsMalformed ∨ ∃ subject vs, e = .invalid subject vs

theorem IsLinkRefusal.isRefusal {e : Error} (h : e.IsLinkRefusal) : e.IsRefusal := by
  rcases h with hmalformed | ⟨subject, vs, rfl⟩
  · exact Or.inl hmalformed
  · exact Or.inr (.invalid subject vs)

theorem about_ne_invalid {v : Json} {reason : Malformation} {cause : Option Error}
    {subject : String} {vs : List Violation} :
    Error.about v reason cause ≠ .invalid subject vs := by
  unfold Error.about
  split <;> simp

theorem IsMalformed.ne_integerTooLong {e : Error} (h : e.IsMalformed) : e ≠ .integerTooLong := by
  rintro rfl
  cases h

end Error

/-! ### Steps -/

/-- Of steps in order, each given by what lets it through and by what makes
it fail for a long integer, the first one to fail does so for a long
integer. -/
def FirstLong : List (Prop × Prop) → Prop
  | [] => False
  | (through, long) :: steps => long ∨ (through ∧ FirstLong steps)

theorem firstLong_cons {through long : Prop} {steps : List (Prop × Prop)} :
    FirstLong ((through, long) :: steps) ↔ long ∨ (through ∧ FirstLong steps) := Iff.rfl

theorem not_firstLong_of_forall : ∀ {steps : List (Prop × Prop)}, (∀ s ∈ steps, ¬ s.2) →
    ¬ FirstLong steps
  | [], _ => id
  | s :: steps, h => by
    rw [FirstLong, not_or]
    have hsteps := not_firstLong_of_forall fun t ht => h t (List.mem_cons_of_mem _ ht)
    exact ⟨h s List.mem_cons_self, fun hlong => hsteps hlong.2⟩

/-- A reading that fails does so with an error of the class `P` or for a long
integer, and the latter exactly under the condition `long`. -/
structure Closed {α : Type} (P : Error → Prop) (long : Prop) (x : Except Error α) : Prop where
  eq_or : ∀ e, x = .error e → e = .integerTooLong ∨ P e
  eq_iff : x = .error .integerTooLong ↔ long

namespace Closed

variable {α β : Type} {P Q : Error → Prop} {long : Prop}

theorem of_iff {x : Except Error α} {long' : Prop} (h : Closed P long x) (hiff : long ↔ long') :
    Closed P long' x :=
  ⟨h.eq_or, h.eq_iff.trans hiff⟩

/-- Where the condition cannot hold, a long integer is never the reason. -/
theorem of_not {x : Except Error α} (h : Closed P False x) (hlong : ¬ long) : Closed P long x :=
  h.of_iff (iff_of_false id hlong)

/-- A wider class. -/
theorem mono {x : Except Error α} (h : Closed P long x) (hPQ : ∀ e, P e → Q e) :
    Closed Q long x :=
  ⟨fun e he => (h.eq_or e he).imp_right (hPQ e), h.eq_iff⟩

theorem ok (a : α) : Closed P False (.ok a) := by
  refine ⟨fun e he => ?_, ?_⟩
  · cases he
  · simp

theorem error {e : Error} (h : P e) (hne : e ≠ .integerTooLong) :
    Closed P False (.error e : Except Error α) := by
  refine ⟨fun e' he => ?_, ?_⟩
  · rw [← Except.error.inj he]
    exact Or.inr h
  · simp [hne]

theorem tooLong (h : long) : Closed P long (.error .integerTooLong : Except Error α) := by
  refine ⟨fun e he => Or.inl (Except.error.inj he).symm, ?_⟩
  simp [h]

/-- A value that is refused in a message showing it. -/
theorem about {v : Json} {reason : Malformation} {cause : Option Error}
    (h : P (.malformed reason cause)) :
    Closed P v.HoldsLong (.error (.about v reason cause) : Except Error α) := by
  unfold Error.about
  by_cases hv : v.quotable = true
  · rw [if_pos hv]
    have hlong : ¬ v.HoldsLong := by
      rw [← Json.quotable_eq_false_iff, hv]
      simp
    exact (error h (by simp)).of_not hlong
  · rw [if_neg hv]
    apply tooLong
    rw [← Json.quotable_eq_false_iff]
    simpa using hv

/-- A failure is the same for whatever was to be read. -/
theorem retype {e : Error} (h : Closed P long (.error e : Except Error α)) :
    Closed P long (.error e : Except Error β) := by
  refine ⟨fun e' he => h.eq_or e' ?_, ?_⟩
  · rw [Except.error.inj he]
  · rw [← h.eq_iff]
    simp

theorem not_long_of_ok {a : α} (h : Closed P long (.ok a)) : ¬ long := by
  rw [← h.eq_iff]
  simp

theorem map {x : Except Error α} (h : Closed P long x) (f : α → β) : Closed P long (f <$> x) := by
  cases x with
  | ok a => exact (ok (f a)).of_not h.not_long_of_ok
  | error e => exact h.retype

/-- One step before others. -/
theorem step {through : Prop} {steps : List (Prop × Prop)} {x : Except Error α}
    {f : α → Except Error β} (hx : Closed P long x) (hthrough : (∃ a, x = .ok a) ↔ through)
    (hf : ∀ a, Closed P (FirstLong steps) (f a)) :
    Closed P (FirstLong ((through, long) :: steps)) (x >>= f) := by
  cases x with
  | ok a =>
    have hthrough : through := hthrough.mp ⟨a, rfl⟩
    apply (hf a).of_iff
    rw [firstLong_cons]
    simp only [hx.not_long_of_ok, hthrough, false_or, true_and]
  | error e =>
    have hthrough : ¬ through := by
      rw [← hthrough]
      simp
    apply hx.retype.of_iff
    rw [firstLong_cons]
    simp only [hthrough, false_and, or_false]

/-- One step before others that cannot fail for a long integer. -/
theorem bind {x : Except Error α} {f : α → Except Error β} (hx : Closed P long x)
    (hf : ∀ a, Closed P False (f a)) : Closed P long (x >>= f) := by
  have h : Closed P (FirstLong [(∃ a, x = .ok a, long)]) (x >>= f) := step hx Iff.rfl hf
  apply h.of_iff
  rw [firstLong_cons]
  simp [FirstLong]

/-- A value that may be unset. -/
theorem ifSet {read : Json → Except Error α} {v : Json} (hread : Closed P long (read v))
    (hnull : long → v ≠ .null) : Closed P long (ifSet read v) := by
  by_cases hv : v = .null
  · have hlong : ¬ long := fun h => hnull h hv
    rw [hv, Json.ifSet_null]
    exact (ok none).of_not hlong
  · rw [Json.ifSet_of_ne_null read hv]
    exact hread.map some

/-- A check at the end. -/
theorem orInvalid {subject : String} (h : ∀ vs, P (.invalid subject vs)) (c : Check α) :
    Closed P False (c.orInvalid subject) := by
  cases c with
  | ok a => exact ok a
  | refused vs => exact error (h vs) (by simp)

/-- Items one by one. -/
theorem mapM {read : Json → Except Error α} {through long : Json → Prop}
    (hread : ∀ x, Closed P (long x) (read x)) (hthrough : ∀ x, (∃ a, read x = .ok a) ↔ through x) :
    ∀ xs : List Json, Closed P (FirstLong (xs.map fun x => (through x, long x))) (xs.mapM read)
  | [] => ok []
  | x :: xs => by
    rw [List.mapM_cons, List.map_cons]
    refine step (hread x) (hthrough x) fun a => ?_
    exact bind (mapM hread hthrough xs) fun as => ok (a :: as)

/-- Items none of which fails for a long integer. -/
theorem mapM_never {read : Json → Except Error α} (hread : ∀ x, Closed P False (read x))
    (xs : List Json) : Closed P False (xs.mapM read) := by
  have hsteps := mapM hread (fun _ => Iff.rfl) xs
  refine hsteps.of_iff (iff_of_false (not_firstLong_of_forall fun s hs => ?_) id)
  obtain ⟨x, -, rfl⟩ := List.mem_map.mp hs
  exact id

end Closed

/-! ### Single values -/

/-- A link fails for a long integer if it is no text but holds one. -/
theorem Identity.closed_read (k : Identity.Kind) (v : Json) :
    Closed Error.IsLinkRefusal v.HoldsLong (Identity.read k v) := by
  cases v with
  | text url =>
    refine Closed.of_not ?_ (by simp)
    simp only [Identity.read]
    cases Identity.Address.ofUrl? k url with
    | none => exact .error (Or.inl (.bare _)) (by simp)
    | some a => exact .orInvalid (fun _ => Or.inr ⟨_, _, rfl⟩) a.check
  | _ => exact .about (Or.inl (.bare _))

/-- A link is refused for its parts if it tells one that is no string. -/
theorem Identity.exists_read_eq_invalid_iff {k : Identity.Kind} {v : Json} :
    (∃ subject vs, Identity.read k v = .error (.invalid subject vs)) ↔
      ¬ Json.TellsStrings k v := by
  simp only [Json.TellsStrings, not_forall]
  constructor
  · rintro ⟨subject, vs, h⟩
    cases v with
    | text url =>
      rcases Identity.read_text_eq_error h with ⟨-, he⟩ | ⟨a, hplain, hleads, hbroken, -⟩
      · cases he
      · exact ⟨url, a, rfl, hplain, hleads, hbroken⟩
    | _ => exact absurd (Except.error.inj h) Error.about_ne_invalid
  · rintro ⟨url, a, rfl, hplain, hleads, hbroken⟩
    exact ⟨_, _, Identity.read_of_not_isUnicode hplain hleads hbroken⟩

/-- A member fails for a long integer if its name is no text but holds one. -/
theorem Choice.closed_read {α : Type} [Choice α] (field : String) (v : Json) :
    Closed Error.IsMalformed v.HoldsLong (Choice.read α field v) := by
  cases v with
  | text t =>
    cases t with
    | unicode s =>
      simp only [Choice.read]
      cases Choice.ofName? (α := α) s with
      | none => exact .about (.ofFact _ _ (.noSuchMember _))
      | some a => exact (Closed.ok a).of_not (by simp)
    | broken cs hcs => exact .about (.ofFact _ _ (.noSuchMember _))
  | list xs => exact .about (.ofFact _ _ .wrongForm)
  | object es => exact .about (.ofFact _ _ .wrongForm)
  | _ => exact .about (.ofFact _ _ (.noSuchMember _))

namespace Payload

theorem closed_timestamp (v : Json) : Closed Error.IsMalformed v.HoldsLong (timestamp v) := by
  cases v with
  | text t =>
    refine Closed.of_not ?_ (by simp)
    cases t with
    | unicode s =>
      simp only [timestamp]
      cases DateTime.ofText? s with
      | none => exact .error (.bare _) (by simp)
      | some t =>
        simp only
        split
        · exact .ok _
        · exact .error (.ofFact _ _ (.invalid _ _)) (by simp)
    | broken cs hcs => exact .error (.bare _) (by simp)
  | _ => exact .about (.bare _)

/-- A value from which no integer of any size is read. -/
def LongInteger (v : Json) : Prop := v.IsLongText ∨ (v.HoldsLong ∧ ∀ n, v ≠ .int n)

theorem LongInteger.ne_null {v : Json} (h : LongInteger v) : v ≠ .null :=
  h.elim Json.IsLongText.ne_null fun h => h.1.ne_null

theorem isLongText_iff {s : String} {ds : List Char} (h : Text.IsDecimal s ds) :
    IsLongText (.text s) ↔ digitLimit < ds.length := by
  refine ⟨fun hlong => ?_, fun hlen => ⟨s, ds, rfl, h, hlen⟩⟩
  obtain ⟨t, es, ht, hes, hlen⟩ := hlong
  cases ht
  -- a text has one reading as a numeral, so its digits are told by it
  have hread := Text.Numeral.ofText?_of_isDecimal hes
  rw [Text.Numeral.ofText?_of_isDecimal h] at hread
  have hdigits : ds = es := congrArg Text.Numeral.digits (Option.some.inj hread)
  rwa [hdigits]

/-- An integer fails for its length if it is a long text. Of a number the
length does not matter. -/
theorem closed_integer_of {P : Error → Prop} {field : String} {v : Json}
    (h : P (.malformed (.notInteger field v) none)) :
    Closed P (LongInteger v) (integer field v) := by
  cases v with
  | int n =>
    apply (Closed.ok n).of_not
    simp [LongInteger, IsLongText]
  | text t =>
    have hlong : LongInteger (.text t) ↔ IsLongText (.text t) := by simp [LongInteger]
    rw [hlong]
    cases t with
    | broken cs hcs =>
      apply (Closed.about h).of_iff
      simp [IsLongText]
    | unicode s =>
      cases hs : Text.Numeral.ofText? s with
      | none =>
        have hnot : ¬ IsLongText (.text (.unicode s)) := by
          rintro ⟨t, ds, ht, hds, -⟩
          cases ht
          rw [Text.Numeral.ofText?_of_isDecimal hds] at hs
          cases hs
        simp only [integer, hs]
        apply (Closed.about h).of_iff
        simp [hnot]
      | some x =>
        have hx := Text.Numeral.ofText?_eq_some hs
        rw [integer_of_isDecimal hx, isLongText_iff hx]
        by_cases hlen : digitLimit < x.digits.length
        · rw [if_pos hlen]
          exact .tooLong hlen
        · rw [if_neg hlen]
          exact (Closed.ok _).of_not hlen
  | _ =>
    apply (Closed.about h).of_iff
    simp [LongInteger, IsLongText]

theorem closed_integer (field : String) (v : Json) :
    Closed Error.IsMalformed (LongInteger v) (integer field v) :=
  closed_integer_of (.bare _)

/-- A server id fails for its length whether it is a text or a number. -/
theorem closed_serverId (v : Json) :
    Closed Error.IsMalformed (v.IsLongText ∨ v.HoldsLong) (serverId v) := by
  have hinteger := closed_integer "id" v
  cases v with
  | int n =>
    have hlong : (Json.int n).IsLongText ∨ (Json.int n).HoldsLong ↔ isLong n = true := by
      rw [Json.holdsLong_int_iff]
      simp [IsLongText]
    rw [hlong]
    simp only [serverId, integer, Except.ok_bind, integerText]
    by_cases hn : isLong n = true
    · rw [if_pos hn]
      exact .tooLong hn
    · rw [if_neg hn]
      exact (Closed.ok _).of_not hn
  | text s =>
    have hlong : LongInteger (.text s) ↔ (Json.text s).IsLongText ∨ (Json.text s).HoldsLong := by
      simp [LongInteger]
    rw [hlong] at hinteger
    cases hread : integer "id" (.text s) with
    | error e =>
      rw [hread] at hinteger
      rw [serverId, hread]
      exact hinteger.retype
    | ok n =>
      rw [hread] at hinteger
      have hshort : ∃ s', serverId (.text s) = .ok s' := by
        rw [exists_serverId_eq_ok_iff]
        refine (exists_integer_eq_ok_iff.mp ⟨n, hread⟩).imp_left fun h => ?_
        obtain ⟨m, hm⟩ := h
        cases hm
      obtain ⟨s', hs'⟩ := hshort
      rw [hs']
      exact (Closed.ok s').of_not hinteger.not_long_of_ok
  | _ =>
    apply (Closed.about (.bare _)).of_iff
    simp [IsLongText]

end Payload
end VmResource
