/-
# What a record of a message shows of an object

A record is made from the values of an object, field by field, and written
as an object again. A text and a truth value are written as they were given,
a list item by item, and an integer in the one form of its type, which is
worth the same to whoever reads it. A field that was not given is not
written, but for a list, which then is empty.

Key definitions: `Message.WrittenFrom`.
Key theorems: `Message.exists_writtenFrom`, `Message.WrittenFrom.part`,
`Message.WrittenFrom.items`, `Message.integer?_of_integer`.
-/
import VmResource.Message
import VmResource.Proofs.IntegerText
import VmResource.Proofs.Keys

namespace VmResource
namespace Message

open Json (ifSet valueOf entriesSet)

/-! ### Records -/

/-- Each field is written as its type makes it of the value that was given. -/
def WrittenFrom (fields : List (String × FieldType)) (v : Json) (fs : List (Text × Json)) :
    Prop :=
  ∀ key type, (key, type) ∈ fields → type (v.within key) = .ok (fs.lookup (.unicode key))

/-- The entries given to a record are those of an object; a value of another
form gives it none. -/
theorem getD_lookup_entries {known : List String} {v : Json} {es : List (Text × Json)}
    (h : entries known v = .ok es) (key : Text) : (es.lookup key).getD .null = v.within key := by
  cases v with
  | object ds =>
    simp only [entries] at h
    split at h
    · cases h
    · obtain rfl := Except.ok.inj h
      rfl
  | _ =>
    obtain ⟨given, -, h⟩ := Except.bind_eq_ok_iff.mp h
    split at h
    · cases h
    · obtain rfl := Except.ok.inj h
      rfl

/-- A record is an object with an entry for each field that is written. -/
theorem exists_writtenFrom {fields : List (String × FieldType)} {v w : Json}
    (hkeys : (fields.map Prod.fst).Nodup) (h : record fields v = .ok w) :
    ∃ fs, w = .object fs ∧ WrittenFrom fields v fs := by
  obtain ⟨es, hes, h⟩ := Except.bind_eq_ok_iff.mp h
  obtain ⟨written, hwritten, rfl⟩ := Except.map_eq_ok_iff.mp h
  have hfields : List.Forall₂ (fun e (field : String × FieldType) =>
      e.1 = field.1 ∧ field.2 (v.within field.1) = .ok e.2) written fields := by
    refine (Except.mapM_eq_ok_iff.mp hwritten).flip.imp fun e field he => ?_
    obtain ⟨o, ho, rfl⟩ := Except.map_eq_ok_iff.mp he
    rw [getD_lookup_entries hes] at ho
    exact ⟨rfl, ho⟩
  have hsame : written.map Prod.fst = fields.map Prod.fst := by
    rw [← List.forall₂_eq_eq_eq, List.forall₂_map_left_iff, List.forall₂_map_right_iff]
    exact hfields.imp fun _ _ he => he.1
  refine ⟨entriesSet written, rfl, fun key type hmem => ?_⟩
  obtain ⟨⟨_, o⟩, he, rfl, ho⟩ := exists_mem_of_forall₂ hfields _ hmem
  have hlookup := Json.lookup_eq_some_of_mem (hsame ▸ hkeys) he
  rw [entriesSet, Json.lookup_record (hsame ▸ hkeys), hlookup]
  exact ho

theorem ne_null_of_record {fields : List (String × FieldType)} {v w : Json}
    (h : record fields v = .ok w) : w ≠ .null := by
  obtain ⟨_, -, h⟩ := Except.bind_eq_ok_iff.mp h
  obtain ⟨written, -, rfl⟩ := Except.map_eq_ok_iff.mp h
  exact Json.record_ne_null written

/-! ### Fields -/

/-- What is read of items is read of what is written of them, one by one, up
to a change that the writing makes. -/
theorem forall₂_written {α : Type} {R : Json → α → Prop} {change : α → α}
    {write : Json → Except Error Json}
    (hkeep : ∀ x a y, R x a → write x = .ok y → R y (change a)) :
    ∀ {xs ys : List Json} {as : List α}, List.Forall₂ R xs as →
      List.Forall₂ (fun x y => write x = .ok y) xs ys → List.Forall₂ R ys (as.map change)
  | [], [], [], _, _ => .nil
  | _ :: _, _ :: _, _ :: _, .cons hread hreads, .cons hwrite hwrites =>
    .cons (hkeep _ _ _ hread hwrite) (forall₂_written hkeep hreads hwrites)

namespace WrittenFrom

variable {fields : List (String × FieldType)} {v : Json} {fs : List (Text × Json)} {key : String}

/-- A text is written as it was given. -/
theorem text (h : WrittenFrom fields v fs) (hmem : (key, single Message.text) ∈ fields) :
    valueOf fs key = v.within key := by
  have hkey := h key _ hmem
  rw [valueOf]
  generalize v.within key = given at hkey ⊢
  cases given with
  | null => rw [← Except.ok.inj hkey]; rfl
  | text t =>
    cases t with
    | unicode s => rw [← Except.ok.inj hkey]; rfl
    | broken cs hcs => cases hkey
  | _ => cases hkey

/-- A truth value is written as it was given. -/
theorem flag (h : WrittenFrom fields v fs) (hmem : (key, single Message.flag) ∈ fields) :
    valueOf fs key = v.within key := by
  have hkey := h key _ hmem
  rw [valueOf]
  generalize v.within key = given at hkey ⊢
  cases given with
  | null => rw [← Except.ok.inj hkey]; rfl
  | bool b => rw [← Except.ok.inj hkey]; rfl
  | _ => cases hkey

/-- A value that is given is written in its form, and none is written if
none was given. -/
theorem single_cases (h : WrittenFrom fields v fs) (key : String)
    (write : Json → Except Error Json)
    (hmem : (key, single write) ∈ fields) :
    (v.within key = .null ∧ fs.lookup (.unicode key) = none) ∨
      (v.within key ≠ .null ∧
        ∃ w, write (v.within key) = .ok w ∧ fs.lookup (.unicode key) = some w) := by
  have hkey := h key _ hmem
  generalize v.within key = given at hkey ⊢
  cases given with
  | null => exact Or.inl ⟨rfl, (Except.ok.inj hkey).symm⟩
  | _ =>
    obtain ⟨w, hw, hlookup⟩ := Except.map_eq_ok_iff.mp hkey
    exact Or.inr ⟨by simp, w, hw, hlookup.symm⟩

/-- What is read of a value that may be unset is read of what is written of
it, up to a change that the writing makes. -/
theorem part {α : Type} {read : Json → Except Error α} {o : Option α}
    (h : WrittenFrom fields v fs) (write : Json → Except Error Json) (change : α → α)
    (hmem : (key, single write) ∈ fields)
    (hread : ifSet read (v.within key) = .ok o)
    (hkeep : ∀ a w, read (v.within key) = .ok a → write (v.within key) = .ok w →
      w ≠ .null ∧ read w = .ok (change a)) :
    ifSet read (valueOf fs key) = .ok (o.map change) := by
  rw [valueOf]
  rcases h.single_cases key write hmem with ⟨hnull, hlookup⟩ | ⟨hne, w, hw, hlookup⟩
  · rw [hnull, Json.ifSet_null] at hread
    rw [hlookup, ← Except.ok.inj hread]
    rfl
  · rw [Json.ifSet_of_ne_null _ hne] at hread
    obtain ⟨a, ha, rfl⟩ := Except.map_eq_ok_iff.mp hread
    obtain ⟨hwne, hwread⟩ := hkeep a w ha hw
    rw [hlookup, Option.getD_some, Json.ifSet_of_ne_null _ hwne, hwread]
    rfl

/-- The items of a list are written one by one; without a list, an empty one
is written. -/
theorem list {α : Type} {R : Json → α → Prop} {o : Option (List α)}
    (h : WrittenFrom fields v fs) (write : Json → Except Error Json) (change : α → α)
    (hmem : (key, repeated write) ∈ fields) (hgives : (v.within key).GivesItems R o)
    (hkeep : ∀ x a y, R x a → write x = .ok y → R y (change a)) :
    ∃ ys, valueOf fs key = .list ys ∧ List.Forall₂ R ys ((o.getD []).map change) := by
  have hkey := h key _ hmem
  rw [valueOf]
  generalize v.within key = given at hkey hgives ⊢
  cases given with
  | null =>
    obtain ⟨-, rfl⟩ | ⟨xs, as, hxs, -⟩ := hgives
    · rw [← Except.ok.inj hkey]
      exact ⟨[], rfl, .nil⟩
    · cases hxs
  | list xs =>
    obtain ⟨ys, hys, hlookup⟩ := Except.map_eq_ok_iff.mp hkey
    obtain ⟨hnull, -⟩ | ⟨zs, as, hzs, has, rfl⟩ := hgives
    · cases hnull
    · obtain rfl := Except.ok.inj hzs
      refine ⟨ys, by rw [← hlookup]; rfl, ?_⟩
      exact forall₂_written hkeep has (Except.mapM_eq_ok_iff.mp hys)
  | _ => cases hkey

theorem items {α : Type} {R : Json → α → Prop} {o : Option (List α)}
    (h : WrittenFrom fields v fs) (write : Json → Except Error Json) (change : α → α)
    (hmem : (key, repeated write) ∈ fields) (hgives : (v.within key).GivesItems R o)
    (hkeep : ∀ x a y, R x a → write x = .ok y → R y (change a)) :
    (valueOf fs key).GivesItems R (some ((o.getD []).map change)) := by
  obtain ⟨ys, hys, hread⟩ := h.list write change hmem hgives hkeep
  rw [hys]
  exact Or.inr ⟨ys, _, rfl, hread, rfl⟩

/-- The texts of a list are written as they were given. -/
theorem texts {o : Option (List Text)} (h : WrittenFrom fields v fs)
    (hmem : (key, repeated Message.text) ∈ fields) (hgives : (v.within key).GivesTexts o) :
    (valueOf fs key).GivesTexts (some (o.getD [])) := by
  have hitems := h.items Message.text id hmem hgives fun x t y hx hy => by
    subst hx
    cases t with
    | unicode s => exact (Except.ok.inj hy).symm
    | broken cs hcs => cases hy
  rwa [List.map_id] at hitems

end WrittenFrom

/-! ### Integers -/

/-- Digits, with a minus sign before them or not, are read as groups of one. -/
theorem ofGroups?_of_isDigit {ds : List Char} (hne : ds ≠ [])
    (hdigits : ∀ d ∈ ds, d.isDigit = true) :
    Text.Numeral.ofGroups? ds = some ⟨false, ds⟩ ∧
      Text.Numeral.ofGroups? ('-' :: ds) = some ⟨true, ds⟩ := by
  have hgroups := Text.digitGroups?_of_isDigit hne hdigits
  constructor
  · have hsigned : Text.signed ds = (false, ds) := by
      unfold Text.signed
      split
      · next cs => simpa using hdigits '-' List.mem_cons_self
      · next cs => simpa using hdigits '+' List.mem_cons_self
      · rfl
    simp only [Text.Numeral.ofGroups?, hsigned, hgroups, Option.map_some]
  · simp only [Text.Numeral.ofGroups?, Text.signed, hgroups, Option.map_some]

/-- A text of plain characters, none of them blank, is read as its groups. -/
theorem integerOfText?_of_ofGroups? {s : String} {x : Text.Numeral}
    (hblank : ∀ c ∈ s.toList, Text.isBlank c = false)
    (hplain : ∀ c ∈ s.toList, Text.plain? c = some c)
    (hgroups : Text.Numeral.ofGroups? s.toList = some x) (hlength : x.digits.length ≤ digitLimit) :
    integerOfText? s = some x.toInt := by
  have hspace : ' ' ∉ s.toList := by
    intro hmem
    have hb := hblank ' ' hmem
    revert hb
    decide
  simp only [integerOfText?, if_neg hspace, Text.trimmed_eq_self hblank,
    Text.mapM_plain?_eq_self hplain, Option.bind_some, hgroups, Option.filter_some,
    decide_eq_true_eq, hlength, if_true]

/-- A decimal text has the same worth by the rules of messages. -/
theorem integerOfText?_of_ofText? {s : String} {x : Text.Numeral}
    (h : Text.Numeral.ofText? s = some x) (hlength : x.digits.length ≤ digitLimit) :
    integerOfText? s = some x.toInt := by
  have hdecimal := Text.Numeral.ofText?_eq_some h
  obtain ⟨hne, hdigits, hs⟩ := hdecimal
  obtain ⟨hunsigned, hsigned⟩ := ofGroups?_of_isDigit hne hdigits
  have hchars : ∀ c ∈ s.toList, c = '-' ∨ c.isDigit = true := by
    intro c hc
    rcases hs with hs | hs
    · exact Or.inr (hdigits c (hs ▸ hc))
    · rw [hs, List.mem_cons] at hc
      exact hc.imp_right (hdigits c)
  have hgroups : Text.Numeral.ofGroups? s.toList = some x := by
    have hx := Text.Numeral.ofText?_of_isDecimal ⟨hne, hdigits, hs⟩
    rw [h, Option.some.injEq] at hx
    rcases hs with hs | hs
    · rw [hs, hunsigned, hx]
      simp [hs]
    · rw [hs, hsigned, hx]
      simp [hs]
  refine integerOfText?_of_ofGroups? ?_ ?_ hgroups hlength
  · intro c hc
    rcases hchars c hc with rfl | hdigit
    · decide
    · exact Text.isBlank_of_isDigit hdigit
  · intro c hc
    rcases hchars c hc with rfl | hdigit
    · decide
    · exact Text.plain?_of_isDigit hdigit

/-- The integer of a value is the same by the rules of messages. -/
theorem integer?_of_integer {field : String} {v : Json} {n : Int}
    (h : Payload.integer field v = .ok n) : integer? v = some n := by
  cases v with
  | int m =>
    obtain rfl := Except.ok.inj h
    rfl
  | text t =>
    cases t with
    | unicode s =>
      simp only [Payload.integer] at h
      split at h
      · next x hx =>
        split at h
        · cases h
        · next hlength =>
          obtain rfl := Except.ok.inj h
          exact integerOfText?_of_ofText? hx (Nat.le_of_not_lt hlength)
      · cases h
    | broken cs hcs => cases h
  | _ => cases h

theorem integer_eq_ok_iff {low high n : Int} {v : Json} :
    integer low high v = .ok n ↔ integer? v = some n ∧ low ≤ n ∧ n ≤ high := by
  unfold integer
  cases integer? v with
  | none => simp
  | some m =>
    by_cases hm : low ≤ m ∧ m ≤ high
    · simp only [hm, and_self, if_true, Except.ok.injEq, Option.some.injEq]
      exact ⟨fun h => ⟨h, h ▸ hm⟩, fun h => h.1⟩
    · simp only [hm, if_false, reduceCtorEq, Option.some.injEq, false_iff]
      rintro ⟨rfl, hn⟩
      exact hm hn

/-- An integer of 64 bits is not long. -/
theorem isLong_of_word {n : Int} (hlow : -Check.wordBound ≤ n) (hhigh : n ≤ 2 * Check.wordBound) :
    isLong n = false := by
  have hword : (2 * Check.wordBound).natAbs < 10 ^ 20 := by decide
  have hpow : 10 ^ 20 ≤ 10 ^ digitLimit := Nat.pow_le_pow_right (by decide) (by decide)
  rw [isLong, longBound_eq, decide_eq_false_iff_not, Nat.not_le]
  refine Nat.lt_of_lt_of_le ?_ hpow
  unfold Check.wordBound at *
  omega

/-- An integer of 32 bits is written as the number. -/
theorem integer_of_int32 {field : String} {v w : Json} {n : Int}
    (h : Payload.integer field v = .ok n) (hw : int32 v = .ok w) :
    Payload.integer field w = .ok n := by
  obtain ⟨m, hm, rfl⟩ := Except.map_eq_ok_iff.mp hw
  obtain ⟨hworth, -⟩ := integer_eq_ok_iff.mp hm
  rw [integer?_of_integer h, Option.some.injEq] at hworth
  rw [hworth]
  rfl

/-- An integer of 64 bits is written as its shortest text. -/
theorem eq_repr_of_int64 {field : String} {v w : Json} {n : Int}
    (h : Payload.integer field v = .ok n) (hw : int64 v = .ok w) :
    w = .text n.repr ∧ isLong n = false := by
  obtain ⟨m, hm, rfl⟩ := Except.map_eq_ok_iff.mp hw
  obtain ⟨hworth, hlow, hhigh⟩ := integer_eq_ok_iff.mp hm
  rw [integer?_of_integer h, Option.some.injEq] at hworth
  subst hworth
  refine ⟨rfl, isLong_of_word hlow ?_⟩
  unfold Check.wordBound at *
  omega

/-- So is one without sign. -/
theorem eq_repr_of_uint64 {field : String} {v w : Json} {n : Int}
    (h : Payload.integer field v = .ok n) (hw : uint64 v = .ok w) :
    w = .text n.repr ∧ isLong n = false := by
  obtain ⟨m, hm, rfl⟩ := Except.map_eq_ok_iff.mp hw
  obtain ⟨hworth, hlow, hhigh⟩ := integer_eq_ok_iff.mp hm
  rw [integer?_of_integer h, Option.some.injEq] at hworth
  subst hworth
  refine ⟨rfl, isLong_of_word ?_ ?_⟩
  · unfold Check.wordBound
    omega
  · omega

theorem integer_of_int64 {field : String} {v w : Json} {n : Int}
    (h : Payload.integer field v = .ok n) (hw : int64 v = .ok w) :
    Payload.integer field w = .ok n := by
  obtain ⟨rfl, hshort⟩ := eq_repr_of_int64 h hw
  exact Payload.integer_repr hshort

/-- A server id is written as it is kept. -/
theorem serverId_of_uint64 {v w : Json} {t : Text} (h : Payload.serverId v = .ok t)
    (hw : uint64 v = .ok w) : w ≠ .null ∧ Payload.serverId w = .ok t := by
  obtain ⟨n, hn, -, rfl⟩ := Payload.serverId_eq_ok_iff.mp h
  obtain ⟨rfl, hshort⟩ := eq_repr_of_uint64 hn hw
  exact ⟨by simp, Payload.serverId_of_isServerId ⟨n, hshort, rfl⟩⟩

/-- A number that may be unset is written as one of the same worth. -/
theorem WrittenFrom.number {α : Type} {field : String} {worth : α → Int} {o : Option α}
    {fields : List (String × FieldType)} {v : Json} {fs : List (Text × Json)} {key : String}
    (h : WrittenFrom fields v fs) (write : Json → Except Error Json)
    (hmem : (key, single write) ∈ fields)
    (hgives : Payload.GivesNumber field worth (v.within key) o)
    (hkeep : ∀ {x w n}, Payload.integer field x = .ok n → write x = .ok w →
      Payload.integer field w = .ok n) :
    Payload.GivesNumber field worth (valueOf fs key) o := by
  rw [valueOf]
  rcases h.single_cases key write hmem with ⟨hnull, hlookup⟩ | ⟨hne, w, hw, hlookup⟩
  · rw [hlookup]
    rwa [hnull] at hgives
  · rw [hlookup]
    rcases hgives with ⟨hnull, -⟩ | ⟨a, ha, rfl⟩
    · exact absurd hnull hne
    · exact Or.inr ⟨a, hkeep ha hw, rfl⟩

end Message
end VmResource
