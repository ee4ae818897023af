/-
# Integers that travel as text

A decimal text is an optional minus sign before one or more digits, and the
shortest one of an integer reads back as that integer. Integers of more than
`digitLimit` digits are neither written nor read as text; a server id is
always the shortest text of an integer that is not that long.

Key definitions: `Text.IsDecimal`, `Text.decimal`, `Text.IsServerId`.
Key theorems: `Payload.integer_repr`, `Payload.exists_integer_eq_ok_iff`,
`Payload.exists_serverId_eq_ok_iff`.
-/
import Mathlib.Algebra.Order.Ring.Nat
import VmResource.Payload.Instance
import VmResource.Proofs.Outcome
import VmResource.Text.Digit

namespace VmResource

theorem longBound_eq : longBound = 10 ^ digitLimit := by
  unfold longBound
  generalize digitLimit = n
  exact Nat.pow_eq

/-- An integer is long if it has more than `digitLimit` digits. -/
theorem isLong_eq_false_iff {n : Int} :
    isLong n = false ↔ (Nat.toDigits 10 n.natAbs).length ≤ digitLimit := by
  rw [isLong, decide_eq_false_iff_not, Nat.not_le, longBound_eq,
    Nat.length_toDigits_le_iff (by decide) (by decide)]

namespace Text

/-- A decimal text: an optional minus sign before one or more digits, which
are `ds`. -/
def IsDecimal (s : String) (ds : List Char) : Prop :=
  ds ≠ [] ∧ (∀ d ∈ ds, d.isDigit = true) ∧ (s.toList = ds ∨ s.toList = '-' :: ds)

/-- The shortest decimal text of an integer of at most `digitLimit` digits. -/
def IsServerId (t : Text) : Prop := ∃ n : Int, isLong n = false ∧ t = .unicode n.repr

/-- The text of some digits, after a minus sign if it is to be negative. -/
def decimal (negative : Bool) (ds : List Char) : String :=
  String.ofList (if negative then '-' :: ds else ds)

theorem length_decimal (negative : Bool) (ds : List Char) :
    (decimal negative ds).length = ds.length + negative.toNat := by
  rw [decimal, String.length_ofList]
  cases negative <;> rfl

theorem isDecimal_decimal {negative : Bool} {ds : List Char} (hne : ds ≠ [])
    (h : ∀ d ∈ ds, d.isDigit = true) : IsDecimal (decimal negative ds) ds := by
  refine ⟨hne, h, ?_⟩
  cases negative <;> simp [decimal]

/-- Decimal texts are the texts of some digits. -/
theorem IsDecimal.exists_eq {s : String} {ds : List Char} (h : IsDecimal s ds) :
    ∃ negative, s = decimal negative ds := by
  obtain ⟨-, -, hs | hs⟩ := h
  · exact ⟨false, by simp [decimal, ← hs]⟩
  · exact ⟨true, by simp [decimal, ← hs]⟩

theorem repr_eq_decimal (n : Int) :
    n.repr = decimal (decide (n < 0)) (Nat.toDigits 10 n.natAbs) := by
  rw [← String.toList_inj, Int.repr_eq_if]
  by_cases hn : 0 ≤ n
  · have hneg : ¬ n < 0 := by omega
    rw [if_pos hn, Nat.toList_repr, show n.toNat = n.natAbs by omega]
    simp [decimal, hneg]
  · have hneg : n < 0 := by omega
    rw [if_neg hn, String.toList_append, Nat.toList_repr, show (-n).toNat = n.natAbs by omega]
    simp [decimal, hneg]

theorem ofDigitChars_cons_eq (d : Char) (ds : List Char) : Nat.ofDigitChars 10 (d :: ds) 0 =
    10 ^ ds.length * (d.toNat - 48) + Nat.ofDigitChars 10 ds 0 := by
  rw [Nat.ofDigitChars_cons, Nat.ofDigitChars_eq_ofDigitChars_zero, Nat.mul_zero, Nat.zero_add]
  rfl

/-- The value of some digits has no more digits than these. -/
theorem ofDigitChars_lt : ∀ {ds : List Char}, (∀ d ∈ ds, d.isDigit = true) →
    Nat.ofDigitChars 10 ds 0 < 10 ^ ds.length
  | [], _ => by simp
  | d :: ds, h => by
    have ih : Nat.ofDigitChars 10 ds 0 < 10 ^ ds.length :=
      ofDigitChars_lt fun e he => h e (List.mem_cons_of_mem _ he)
    have hd := toNat_of_isDigit (h d List.mem_cons_self)
    have hmul : 10 ^ ds.length * (d.toNat - 48) ≤ 10 ^ ds.length * 9 :=
      Nat.mul_le_mul_left _ (by omega)
    rw [ofDigitChars_cons_eq, List.length_cons, Nat.pow_succ]
    omega

namespace Numeral

theorem split_of_isDigit {ds : List Char} (h : ∀ d ∈ ds, d.isDigit = true) :
    split ds = ⟨false, ds⟩ := by
  unfold split
  split
  · next cs =>
    have hminus : ('-' : Char).isDigit = true := h '-' List.mem_cons_self
    simp at hminus
  · rfl

/-- A text with a minus sign or without one is taken apart into its digits. -/
theorem ofText?_of_isDecimal {s : String} {ds : List Char} (h : IsDecimal s ds) :
    ofText? s = some ⟨decide (s.toList ≠ ds), ds⟩ := by
  obtain ⟨hne, hdigits, hs⟩ := h
  have hall : ds.all Char.isDigit = true := List.all_eq_true.mpr hdigits
  rcases hs with hs | hs
  · simp only [ofText?, hs, split_of_isDigit hdigits]
    simp [hne, hall]
  · simp only [ofText?, hs, split]
    simp [hne, hall]

/-- Exactly the decimal texts can be taken apart. -/
theorem ofText?_eq_some {s : String} {x : Numeral} (h : ofText? s = some x) :
    IsDecimal s x.digits := by
  simp only [ofText?] at h
  split at h
  · next hx =>
    obtain rfl := Option.some.inj h
    refine ⟨hx.1, List.all_eq_true.mp hx.2, ?_⟩
    unfold split
    split
    · next hs => exact Or.inr hs
    · exact Or.inl rfl
  · cases h

theorem ofText?_decimal {negative : Bool} {ds : List Char} (hne : ds ≠ [])
    (h : ∀ d ∈ ds, d.isDigit = true) : ofText? (decimal negative ds) = some ⟨negative, ds⟩ := by
  have hsign : decide ((decimal negative ds).toList ≠ ds) = negative := by
    cases negative <;> simp [decimal]
  rw [ofText?_of_isDecimal (isDecimal_decimal hne h), hsign]

theorem ofText?_repr (n : Int) :
    ofText? n.repr = some ⟨decide (n < 0), Nat.toDigits 10 n.natAbs⟩ := by
  rw [repr_eq_decimal]
  exact ofText?_decimal Nat.toDigits_ne_nil fun d => isDigit_of_mem_toDigits

theorem toInt_repr (n : Int) : toInt ⟨decide (n < 0), Nat.toDigits 10 n.natAbs⟩ = n := by
  have hdigits : Nat.ofDigitChars 10 (Nat.toDigits 10 n.natAbs) 0 = n.natAbs :=
    Nat.ofDigitChars_toDigits (by decide) (by decide)
  unfold toInt
  by_cases hn : n < 0
  · rw [hdigits, if_pos (decide_eq_true hn)]
    omega
  · rw [hdigits, if_neg (by simpa using hn)]
    omega

/-- An integer given in few enough digits is not long. -/
theorem isLong_toInt {x : Numeral} (hx : ∀ d ∈ x.digits, d.isDigit = true)
    (h : x.digits.length ≤ digitLimit) : isLong x.toInt = false := by
  have habs : x.toInt.natAbs = Nat.ofDigitChars 10 x.digits 0 := by
    unfold toInt
    split <;> simp
  have hlt : Nat.ofDigitChars 10 x.digits 0 < 10 ^ digitLimit :=
    Nat.lt_of_lt_of_le (ofDigitChars_lt hx) (Nat.pow_le_pow_right (by decide) h)
  rw [isLong, habs, decide_eq_false_iff_not, Nat.not_le, longBound_eq]
  exact hlt

end Numeral
end Text

namespace Payload

open Text Numeral

/-! ### Reading -/

theorem integer_of_isDecimal {field s : String} {ds : List Char} (h : IsDecimal s ds) :
    integer field (.text (.unicode s)) =
      if digitLimit < ds.length then .error .integerTooLong
      else .ok (toInt ⟨decide (s.toList ≠ ds), ds⟩) := by
  simp only [integer, ofText?_of_isDecimal h]

/-- An integer is read from a number, and from a decimal text that is not too
long. -/
theorem exists_integer_eq_ok_iff {field : String} {v : Json} :
    (∃ n, integer field v = .ok n) ↔
      (∃ n, v = .int n) ∨
        ∃ (s : String) (ds : List Char), v = .text s ∧ IsDecimal s ds ∧ ds.length ≤ digitLimit := by
  refine ⟨?_, ?_⟩
  · intro h
    obtain ⟨n, h⟩ := h
    cases v with
    | int m => exact Or.inl ⟨m, rfl⟩
    | text t =>
      cases t with
      | broken => cases h
      | unicode s =>
        cases hs : ofText? s with
        | none => simp [integer, hs] at h
        | some x =>
          have hx := ofText?_eq_some hs
          rw [integer_of_isDecimal hx] at h
          split at h
          · cases h
          · next hlen => exact Or.inr ⟨s, x.digits, rfl, hx, Nat.le_of_not_lt hlen⟩
    | _ => simp [integer] at h
  · intro h
    rcases h with ⟨n, rfl⟩ | ⟨s, ds, rfl, hs, hlen⟩
    · exact ⟨n, rfl⟩
    · rw [integer_of_isDecimal hs, if_neg (Nat.not_lt.mpr hlen)]
      exact ⟨_, rfl⟩

/-- The shortest text of an integer that is not long reads back. -/
theorem integer_repr {field : String} {n : Int} (h : isLong n = false) :
    integer field (.text (.unicode n.repr)) = .ok n := by
  have hlen : ¬ digitLimit < (Nat.toDigits 10 n.natAbs).length :=
    Nat.not_lt.mpr (isLong_eq_false_iff.mp h)
  simp only [integer, ofText?_repr, hlen, ↓reduceIte, toInt_repr]

theorem integerText_eq_ok_iff {n : Int} {s : String} :
    integerText n = .ok s ↔ isLong n = false ∧ s = n.repr := by
  unfold integerText
  cases isLong n <;> simp [eq_comm]

/-! ### Server ids -/

/-- A server id is read as the shortest text of its number. -/
theorem serverId_eq_ok_iff {v : Json} {t : Text} :
    serverId v = .ok t ↔ ∃ n, integer "id" v = .ok n ∧ isLong n = false ∧ t = .unicode n.repr := by
  simp only [serverId, Except.bind_eq_ok_iff, integerText_eq_ok_iff]
  constructor
  · rintro ⟨n, hread, s, ⟨hn, rfl⟩, h⟩
    exact ⟨n, hread, hn, (Except.ok.inj h).symm⟩
  · rintro ⟨n, hread, hn, rfl⟩
    exact ⟨n, hread, n.repr, ⟨hn, rfl⟩, rfl⟩

theorem isServerId_of_serverId {v : Json} {t : Text} (h : serverId v = .ok t) :
    IsServerId t := by
  obtain ⟨n, -, hn, rfl⟩ := serverId_eq_ok_iff.mp h
  exact ⟨n, hn, rfl⟩

/-- A server id that was read once reads as itself. -/
theorem serverId_of_isServerId {t : Text} (h : IsServerId t) : serverId (.text t) = .ok t := by
  obtain ⟨n, hn, rfl⟩ := h
  exact serverId_eq_ok_iff.mpr ⟨n, integer_repr hn, hn, rfl⟩

/-- A server id is a number or a decimal text, neither of them too long. -/
theorem exists_serverId_eq_ok_iff {v : Json} :
    (∃ s, serverId v = .ok s) ↔
      (∃ n, v = .int n ∧ isLong n = false) ∨
      ∃ (s : String) (ds : List Char), v = .text s ∧ IsDecimal s ds ∧ ds.length ≤ digitLimit := by
  refine ⟨?_, ?_⟩
  · intro h
    obtain ⟨_, h⟩ := h
    obtain ⟨n, hread, hn, -⟩ := serverId_eq_ok_iff.mp h
    rcases exists_integer_eq_ok_iff.mp ⟨n, hread⟩ with ⟨m, rfl⟩ | hs
    · obtain rfl : m = n := Except.ok.inj hread
      exact Or.inl ⟨m, rfl, hn⟩
    · exact Or.inr hs
  · intro h
    rcases h with ⟨n, rfl, hn⟩ | ⟨s, ds, rfl, hs, hlen⟩
    · exact ⟨_, serverId_eq_ok_iff.mpr ⟨n, rfl, hn, rfl⟩⟩
    · have hread : integer "id" (.text (.unicode s)) = _ := integer_of_isDecimal hs
      rw [if_neg (Nat.not_lt.mpr hlen)] at hread
      exact ⟨_, serverId_eq_ok_iff.mpr ⟨_, hread, isLong_toInt hs.2.1 hlen, rfl⟩⟩

end Payload
end VmResource
