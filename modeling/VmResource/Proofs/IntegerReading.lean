/-
# Which integer a value is read as

A decimal text of an integer is its shortest one with zeros put before the
digits, and of zero also with a minus sign; so the shortest one is shorter
than all others that are read as the integer. What is no integer is malformed,
and only one that is too long fails in another way: a text of too many digits,
and a value that is refused but cannot be shown, as such an integer stands in
it.

Key definitions: `Payload.IsShortest`.
Key theorems: `Text.exists_eq_zeros_append`, `Payload.integer_text_eq_ok_iff`,
`Payload.integers_are_read_exactly`.
-/
import VmResource.Proofs.DiskGrammar
import VmResource.Proofs.Failure

namespace VmResource

/-! ### Digits -/

namespace Text

theorem digitChar_of_isDigit {c : Char} (h : c.isDigit = true) :
    Nat.digitChar (c.toNat - 48) = c := by
  have hbounds := toNat_of_isDigit h
  apply Char.toNat_inj.mp
  rw [Nat.toNat_digitChar_of_lt_ten (by omega)]
  omega

/-- More digits after those of a positive number are the digits of what all
of them stand for. -/
theorem toDigits_append : ∀ {cs : List Char} {n : Nat}, 0 < n →
    (∀ c ∈ cs, c.isDigit = true) →
      Nat.toDigits 10 n ++ cs = Nat.toDigits 10 (Nat.ofDigitChars 10 cs n)
  | [], n, _, _ => by rw [List.append_nil, Nat.ofDigitChars_nil]
  | c :: cs, n, hn, h => by
    have hbounds := toNat_of_isDigit (h c List.mem_cons_self)
    have hdigit : c.toNat - 48 < 10 := by omega
    have hfirst : Nat.toDigits 10 n ++ [c] = Nat.toDigits 10 (10 * n + (c.toNat - 48)) := by
      rw [← Nat.toDigits_append_toDigits (by decide) hn hdigit, Nat.toDigits_of_lt_base hdigit,
        digitChar_of_isDigit (h c List.mem_cons_self)]
    have ih : Nat.toDigits 10 (10 * n + (c.toNat - 48)) ++ cs =
        Nat.toDigits 10 (Nat.ofDigitChars 10 cs (10 * n + (c.toNat - 48))) :=
      toDigits_append (by omega) fun d hd => h d (List.mem_cons_of_mem _ hd)
    calc Nat.toDigits 10 n ++ c :: cs
        = (Nat.toDigits 10 n ++ [c]) ++ cs := by rw [List.append_assoc, List.singleton_append]
      _ = Nat.toDigits 10 (10 * n + (c.toNat - 48)) ++ cs := by rw [hfirst]
      _ = Nat.toDigits 10 (Nat.ofDigitChars 10 (c :: cs) n) := by
        rw [ih, Nat.ofDigitChars_cons]
        rfl

theorem ofDigitChars_zeros_append (k : Nat) (ds : List Char) :
    Nat.ofDigitChars 10 (List.replicate k '0' ++ ds) 0 = Nat.ofDigitChars 10 ds 0 := by
  rw [Nat.ofDigitChars_append, Nat.ofDigitChars_replicate_zero, Nat.mul_zero]

/-- Digits are those of the number that they stand for, after some zeros. -/
theorem exists_eq_zeros_append : ∀ {ds : List Char}, ds ≠ [] → (∀ d ∈ ds, d.isDigit = true) →
    ∃ k, ds = List.replicate k '0' ++ Nat.toDigits 10 (Nat.ofDigitChars 10 ds 0)
  | [], hne, _ => absurd rfl hne
  | d :: ds, _, h => by
    have hrest : ∀ e ∈ ds, e.isDigit = true := fun e he => h e (List.mem_cons_of_mem _ he)
    by_cases hzero : d = '0'
    · subst hzero
      by_cases hds : ds = []
      · subst hds
        exact ⟨0, rfl⟩
      · obtain ⟨k, hk⟩ := exists_eq_zeros_append hds hrest
        refine ⟨k + 1, ?_⟩
        rw [List.replicate_succ, List.cons_append, show Nat.ofDigitChars 10 ('0' :: ds) 0 =
          Nat.ofDigitChars 10 ds 0 from ofDigitChars_zeros_append 1 ds, ← hk]
    · have hdigit := h d List.mem_cons_self
      have hbounds := toNat_of_isDigit hdigit
      have hne : d.toNat ≠ 48 := fun he => hzero (Char.toNat_inj.mp he)
      have hdigits := toDigits_append (n := d.toNat - 48) (by omega) hrest
      rw [Nat.toDigits_of_lt_base (by omega), digitChar_of_isDigit hdigit] at hdigits
      exact ⟨0, by simpa [Nat.ofDigitChars_cons] using hdigits⟩

end Text

namespace Payload

open Text Numeral
open Json (GivesInteger HoldsLong IsLongText)

theorem integer_decimal {field : String} {negative : Bool} {ds : List Char} (hne : ds ≠ [])
    (h : ∀ d ∈ ds, d.isDigit = true) :
    integer field (.text (decimal negative ds)) =
      if digitLimit < ds.length then .error .integerTooLong else .ok (toInt ⟨negative, ds⟩) := by
  simp only [integer, ofText?_decimal hne h]

/-- Zeros before the digits do not change what is read. -/
theorem integer_zeros_append {field : String} {negative : Bool} {ds : List Char} {k : Nat}
    (hne : ds ≠ []) (h : ∀ d ∈ ds, d.isDigit = true) (hlen : k + ds.length ≤ digitLimit) :
    integer field (.text (decimal negative (List.replicate k '0' ++ ds))) =
      integer field (.text (decimal negative ds)) := by
  have hall : ∀ d ∈ List.replicate k '0' ++ ds, d.isDigit = true := by
    intro d hd
    rcases List.mem_append.mp hd with hd | hd
    · rw [List.eq_of_mem_replicate hd]
      decide
    · exact h d hd
  have hlong : ¬ digitLimit < (List.replicate k '0' ++ ds).length := by
    rw [List.length_append, List.length_replicate]
    omega
  rw [integer_decimal (by simp [hne]) hall, integer_decimal hne h, if_neg hlong,
    if_neg (by omega), toInt, toInt, ofDigitChars_zeros_append]

/-- The texts of an integer are its shortest one with zeros before the
digits, and any sign will do for zero. -/
theorem integer_text_eq_ok_iff {field s : String} {n : Int} :
    integer field (.text s) = .ok n ↔
      ∃ negative k, s = decimal negative (List.replicate k '0' ++ Nat.toDigits 10 n.natAbs) ∧
        k + (Nat.toDigits 10 n.natAbs).length ≤ digitLimit ∧
        (n < 0 → negative = true) ∧ (0 < n → negative = false) := by
  refine ⟨?_, ?_⟩
  · intro h
    obtain ⟨m, hm⟩ | ⟨t, ds, ht, hdecimal, hlen⟩ := exists_integer_eq_ok_iff.mp ⟨n, h⟩
    · cases hm
    · cases ht
      obtain ⟨negative, rfl⟩ := hdecimal.exists_eq
      obtain ⟨hne, hdigits, -⟩ := hdecimal
      rw [integer_decimal hne hdigits, if_neg (by omega)] at h
      obtain rfl := Except.ok.inj h
      obtain ⟨k, hk⟩ := exists_eq_zeros_append hne hdigits
      have habs : (toInt ⟨negative, ds⟩).natAbs = Nat.ofDigitChars 10 ds 0 := by
        cases negative <;> simp [toInt]
      rw [habs]
      refine ⟨negative, k, congrArg (decimal negative) hk, ?_, ?_, ?_⟩
      · have hlength := congrArg List.length hk
        rw [List.length_append, List.length_replicate] at hlength
        omega
      · cases negative <;> simp [toInt]
      · cases negative <;> simp [toInt]
  · rintro ⟨negative, k, rfl, hlen, hneg, hpos⟩
    rw [integer_zeros_append Nat.toDigits_ne_nil (fun d => isDigit_of_mem_toDigits) hlen,
      integer_decimal Nat.toDigits_ne_nil (fun d => isDigit_of_mem_toDigits), if_neg (by omega)]
    congr 1
    rw [toInt, Nat.ofDigitChars_toDigits (by decide) (by decide)]
    split
    · next hminus =>
      have hle : ¬ 0 < n := fun h => by simp [hpos h] at hminus
      omega
    · next hplus =>
      have hge : ¬ n < 0 := fun h => hplus (hneg h)
      omega

/-- A text of an integer is a string. -/
theorem exists_unicode_of_integer {field : String} {t : Text} {n : Int}
    (h : integer field (.text t) = .ok n) : ∃ s : String, t = .unicode s := by
  rcases exists_integer_eq_ok_iff.mp ⟨n, h⟩ with ⟨m, hm⟩ | ⟨s, ds, hs, -⟩
  · cases hm
  · exact ⟨s, Json.text.inj hs⟩

/-- The shortest text of an integer is shorter than its others. -/
theorem eq_repr_or_length_lt {field : String} {t : Text} {n : Int}
    (h : integer field (.text t) = .ok n) :
    t = n.repr ∨ (codes n.repr).length < t.codes.length := by
  obtain ⟨s, rfl⟩ := exists_unicode_of_integer h
  rw [unicode.injEq, length_codes, length_codes]
  obtain ⟨negative, k, rfl, -, hneg, hpos⟩ := integer_text_eq_ok_iff.mp h
  rw [repr_eq_decimal, length_decimal, length_decimal, List.length_append, List.length_replicate]
  by_cases hk : k = 0
  · subst hk
    by_cases hsign : negative = decide (n < 0)
    · exact Or.inl (by rw [hsign]; rfl)
    · have hsigned : negative = true ∧ ¬ n < 0 := by
        cases negative <;> simp_all
      right
      simp [hsigned]
  · right
    have hle : (decide (n < 0)).toNat ≤ negative.toNat := by
      by_cases hn : n < 0
      · rw [hneg hn]
        exact Bool.toNat_le _
      · simp [hn]
    omega

/-- A value is refused as no integer if it gives none and none is too long. -/
theorem integer_eq_malformed_iff {field : String} {v : Json} :
    integer field v = .error (.malformed (.notInteger field v) none) ↔
      (∀ n, ¬ GivesInteger v n) ∧ ¬ LongInteger v := by
  have hclosed : Closed (· = .malformed (.notInteger field v) none) (LongInteger v)
      (integer field v) := closed_integer_of rfl
  simp only [← @integer_eq_ok_iff field, ← hclosed.eq_iff]
  refine ⟨fun h => by simp [h], ?_⟩
  rintro ⟨hok, hlong⟩
  cases hread : integer field v with
  | ok n => exact absurd hread (hok n)
  | error e =>
    rcases hclosed.eq_or e hread with rfl | rfl
    · exact absurd hread hlong
    · rfl

/-- No sign but a minus, no blanks and no other digits. -/
example : ∀ s ∈ ["", "-", "+5", " 5", "1_0", "\u0663"],
    integer "id" (.text s) = .error (.malformed (.notInteger "id" (.text s)) none) := by
  simp only [List.forall_mem_cons]
  exact ⟨rfl, rfl, rfl, rfl, rfl, rfl, nofun⟩

/-! ### Shortest texts -/

/-- Of the texts that are read as `a`, this one is shorter than all others. -/
def IsShortest {α : Type} (read : Json → Except Error α) (a : α) (t : Text) : Prop :=
  read (.text t) = .ok a ∧
    ∀ u : Text, read (.text u) = .ok a → u = t ∨ t.codes.length < u.codes.length

theorem isShortest_integer {field s : String} {n : Int} (h : integerText n = .ok s) :
    IsShortest (integer field) n s := by
  obtain ⟨hlong, rfl⟩ := integerText_eq_ok_iff.mp h
  exact ⟨integer_repr hlong, fun s' hs' => eq_repr_or_length_lt hs'⟩

theorem isShortest_serverId {v : Json} {t : Text} (h : serverId v = .ok t) :
    IsShortest serverId t t := by
  refine ⟨serverId_of_isServerId (isServerId_of_serverId h), fun u hs' => ?_⟩
  obtain ⟨n, hn, -, rfl⟩ := serverId_eq_ok_iff.mp hs'
  exact eq_repr_or_length_lt hn

/-- An integer that was read is written, unless it came as a number that is
too long. -/
theorem integerText_of_integer {field : String} {v : Json} {n : Int}
    (h : integer field v = .ok n) :
    (∃ s, integerText n = .ok s) ∨ (v = .int n ∧ isLong n = true) := by
  cases hlong : isLong n with
  | false => exact Or.inl ⟨n.repr, integerText_eq_ok_iff.mpr ⟨hlong, rfl⟩⟩
  | true =>
    cases v with
    | int m =>
      obtain rfl : m = n := Except.ok.inj h
      exact Or.inr ⟨rfl, rfl⟩
    | text t =>
      -- the integer has no more digits than its text, and the text no more than the limit
      obtain ⟨s, rfl⟩ := exists_unicode_of_integer h
      obtain ⟨-, k, -, hlen, -⟩ := integer_text_eq_ok_iff.mp h
      have hdigits := isLong_eq_true_iff.mp hlong
      omega
    | _ => cases integer_eq_ok_iff.mp h

/-- **Integers are read exactly.** An integer is read from the number that it
is and from its decimal texts of at most 4300 digits, and from nothing else.
What is no integer is malformed, unless it is a decimal text of more digits or
holds, in a list or an object, a number of more digits. Every integer of at
most 4300 digits is read from its shortest text; zeros before the digits do
not matter; and what is written for an integer that was read, or for a server
id, is read as the same again and shorter than whatever else is. -/
theorem integers_are_read_exactly (field : String) :
    (∀ v n, integer field v = .ok n ↔ GivesInteger v n) ∧
    (∀ v, integer field v = .error .integerTooLong ↔
      IsLongText v ∨ (HoldsLong v ∧ ∀ n, v ≠ .int n)) ∧
    (∀ v, integer field v = .error (.malformed (.notInteger field v) none) ↔
      (∀ n, ¬ GivesInteger v n) ∧ ¬ (IsLongText v ∨ (HoldsLong v ∧ ∀ n, v ≠ .int n))) ∧
    (∀ n : Int, (Nat.toDigits 10 n.natAbs).length ≤ 4300 → integer field (.text n.repr) = .ok n) ∧
    (∀ negative ds k, ds ≠ [] → (∀ d ∈ ds, d.isDigit = true) → k + ds.length ≤ 4300 →
      integer field (.text (decimal negative (List.replicate k '0' ++ ds))) =
        integer field (.text (decimal negative ds))) ∧
    (∀ v n, integer field v = .ok n →
      (∃ s, integerText n = .ok s ∧ IsShortest (integer field) n s) ∨
        (v = .int n ∧ 4300 < (Nat.toDigits 10 n.natAbs).length)) ∧
    ∀ v t, serverId v = .ok t →
      (∃ n, GivesInteger v n ∧ t = n.repr) ∧ IsShortest serverId t t := by
  refine ⟨fun v n => integer_eq_ok_iff, fun v => (closed_integer field v).eq_iff,
    fun v => integer_eq_malformed_iff, ?_, ?_, ?_, ?_⟩
  · intro n hlen
    exact integer_repr (isLong_eq_false_iff.mpr hlen)
  · intro negative ds k hne hdigits hlen
    exact integer_zeros_append hne hdigits hlen
  · intro v n hread
    refine (integerText_of_integer hread).imp ?_ ?_
    · rintro ⟨s, hs⟩
      exact ⟨s, hs, isShortest_integer hs⟩
    · rintro ⟨hv, hlong⟩
      exact ⟨hv, isLong_eq_true_iff.mp hlong⟩
  · intro v s hs
    obtain ⟨n, hn, -, hrepr⟩ := serverId_eq_ok_iff.mp hs
    exact ⟨⟨n, integer_eq_ok_iff.mp hn, hrepr⟩, isShortest_serverId hs⟩

/-- Zeros in a server id are not kept. -/
theorem zeros_before_seven :
    serverId (.text "-007") = .ok "-7" ∧ IsShortest serverId "-7" "-7" ∧
      integer "id" (.text "-007") = integer "id" (.text "-7") ∧
      integer "id" (.int 7) = .ok 7 := by
  have hread : serverId (.text "-007") = .ok "-7" :=
    serverId_eq_ok_iff.mpr ⟨-7, rfl, isLong_eq_false_iff.mpr (by decide), rfl⟩
  obtain ⟨hgives, -, -, -, hzeros, -, hserver⟩ := integers_are_read_exactly "id"
  have hseven := hzeros true ['7'] 2 (by decide) (by simp) (by decide)
  refine ⟨hread, (hserver _ _ hread).2, hseven, (hgives _ _).mpr (.number 7)⟩

/-- A list of one long number is no text, and yet it fails for its length. -/
theorem not_only_long_texts_are_too_long :
    ¬ ∀ field v, integer field v = .error .integerTooLong → v.IsLongText := by
  intro h
  have hlong : HoldsLong (.list [.int longBound]) := by
    refine .item _ _ List.mem_cons_self ?_
    rw [Json.holdsLong_int_iff, isLong, decide_eq_true_eq, Int.natAbs_natCast]
  have hlist : ∀ xs n, Json.list xs ≠ .int n := by simp
  have herror : integer "id" (.list [.int longBound]) = .error .integerTooLong :=
    (closed_integer _ _).eq_iff.mpr (Or.inr ⟨hlong, hlist _⟩)
  obtain ⟨s, ds, hs, -⟩ := h _ _ herror
  cases hs

end Payload
end VmResource
