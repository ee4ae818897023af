/-
# Day numbers are dates

Every day number of the years 1 to 9999 is the number of exactly one date of
the calendar: the date that `Date.ofDayNumber` finds is valid and has this
number. The year is found through the cycles of 400, 100, 4 and 1 years, the
month through the lengths of the months.

Key theorems: `Date.daysBeforeYear_yearAndDay`, `Date.dayNumber_ofDayNumber`,
`Date.isValid_ofDayNumber`.
-/
import Mathlib.Algebra.Order.Ring.Nat
import VmResource.Time.Calendar

namespace VmResource

/-- The days of a year. -/
def yearLength (year : Nat) : Nat := if isLeapYear year then 366 else 365

theorem sum_monthLengths (year : Nat) : (monthLengths year).sum = yearLength year := by
  unfold monthLengths yearLength
  split <;> simp

namespace Date

/-! ### Years -/

/-- The days before a year, by its place in the four cycles. -/
theorem daysBeforeYear_of_cycles {a b c e : Nat} (hb : b ≤ 3) (hc : c ≤ 24) (he : e ≤ 3) :
    daysBeforeYear (a * 400 + b * 100 + c * 4 + e + 1) =
      a * 146097 + b * 36524 + c * 1461 + e * 365 := by
  unfold daysBeforeYear
  omega

/-- A year is a leap year by its place in the four cycles. -/
theorem isLeapYear_of_cycles {a b c e : Nat} (hb : b ≤ 3) (hc : c ≤ 24) (he : e ≤ 3) :
    isLeapYear (a * 400 + b * 100 + c * 4 + e + 1) = true ↔ e = 3 ∧ (c ≠ 24 ∨ b = 3) := by
  simp only [isLeapYear, Bool.and_eq_true, Bool.or_eq_true, beq_iff_eq, bne_iff_ne, ne_eq]
  omega

/-- A day number, taken apart: what is left after whole cycles. -/
theorem exists_cycles (n : Nat) : ∃ a b c e d, b ≤ 3 ∧ c ≤ 24 ∧ e ≤ 3 ∧ d ≤ 365 ∧
    (d = 365 → e = 3 ∧ (c ≠ 24 ∨ b = 3)) ∧
    n = a * 146097 + b * 36524 + c * 1461 + e * 365 + d ∧
    yearAndDay n = (a * 400 + b * 100 + c * 4 + e + 1, d) := by
  refine ⟨n / 146097, min 3 (n % 146097 / 36524),
    (n % 146097 - min 3 (n % 146097 / 36524) * 36524) / 1461,
    min 3 ((n % 146097 - min 3 (n % 146097 / 36524) * 36524) % 1461 / 365),
    (n % 146097 - min 3 (n % 146097 / 36524) * 36524) % 1461 -
      min 3 ((n % 146097 - min 3 (n % 146097 / 36524) * 36524) % 1461 / 365) * 365,
    ?_, ?_, ?_, ?_, ?_, ?_, rfl⟩
  all_goals generalize hr : n % 146097 = r
  all_goals have hlt : r < 146097 := hr ▸ Nat.mod_lt n (by decide)
  · omega
  · omega
  · omega
  · omega
  · omega
  · omega

/-- The year that is found has begun by this day, and the day is one of it. -/
theorem daysBeforeYear_yearAndDay (n : Nat) :
    1 ≤ (yearAndDay n).1 ∧ daysBeforeYear (yearAndDay n).1 + (yearAndDay n).2 = n ∧
      (yearAndDay n).2 < yearLength (yearAndDay n).1 := by
  obtain ⟨a, b, c, e, d, hb, hc, he, hd, hlast, hn, hy⟩ := exists_cycles n
  rw [hy]
  refine ⟨by simp, ?_, ?_⟩
  · simp only
    rw [daysBeforeYear_of_cycles hb hc he, hn]
  · have hleap := isLeapYear_of_cycles (a := a) hb hc he
    simp only [yearLength]
    split
    · omega
    · next h =>
      have hne : d ≠ 365 := fun h365 => h (hleap.mpr (hlast h365))
      omega

/-! ### Months -/

/-- The month that is found has begun by this day, and the day is one of
it. -/
theorem sum_take_monthAndDay : ∀ {lengths : List Nat} {passed : Nat}, passed < lengths.sum →
    1 ≤ (monthAndDay lengths passed).1 ∧ 1 ≤ (monthAndDay lengths passed).2 ∧
      (monthAndDay lengths passed).2 ≤ lengths.getD ((monthAndDay lengths passed).1 - 1) 0 ∧
      (lengths.take ((monthAndDay lengths passed).1 - 1)).sum +
        ((monthAndDay lengths passed).2 - 1) = passed
  | [], _, h => by simp at h
  | length :: rest, passed, h => by
    unfold monthAndDay
    split
    · next hlt => simpa using Nat.succ_le_of_lt hlt
    · next hle =>
      rw [List.sum_cons] at h
      obtain ⟨h1, h2, h3, h4⟩ := sum_take_monthAndDay (show passed - length < rest.sum by omega)
      obtain ⟨m, hm⟩ : ∃ m, (monthAndDay rest (passed - length)).1 = m + 1 :=
        ⟨_, (Nat.sub_add_cancel h1).symm⟩
      rw [hm] at h3 h4 ⊢
      simp only [Nat.add_sub_cancel, List.getD_cons_succ, List.take_succ_cons, List.sum_cons] at *
      omega

/-! ### Dates -/

/-- A month that a date names has at most 31 days. -/
theorem monthLength_cases (d : Date) :
    d.monthLength = 0 ∨ (1 ≤ d.month ∧ d.month ≤ 12 ∧ d.monthLength ≤ 31) := by
  have hall : ∀ length ∈ monthLengths d.year, length ≤ 31 := by
    unfold monthLengths
    split <;> simp
  unfold monthLength
  split
  · exact Or.inl rfl
  · next hmonth =>
    rw [List.getD_eq_getElem?_getD]
    cases hget : (monthLengths d.year)[d.month - 1]? with
    | none => exact Or.inl rfl
    | some length =>
      obtain ⟨hlt, hmem⟩ := List.getElem?_eq_some_iff.mp hget
      have hlen : (monthLengths d.year).length = 12 := rfl
      exact Or.inr ⟨by omega, by omega, hall _ (hmem ▸ List.getElem_mem hlt)⟩

theorem IsValid.month_day_le {d : Date} (h : d.IsValid) : d.month ≤ 12 ∧ d.day ≤ 31 := by
  obtain ⟨-, -, hfirst, hlast⟩ := h
  rcases monthLength_cases d with hzero | ⟨-, hmonth, hlength⟩
  · omega
  · omega

theorem dayNumber_ofDayNumber (n : Nat) : (ofDayNumber n).dayNumber = n := by
  obtain ⟨-, hyear, hday⟩ := daysBeforeYear_yearAndDay n
  rw [← sum_monthLengths] at hday
  obtain ⟨-, -, -, hmonth⟩ := sum_take_monthAndDay hday
  simp only [dayNumber, ofDayNumber, ← List.sum_eq_foldl_nat]
  omega

/-- The day numbers below this one are those of the years 1 to 9999. -/
theorem year_ofDayNumber_le {n : Nat} (h : n < 3652059) : (ofDayNumber n).year ≤ 9999 := by
  obtain ⟨a, b, c, e, d, hb, hc, he, hd, hlast, hn, hy⟩ := exists_cycles n
  simp only [ofDayNumber, hy]
  omega

/-- The date that is found is one of the calendar. -/
theorem isValid_ofDayNumber {n : Nat} (h : n < 3652059) : (ofDayNumber n).IsValid := by
  obtain ⟨hpos, -, hday⟩ := daysBeforeYear_yearAndDay n
  rw [← sum_monthLengths] at hday
  obtain ⟨hmonth, hfirst, hlast, -⟩ := sum_take_monthAndDay hday
  refine ⟨hpos, year_ofDayNumber_le h, hfirst, ?_⟩
  have hne : (ofDayNumber n).month ≠ 0 := Nat.one_le_iff_ne_zero.mp hmonth
  rw [monthLength, if_neg hne]
  exact hlast

end Date
end VmResource
