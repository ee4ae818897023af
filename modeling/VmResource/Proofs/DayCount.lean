/-
# Counting the days of the calendar

The calendar told day by day: the rule of leap years, the last day of each
month, and the date that comes after a date. A day number counts such steps
from 1 January of year 1, so the difference of two day numbers is the signed
number of days from one date to the other, and nothing else is.

Key definitions: `IsLeapYear`, `Date.lastDay`, `Date.IsReal`, `Date.next`,
`Date.IsDaysFrom`.
Key theorems: `Date.isValid_iff`, `Date.dayNumber_next`,
`Date.iterate_next_first`, `Date.isDaysFrom_iff`.
-/
import Mathlib.Algebra.BigOperators.Group.List.Basic
import Mathlib.Logic.Function.Iterate
import Mathlib.Tactic.IntervalCases
import VmResource.Proofs.Calendar

namespace VmResource

/-- Every fourth year is a leap year, but a century only if it is a fourth
one. -/
def IsLeapYear (year : Nat) : Prop := 4 ∣ year ∧ (100 ∣ year → 400 ∣ year)

instance (year : Nat) : Decidable (IsLeapYear year) :=
  inferInstanceAs (Decidable (_ ∧ (_ → _)))

theorem isLeapYear_iff {year : Nat} : isLeapYear year = true ↔ IsLeapYear year := by
  simp only [isLeapYear, IsLeapYear, Bool.and_eq_true, Bool.or_eq_true, beq_iff_eq, bne_iff_ne]
  omega

/-- A year ends as many days after it began as it has. -/
theorem daysBeforeYear_succ {year : Nat} (h : 1 ≤ year) :
    daysBeforeYear (year + 1) = daysBeforeYear year + yearLength year := by
  obtain ⟨passed, rfl⟩ : ∃ passed, year = passed + 1 := ⟨year - 1, by omega⟩
  have hcentury : passed / 100 ≤ passed / 4 := Nat.div_le_div_left (by decide) (by decide)
  have hfourth : 100 ∣ passed + 1 → 4 ∣ passed + 1 := Nat.dvd_trans (by decide)
  have hcycle : 400 ∣ passed + 1 → 100 ∣ passed + 1 := Nat.dvd_trans (by decide)
  simp only [daysBeforeYear, yearLength, isLeapYear_iff, IsLeapYear, Nat.add_sub_cancel,
    Nat.succ_div]
  by_cases h4 : 4 ∣ passed + 1
  · by_cases h100 : 100 ∣ passed + 1
    · by_cases h400 : 400 ∣ passed + 1
      · simp only [h4, h100, h400, if_true, true_and, imp_self]
        omega
      · simp only [h4, h100, h400, if_true, if_false, true_and, imp_false, not_true_eq_false]
        omega
    · have h400 : ¬ 400 ∣ passed + 1 := fun h400 => h100 (hcycle h400)
      simp only [h4, h100, h400, if_true, if_false, true_and, false_imp_iff]
      omega
  · have h100 : ¬ 100 ∣ passed + 1 := fun h100 => h4 (hfourth h100)
    have h400 : ¬ 400 ∣ passed + 1 := fun h400 => h100 (hcycle h400)
    simp only [h4, h100, h400, if_false, false_and]
    omega

namespace Date

/-! ### Months -/

/-- The last day of the month that a date names. -/
def lastDay (d : Date) : Nat :=
  match d.month with
  | 2 => if IsLeapYear d.year then 29 else 28
  | 4 | 6 | 9 | 11 => 30
  | _ => 31

/-- A date of the calendar carried back to year 1 and on without an end. -/
structure IsReal (d : Date) : Prop where
  year : 1 ≤ d.year
  month : 1 ≤ d.month ∧ d.month ≤ 12
  day : 1 ≤ d.day ∧ d.day ≤ d.lastDay

theorem getD_monthLengths {d : Date} (h : 1 ≤ d.month ∧ d.month ≤ 12) :
    (monthLengths d.year).getD (d.month - 1) 0 = d.lastDay := by
  obtain ⟨year, month, day⟩ := d
  obtain ⟨hfirst, hlast⟩ := h
  simp only at hfirst hlast ⊢
  interval_cases month
  case «2» => simp [monthLengths, lastDay, isLeapYear_iff]
  all_goals rfl

theorem monthLength_eq_lastDay {d : Date} (h : 1 ≤ d.month ∧ d.month ≤ 12) :
    d.monthLength = d.lastDay := by
  rw [monthLength, if_neg (by omega), getD_monthLengths h]

/-- The dates that are valid are those of the years up to 9999. -/
theorem isValid_iff {d : Date} : d.IsValid ↔ d.IsReal ∧ d.year ≤ 9999 := by
  refine ⟨?_, ?_⟩
  · intro h
    obtain ⟨hyear, hmax, hday, hlast⟩ := h
    rcases monthLength_cases d with hzero | ⟨hmonth, hmonth', -⟩
    · omega
    · rw [monthLength_eq_lastDay ⟨hmonth, hmonth'⟩] at hlast
      exact ⟨⟨hyear, ⟨hmonth, hmonth'⟩, hday, hlast⟩, hmax⟩
  · intro h
    obtain ⟨⟨hyear, hmonth, hday, hlast⟩, hmax⟩ := h
    rw [← monthLength_eq_lastDay hmonth] at hlast
    exact ⟨hyear, hmax, hday, hlast⟩

/-! ### The next day -/

/-- The date after a date. -/
def next (d : Date) : Date :=
  if d.day < d.lastDay then ⟨d.year, d.month, d.day + 1⟩
  else if d.month < 12 then ⟨d.year, d.month + 1, 1⟩
  else ⟨d.year + 1, 1, 1⟩

/-- Every month has four weeks. -/
theorem le_lastDay (d : Date) : 28 ≤ d.lastDay := by
  unfold lastDay
  split
  · split <;> decide
  all_goals decide

/-- The days of a year before the month that comes after `month`. -/
theorem sum_take_monthLengths {d : Date} (h : 1 ≤ d.month ∧ d.month ≤ 12) :
    ((monthLengths d.year).take d.month).sum =
      ((monthLengths d.year).take (d.month - 1)).sum + d.lastDay := by
  have hlen : d.month - 1 < (monthLengths d.year).length := by
    have : (monthLengths d.year).length = 12 := rfl
    omega
  have hmonth : d.month = d.month - 1 + 1 := by omega
  rw [← getD_monthLengths h, hmonth, List.sum_take_succ _ _ hlen]
  simp [hlen]

theorem isReal_next {d : Date} (h : d.IsReal) : d.next.IsReal := by
  obtain ⟨hyear, hmonth, hday⟩ := h
  unfold next
  split
  · next hlt => exact ⟨hyear, hmonth, by simp, hlt⟩
  · split
    · next hmonth' =>
      have hlast := le_lastDay ⟨d.year, d.month + 1, 1⟩
      exact ⟨hyear, ⟨by simp, hmonth'⟩, Nat.le_refl 1, Nat.le_trans (by simp) hlast⟩
    · have hlast := le_lastDay ⟨d.year + 1, 1, 1⟩
      exact ⟨by simp, ⟨Nat.le_refl 1, by simp⟩, Nat.le_refl 1, Nat.le_trans (by simp) hlast⟩

/-- The day number of the next day is the next one. -/
theorem dayNumber_next {d : Date} (h : d.IsReal) : d.next.dayNumber = d.dayNumber + 1 := by
  obtain ⟨hyear, hmonth, hday⟩ := h
  simp only [dayNumber, next, ← List.sum_eq_foldl_nat]
  split
  · simp only
    omega
  · next hend =>
    have hsum := sum_take_monthLengths hmonth
    split
    · simp only [Nat.add_sub_cancel]
      omega
    · next hdec =>
      have htwelve : d.month = 12 := by omega
      have hall : (monthLengths d.year).take d.month = monthLengths d.year := by
        rw [htwelve]
        rfl
      rw [hall, sum_monthLengths] at hsum
      simp only [daysBeforeYear_succ hyear, Nat.sub_self, List.take_zero, List.sum_nil]
      omega

/-! ### Counting -/

/-- The first date of the calendar. -/
def first : Date := ⟨1, 1, 1⟩

/-- Every other date comes after one: the day before it in its month, or the
last day of the month before, or the last day of the year before. -/
theorem exists_next_eq : ∀ {d : Date}, d.IsReal → d ≠ first → ∃ e : Date, e.IsReal ∧ e.next = d
  | ⟨_, _, 0⟩, h, _ => absurd h.day.1 (by simp)
  | ⟨_, 0, _⟩, h, _ => absurd h.month.1 (by simp)
  | ⟨0, _, _⟩, h, _ => absurd h.year (by simp)
  | ⟨1, 1, 1⟩, _, hne => absurd rfl hne
  | ⟨year + 1, month + 1, day + 2⟩, h, _ =>
    have hlast : day + 1 < lastDay ⟨year + 1, month + 1, day + 1⟩ := h.day.2
    ⟨⟨year + 1, month + 1, day + 1⟩, ⟨h.year, h.month, by simp, Nat.le_of_lt hlast⟩, if_pos hlast⟩
  | ⟨year + 1, month + 2, 1⟩, h, _ =>
    have hmonth : month + 1 < 12 := h.month.2
    have hfirst : 1 ≤ lastDay ⟨year + 1, month + 1, 1⟩ := Nat.le_trans (by decide) (le_lastDay _)
    ⟨⟨year + 1, month + 1, lastDay ⟨year + 1, month + 1, 1⟩⟩,
      ⟨h.year, ⟨by simp, Nat.le_of_lt hmonth⟩, hfirst, Nat.le_refl _⟩,
      (if_neg (Nat.lt_irrefl _)).trans (if_pos hmonth)⟩
  | ⟨year + 2, 1, 1⟩, _, _ =>
    ⟨⟨year + 1, 12, 31⟩, ⟨by simp, by simp, by simp, Nat.le_refl _⟩, rfl⟩

/-- The day number of a date is the number of days that lead to it from the
first. -/
theorem iterate_next_first {d : Date} (h : d.IsReal) : next^[d.dayNumber] first = d := by
  generalize hn : d.dayNumber = n
  induction n generalizing d with
  | zero =>
    by_contra hne
    obtain ⟨e, he, rfl⟩ := exists_next_eq h (Ne.symm hne)
    rw [dayNumber_next he] at hn
    exact Nat.succ_ne_zero _ hn
  | succ n ih =>
    have hne : d ≠ first := by
      rintro rfl
      exact Nat.succ_ne_zero n hn.symm
    obtain ⟨e, he, rfl⟩ := exists_next_eq h hne
    rw [dayNumber_next he, Nat.add_right_cancel_iff] at hn
    rw [Function.iterate_succ_apply', ih he hn]

theorem isReal_iterate_next {d : Date} (h : d.IsReal) : ∀ k : Nat, (next^[k] d).IsReal
  | 0 => h
  | k + 1 => by
    rw [Function.iterate_succ_apply']
    exact isReal_next (isReal_iterate_next h k)

theorem dayNumber_iterate_next {d : Date} (h : d.IsReal) :
    ∀ k : Nat, (next^[k] d).dayNumber = d.dayNumber + k
  | 0 => rfl
  | k + 1 => by
    rw [Function.iterate_succ_apply', dayNumber_next (isReal_iterate_next h k),
      dayNumber_iterate_next h k, Nat.add_assoc]

/-- The date `d` is `n` days from `e`: so many days lead from `e` to `d`, or,
if `n` is negative, from `d` to `e`. -/
def IsDaysFrom (e d : Date) (n : Int) : Prop := next^[n.toNat] e = next^[(-n).toNat] d

/-- The signed number of days between two dates is the difference of their
day numbers. -/
theorem isDaysFrom_iff {e d : Date} (he : e.IsReal) (hd : d.IsReal) {n : Int} :
    e.IsDaysFrom d n ↔ n = (d.dayNumber : Int) - e.dayNumber := by
  unfold IsDaysFrom
  refine ⟨?_, ?_⟩
  · intro h
    have hnumber := congrArg dayNumber h
    rw [dayNumber_iterate_next he, dayNumber_iterate_next hd] at hnumber
    omega
  · intro h
    have hcount : n.toNat + e.dayNumber = (-n).toNat + d.dayNumber := by omega
    rw [← iterate_next_first he, ← iterate_next_first hd,
      ← Function.iterate_add_apply, ← Function.iterate_add_apply, hcount]

end Date
end VmResource
