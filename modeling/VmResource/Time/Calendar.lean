/-
# The Gregorian calendar

Dates of the calendar carried back to year 1, and their day numbers: the
days that have passed since 1 January of year 1. A year is found again from
a day number through the cycles of 400, 100, 4 and 1 years, whose last one
of each may be longer by a day.

Key definitions: `Date`, `Date.IsValid`, `Date.dayNumber`, `Date.ofDayNumber`.
-/

namespace VmResource

/-- Every fourth year, but of the centuries only every fourth. -/
def isLeapYear (year : Nat) : Bool := year % 4 == 0 && (year % 100 != 0 || year % 400 == 0)

/-- The lengths of the twelve months. -/
def monthLengths (year : Nat) : List Nat :=
  [31, if isLeapYear year then 29 else 28, 31, 30, 31, 30, 31, 31, 30, 31, 30, 31]

/-- The days before 1 January of `year`, from year 1 on. -/
def daysBeforeYear (year : Nat) : Nat :=
  365 * (year - 1) + (year - 1) / 4 - (year - 1) / 100 + (year - 1) / 400

/-- A date; months and days count from 1. -/
structure Date where
  year : Nat
  month : Nat
  day : Nat
deriving DecidableEq, Repr

namespace Date

/-- The length of the month that a date names, 0 if there is no such month. -/
def monthLength (d : Date) : Nat :=
  if d.month = 0 then 0 else (monthLengths d.year).getD (d.month - 1) 0

/-- A date that the calendar has, in the years 1 to 9999. -/
def IsValid (d : Date) : Prop :=
  1 ≤ d.year ∧ d.year ≤ 9999 ∧ 1 ≤ d.day ∧ d.day ≤ d.monthLength

instance (d : Date) : Decidable d.IsValid := inferInstanceAs (Decidable (_ ∧ _ ∧ _ ∧ _))

/-- The days since 1 January of year 1. -/
def dayNumber (d : Date) : Nat :=
  daysBeforeYear d.year + ((monthLengths d.year).take (d.month - 1)).foldl (· + ·) 0 + (d.day - 1)

/-- Month and day, given the lengths of the months left and the days passed
since the first of them began. -/
def monthAndDay : List Nat → Nat → Nat × Nat
  | [], passed => (1, passed + 1)
  | length :: rest, passed =>
    if passed < length then (1, passed + 1)
    else ((monthAndDay rest (passed - length)).1 + 1, (monthAndDay rest (passed - length)).2)

/-- The year of a day number, and the days passed in that year. -/
def yearAndDay (n : Nat) : Nat × Nat :=
  let in400 := n % 146097
  let c100 := min 3 (in400 / 36524)
  let in100 := in400 - c100 * 36524
  let in4 := in100 % 1461
  let c1 := min 3 (in4 / 365)
  (n / 146097 * 400 + c100 * 100 + in100 / 1461 * 4 + c1 + 1, in4 - c1 * 365)

/-- The date of a day number. -/
def ofDayNumber (n : Nat) : Date :=
  let y := yearAndDay n
  let m := monthAndDay (monthLengths y.1) y.2
  ⟨y.1, m.1, m.2⟩

end Date
end VmResource
