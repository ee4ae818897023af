/-
# Date-times and instants

A date-time text is `YYYY-MM-DDTHH:MM:SS` with an optional fraction of a
second and an optional offset, `Z` or a sign with hours and minutes; without
an offset it is read as UTC. It stands for an instant, counted in whole
milliseconds from the start of 1970 and rounded down. An instant of the
years 1 to 9999 is written in UTC with three digits of the fraction.

Key definitions: `DateTime`, `DateTime.ofText?`, `DateTime.IsValid`,
`DateTime.instant`, `Instant.text?`.
-/
import VmResource.Time.Calendar

namespace VmResource

/-- How far local time is from UTC. -/
structure Offset where
  negative : Bool
  hours : Nat
  minutes : Nat
deriving DecidableEq, Repr

namespace Offset

/-- No offset. -/
def utc : Offset := ⟨false, 0, 0⟩

/-- The offset in seconds, east of Greenwich counted positive. -/
def seconds (o : Offset) : Int :=
  if o.negative then -(3600 * o.hours + 60 * o.minutes : Int) else 3600 * o.hours + 60 * o.minutes

end Offset

/-- A date-time text, taken apart. -/
structure DateTime where
  date : Date
  hour : Nat
  minute : Nat
  second : Nat
  fraction : List Char
  offset : Offset
deriving DecidableEq, Repr

namespace DateTime

/-! ### Reading -/

/-- Exactly `n` digits, and what follows them. -/
def digits? (n : Nat) (cs : List Char) : Option (Nat × List Char) :=
  if (cs.take n).length = n ∧ (cs.take n).all Char.isDigit then
    some (Nat.ofDigitChars 10 (cs.take n) 0, cs.drop n)
  else none

/-- What follows the character `c`. -/
def after? (c : Char) : List Char → Option (List Char)
  | [] => none
  | d :: cs => if d = c then some cs else none

/-- The digits after a point, if there is one; a point needs at least one. -/
def fraction? : List Char → Option (List Char × List Char)
  | '.' :: cs =>
    if cs.takeWhile Char.isDigit = [] then none
    else some (cs.takeWhile Char.isDigit, cs.dropWhile Char.isDigit)
  | cs => some ([], cs)

/-- Hours and minutes of an offset, up to the end of the text. -/
def signed? (negative : Bool) (cs : List Char) : Option Offset := do
  let (hours, cs) ← digits? 2 cs
  let cs ← after? ':' cs
  let (minutes, cs) ← digits? 2 cs
  if cs = [] then some ⟨negative, hours, minutes⟩ else none

/-- The offset that ends a text; none given means UTC. -/
def offset? : List Char → Option Offset
  | [] => some .utc
  | ['Z'] => some .utc
  | '+' :: cs => signed? false cs
  | '-' :: cs => signed? true cs
  | _ => none

/-- Reads a text of the form of a date-time, whatever its numbers are. -/
def ofText? (s : String) : Option DateTime := do
  let (year, cs) ← digits? 4 s.toList
  let cs ← after? '-' cs
  let (month, cs) ← digits? 2 cs
  let cs ← after? '-' cs
  let (day, cs) ← digits? 2 cs
  let cs ← after? 'T' cs
  let (hour, cs) ← digits? 2 cs
  let cs ← after? ':' cs
  let (minute, cs) ← digits? 2 cs
  let cs ← after? ':' cs
  let (second, cs) ← digits? 2 cs
  let (fraction, cs) ← fraction? cs
  let offset ← offset? cs
  some ⟨⟨year, month, day⟩, hour, minute, second, fraction, offset⟩

/-! ### Meaning -/

/-- The numbers of a date-time are in range: a date of the calendar, a time
of day without leap seconds, an offset of less than a day. -/
def IsValid (t : DateTime) : Prop :=
  t.date.IsValid ∧ t.hour ≤ 23 ∧ t.minute ≤ 59 ∧ t.second ≤ 59 ∧
    t.offset.hours ≤ 23 ∧ t.offset.minutes ≤ 59

instance (t : DateTime) : Decidable t.IsValid :=
  inferInstanceAs (Decidable (_ ∧ _ ∧ _ ∧ _ ∧ _ ∧ _))

/-- The whole milliseconds of the fraction: its first three digits, zeros
standing for those not given. -/
def millis (t : DateTime) : Nat :=
  Nat.ofDigitChars 10 ((t.fraction ++ ['0', '0', '0']).take 3) 0

/-- The day number of 1 January 1970. -/
def epochDay : Nat := 719162

/-- Milliseconds from the start of 1970 in UTC, the part of a millisecond
left out. -/
def instant (t : DateTime) : Int :=
  1000 * (86400 * ((t.date.dayNumber : Int) - epochDay) + 3600 * t.hour + 60 * t.minute + t.second
    - t.offset.seconds) + t.millis

end DateTime

namespace Instant

/-! ### Writing -/

/-- The first instant of year 1. -/
def first : Int := -62135596800000
/-- The last instant of year 9999. -/
def last : Int := 253402300799999

/-- `n` with zeros before it, up to `width` digits. -/
def padded (width n : Nat) : List Char := List.leftpad width '0' (Nat.toDigits 10 n)

/-- Date and time of day in UTC, `n` milliseconds after the start of year 1. -/
def chars (n : Nat) : List Char :=
  let date := Date.ofDayNumber (n / 86400000)
  padded 4 date.year ++ '-' :: padded 2 date.month ++ '-' :: padded 2 date.day ++ 'T' ::
    padded 2 (n / 3600000 % 24) ++ ':' :: padded 2 (n / 60000 % 60) ++ ':' ::
    padded 2 (n / 1000 % 60) ++ '.' :: padded 3 (n % 1000) ++ ['+', '0', '0', ':', '0', '0']

/-- The text of an instant, if it is one of the years 1 to 9999. -/
def text? (n : Int) : Option String :=
  if first ≤ n ∧ n ≤ last then some (String.ofList (chars (n - first).toNat)) else none

end Instant
end VmResource
