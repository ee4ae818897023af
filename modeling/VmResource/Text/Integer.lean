/-
# Integers as decimal text

Ids and disk sizes travel as text: an optional minus sign and one or more
ASCII digits, leading zeros allowed. What is written is the shortest form,
and it reads back. No integer is read or written in more than 4300 digits.

Key definitions: `digitLimit`, `Text.Numeral`, `Text.Numeral.ofText?`,
`Text.Numeral.toInt`.
-/

namespace VmResource

/-- Decimal text of an integer has at most this many digits. -/
def digitLimit : Nat := 4300

namespace Text

/-- A decimal text, taken apart: its sign and its digits. -/
structure Numeral where
  negative : Bool
  digits : List Char
deriving DecidableEq, Repr

namespace Numeral

/-- The sign of a text and what follows it. -/
def split : List Char → Numeral
  | '-' :: cs => ⟨true, cs⟩
  | cs => ⟨false, cs⟩

/-- Reads an optional minus sign and one or more digits, and nothing else. -/
def ofText? (s : String) : Option Numeral :=
  let x := split s.toList
  if x.digits ≠ [] ∧ x.digits.all Char.isDigit then some x else none

/-- The integer that a decimal text stands for. -/
def toInt (x : Numeral) : Int :=
  if x.negative then -(Nat.ofDigitChars 10 x.digits 0 : Int) else Nat.ofDigitChars 10 x.digits 0

theorem isDigit_of_mem_toDigits {n : Nat} {c : Char} (h : c ∈ Nat.toDigits 10 n) :
    c.isDigit = true :=
  Nat.isDigit_of_mem_toDigits (by decide) (by decide) h

end Numeral
end Text
end VmResource
