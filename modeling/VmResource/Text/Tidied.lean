/-
# Integers written loosely

A text for an integer need not be in its shortest form. It is tidied first:
blanks around it, a plus sign, leading zeros with underscores among them, a
fraction of zeros and single underscores between other characters go. What
is left must be the shortest form of an integer. Tidying does not look at
what it leaves, so a minus sign may also come to the front when the zeros
before it go.

Key definitions: `Text.tidied?`, `Text.shortest?`, `Text.opensLong`.
-/
import VmResource.Text.Blank
import VmResource.Text.Integer

namespace VmResource
namespace Text

/-- What follows leading zeros and underscores, `last` being the last of
them: digits, a minus sign, or, from that last one on, a fraction. -/
def afterZeros? (last : Char) : List Char → Option (List Char)
  | [] => some [last]
  | c :: cs =>
    if c = '0' ∨ c = '_' then afterZeros? c cs
    else if c.isDigit ∨ c = '-' then some (c :: cs)
    else if c = '.' then some (last :: c :: cs)
    else none

/-- A text that opens with a digit, without leading zeros. -/
def withoutZeros? : List Char → Option (List Char)
  | [] => none
  | c :: cs =>
    if c = '0' then afterZeros? c cs
    else if c.isDigit then some (c :: cs)
    else none

/-- Drops a fraction of one or more zeros. -/
def withoutFraction (cs : List Char) : List Char :=
  match cs.span (· ≠ '.') with
  | (whole, _ :: part) => if part ≠ [] ∧ part.all (· = '0') then whole else cs
  | (_, []) => cs

/-- Drops underscores if each of them stands between two other characters. -/
def withoutUnderscores (cs : List Char) : List Char :=
  let groups := cs.splitOn '_'
  if groups.all (· ≠ []) then groups.flatten else cs

/-- Tidies what follows the sign. -/
def tidiedUnsigned? (cs : List Char) : Option (List Char) :=
  (withoutZeros? cs).map fun ds => withoutUnderscores (withoutFraction ds)

/-- Tidies a text; a minus sign stays. -/
def tidied? (cs : List Char) : Option (List Char) :=
  match trimmed cs with
  | '-' :: ds => (tidiedUnsigned? ds).map ('-' :: ·)
  | '+' :: '-' :: _ => none
  | '+' :: ds => tidiedUnsigned? ds
  | ds => tidiedUnsigned? ds

/-- Reads an integer in its shortest form, of at most `digitLimit` digits. -/
def shortest? (cs : List Char) : Option Int :=
  let x := Numeral.split cs
  if x.digits.length ≤ digitLimit ∧ x.digits ≠ [] ∧ x.digits.all Char.isDigit ∧
      (x.digits = ['0'] ∨ x.digits.head? ≠ some '0') then some x.toInt
  else none

/-- A text that opens with an integer, in its shortest form, of more than
`digitLimit` digits, whatever follows it. -/
def opensLong (cs : List Char) : Bool :=
  let x := Numeral.split cs
  x.digits.head? ≠ some '0' ∧ digitLimit < (x.digits.takeWhile Char.isDigit).length

end Text
end VmResource
