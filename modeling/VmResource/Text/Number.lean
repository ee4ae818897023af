/-
# Numbers as text

Two ways to write a number. A whole number has an optional sign and digits,
a decimal may also have a point, with digits on one side of it at least, and
an exponent of ten. In both, single underscores may stand between digits.

Key definitions: `Text.digitGroups?`, `Text.Numeral.ofGroups?`,
`Decimal.ofText?`.
Key theorems: `Text.digitGroups?_of_isDigit`.
-/
import VmResource.Decimal
import VmResource.Text.Integer

namespace VmResource
namespace Text

/-- Digits with single underscores between them, without the underscores. -/
def digitGroups? (cs : List Char) : Option (List Char) :=
  let groups := cs.splitOn '_'
  if groups.all fun g => g ≠ [] ∧ g.all Char.isDigit then some groups.flatten else none

/-- Digits without underscores are one group. -/
theorem digitGroups?_of_isDigit {cs : List Char} (hne : cs ≠ [])
    (h : ∀ c ∈ cs, c.isDigit = true) : digitGroups? cs = some cs := by
  have hs : cs.splitOn '_' = [cs] := by
    have hmark : ∀ g ∈ [cs], '_' ∉ g := by
      simpa using fun hm => by simpa using h '_' hm
    simpa [List.intercalate] using List.splitOn_intercalate '_' hmark (by simp)
  simpa [digitGroups?, hs, hne] using h

/-- Whether a text has a minus sign, and what follows its sign. -/
def signed : List Char → Bool × List Char
  | '-' :: cs => (true, cs)
  | '+' :: cs => (false, cs)
  | cs => (false, cs)

namespace Numeral

/-- Reads a sign and groups of digits. -/
def ofGroups? (cs : List Char) : Option Numeral :=
  let (negative, unsigned) := signed cs
  (digitGroups? unsigned).map fun digits => ⟨negative, digits⟩

end Numeral
end Text

namespace Decimal

open Text

/-- The digits before or after the point, of which there may be none. -/
def side? (cs : List Char) : Option (List Char) := if cs = [] then some [] else digitGroups? cs

/-- The digits of a number without an exponent, and how many of them stand
after the point. -/
def digits? (cs : List Char) : Option (List Char × Nat) :=
  match cs.splitOn '.' with
  | [whole] => (digitGroups? whole).map fun ds => (ds, 0)
  | [whole, part] =>
    if whole = [] ∧ part = [] then none
    else (side? whole).bind fun ds => (side? part).map fun es => (ds ++ es, es.length)
  | _ => none

/-- The exponent, which is zero if none is written. -/
def exponent? : List Char → Option Int
  | [] => some 0
  | _ :: cs => (Numeral.ofGroups? cs).map Numeral.toInt

/-- Reads a sign, digits with a point among them, and an exponent. -/
def ofText? (cs : List Char) : Option Decimal :=
  let (negative, unsigned) := signed cs
  let (before, after) := unsigned.span fun c => c ≠ 'e' ∧ c ≠ 'E'
  (digits? before).bind fun (ds, places) =>
    (exponent? after).map fun e => ⟨negative, Nat.ofDigitChars 10 ds 0, e - places⟩

end Decimal
end VmResource
