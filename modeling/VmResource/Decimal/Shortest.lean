/-
# The shortest text of a decimal

A decimal is shown as the double it stands for, with as few digits as tell
that double from all others; of two such texts the nearer one is taken. The
digits stand by place where the point falls among the first sixteen of them
or at most three zeros before them, and otherwise with an exponent.

Key definitions: `Decimal.Binary.shortest`, `Decimal.shown`.
-/
import VmResource.Decimal.Nearest

namespace VmResource
namespace Decimal

/-- The digits without the zeros at their end. -/
def significant (n : Nat) : List Char :=
  ((Nat.toDigits 10 n).reverse.dropWhile (· = '0')).reverse

/-- Zero has no digits that count. -/
theorem significant_zero : significant 0 = [] := by decide

/-- The exponent of ten, with its sign and at least two digits. -/
def exponentText (n : Int) : List Char :=
  (if n < 0 then '-' else '+') :: List.leftpad 2 '0' (Nat.toDigits 10 n.natAbs)

/-- One digit before the point, the others after it, and an exponent. -/
def byExponent (ds : List Char) (point : Int) : List Char :=
  ds.take 1 ++ (if ds.length ≤ 1 then [] else '.' :: ds.drop 1) ++ 'e' :: exponentText (point - 1)

/-- Digits with a point among them; at least one digit stands on each side
of it. -/
def byPlace (ds : List Char) (point : Int) : List Char :=
  if point ≤ 0 then '0' :: '.' :: List.replicate (-point).toNat '0' ++ ds
  else if ds.length ≤ point then
    ds ++ List.replicate (point - ds.length).toNat '0' ++ ['.', '0']
  else ds.take point.toNat ++ '.' :: ds.drop point.toNat

/-- The place of the point in a number above zero, counted from before its
first digit. -/
def Binary.point (b : Binary) : Int :=
  let guess : Int :=
    ((Nat.toDigits 10 b.num).length : Int) - (Nat.toDigits 10 b.den).length
  if b.num * Nat.pow 10 (-guess).toNat < b.den * Nat.pow 10 guess.toNat then guess else guess + 1

/-- The decimals of `count` digits on both sides of a number, the nearer one
first and of two that are equally near the even one. -/
def Binary.neighbours (b : Binary) (count : Nat) : List Decimal :=
  let exponent := b.point - count
  let num := b.num * Nat.pow 10 (-exponent).toNat
  let den := b.den * Nat.pow 10 exponent.toNat
  let near := roundedQuotient num den
  let far := if near * den < num then near + 1 else near - 1
  [⟨false, near, exponent⟩, ⟨false, far, exponent⟩]

/-- The shortest decimal that stands for a number; seventeen digits are enough
for every double. -/
def Binary.shortest (b : Binary) : Decimal :=
  let found := (List.range' 1 17).flatMap b.neighbours |>.find? fun d =>
    d.abs?.any b.same
  found.getD ⟨false, 0, 0⟩

/-- The text of a decimal that is not below zero. -/
def digitsText (d : Decimal) : List Char :=
  let ds := significant d.digits
  if ds = [] then ['0', '.', '0']
  else if -4 < d.point ∧ d.point ≤ 16 then byPlace ds d.point
  else byExponent ds d.point

/-- The text of the number that a decimal stands for. -/
def shown (d : Decimal) : String :=
  let unsigned :=
    match d.abs? with
    | some b => digitsText (if b.mantissa = 0 then ⟨false, 0, 0⟩ else b.shortest)
    | none => ['i', 'n', 'f']
  String.ofList (if d.negative then '-' :: unsigned else unsigned)

/-- Digits beyond those of a double are not shown. -/
example : shown ⟨false, 1234567890123456780, -1⟩ = "1.2345678901234568e+17" := by decide +kernel

/-- The least number above zero has one digit. -/
example : shown ⟨true, 494, -326⟩ = "-5e-324" := by decide +kernel

end Decimal
end VmResource
