/-
# The double nearest to a decimal

Numbers are kept as doubles: 53 binary digits and an exponent from -1074 on.
A decimal stands for the nearest of these, and of two that are equally near
for the one that is even; above all of them it stands for none, an infinite
number. Decimals are alike if they stand for the same number.

Key definitions: `Decimal.roundedQuotient`, `Decimal.Binary`,
`Decimal.nearest?`, `Decimal.abs?`, `Decimal.whole?`, `Decimal.alike`.
Key theorems: `Decimal.roundedQuotient_near`, `Decimal.roundedQuotient_mul`,
`Decimal.alike_refl`.
-/
import VmResource.Decimal

namespace VmResource
namespace Decimal

/-- The integer nearest to `num / den`, the even one of two. -/
def roundedQuotient (num den : Nat) : Nat :=
  let q := num / den
  let r := num % den
  if 2 * r < den then q
  else if den < 2 * r then q + 1
  else if q % 2 = 0 then q else q + 1

/-- A rounded quotient is at most half a unit off. -/
theorem roundedQuotient_near (num : Nat) {den : Nat} (h : 0 < den) :
    2 * (den * roundedQuotient num den) ≤ 2 * num + den ∧
      2 * num ≤ 2 * (den * roundedQuotient num den) + den := by
  have hsplit : den * (num / den) + num % den = num := Nat.div_add_mod num den
  have hlt : num % den < den := Nat.mod_lt num h
  have hstep : den * (num / den + 1) = den * (num / den) + den := Nat.mul_succ den (num / den)
  unfold roundedQuotient
  dsimp only
  split
  · omega
  · split
    · rw [hstep]; omega
    · split
      · omega
      · rw [hstep]; omega

/-- A quotient without a remainder is kept. -/
theorem roundedQuotient_mul (n : Nat) {den : Nat} (h : 0 < den) :
    roundedQuotient (n * den) den = n := by
  simp [roundedQuotient, Nat.mul_div_cancel n h, h]

/-- The number `mantissa * 2 ^ exponent`. -/
structure Binary where
  mantissa : Nat
  exponent : Int
deriving DecidableEq, Repr

namespace Binary

/-- The number as a fraction: what stands above the line. -/
def num (b : Binary) : Nat := b.mantissa * Nat.pow 2 b.exponent.toNat

/-- The number as a fraction: what stands below the line. -/
def den (b : Binary) : Nat := Nat.pow 2 (-b.exponent).toNat

/-- The same number, whatever its exponent. -/
def same (a b : Binary) : Bool := a.num * b.den == b.num * a.den

theorem same_refl (b : Binary) : b.same b = true := beq_self_eq_true _

end Binary

/-- The binary exponent of the last digit of a double near `num / den`. -/
def unit (num den : Nat) : Int :=
  let guess : Int := (num.log2 : Int) - den.log2
  let below := num * Nat.pow 2 (-guess).toNat < den * Nat.pow 2 guess.toNat
  max (-1074) ((if below then guess - 1 else guess) - 52)

/-- The double nearest to `num / den`, if it is not too large. -/
def nearest? (num den : Nat) : Option Binary :=
  let k := unit num den
  let b : Binary :=
    ⟨roundedQuotient (num * Nat.pow 2 (-k).toNat) (den * Nat.pow 2 k.toNat), k⟩
  if Nat.pow 2 1024 ≤ b.num then none else some b

/-- Powers of ten from here on are above all doubles, and one divided by them
is below all of them. -/
def reach : Int := 400

/-- The absolute value of the double that a decimal stands for, if that is
finite. -/
def abs? (d : Decimal) : Option Binary :=
  if d.digits = 0 ∨ d.point < -reach then some ⟨0, 0⟩
  else if reach < d.point then none
  else nearest? (d.digits * Nat.pow 10 d.exponent.toNat) (Nat.pow 10 (-d.exponent).toNat)

/-- The number is too large for a double. -/
def isInfinite (d : Decimal) : Bool := d.abs?.isNone

/-- The integer that a decimal stands for, if it stands for one. -/
def whole? (d : Decimal) : Option Int :=
  d.abs?.bind fun b =>
    if b.num % b.den = 0 then
      some (if d.negative then -(b.num / b.den : Int) else (b.num / b.den : Int))
    else none

/-- Two decimals are alike if they stand for the same number, whatever the
sign of a zero. -/
def alike (a b : Decimal) : Bool :=
  match a.abs?, b.abs? with
  | some x, some y => x.same y && (x.mantissa == 0 || a.negative == b.negative)
  | none, none => a.negative == b.negative
  | _, _ => false

theorem alike_refl (d : Decimal) : d.alike d = true := by
  unfold alike
  cases d.abs? <;> simp [Binary.same_refl]

end Decimal
end VmResource
