/-
# Numbers written with a point

A decimal keeps what was written: its sign, also that of a zero, its digits
and the power of ten they are multiplied by.

Key definitions: `Decimal`, `Decimal.point`.
-/

namespace VmResource

/-- The number `digits * 10 ^ exponent`, below zero if `negative`. -/
structure Decimal where
  negative : Bool
  digits : Nat
  exponent : Int
deriving DecidableEq, Repr

namespace Decimal

/-- The place of the point, counted from before the first digit. -/
def point (d : Decimal) : Int := (Nat.toDigits 10 d.digits).length + d.exponent

end Decimal
end VmResource
