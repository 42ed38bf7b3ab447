import Calculator.Double.Rounding

/-
  This file defines decimal numbers and the floating point
  number nearest to each.

  Key definitions include:
    * `Decimal`
    * `Decimal.toDouble`
-/

namespace Calculator

-- Powers of natural numbers are those of the core library.
attribute [local
instance 20000] instPowNat

/-
  The decimal number `coefficient * 10 ^ exponent`.
-/
structure Decimal where
  coefficient : Nat
  exponent : Int
deriving DecidableEq, Repr

namespace Decimal

/-
  The nearest floating point number, without a sign. A
  decimal whose exponent alone puts it above the largest or
  below half of the smallest positive number is settled
  without computing the power of ten.
-/
def toDouble (d : Decimal) : Double :=
  if d.coefficient = 0 then
    .zero false
  else if 309 ≤ d.exponent then
    .infinite false
  else if d.exponent + d.coefficient.log2 + 1 ≤ -324 then
    .zero false
  else
    .ofRatio false
      (d.coefficient * 10 ^ d.exponent.toNat * unitsPerOne)
      (10 ^ (-d.exponent).toNat)

end Decimal

end Calculator
