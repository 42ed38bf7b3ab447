import Calculator.Double.Rounding

/-
  This file defines the arithmetic of floating point numbers
  apart from quotients and powers. Each operation is exact on
  counts of units, followed by one rounding.

  Key definitions include:
    * `Double.signedUnits`
    * `Double.add`
    * `Double.sub`
    * `Double.mul`
    * `Double.remainder?`
    * `Double.remainder`
-/

namespace Calculator

namespace Double

------------------------------------------------------------
-- Sums and Products
------------------------------------------------------------

/- A count of units with a sign. -/
def signedUnits (negative : Bool) (m : Magnitude) : Int :=
  if negative then -(m.units : Int) else m.units

/-
  The sum. An exact sum of zero is negative only if both
  terms are.
-/
def add : Double → Double → Double
| .nan, _ => .nan
| _, .nan => .nan
| .infinite s, .infinite t =>
    if s = t then .infinite s else .nan
| .infinite s, .finite _ _ => .infinite s
| .finite _ _, .infinite t => .infinite t
| .finite s a, .finite t b =>
    let sum := signedUnits s a + signedUnits t b
    if sum = 0 then
      zero (s && t)
    else
      ofRatio (decide (sum < 0)) sum.natAbs 1

/- The difference is the sum with the other sign. -/
def sub (x y : Double) : Double :=
  add x (neg y)

/-
  The product. Its sign is that of the factors, and an
  infinity times zero is not a number.
-/
def mul : Double → Double → Double
| .nan, _ => .nan
| _, .nan => .nan
| .infinite s, .infinite t => .infinite (s ^^ t)
| .infinite s, .finite t b =>
    if b.units = 0 then .nan else .infinite (s ^^ t)
| .finite s a, .infinite t =>
    if a.units = 0 then .nan else .infinite (s ^^ t)
| .finite s a, .finite t b =>
    ofRatio (s ^^ t) (a.units * b.units) unitsPerOne

------------------------------------------------------------
-- Remainders
------------------------------------------------------------

/-
  What is left of the dividend after the quotient is cut to
  a whole number, with the sign of the dividend. There is no
  such number for an infinite dividend or a divisor of zero.
-/
def remainder? : Double → Double → Option Double
| .nan, _ => some .nan
| _, .nan => some .nan
| .infinite _, _ => none
| .finite s a, .infinite _ => some (.finite s a)
| .finite s a, .finite _ b =>
    if b.units = 0 then
      none
    else
      some (ofRatio s (a.units % b.units) 1)

/- The remainder, which is no number where there is none. -/
def remainder (x y : Double) : Double :=
  (remainder? x y).getD .nan

end Double

end Calculator
