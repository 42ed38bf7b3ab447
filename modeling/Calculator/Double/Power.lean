import Calculator.Double.Rounding

/-
  This file defines powers of floating point numbers. Signs,
  zeros, infinities and what is not a number follow one
  table, and the size of an ordinary power is computed by
  the processor's library. The library has a fault where a
  power is infinite though its operands are not, or is not a
  number though its operands are numbers.

  Key definitions include:
    * `Magnitude.IsWhole`
    * `Double.isOddWhole`
    * `Double.powerSize`
    * `Double.PowerFault`
    * `Double.libraryPower`
    * `Double.powerBy`
    * `Double.power`
-/

namespace Calculator

/- A magnitude without a fractional part. -/
def Magnitude.IsWhole (m : Magnitude) : Prop :=
  m.units % unitsPerOne = 0

instance (m : Magnitude) : Decidable m.IsWhole := by
  unfold Magnitude.IsWhole
  infer_instance

namespace Double

/- Whether a number is an odd whole number. -/
def isOddWhole : Double → Bool
| .finite _ m =>
    decide m.IsWhole && m.units / unitsPerOne % 2 == 1
| _ => false

/-
  The size of a power of a positive number, as the library
  computes it. There is none when the power overflows.
-/
def powerSize (base : Magnitude) (exponent : Double) :
    Option Magnitude :=
  let b := Float.ofBits (toBits (.finite false base))
  let e := Float.ofBits (toBits exponent)
  match ofBits (Float.pow b e).toBits with
  | .finite _ size => some size
  | _ => none

/-
  A power to an infinite exponent: one stays one, and every
  other base grows or shrinks without end.
-/
def powerToInfinity (base : Magnitude) (shrinking : Bool) :
    Double :=
  if base.units = unitsPerOne then
    one
  else if decide (unitsPerOne < base.units) ^^ shrinking then
    .infinite false
  else
    zero false

/-
  The ways in which the library has no power to give: there
  is none, or it is too large.
-/
inductive PowerFault where
| undefined : PowerFault
| overflow : PowerFault
deriving DecidableEq

/-
  A power of finite numbers, unless the exponent is zero or
  the base is one. There is none of zero to a negative number
  or of a negative number to a fraction, and a power is
  negative when its base is and its exponent is odd.
-/
def finitePower
    (s : Bool)
    (base : Magnitude)
    (t : Bool)
    (exponent : Magnitude) : Except PowerFault Double :=
  let negative := s && isOddWhole (.finite t exponent)
  if base.units = 0 then
    if t then .error .undefined else .ok (zero negative)
  else if s && !decide exponent.IsWhole then
    .error .undefined
  else
    match powerSize base (.finite t exponent) with
    | some size => .ok (.finite negative size)
    | none => .error .overflow

/-
  The power as the library gives it. A zero exponent gives
  one for every base, and the base one gives one for every
  exponent.
-/
def libraryPower (x y : Double) : Except PowerFault Double :=
  if y = zero false ∨ y = zero true ∨ x = one then
    .ok one
  else
    match x, y with
    | .nan, _ => .ok .nan
    | _, .nan => .ok .nan
    | .infinite _, .infinite t =>
        .ok (if t then zero false else .infinite false)
    | .infinite s, .finite t exponent =>
        let negative := s && isOddWhole (.finite t exponent)
        .ok (if t then zero negative else .infinite negative)
    | .finite _ base, .infinite t =>
        .ok (powerToInfinity base t)
    | .finite s base, .finite t exponent =>
        finitePower s base t exponent

------------------------------------------------------------
-- Powers without Faults
------------------------------------------------------------

/-
  A power out of one that may have faults. What is too large
  becomes infinite, and so does zero to a negative number;
  any other power that there is none of is not a number.
-/
def powerBy
    (primitive : Double → Double → Except PowerFault Double)
    (x y : Double) : Double :=
  match primitive x y with
  | .ok z => z
  | .error .overflow =>
      .infinite (isBelowZero x && isOddWhole y)
  | .error .undefined =>
      if isZero x && isBelowZero y then
        .infinite (isNegative x && isOddWhole y)
      else
        .nan

/- The power. -/
def power (x y : Double) : Double :=
  powerBy libraryPower x y

end Double

end Calculator
