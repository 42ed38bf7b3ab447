import Calculator.Decimal.Basic

/-
  This file defines the shortest decimal number that stands
  for a floating point number: of the decimals with the
  fewest digits that read back as the number, the nearest.

  Key definitions include:
    * `digitCount`
    * `Decimal.trim`
    * `Magnitude.scale`
    * `Magnitude.onGrid?`
    * `Magnitude.shortest`
-/

namespace Calculator

-- Powers of natural numbers are those of the core library.
attribute [local
instance 20000] instPowNat

/- The number of decimal digits of a natural number. -/
def digitCount (n : Nat) : Nat :=
  if n < 10 then 1 else digitCount (n / 10) + 1

/- The most digits that are needed to tell numbers apart. -/
def maxDigits : Nat := 17

namespace Decimal

/-
  The same decimal without zeros at the end of its
  coefficient.
-/
def trim (d : Decimal) : Decimal :=
  if hZero : d.coefficient = 0 then
    d
  else if d.coefficient % 10 = 0 then
    trim ⟨d.coefficient / 10, d.exponent + 1⟩
  else
    d
termination_by d.coefficient
decreasing_by
  exact Nat.div_lt_self (Nat.pos_of_ne_zero hZero) (by decide)

end Decimal

namespace Magnitude

/-
  The least power of ten above a positive magnitude, found
  by counting digits before and after the point. Every
  positive magnitude has a digit within 324 places.
-/
def scale (m : Magnitude) : Int :=
  (digitCount
    (m.units * 10 ^ (324 : Nat) / unitsPerOne) : Int) - 324

/-
  A magnitude as a quotient over the grid of the decimals
  with some last place.
-/
def overGrid (m : Magnitude) (exponent : Int) : Nat × Nat :=
  (m.units * 10 ^ (-exponent).toNat,
    unitsPerOne * 10 ^ exponent.toNat)

/- Whether a decimal reads back as a magnitude. -/
def ReadsBack (m : Magnitude) (d : Decimal) : Prop :=
  d.toDouble = .finite false m

instance (m : Magnitude) (d : Decimal) :
    Decidable (m.ReadsBack d) := by
  unfold ReadsBack
  infer_instance

/-
  The first of two decimals that reads back.
-/
def firstReadingBack?
    (m : Magnitude)
    (a b : Decimal) : Option Decimal :=
  if m.ReadsBack a then
    some a
  else if m.ReadsBack b then
    some b
  else
    none

/-
  The decimal on a grid that reads back as a magnitude, if
  there is one. Of the two neighbours the nearer comes
  first, and of two equally near ones the even.
-/
def onGrid? (m : Magnitude) (exponent : Int) :
    Option Decimal :=
  let (num, den) := m.overGrid exponent
  let low := num / den
  let below : Decimal := ⟨low, exponent⟩
  let above : Decimal := ⟨low + 1, exponent⟩
  let middle := (2 * low + 1) * den
  if 2 * num < middle ∨ (2 * num = middle ∧ low % 2 = 0) then
    m.firstReadingBack? below above
  else
    m.firstReadingBack? above below

/- The exact decimal value of a magnitude. -/
def exactDecimal (m : Magnitude) : Decimal :=
  ⟨m.units * 5 ^ (1074 : Nat), -1074⟩

/-
  The shortest decimal of a magnitude. Grids of more and
  more digits are tried in turn, and the exact value would
  stand in if none had a decimal that reads back.
-/
def shortest (m : Magnitude) : Decimal :=
  let found := (List.range maxDigits).findSome? fun n =>
    m.onGrid? (m.scale - (n + 1 : Nat))
  (found.getD m.exactDecimal).trim

end Magnitude

end Calculator
