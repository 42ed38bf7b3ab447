import Calculator.Double.Basic

/-
  This file defines rounding: every operation computes an
  exact quotient of natural numbers and rounds it once, to
  the nearest number, a tie to the even neighbour.

  Key definitions include:
    * `roundQuotient`
    * `roundedUnits`
    * `Double.ofRatio`
    * `Double.ofInt`
-/

namespace Calculator

-- Powers of natural numbers are those of the core library.
attribute [local
instance 20000] instPowNat

/-
  The natural number nearest to a quotient, a tie to the
  even one.
-/
def roundQuotient (num den : Nat) : Nat :=
  let q := num / den
  let r := num % den
  if 2 * r < den ∨ (2 * r = den ∧ q % 2 = 0) then
    q
  else
    q + 1

/-
  A quotient of units rounded to the grid around it. The
  grid has as many digits above it as a number may have.
-/
def roundedUnits (num den : Nat) : Nat :=
  let k := gridExponent (num / den)
  roundQuotient num (den * 2 ^ k) * 2 ^ k

/- Rounding goes up by at most one. -/
theorem roundQuotient_le (num den : Nat) :
    roundQuotient num den ≤ num / den + 1 := by
  simp only [roundQuotient]
  split <;> omega

/- On its grid a count has at most 53 binary digits. -/
theorem div_two_pow_gridExponent_lt (n : Nat) :
    n / 2 ^ gridExponent n < 2 ^ (53 : Nat) := by
  rw [Nat.div_lt_iff_lt_mul (Nat.two_pow_pos _),
    ← Nat.pow_add]
  have hLt : n < 2 ^ (n.log2 + 1) := Nat.lt_log2_self
  refine Nat.lt_of_lt_of_le hLt
    (Nat.pow_le_pow_right (by decide) ?_)
  unfold gridExponent
  omega

/- The significand of a rounded quotient fits 53 digits. -/
theorem roundQuotient_grid_le (num den : Nat) :
    roundQuotient num
      (den * 2 ^ gridExponent (num / den)) ≤
        2 ^ (53 : Nat) := by
  have hUp := roundQuotient_le num
    (den * 2 ^ gridExponent (num / den))
  rw [← Nat.div_div_eq_div_mul] at hUp
  have hLt := div_two_pow_gridExponent_lt (num / den)
  omega

/- A rounded quotient is a number unless it overflows. -/
theorem representable_roundedUnits
    {num den : Nat}
    (hFits : roundedUnits num den < overflowUnits) :
    Representable (roundedUnits num den) :=
  representable_mul_two_pow
    (roundQuotient_grid_le num den) hFits

/- The units of a number are on the grid around them. -/
theorem roundedUnits_one
    {units : Nat}
    (hUnits : Representable units) :
    roundedUnits units 1 = units := by
  have hDvd := hUnits.2
  have hMod := Nat.mod_eq_zero_of_dvd hDvd
  have hPos := Nat.two_pow_pos (gridExponent units)
  simp only [roundedUnits, roundQuotient, Nat.div_one,
    Nat.one_mul, hMod, Nat.mul_zero, hPos, true_or,
    if_true]
  exact Nat.div_mul_cancel hDvd

namespace Double

/-
  The number nearest to a quotient of units, with a sign. A
  quotient that rounds to the overflow or beyond becomes
  infinite, and a quotient of zero keeps the sign.
-/
def ofRatio
    (negative : Bool)
    (num den : Nat) : Double :=
  if hFits : roundedUnits num den < overflowUnits then
    .finite negative
      ⟨roundedUnits num den,
        representable_roundedUnits hFits⟩
  else
    .infinite negative

/- The number nearest to a whole number. -/
def ofInt (n : Int) : Double :=
  ofRatio (decide (n < 0)) (n.natAbs * unitsPerOne) 1

end Double

end Calculator
