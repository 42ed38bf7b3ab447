import Calculator.Decimal.Shortest
import Calculator.Proofs.Double.Rounding

/-
  This file shows that the number nearest to a decimal
  depends on the value of the decimal only, and that the
  shortest decimal of a number has that number nearest to it.

  Key definitions include:
    * `Decimal.numerator`
    * `Decimal.denominator`
-/

namespace Calculator

-- Powers of natural numbers are those of the core library.
attribute [local
instance 20000] instPowNat

------------------------------------------------------------
-- Powers of Ten
------------------------------------------------------------

-- These facts hold for any exponents and are only used at
-- numerals, so that no large power is ever computed.

/- Powers of ten are positive. -/
theorem ten_pow_pos (k : Nat) : 0 < 10 ^ k :=
  Nat.pow_pos (by decide)

/- Powers of ten grow with the exponent. -/
theorem ten_pow_le_ten_pow
    {k l : Nat}
    (hLe : k ≤ l) :
    10 ^ k ≤ 10 ^ l :=
  Nat.pow_le_pow_right (by decide) hLe

/- A sum of exponents is a product of powers. -/
theorem ten_pow_add (k l : Nat) :
    10 ^ (k + l) = 10 ^ k * 10 ^ l :=
  Nat.pow_add 10 k l

/- A power of ten is one of five and one of two. -/
theorem five_pow_mul_two_pow (k : Nat) :
    5 ^ k * 2 ^ k = 10 ^ k :=
  (Nat.mul_pow 5 2 k).symm

/- Powers of two below powers of ten. -/
theorem two_pow_le_ten_pow
    {k l : Nat}
    (n a b : Nat)
    (hk : k = 93 * n + a)
    (hl : l = 28 * n + b)
    (hRest : 2 ^ a ≤ 10 ^ b) :
    2 ^ k ≤ 10 ^ l := by
  rw [hk, hl, Nat.pow_add, Nat.pow_add, Nat.pow_mul,
    Nat.pow_mul]
  exact Nat.mul_le_mul
    (Nat.pow_le_pow_left (by decide) n) hRest

/- More factors of two on both sides. -/
theorem two_pow_add_le
    {k l : Nat}
    (hPow : 2 ^ k ≤ 10 ^ l)
    (n : Nat) :
    2 ^ (k + n) ≤ 10 ^ l * 2 ^ n := by
  rw [Nat.pow_add]
  exact Nat.mul_le_mul_right (2 ^ n) hPow

/- The first factor of a power of two. -/
theorem two_mul_two_pow_le
    {k l : Nat}
    (hPow : 2 ^ (k + 1) ≤ 10 ^ l) :
    2 * 2 ^ k ≤ 10 ^ l := by
  rwa [Nat.mul_comm, ← Nat.pow_succ]

/- The units beyond the numbers are below a power of ten. -/
theorem overflowUnits_le :
    overflowUnits ≤ 10 ^ (309 : Nat) * unitsPerOne := by
  have hPow := two_pow_le_ten_pow (k := 1024) (l := 309)
    11 1 1 rfl rfl (by decide)
  have hSum : 2098 = 1024 + 1074 := rfl
  rw [overflowUnits, unitsPerOne, hSum]
  exact two_pow_add_le hPow 1074

/- There are fewer units in two than a power of ten. -/
theorem two_mul_unitsPerOne_le :
    2 * unitsPerOne ≤ 10 ^ (324 : Nat) := by
  have hPow := two_pow_le_ten_pow (k := 1074 + 1) (l := 324)
    11 52 16 rfl rfl (by decide)
  rw [unitsPerOne]
  exact two_mul_two_pow_le hPow

------------------------------------------------------------
-- Decimals as Quotients
------------------------------------------------------------

namespace Decimal

/- The units of a decimal, over its denominator. -/
def numerator (d : Decimal) : Nat :=
  d.coefficient * 10 ^ d.exponent.toNat * unitsPerOne

/- The power of ten that a decimal is divided by. -/
def denominator (d : Decimal) : Nat :=
  10 ^ (-d.exponent).toNat

/- The denominator is positive. -/
theorem denominator_pos (d : Decimal) :
    0 < d.denominator :=
  ten_pow_pos _

/- A decimal beyond the numbers by its exponent. -/
theorem overflowUnits_le_numerator
    {d : Decimal}
    (hPos : d.coefficient ≠ 0)
    (hExponent : 309 ≤ d.exponent) :
    overflowUnits ≤ d.numerator / d.denominator := by
  have hOne : d.denominator = 1 := by
    have hZero : (-d.exponent).toNat = 0 := by omega
    rw [denominator, hZero, Nat.pow_zero]
  rw [hOne, Nat.div_one]
  have hLe : 309 ≤ d.exponent.toNat := by omega
  have hTen := ten_pow_le_ten_pow hLe
  have hTenUnits := Nat.mul_le_mul_right unitsPerOne hTen
  have hDigits := Nat.le_mul_of_pos_left
    (10 ^ d.exponent.toNat) (Nat.pos_of_ne_zero hPos)
  have hUnits := Nat.mul_le_mul_right unitsPerOne hDigits
  exact Nat.le_trans overflowUnits_le
    (Nat.le_trans hTenUnits hUnits)

/- A decimal below half a unit by its leading digit. -/
theorem two_mul_numerator_lt
    {d : Decimal}
    (hExponent :
      d.exponent + d.coefficient.log2 + 1 ≤ -324) :
    2 * d.numerator < d.denominator := by
  have hZero : d.exponent.toNat = 0 := by omega
  have hCoefficient :
      d.coefficient < 10 ^ (d.coefficient.log2 + 1) :=
    Nat.lt_of_lt_of_le Nat.lt_log2_self
      (Nat.pow_le_pow_left (by decide) _)
  have hNumerator :
      2 * d.numerator = d.coefficient * (2 * unitsPerOne) := by
    rw [numerator, hZero, Nat.pow_zero, Nat.mul_one,
      Nat.mul_left_comm]
  have hUnits := Nat.mul_le_mul_left d.coefficient
    two_mul_unitsPerOne_le
  have hDigits :=
    (Nat.mul_lt_mul_right (ten_pow_pos 324)).mpr hCoefficient
  rw [← ten_pow_add] at hDigits
  have hLe :
      d.coefficient.log2 + 1 + 324 ≤
        (-d.exponent).toNat := by
    omega
  have hTen := ten_pow_le_ten_pow hLe
  rw [hNumerator]
  exact Nat.lt_of_le_of_lt hUnits
    (Nat.lt_of_lt_of_le hDigits hTen)

/-
  The number nearest to a decimal is the quotient that it is,
  rounded once. The cases that are settled by the exponent
  alone round to the same.
-/
theorem toDouble_eq_ofRatio (d : Decimal) :
    d.toDouble =
      .ofRatio false d.numerator d.denominator := by
  unfold toDouble
  split
  · rename_i hZero
    have hLess : 2 * d.numerator < d.denominator := by
      rw [numerator, hZero, Nat.zero_mul, Nat.zero_mul]
      exact d.denominator_pos
    exact (Double.ofRatio_eq_zero hLess false).symm
  · rename_i hPos
    split
    · rename_i hExponent
      exact (Double.ofRatio_eq_infinite
        (overflowUnits_le_numerator hPos hExponent)
        false).symm
    · split
      · rename_i hExponent
        exact (Double.ofRatio_eq_zero
          (two_mul_numerator_lt hExponent) false).symm
      · rfl

/- Decimals of the same value have the same nearest number. -/
theorem toDouble_congr
    {d e : Decimal}
    (hEqual :
      d.numerator * e.denominator =
        e.numerator * d.denominator) :
    d.toDouble = e.toDouble := by
  rw [toDouble_eq_ofRatio, toDouble_eq_ofRatio]
  exact Double.ofRatio_congr d.denominator_pos
    e.denominator_pos hEqual false

/- A zero at the end of the coefficient raises the exponent. -/
theorem toDouble_mul_ten
    (coefficient : Nat)
    (exponent : Int) :
    toDouble ⟨coefficient * 10, exponent⟩ =
      toDouble ⟨coefficient, exponent + 1⟩ := by
  apply toDouble_congr
  simp only [numerator, denominator]
  generalize unitsPerOne = units
  by_cases hExponent : 0 ≤ exponent
  · have hUp :
        (exponent + 1).toNat = exponent.toNat + 1 := by
      omega
    have hZero : (-exponent).toNat = 0 := by omega
    have hZero' : (-(exponent + 1)).toNat = 0 := by omega
    rw [hUp, hZero, hZero', Nat.pow_succ]
    ac_rfl
  · have hDown :
        (-exponent).toNat = (-(exponent + 1)).toNat + 1 := by
      omega
    have hZero : exponent.toNat = 0 := by omega
    have hZero' : (exponent + 1).toNat = 0 := by omega
    rw [hDown, hZero, hZero', Nat.pow_succ]
    ac_rfl

/- Zeros at the end of the coefficient raise the exponent. -/
theorem toDouble_mul_ten_pow
    (coefficient k : Nat)
    (exponent : Int) :
    toDouble ⟨coefficient * 10 ^ k, exponent⟩ =
      toDouble ⟨coefficient, exponent + k⟩ := by
  induction k generalizing exponent with
  | zero => simp
  | succ k ih =>
      rw [Nat.pow_succ, ← Nat.mul_assoc, toDouble_mul_ten,
        ih]
      congr 2
      omega

/- Zeros that are trimmed do not change the number. -/
theorem toDouble_trim (d : Decimal) :
    d.trim.toDouble = d.toDouble := by
  fun_induction trim d with
  | case1 d hZero => rfl
  | case2 d hZero hTen ih =>
      rw [ih, ← toDouble_mul_ten,
        Nat.div_mul_cancel (Nat.dvd_of_mod_eq_zero hTen)]
  | case3 d hZero hTen => rfl

end Decimal

------------------------------------------------------------
-- Shortest Decimals
------------------------------------------------------------

namespace Magnitude

/- The exact value of a number reads back. -/
theorem readsBack_exactDecimal (m : Magnitude) :
    m.ReadsBack m.exactDecimal := by
  have hZero : Int.toNat (-1074) = 0 := rfl
  have hPlaces : Int.toNat (- -1074) = 1074 := rfl
  have hNumerator :
      m.exactDecimal.numerator =
        m.units * 10 ^ (1074 : Nat) := by
    simp only [Decimal.numerator, exactDecimal, hZero,
      Nat.pow_zero, Nat.mul_one, Nat.mul_assoc]
    rw [unitsPerOne, five_pow_mul_two_pow]
  have hDenominator :
      m.exactDecimal.denominator = 10 ^ (1074 : Nat) := by
    rw [Decimal.denominator, exactDecimal, hPlaces]
  unfold ReadsBack
  rw [Decimal.toDouble_eq_ofRatio, hNumerator, hDenominator]
  exact Double.ofRatio_units false m (ten_pow_pos 1074)

/- What is found on a grid reads back. -/
theorem readsBack_of_onGrid?
    {m : Magnitude}
    {exponent : Int}
    {d : Decimal}
    (hFound : m.onGrid? exponent = some d) :
    m.ReadsBack d := by
  have hFirst :
      ∀ a b : Decimal,
        m.firstReadingBack? a b = some d →
          m.ReadsBack d := by
    intro a b hFirst
    unfold firstReadingBack? at hFirst
    split at hFirst
    · cases hFirst
      assumption
    · split at hFirst
      · cases hFirst
        assumption
      · cases hFirst
  simp only [onGrid?] at hFound
  split at hFound
  · exact hFirst _ _ hFound
  · exact hFirst _ _ hFound

/- The shortest decimal of a number reads back. -/
theorem readsBack_shortest (m : Magnitude) :
    m.ReadsBack m.shortest := by
  unfold ReadsBack shortest
  rw [Decimal.toDouble_trim]
  cases hFound :
      (List.range maxDigits).findSome? fun n =>
        m.onGrid? (m.scale - (n + 1 : Nat)) with
  | none => exact m.readsBack_exactDecimal
  | some d =>
      rcases List.exists_of_findSome?_eq_some hFound with
        ⟨n, _, hGrid⟩
      exact readsBack_of_onGrid? hGrid

end Magnitude

end Calculator
