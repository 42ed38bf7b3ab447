/-
  This file defines the numbers of the calculator: binary
  floating point numbers of 64 bits. A finite number is kept
  as an exact count of the smallest positive number, so that
  arithmetic on it is arithmetic on natural numbers.

  Key definitions include:
    * `unitsPerOne`
    * `Representable`
    * `Magnitude`
    * `Magnitude.toBits`
    * `Double`
    * `Double.ofBits`
    * `Double.toBits`
    * `Double.neg`
    * `Double.isNegative`
    * `Double.isZero`
    * `Double.isBelowZero`
-/

namespace Calculator

-- Powers of natural numbers are those of the core library.
attribute [local
instance 20000] instPowNat

------------------------------------------------------------
-- Magnitudes
------------------------------------------------------------

/-
  The number of units in one. The unit is the smallest
  positive number, two to the power of -1074.
-/
def unitsPerOne : Nat := 2 ^ (1074 : Nat)

/- One is made of units. -/
theorem unitsPerOne_pos : 0 < unitsPerOne := by
  rw [unitsPerOne]
  exact Nat.two_pow_pos 1074

/-
  The least count of units beyond the finite numbers, two to
  the power of 1024.
-/
def overflowUnits : Nat := 2 ^ (2098 : Nat)

/-
  The exponent of the distance between the numbers around a
  count of units: numbers have 53 significant binary digits.
-/
def gridExponent (units : Nat) : Nat :=
  units.log2 - 52

/-
  A count of units is a number when it is below the overflow
  and has no digits below the grid around it.
-/
def Representable (units : Nat) : Prop :=
  units < overflowUnits ∧ 2 ^ gridExponent units ∣ units

/- The overflow bounds the powers of two up to its own. -/
theorem two_pow_le_overflowUnits
    {k : Nat}
    (hLe : k ≤ 2098) :
    2 ^ k ≤ overflowUnits := by
  have hPow := Nat.pow_le_pow_right Nat.zero_lt_two hLe
  rwa [← overflowUnits.eq_1] at hPow

/- Smaller powers of two lie below the overflow. -/
theorem two_pow_lt_overflowUnits
    {k : Nat}
    (hLt : k < 2098) :
    2 ^ k < overflowUnits :=
  Nat.lt_of_lt_of_le
    (Nat.pow_lt_pow_right (by decide) (Nat.lt_succ_self k))
    (two_pow_le_overflowUnits hLt)

/- The absolute value of a finite number. -/
structure Magnitude where
  units : Nat
  representable : Representable units
deriving DecidableEq

/- Doubling moves the leading binary digit by one place. -/
theorem log2_mul_two_pow
    {n : Nat}
    (hPos : n ≠ 0)
    (k : Nat) :
    (n * 2 ^ k).log2 = n.log2 + k := by
  have hPow : 0 < 2 ^ k := Nat.two_pow_pos k
  have hNe : n * 2 ^ k ≠ 0 :=
    Nat.mul_ne_zero hPos (Nat.ne_of_gt hPow)
  rw [Nat.log2_eq_iff hNe]
  constructor
  · rw [Nat.pow_add]
    exact Nat.mul_le_mul_right _ (Nat.log2_self_le hPos)
  · have hLt : n < 2 ^ (n.log2 + 1) := Nat.lt_log2_self
    have hMul : n * 2 ^ k < 2 ^ (n.log2 + 1) * 2 ^ k :=
      (Nat.mul_lt_mul_right hPow).mpr hLt
    rw [← Nat.pow_add] at hMul
    have hExp : n.log2 + 1 + k = n.log2 + k + 1 := by omega
    rw [hExp] at hMul
    exact hMul

/-
  A significand of at most 53 binary digits on any grid is a
  number, unless it overflows.
-/
theorem representable_mul_two_pow
    {m k : Nat}
    (hDigits : m ≤ 2 ^ (53 : Nat))
    (hFits : m * 2 ^ k < overflowUnits) :
    Representable (m * 2 ^ k) := by
  refine ⟨hFits, ?_⟩
  unfold gridExponent
  by_cases hZero : m = 0
  · subst hZero
    simp
  · rw [log2_mul_two_pow hZero]
    by_cases hTop : m = 2 ^ (53 : Nat)
    · subst hTop
      rw [Nat.log2_two_pow, ← Nat.pow_add]
      exact Nat.pow_dvd_pow 2 (by omega)
    · have hLog : m.log2 < 53 :=
        (Nat.log2_lt hZero).mpr (by omega)
      exact Nat.dvd_mul_left_of_dvd
        (Nat.pow_dvd_pow 2 (by omega)) m

/- A significand on the finest grid is a number. -/
theorem representable_of_le
    {m : Nat}
    (hDigits : m ≤ 2 ^ (53 : Nat)) :
    Representable m := by
  have hFits : m * 2 ^ (0 : Nat) < overflowUnits := by
    rw [Nat.pow_zero, Nat.mul_one]
    exact Nat.lt_of_le_of_lt hDigits
      (two_pow_lt_overflowUnits (by decide))
  simpa using representable_mul_two_pow hDigits hFits

/- Every power of two below the overflow is a number. -/
theorem representable_two_pow
    {k : Nat}
    (hLt : k < 2098) :
    Representable (2 ^ k) := by
  have hFits : 1 * 2 ^ k < overflowUnits := by
    rw [Nat.one_mul]
    exact two_pow_lt_overflowUnits hLt
  have hPow :=
    representable_mul_two_pow Nat.one_le_two_pow hFits
  rwa [Nat.one_mul] at hPow

namespace Magnitude

/- Magnitudes with the same count of units are equal. -/
theorem ext_units
    {a b : Magnitude}
    (hUnits : a.units = b.units) :
    a = b := by
  cases a
  cases b
  cases hUnits
  rfl

/- The magnitude of zero. -/
def zero : Magnitude :=
  ⟨0, representable_of_le (by decide)⟩

/- The magnitude of one. -/
def one : Magnitude :=
  ⟨unitsPerOne, by
    have hOne : 1074 < 2098 := by decide
    have hPow := representable_two_pow hOne
    rwa [← unitsPerOne.eq_1] at hPow⟩

/- One has the units of one. -/
theorem units_one : one.units = unitsPerOne := by
  rw [one]

/-
  The exponent and fraction fields of a magnitude. The
  leading binary digit of the significand of a number above
  the finest grid raises the exponent field by one.
-/
def toBits (m : Magnitude) : Nat :=
  gridExponent m.units * 2 ^ (52 : Nat) +
    m.units / 2 ^ gridExponent m.units

/-
  The magnitude with these exponent and fraction fields,
  where the exponent field is not the largest one.
-/
def ofFields
    (exponent fraction : Nat)
    (hExponent : exponent < 2047)
    (hFraction : fraction < 2 ^ (52 : Nat)) :
    Magnitude :=
  if hZero : exponent = 0 then
    ⟨fraction, representable_of_le (by omega)⟩
  else
    ⟨(2 ^ (52 : Nat) + fraction) * 2 ^ (exponent - 1), by
      apply representable_mul_two_pow (by omega)
      have hSignificand :
          2 ^ (52 : Nat) + fraction < 2 ^ (53 : Nat) := by
        omega
      have hMul :
          (2 ^ (52 : Nat) + fraction) * 2 ^ (exponent - 1) <
            2 ^ (53 : Nat) * 2 ^ (exponent - 1) :=
        (Nat.mul_lt_mul_right
          (Nat.two_pow_pos (exponent - 1))).mpr hSignificand
      rw [← Nat.pow_add] at hMul
      exact Nat.lt_of_lt_of_le hMul
        (two_pow_le_overflowUnits (by omega))⟩

end Magnitude

------------------------------------------------------------
-- Numbers
------------------------------------------------------------

/-
  A floating point number. There is one value that is not a
  number, and zero has a sign.
-/
inductive Double where
| nan : Double
| infinite (negative : Bool) : Double
| finite (negative : Bool) (magnitude : Magnitude) : Double
deriving DecidableEq

namespace Double

/- Zero of either sign. -/
def zero (negative : Bool) : Double :=
  .finite negative Magnitude.zero

/- The number one. -/
def one : Double :=
  .finite false Magnitude.one

/- The number with the other sign. -/
def neg : Double → Double
| .nan => .nan
| .infinite negative => .infinite (!negative)
| .finite negative m => .finite (!negative) m

/- Whether a number has a sign. -/
def isNegative : Double → Bool
| .nan => false
| .infinite s => s
| .finite s _ => s

/- Whether a number is a zero of either sign. -/
def isZero : Double → Bool
| .finite _ m => m.units == 0
| _ => false

/- Whether a number is less than zero. -/
def isBelowZero (x : Double) : Bool :=
  x.isNegative && !x.isZero

/- The exponent field of infinities and of no number. -/
def topExponent : Nat := 2047

/-
  The number that 64 bits stand for: a sign, eleven bits of
  exponent and 52 bits of fraction.
-/
def ofBits (bits : UInt64) : Double :=
  let n := bits.toNat
  let negative := decide (2 ^ (63 : Nat) ≤ n)
  let exponent := n / 2 ^ (52 : Nat) % 2 ^ (11 : Nat)
  let fraction := n % 2 ^ (52 : Nat)
  if hExponent : exponent < topExponent then
    .finite negative
      (Magnitude.ofFields exponent fraction hExponent
        (Nat.mod_lt n (Nat.two_pow_pos 52)))
  else if fraction = 0 then
    .infinite negative
  else
    .nan

/- The sign bit. -/
def signBit (negative : Bool) : Nat :=
  if negative then 2 ^ (63 : Nat) else 0

/-
  The 64 bits of a number. What is not a number has the bits
  of the quiet one without a sign.
-/
def toBits : Double → UInt64
| .nan =>
    UInt64.ofNat
      (topExponent * 2 ^ (52 : Nat) + 2 ^ (51 : Nat))
| .infinite negative =>
    UInt64.ofNat
      (signBit negative + topExponent * 2 ^ (52 : Nat))
| .finite negative m =>
    UInt64.ofNat (signBit negative + m.toBits)

end Double

end Calculator
