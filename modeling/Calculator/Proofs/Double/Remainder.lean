import Mathlib.Data.Rat.Floor
import Mathlib.Tactic.Ring
import Calculator.Double.Arithmetic
import Calculator.Proofs.Double.Values

/-
  This file shows that a remainder is exact. What is left of
  a magnitude is a whole number of units on the finer of the
  two grids, and less than the divisor, so that it is itself
  a magnitude and nothing is lost when it is rounded.

  Key definitions include:
    * `truncated`
    * `Double.IsRemainder`
-/

namespace Calculator

-- Powers of natural numbers are those of the core library.
attribute [local
instance 20000] instPowNat

------------------------------------------------------------
-- Remainders of Units
------------------------------------------------------------

/-
  What is left of one count of units by another is a number.
  It is the dividend if that is less. Otherwise the grid of
  the divisor is the finer one, and both are on it.
-/
theorem representable_mod
    {a b : Nat}
    (ha : Representable a)
    (hb : Representable b)
    (hPos : 0 < b) :
    Representable (a % b) := by
  by_cases hLess : a < b
  · rwa [Nat.mod_eq_of_lt hLess]
  · have hRest : a % b < b := Nat.mod_lt a hPos
    have hGrid : gridExponent b ≤ gridExponent a :=
      gridExponent_mono (Nat.not_lt.mp hLess)
    have hDividend : 2 ^ gridExponent b ∣ a :=
      (Nat.pow_dvd_pow 2 hGrid).trans ha.2
    have hOnGrid : 2 ^ gridExponent b ∣ a % b :=
      (Nat.dvd_mod_iff hb.2).mpr hDividend
    refine ⟨Nat.lt_trans hRest hb.1, ?_⟩
    exact (Nat.pow_dvd_pow 2
      (gridExponent_mono hRest.le)).trans hOnGrid

namespace Magnitude

variable {a b : Magnitude}

/- What is left of a magnitude by one that is not zero. -/
def mod (a b : Magnitude) (hPos : 0 < b.units) : Magnitude :=
  ⟨a.units % b.units,
    representable_mod a.representable b.representable hPos⟩

/- The quotient of values is that of units. -/
theorem value_div_value (a b : Magnitude) :
    a.value / b.value = (a.units : ℚ) / b.units := by
  rw [value, value,
    div_div_div_cancel_right₀ cast_unitsPerOne_pos.ne']

/- A magnitude is a multiple of another, and what is left. -/
theorem value_mod
    (a b : Magnitude)
    (hPos : 0 < b.units) :
    (a.mod b hPos).value =
      a.value - (a.units / b.units : Nat) * b.value := by
  have hUnits : (b.units : ℚ) * (a.units / b.units : Nat) +
      (a.units % b.units : Nat) = a.units := by
    exact_mod_cast Nat.div_add_mod a.units b.units
  rw [value, value, value, mod, ← hUnits]
  ring

/- What is left is less than the divisor. -/
theorem value_mod_lt (hPos : 0 < b.units) :
    (a.mod b hPos).value < b.value :=
  value_lt_value (Nat.mod_lt a.units hPos)

/- What is left is no more than there was. -/
theorem value_mod_le (hPos : 0 < b.units) :
    (a.mod b hPos).value ≤ a.value := by
  have hUnits : ((a.mod b hPos).units : ℚ) ≤ a.units := by
    exact_mod_cast Nat.mod_le a.units b.units
  exact div_le_div_of_nonneg_right hUnits
    (Nat.cast_nonneg unitsPerOne)

end Magnitude

------------------------------------------------------------
-- Whole Quotients
------------------------------------------------------------

/- The whole number next to a value on the side of zero. -/
def truncated (q : ℚ) : ℤ :=
  if q < 0 then ⌈q⌉ else ⌊q⌋

/- A quotient with a sign is cut to the whole part with it. -/
theorem truncated_signed_div
    (negative : Bool)
    (m n : Nat) :
    (truncated (signed negative ((m : ℚ) / n)) : ℚ) =
      signed negative (m / n : Nat) := by
  have hFloor : ⌊(m : ℚ) / n⌋ = ((m / n : Nat) : ℤ) := by
    rw [Rat.floor_natCast_div_natCast, Int.natCast_div]
  have hNonneg : (0 : ℚ) ≤ (m : ℚ) / n := by positivity
  cases negative with
  | false =>
      have hNot : ¬ signed false ((m : ℚ) / n) < 0 :=
        not_lt.mpr hNonneg
      rw [truncated, if_neg hNot]
      simp only [signed, Bool.false_eq_true, if_false, hFloor,
        Int.cast_natCast]
  | true =>
      rw [truncated]
      simp only [signed, if_true]
      split
      · rw [Int.ceil_neg, hFloor, Int.cast_neg,
          Int.cast_natCast]
      · rename_i hNot
        have hZero : (m : ℚ) / n = 0 := by linarith
        rw [hZero, Int.floor_zero] at hFloor
        rw [hZero, ← Int.cast_natCast (R := ℚ), ← hFloor]
        simp

namespace Double

------------------------------------------------------------
-- Remainders
------------------------------------------------------------

/-
  A number is what is left of a dividend by a divisor. It is
  not a number if one of them is not, the dividend is
  infinite or the divisor is a zero. An infinite divisor
  leaves the dividend as it is. Otherwise it is exactly the
  dividend less the divisor as many times as the quotient has
  whole parts, with the sign of the dividend.
-/
structure IsRemainder (x y r : Double) : Prop where
  nan :
    r = .nan ↔
      x = .nan ∨ y = .nan ∨ x.IsInfinite ∨ y.IsZero
  infinite :
    x.IsFinite → y.IsInfinite → r.toBits = x.toBits
  exact :
    x.IsFinite →
      y.IsFinite →
        ¬ y.IsZero →
          r.IsFinite ∧
            r.value =
                x.value -
                  truncated (x.value / y.value) * y.value ∧
            |r.value| < |y.value| ∧
            |r.value| ≤ |x.value| ∧
            (r.HasSignBit ↔ x.HasSignBit)

/- The remainder of finite numbers is not rounded. -/
theorem remainder_finite
    (s t : Bool)
    (a b : Magnitude)
    (hPos : 0 < b.units) :
    remainder (.finite s a) (.finite t b) =
      .finite s (a.mod b hPos) := by
  have hExact := ofRatio_units s (a.mod b hPos) Nat.one_pos
  rw [Nat.mul_one] at hExact
  rw [remainder, remainder?, if_neg hPos.ne',
    Option.getD_some]
  exact hExact

/-
  The value of a remainder is the dividend less whole
  multiples of the divisor.
-/
theorem value_finite_mod
    (s t : Bool)
    (a b : Magnitude)
    (hPos : 0 < b.units) :
    signed s (a.mod b hPos).value =
      signed s a.value -
        truncated (signed s a.value / signed t b.value) *
          signed t b.value := by
  rw [signed_div_signed, a.value_div_value b,
    truncated_signed_div, signed_mul_signed, ← signed_sub,
    a.value_mod b hPos]

/- The remainder of finite numbers is a remainder. -/
theorem isRemainder_finite
    (s t : Bool)
    (a b : Magnitude)
    (hPos : 0 < b.units) :
    IsRemainder (.finite s a) (.finite t b)
      (.finite s (a.mod b hPos)) := by
  constructor
  case nan => simp [hPos.ne']
  case infinite => exact fun _ hInfinite => hInfinite.elim
  case exact =>
      intro _ _ _
      refine ⟨trivial, value_finite_mod s t a b hPos, ?_, ?_,
        ?_⟩
      · simp only [value,
          abs_signed (Magnitude.value_nonneg _)]
        exact Magnitude.value_mod_lt hPos
      · simp only [value,
          abs_signed (Magnitude.value_nonneg _)]
        exact Magnitude.value_mod_le hPos
      · rw [hasSignBit_finite, hasSignBit_finite]

/-
  Where there is no remainder, what is not a number stands
  for it.
-/
theorem isRemainder_nan
    {x y : Double}
    (hNone :
      x = .nan ∨ y = .nan ∨ x.IsInfinite ∨ y.IsZero) :
    IsRemainder x y .nan := by
  constructor
  case nan => exact iff_of_true rfl hNone
  case infinite =>
      intro hx hy
      rcases hNone with rfl | rfl | hInfinite | hZero
      · exact hx.elim
      · exact hy.elim
      · exact absurd hInfinite hx.not_isInfinite
      · exact absurd hy hZero.1.not_isInfinite
  case exact =>
      intro hx hy hNot
      rcases hNone with rfl | rfl | hInfinite | hZero
      · exact hx.elim
      · exact hy.elim
      · exact absurd hInfinite hx.not_isInfinite
      · exact absurd hZero hNot

/- An infinite divisor leaves the dividend as it is. -/
theorem isRemainder_infinite
    (s t : Bool)
    (a : Magnitude) :
    IsRemainder (.finite s a) (.infinite t) (.finite s a) := by
  constructor
  case nan => simp
  case infinite => exact fun _ _ => rfl
  case exact => exact fun _ hy => hy.elim

/- A remainder is what is left of its dividend. -/
theorem isRemainder_remainder (x y : Double) :
    IsRemainder x y (remainder x y) := by
  cases x with
  | nan => exact isRemainder_nan (Or.inl rfl)
  | infinite s =>
      cases y with
      | nan => exact isRemainder_nan (by simp)
      | infinite t => exact isRemainder_nan (by simp)
      | finite t b => exact isRemainder_nan (by simp)
  | finite s a =>
      cases y with
      | nan => exact isRemainder_nan (by simp)
      | infinite t => exact isRemainder_infinite s t a
      | finite t b =>
          by_cases hZero : b.units = 0
          · rw [remainder, remainder?, if_pos hZero]
            exact isRemainder_nan (by simp [hZero])
          · have hPos := Nat.pos_of_ne_zero hZero
            rw [remainder_finite s t a b hPos]
            exact isRemainder_finite s t a b hPos

/-
  The remainder of two numbers that are given by their bits.
  Those of a finite dividend are the ones it is given by.
-/
theorem remainder_is_exact (a b : UInt64) :
    IsRemainder (ofBits a) (ofBits b)
        (remainder (ofBits a) (ofBits b)) ∧
      ((ofBits a).IsFinite → (ofBits a).toBits = a) := by
  refine ⟨isRemainder_remainder _ _, ?_⟩
  intro hFinite
  rcases hFinite.exists_eq with ⟨s, m, hBits⟩
  exact toBits_ofBits hBits

/- Six with a sign leaves zero with that sign by two. -/
theorem remainder_is_exact_negative_zero :
    remainder (ofBits 0xc018000000000000)
          (ofBits 0x4000000000000000) =
        zero true ∧
      (ofBits 0xc018000000000000).toBits =
        0xc018000000000000 ∧
      HasSignBit
        (remainder (ofBits 0xc018000000000000)
          (ofBits 0x4000000000000000)) := by
  rcases remainder_is_exact 0xc018000000000000
    0x4000000000000000 with ⟨hRemainder, hBits⟩
  have hDividend : (ofBits 0xc018000000000000).IsFinite :=
    trivial
  have hDivisor : (ofBits 0x4000000000000000).IsFinite :=
    trivial
  have hNot : ¬ (ofBits 0x4000000000000000).IsZero := by
    rw [isZero_iff]
    decide +kernel
  refine ⟨by decide +kernel, hBits hDividend, ?_⟩
  rcases hRemainder.exact hDividend hDivisor hNot with
    ⟨_, _, _, _, hSign⟩
  apply hSign.mpr
  rw [hasSignBit_iff]
  decide

end Double

end Calculator
