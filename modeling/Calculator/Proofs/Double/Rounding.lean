import Calculator.Double.Rounding

/-
  This file shows that rounding depends on the value of a
  quotient only, that it leaves numbers as they are, and
  where it gives zero or overflows.
-/

namespace Calculator

-- Powers of natural numbers are those of the core library.
attribute [local
instance 20000] instPowNat

------------------------------------------------------------
-- Units
------------------------------------------------------------

/- The overflow is beyond zero. -/
theorem overflowUnits_pos : 0 < overflowUnits := by
  rw [overflowUnits]
  exact Nat.two_pow_pos 2098

------------------------------------------------------------
-- Equal Quotients
------------------------------------------------------------

/- A common factor does not change a rounded quotient. -/
theorem roundQuotient_mul_left
    {k : Nat}
    (hPos : 0 < k)
    (num den : Nat) :
    roundQuotient (k * num) (k * den) =
      roundQuotient num den := by
  have hDiv : k * num / (k * den) = num / den :=
    Nat.mul_div_mul_left num den hPos
  have hMod : k * num % (k * den) = k * (num % den) :=
    Nat.mul_mod_mul_left k num den
  have hTwice :
      2 * (k * (num % den)) = k * (2 * (num % den)) :=
    Nat.mul_left_comm 2 k (num % den)
  simp only [roundQuotient, hDiv, hMod, hTwice,
    Nat.mul_lt_mul_left hPos,
    Nat.mul_right_inj (Nat.ne_of_gt hPos)]

/- Nor does it change the units of a rounded quotient. -/
theorem roundedUnits_mul_left
    {k : Nat}
    (hPos : 0 < k)
    (num den : Nat) :
    roundedUnits (k * num) (k * den) =
      roundedUnits num den := by
  simp only [roundedUnits, Nat.mul_div_mul_left num den hPos,
    Nat.mul_assoc, roundQuotient_mul_left hPos]

/- Equal quotients round to the same units. -/
theorem roundedUnits_congr
    {num den num' den' : Nat}
    (hDen : 0 < den)
    (hDen' : 0 < den')
    (hEqual : num * den' = num' * den) :
    roundedUnits num den = roundedUnits num' den' := by
  calc
    roundedUnits num den
    _ = roundedUnits (den' * num) (den' * den) :=
        (roundedUnits_mul_left hDen' num den).symm
    _ = roundedUnits (den * num') (den * den') := by
        rw [Nat.mul_comm den' num, hEqual,
          Nat.mul_comm num' den, Nat.mul_comm den' den]
    _ = roundedUnits num' den' :=
        roundedUnits_mul_left hDen num' den'

------------------------------------------------------------
-- Numbers
------------------------------------------------------------

/- A number is left as it is. -/
theorem roundedUnits_of_representable
    {units : Nat}
    (hUnits : Representable units)
    {den : Nat}
    (hDen : 0 < den) :
    roundedUnits (units * den) den = units := by
  rw [roundedUnits_congr hDen Nat.one_pos (Nat.mul_one _),
    roundedUnits_one hUnits]

/- A quotient below half a unit is rounded to zero. -/
theorem roundedUnits_eq_zero
    {num den : Nat}
    (hLess : 2 * num < den) :
    roundedUnits num den = 0 := by
  have hDiv : num / den = 0 :=
    Nat.div_eq_of_lt (by omega)
  have hGrid : gridExponent 0 = 0 := by decide
  have hMod : num % den = num :=
    Nat.mod_eq_of_lt (by omega)
  simp only [roundedUnits, roundQuotient, hDiv, hGrid,
    Nat.pow_zero, Nat.mul_one, hMod, hLess, true_or,
    if_true]

/- A rounded quotient is not below its whole part. -/
theorem div_le_roundQuotient (num den : Nat) :
    num / den ≤ roundQuotient num den := by
  simp only [roundQuotient]
  split <;> omega

/- A quotient beyond the overflow is rounded to none below. -/
theorem overflowUnits_le_roundedUnits
    {num den : Nat}
    (hLarge : overflowUnits ≤ num / den) :
    overflowUnits ≤ roundedUnits num den := by
  have hNe : num / den ≠ 0 := by
    have hPos := overflowUnits_pos
    omega
  have hLog : 2098 ≤ (num / den).log2 := by
    rw [overflowUnits] at hLarge
    exact (Nat.le_log2 hNe).mpr hLarge
  have hGrid :
      gridExponent (num / den) + 52 = (num / den).log2 :=
    Nat.sub_add_cancel (by omega)
  have hSelf := Nat.log2_self_le hNe
  have hQuotient :
      2 ^ (52 : Nat) ≤
        num / den / 2 ^ gridExponent (num / den) := by
    rw [Nat.le_div_iff_mul_le (Nat.two_pow_pos _),
      ← Nat.pow_add, Nat.add_comm, hGrid]
    exact hSelf
  rw [Nat.div_div_eq_div_mul] at hQuotient
  have hRound := Nat.le_trans hQuotient
    (div_le_roundQuotient _ _)
  calc
    overflowUnits
    _ ≤ 2 ^ (52 : Nat) * 2 ^ gridExponent (num / den) := by
        rw [← Nat.pow_add, Nat.add_comm, hGrid]
        have hPow := Nat.pow_le_pow_right Nat.zero_lt_two hLog
        rwa [← overflowUnits.eq_1] at hPow
    _ ≤ roundedUnits num den :=
        Nat.mul_le_mul_right _ hRound

namespace Double

/- Equal quotients have the same nearest number. -/
theorem ofRatio_congr
    {num den num' den' : Nat}
    (hDen : 0 < den)
    (hDen' : 0 < den')
    (hEqual : num * den' = num' * den)
    (negative : Bool) :
    ofRatio negative num den =
      ofRatio negative num' den' := by
  simp only [ofRatio,
    roundedUnits_congr hDen hDen' hEqual]

/- A number is nearest to itself. -/
theorem ofRatio_units
    (negative : Bool)
    (m : Magnitude)
    {den : Nat}
    (hDen : 0 < den) :
    ofRatio negative (m.units * den) den =
      .finite negative m := by
  have hUnits :=
    roundedUnits_of_representable m.representable hDen
  simp only [ofRatio, hUnits, m.representable.1, dite_true]

/- The number nearest to a quotient below half a unit. -/
theorem ofRatio_eq_zero
    {num den : Nat}
    (hLess : 2 * num < den)
    (negative : Bool) :
    ofRatio negative num den = zero negative := by
  have hUnits := roundedUnits_eq_zero hLess
  simp only [ofRatio, hUnits, overflowUnits_pos, dite_true, zero,
    Magnitude.zero]

/- The number nearest to a quotient beyond the overflow. -/
theorem ofRatio_eq_infinite
    {num den : Nat}
    (hLarge : overflowUnits ≤ num / den)
    (negative : Bool) :
    ofRatio negative num den = .infinite negative := by
  have hUnits := overflowUnits_le_roundedUnits hLarge
  simp only [ofRatio, Nat.not_lt.mpr hUnits, dite_false]

/- The number nearest to a natural number. -/
theorem ofInt_natCast (n : Nat) :
    ofInt n = ofRatio false (n * unitsPerOne) 1 := by
  have hSign : decide ((n : Int) < 0) = false := by
    apply decide_eq_false
    omega
  rw [ofInt, hSign, Int.natAbs_natCast]

end Double

end Calculator
