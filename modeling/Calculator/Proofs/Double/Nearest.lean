import Calculator.Proofs.Double.Bits
import Calculator.Proofs.Double.Grid

/-
  This file shows that rounding gives the nearest number. No
  other number is nearer to the quotient that is rounded, and
  the last bit is zero if another is as near. A quotient has
  one nearest number.

  Key definitions include:
    * `Magnitude.value`
    * `overflowBound`
    * `Double.IsNearest`
-/

namespace Calculator

-- Powers of natural numbers are those of the core library.
attribute [local
instance 20000] instPowNat

------------------------------------------------------------
-- Nearest Numbers
------------------------------------------------------------

namespace Magnitude

/- The value of a magnitude. -/
def value (m : Magnitude) : ℚ :=
  (m.units : ℚ) / unitsPerOne

/- The last bit of a magnitude is that of its significand. -/
theorem toBits_of_units
    {m : Magnitude}
    {s k : Nat}
    (hUnits : m.units = s * 2 ^ k)
    (hLow : 0 < k → 2 ^ (52 : Nat) ≤ s)
    (hHigh : s ≤ 2 ^ (53 : Nat)) :
    m.toBits = k * 2 ^ (52 : Nat) + s := by
  rw [toBits, hUnits]
  by_cases hTop : s = 2 ^ (53 : Nat)
  · have hNext :
        s * 2 ^ k = 2 ^ (52 : Nat) * 2 ^ (k + 1) := by
      rw [hTop, Nat.pow_succ 2 k]
      omega
    rw [hNext,
      gridExponent_significand (Nat.le_refl _) (by decide),
      Nat.mul_div_cancel _ (Nat.two_pow_pos _), hTop]
    omega
  · by_cases hFull : 2 ^ (52 : Nat) ≤ s
    · rw [gridExponent_significand hFull (by omega),
        Nat.mul_div_cancel _ (Nat.two_pow_pos _)]
    · have hk : k = 0 := by omega
      rw [hk, Nat.pow_zero, Nat.mul_one,
        gridExponent_of_lt (by omega), Nat.pow_zero,
        Nat.div_one]

end Magnitude

/-
  The middle between the largest number and the power of two
  that would come after it.
-/
def overflowBound : ℚ := 2 ^ 1024 - 2 ^ 970

/-
  The number nearest to a value that is not negative. Values
  from the overflow bound on are infinite. For any other, no
  number is nearer, and the last bit is zero if another is as
  near. Numbers with a sign are further away.
-/
inductive Double.IsNearest (v : ℚ) : Double → Prop where
| infinite
    (hBound : overflowBound ≤ v) :
    IsNearest v (.infinite false)
| finite
    (m : Magnitude)
    (hBound : v < overflowBound)
    (hNearest :
      ∀ m' : Magnitude, |v - m.value| ≤ |v - m'.value|)
    (hEven :
      ∀ m' : Magnitude,
        m' ≠ m →
          |v - m.value| = |v - m'.value| →
            m.toBits % 2 = 0) :
    IsNearest v (.finite false m)

/- Quotients by the units of one are by a positive number. -/
theorem cast_unitsPerOne_pos : (0 : ℚ) < unitsPerOne :=
  Nat.cast_pos.mpr unitsPerOne_pos

/- The overflow bound in units. -/
theorem overflowBound_mul_unitsPerOne :
    overflowBound * unitsPerOne =
      overflowUnits - overflowMargin := by
  have hOverflow : 2098 = 1024 + 1074 := rfl
  have hMargin : 2044 = 970 + 1074 := rfl
  rw [overflowBound, overflowUnits, overflowMargin,
    unitsPerOne, hOverflow, hMargin, Nat.pow_add 2 1024 1074,
    Nat.pow_add 2 970 1074]
  simp only [Nat.cast_mul, Nat.cast_pow, Nat.cast_ofNat]
  exact sub_mul _ _ _

/- The overflow bound bounds the quotients of units. -/
theorem overflowBound_le_iff (u : ℚ) :
    overflowBound ≤ u / unitsPerOne ↔
      (overflowUnits : ℚ) ≤ u + overflowMargin := by
  rw [le_div_iff₀ cast_unitsPerOne_pos, overflowBound_mul_unitsPerOne,
    sub_le_iff_le_add]

/- Distances in units are distances of values. -/
theorem Magnitude.abs_sub_value
    (u : ℚ)
    (m : Magnitude) :
    |u / unitsPerOne - m.value| =
      |u - m.units| / unitsPerOne := by
  rw [value, ← sub_div, abs_div,
    abs_of_pos cast_unitsPerOne_pos]

/- The number that a quotient is rounded to is the nearest. -/
theorem Double.isNearest_ofRatio
    {den : Nat}
    (hDen : 0 < den)
    (num : Nat) :
    IsNearest ((num : ℚ) / den / unitsPerOne)
      (ofRatio false num den) := by
  have hPos := cast_unitsPerOne_pos
  unfold ofRatio
  split
  · rename_i hFits
    generalize hm :
      (⟨roundedUnits num den,
        representable_roundedUnits hFits⟩ : Magnitude) = m
    have hUnits : m.units = roundedUnits num den := by
      rw [← hm]
    have hOther :
        ∀ m' : Magnitude,
          m' ≠ m →
            m'.units ≠ roundedUnits num den := by
      intro m' hNe hEqual
      exact hNe (Magnitude.ext_units (hEqual.trans hUnits.symm))
    refine .finite m ?_ ?_ ?_
    · by_contra hNot
      have hLarge := (overflowBound_le_iff _).mp
        (not_lt.mp hNot)
      exact absurd hFits (Nat.not_lt.mpr
        (overflowUnits_le_roundedUnits_of_margin hDen hLarge))
    · intro m'
      by_cases hSame : m' = m
      · rw [hSame]
      · rw [Magnitude.abs_sub_value, Magnitude.abs_sub_value,
          div_le_div_iff_of_pos_right hPos, hUnits]
        exact (abs_sub_roundedUnits_le hDen
          m'.representable.2 (hOther m' hSame)).1
    · intro m' hNe hTie
      rw [Magnitude.abs_sub_value, Magnitude.abs_sub_value,
        div_left_inj' hPos.ne', hUnits] at hTie
      have hEven := (abs_sub_roundedUnits_le hDen
        m'.representable.2 (hOther m' hNe)).2 hTie
      have hBits := Magnitude.toBits_of_units hUnits
        two_pow_le_roundQuotient (roundQuotient_grid_le _ _)
      omega
  · rename_i hLarge
    apply IsNearest.infinite
    rw [overflowBound_le_iff]
    by_contra hNot
    exact hLarge (roundedUnits_lt_overflowUnits hDen
      (not_le.mp hNot))

------------------------------------------------------------
-- One Nearest Number
------------------------------------------------------------

/- Larger numbers are on wider grids. -/
theorem gridExponent_mono
    {n n' : Nat}
    (hLe : n ≤ n') :
    gridExponent n ≤ gridExponent n' := by
  by_cases hZero : n = 0
  · rw [hZero]
    exact Nat.zero_le _
  · have hLog : n.log2 ≤ n'.log2 :=
      (Nat.le_log2 (by omega)).mpr
        (Nat.le_trans (Nat.log2_self_le hZero) hLe)
    exact Nat.sub_le_sub_right hLog 52

/-
  Between a magnitude and a larger one, or at the larger one,
  is a magnitude with the next bits.
-/
theorem Magnitude.exists_next
    {m m' : Magnitude}
    (hLess : m.units < m'.units) :
    ∃ n : Magnitude,
      m.units < n.units ∧
        n.units ≤ m'.units ∧
        n.toBits = m.toBits + 1 := by
  have hHigh := div_two_pow_gridExponent_lt m.units
  have hLow := two_pow_le_of_gridExponent (n := m.units)
  rw [← Nat.le_div_iff_mul_le (Nat.two_pow_pos _)] at hLow
  have hUnits := Nat.div_mul_cancel m.representable.2
  have hDvd : 2 ^ gridExponent m.units ∣ m'.units :=
    (Nat.pow_dvd_pow 2 (gridExponent_mono hLess.le)).trans
      m'.representable.2
  generalize gridExponent m.units = k
    at hHigh hLow hUnits hDvd
  generalize m.units / 2 ^ k = s at hHigh hLow hUnits
  have hPow := Nat.two_pow_pos k
  have hLe : (s + 1) * 2 ^ k ≤ m'.units := by
    rcases hDvd with ⟨t, ht⟩
    rw [ht, Nat.mul_comm]
    apply Nat.mul_le_mul_left
    rw [ht, ← hUnits, Nat.mul_comm] at hLess
    exact (Nat.mul_lt_mul_left hPow).mp hLess
  have hFits : (s + 1) * 2 ^ k < overflowUnits :=
    Nat.lt_of_le_of_lt hLe m'.representable.1
  let n : Magnitude :=
    ⟨(s + 1) * 2 ^ k, representable_mul_two_pow hHigh hFits⟩
  have hNext : n.units = (s + 1) * 2 ^ k := rfl
  have hBits := toBits_of_units hUnits.symm hLow hHigh.le
  have hBits' := toBits_of_units hNext
    (fun hk => Nat.le_succ_of_le (hLow hk)) hHigh
  refine ⟨n, ?_, hLe, ?_⟩
  · rw [← hUnits]
    exact (Nat.mul_lt_mul_right hPow).mpr (Nat.lt_succ_self s)
  · rw [hBits, hBits', Nat.add_assoc]

/- Larger units have larger values. -/
theorem Magnitude.value_lt_value
    {m m' : Magnitude}
    (hLess : m.units < m'.units) :
    m.value < m'.value := by
  have hCast : (m.units : ℚ) < m'.units := by
    exact_mod_cast hLess
  exact div_lt_div_of_pos_right hCast
    cast_unitsPerOne_pos

/-
  Of two numbers that are as near to a value and of which the
  last bit is zero, one is not the nearest: the number after
  the lesser one is between them.
-/
theorem Magnitude.exists_nearer
    {m m' : Magnitude}
    {v : ℚ}
    (hLess : m.units < m'.units)
    (hTie : |v - m.value| = |v - m'.value|)
    (hEven : m.toBits % 2 = 0)
    (hEven' : m'.toBits % 2 = 0) :
    ∃ n : Magnitude, |v - n.value| < |v - m.value| := by
  rcases exists_next hLess with ⟨n, hAbove, hBelow, hBits⟩
  have hBetween : n.units < m'.units := by
    apply Nat.lt_of_le_of_ne hBelow
    intro hEqual
    rw [ext_units hEqual] at hBits
    omega
  have hMiddle : v - m.value = m'.value - v := by
    have hWide := value_lt_value hLess
    rcases abs_eq_abs.mp hTie with hSame | hOther
    · linarith
    · linarith
  have hFirst := value_lt_value hAbove
  have hSecond := value_lt_value hBetween
  refine ⟨n, ?_⟩
  rw [abs_of_pos (show 0 < v - m.value by linarith), abs_lt]
  constructor <;> linarith

/- A value has one nearest number. -/
theorem Double.IsNearest.unique
    {v : ℚ}
    {x y : Double}
    (hx : IsNearest v x)
    (hy : IsNearest v y) :
    x = y := by
  cases hx with
  | infinite hBound =>
      cases hy with
      | infinite => rfl
      | finite m hLess => exact absurd hBound (not_le.mpr hLess)
  | finite m hBound hNearest hEven =>
      cases hy with
      | infinite hLarge =>
          exact absurd hLarge (not_le.mpr hBound)
      | finite m' _ hNearest' hEven' =>
          have hTie : |v - m.value| = |v - m'.value| :=
            le_antisymm (hNearest m') (hNearest' m)
          by_contra hNe
          have hOther : m' ≠ m := by
            rintro rfl
            exact hNe rfl
          have hBits := hEven m' hOther hTie
          have hBits' := hEven' m hOther.symm hTie.symm
          have hUnits : m.units ≠ m'.units := fun hEqual =>
            hOther (Magnitude.ext_units hEqual.symm)
          rcases Nat.lt_or_gt_of_ne hUnits with hLess | hLess
          · rcases Magnitude.exists_nearer hLess hTie hBits
              hBits' with ⟨n, hn⟩
            exact absurd (hNearest n) (not_le.mpr hn)
          · rcases Magnitude.exists_nearer hLess hTie.symm
              hBits' hBits with ⟨n, hn⟩
            exact absurd (hNearest' n) (not_le.mpr hn)

end Calculator
