import Mathlib.Algebra.Order.Field.Rat
import Mathlib.Data.Nat.Cast.Order.Field
import Mathlib.Tactic.FieldSimp
import Mathlib.Tactic.Linarith
import Mathlib.Tactic.Positivity
import Calculator.Proofs.Double.Rounding

/-
  This file shows where the rounded units of a quotient lie.
  They are on the grid around the quotient and at most half
  its width away, nothing else that is on a grid of numbers
  is nearer, and they overflow from the middle between the
  largest number and the overflow on.

  Key definitions include:
    * `IsRounded`
    * `overflowMargin`
-/

namespace Calculator

-- Powers of natural numbers are those of the core library.
attribute [local
instance 20000] instPowNat

------------------------------------------------------------
-- Rounding to Natural Numbers
------------------------------------------------------------

/-
  A natural number that a quotient is rounded to: it is at
  most half away, and even if it is half away.
-/
structure IsRounded (u : ℚ) (n : Nat) : Prop where
  close : |u - n| ≤ 1 / 2
  even : |u - n| = 1 / 2 → n % 2 = 0

/- A quotient is its whole part and a fraction. -/
theorem div_eq_add_mod
    {den : Nat}
    (hDen : 0 < den)
    (num : Nat) :
    (num : ℚ) / den =
      (num / den : Nat) + ((num % den : Nat) : ℚ) / den := by
  have hNe : (den : ℚ) ≠ 0 := by positivity
  have hNum : (den : ℚ) * (num / den : Nat) +
      (num % den : Nat) = num := by
    exact_mod_cast Nat.div_add_mod num den
  field_simp
  linarith

/- A quotient is rounded to the nearest natural number. -/
theorem isRounded_roundQuotient
    {den : Nat}
    (hDen : 0 < den)
    (num : Nat) :
    IsRounded ((num : ℚ) / den) (roundQuotient num den) := by
  have hPos : (0 : ℚ) < den := by positivity
  rw [div_eq_add_mod hDen]
  simp only [roundQuotient]
  generalize num / den = q
  have hLess := Nat.mod_lt num hDen
  generalize num % den = r at hLess ⊢
  split
  · rename_i hDown
    have hFraction : 0 ≤ (r : ℚ) / den := by positivity
    have hAbs : |(q : ℚ) + r / den - q| = r / den := by
      rw [add_sub_cancel_left, abs_of_nonneg hFraction]
    constructor
    · rw [hAbs, div_le_div_iff₀ hPos two_pos]
      have hHalf : 2 * r ≤ den := by omega
      have hCast : (2 : ℚ) * r ≤ den := by
        exact_mod_cast hHalf
      linarith
    · intro hTie
      rw [hAbs, div_eq_div_iff hPos.ne' two_ne_zero] at hTie
      have hCast : r * 2 = 1 * den := by exact_mod_cast hTie
      omega
  · rename_i hUp
    have hFraction : 0 ≤ 1 - (r : ℚ) / den := by
      rw [sub_nonneg, div_le_one hPos]
      exact_mod_cast hLess.le
    have hAbs :
        |(q : ℚ) + r / den - (q + 1 : Nat)| =
          1 - r / den := by
      rw [abs_sub_comm, Nat.cast_add, Nat.cast_one,
        add_sub_add_left_eq_sub, abs_of_nonneg hFraction]
    constructor
    · rw [hAbs]
      have hHalf : den ≤ 2 * r := by omega
      have hCast : (den : ℚ) ≤ 2 * r := by
        exact_mod_cast hHalf
      have hQuotient : (1 : ℚ) / 2 ≤ r / den := by
        rw [div_le_div_iff₀ two_pos hPos]
        linarith
      linarith
    · intro hTie
      rw [hAbs] at hTie
      have hQuotient : (r : ℚ) / den = 1 / 2 := by linarith
      rw [div_eq_div_iff hPos.ne' two_ne_zero] at hQuotient
      have hCast : r * 2 = 1 * den := by
        exact_mod_cast hQuotient
      omega

------------------------------------------------------------
-- Rounding on a Grid
------------------------------------------------------------

section

variable {u G : ℚ}
variable {s t : Nat}

/- What is rounded on a grid is at most half its width off. -/
theorem IsRounded.on_grid
    (hG : 0 < G)
    (hRounded : IsRounded (u / G) s) :
    2 * |u - s * G| ≤ G ∧
      (2 * |u - s * G| = G → s % 2 = 0) := by
  have hScale : |u - s * G| = |u / G - s| * G := by
    have hFactor : u - s * G = (u / G - s) * G := by
      field_simp
    rw [hFactor, abs_mul, abs_of_pos hG]
  rw [hScale]
  constructor
  · have hClose := mul_le_mul_of_nonneg_right
      hRounded.close hG.le
    linarith
  · intro hTie
    apply hRounded.even
    apply mul_right_cancel₀ hG.ne'
    linarith

/- Two numbers of a grid are at least its width apart. -/
theorem le_abs_mul_sub_mul
    (hG : 0 ≤ G)
    (hNe : s ≠ t) :
    G ≤ |s * G - t * G| := by
  have hApart : (1 : ℚ) ≤ |(s : ℚ) - t| := by
    have hInt : 1 ≤ |(s : Int) - t| :=
      Int.one_le_abs (by omega)
    exact_mod_cast hInt
  rw [← sub_mul, abs_mul, abs_of_nonneg hG]
  exact le_mul_of_one_le_left hG hApart

/-
  No other number of a grid is nearer to what is rounded on
  it, and one that is as near is half the width away.
-/
theorem abs_sub_grid_le
    (hG : 0 ≤ G)
    (hHalf : 2 * |u - s * G| ≤ G)
    (hNe : s ≠ t) :
    |u - s * G| ≤ |u - t * G| ∧
      (|u - s * G| = |u - t * G| →
        2 * |u - s * G| = G) := by
  have hApart := le_abs_mul_sub_mul hG hNe
  have hTriangle :=
    abs_sub_le (s * G : ℚ) u (t * G : ℚ)
  rw [abs_sub_comm (s * G : ℚ) u] at hTriangle
  constructor
  · linarith
  · intro hEqual
    linarith

end

------------------------------------------------------------
-- Rounded Units
------------------------------------------------------------

section

variable {num den : Nat}

/- Above the finest grid a significand has all its digits. -/
theorem two_pow_le_of_gridExponent
    {n : Nat}
    (hGrid : 0 < gridExponent n) :
    2 ^ (52 : Nat) * 2 ^ gridExponent n ≤ n := by
  have hNe : n ≠ 0 := by
    rintro rfl
    exact absurd hGrid (by decide)
  have hLog : 52 + gridExponent n = n.log2 := by
    unfold gridExponent at hGrid ⊢
    omega
  rw [← Nat.pow_add, hLog]
  exact Nat.log2_self_le hNe

/- The significand of a rounded quotient has all its digits. -/
theorem two_pow_le_roundQuotient
    (hGrid : 0 < gridExponent (num / den)) :
    2 ^ (52 : Nat) ≤
      roundQuotient num
        (den * 2 ^ gridExponent (num / den)) := by
  have hWhole := two_pow_le_of_gridExponent hGrid
  rw [← Nat.le_div_iff_mul_le (Nat.two_pow_pos _),
    Nat.div_div_eq_div_mul] at hWhole
  exact Nat.le_trans hWhole (div_le_roundQuotient _ _)

/- A rounded quotient is rounded on the grid around it. -/
theorem roundedUnits_on_grid
    (hDen : 0 < den)
    (num : Nat) :
    2 * |(num : ℚ) / den - roundedUnits num den| ≤
        2 ^ gridExponent (num / den) ∧
      (2 * |(num : ℚ) / den - roundedUnits num den| =
          2 ^ gridExponent (num / den) →
        roundQuotient num
          (den * 2 ^ gridExponent (num / den)) % 2 = 0) := by
  simp only [roundedUnits]
  generalize gridExponent (num / den) = k
  have hPos : 0 < den * 2 ^ k :=
    Nat.mul_pos hDen (Nat.two_pow_pos k)
  have hRounded := isRounded_roundQuotient hPos num
  have hQuotient :
      (num : ℚ) / (den * 2 ^ k : Nat) =
        num / den / 2 ^ k := by
    push_cast
    rw [div_div]
  rw [hQuotient] at hRounded
  have hGrid := hRounded.on_grid (by positivity)
  push_cast
  exact hGrid

/-
  A number that is not on the grid around a quotient is below
  the whole range of numbers on that grid.
-/
theorem lt_of_not_dvd_grid
    {n k : Nat}
    (hn : 2 ^ gridExponent n ∣ n)
    (hGrid : ¬ 2 ^ k ∣ n) :
    n < 2 ^ (52 : Nat) * 2 ^ k := by
  have hLess : gridExponent n < k := by
    by_contra hNot
    exact hGrid
      ((Nat.pow_dvd_pow 2 (by omega)).trans hn)
  have hNe : n ≠ 0 := by
    rintro rfl
    exact hGrid (Nat.dvd_zero _)
  rw [← Nat.pow_add]
  apply (Nat.log2_lt hNe).mp
  unfold gridExponent at hLess
  omega

/-
  No other number is nearer to a quotient than the rounded
  one. The numbers that are on a finer grid are below the
  least one of the grid around the quotient, which is nearer.
-/
theorem abs_sub_roundedUnits_le
    (hDen : 0 < den)
    {n : Nat}
    (hn : 2 ^ gridExponent n ∣ n)
    (hNe : n ≠ roundedUnits num den) :
    |(num : ℚ) / den - roundedUnits num den| ≤
        |(num : ℚ) / den - n| ∧
      (|(num : ℚ) / den - roundedUnits num den| =
          |(num : ℚ) / den - n| →
        roundQuotient num
          (den * 2 ^ gridExponent (num / den)) % 2 = 0) := by
  have hGrid := roundedUnits_on_grid hDen num
  have hLow := two_pow_le_of_gridExponent (n := num / den)
  have hFloor : ((num / den : Nat) : ℚ) ≤ num / den :=
    Nat.cast_div_le
  simp only [roundedUnits, Nat.cast_mul, Nat.cast_pow,
    Nat.cast_ofNat] at hGrid hNe ⊢
  generalize roundQuotient num
    (den * 2 ^ gridExponent (num / den)) = s
    at hGrid hNe ⊢
  generalize gridExponent (num / den) = k
    at hGrid hNe hLow ⊢
  generalize (num : ℚ) / den = u at hGrid hFloor ⊢
  rcases hGrid with ⟨hHalf, hEven⟩
  have hWidth : (0 : ℚ) ≤ 2 ^ k := by positivity
  by_cases hDvd : 2 ^ k ∣ n
  · rcases hDvd with ⟨t, rfl⟩
    have hOther : s ≠ t := by
      rintro rfl
      exact hNe (Nat.mul_comm _ _)
    have hNearest := abs_sub_grid_le hWidth hHalf hOther
    push_cast
    rw [mul_comm (2 ^ k : ℚ) t]
    exact ⟨hNearest.1, fun hTie => hEven (hNearest.2 hTie)⟩
  · have hBelow := lt_of_not_dvd_grid hn hDvd
    have hPos : 0 < k := by
      by_contra hZero
      have hk : k = 0 := by omega
      rw [hk] at hDvd
      exact hDvd (Nat.one_dvd n)
    have hLeast : ((2 ^ (52 : Nat) : Nat) : ℚ) * 2 ^ k ≤ u :=
      le_trans (by exact_mod_cast hLow hPos) hFloor
    have hLess :
        (n : ℚ) < ((2 ^ (52 : Nat) : Nat) : ℚ) * 2 ^ k := by
      exact_mod_cast hBelow
    have hNearest :
        |u - s * 2 ^ k| ≤
          u - ((2 ^ (52 : Nat) : Nat) : ℚ) * 2 ^ k := by
      rw [← abs_of_nonneg (sub_nonneg.mpr hLeast)]
      by_cases hEqual : s = 2 ^ (52 : Nat)
      · rw [hEqual]
      · exact (abs_sub_grid_le hWidth hHalf hEqual).1
    have hStrict : |u - s * 2 ^ k| < |u - n| := by
      rw [abs_of_pos (show 0 < u - n by linarith)]
      linarith
    exact ⟨hStrict.le, fun hTie => absurd hTie hStrict.ne⟩

end

------------------------------------------------------------
-- The Overflow
------------------------------------------------------------

/- Half the distance between the largest numbers, in units. -/
def overflowMargin : Nat := 2 ^ (2044 : Nat)

/- There is a margin. -/
theorem overflowMargin_pos : 0 < overflowMargin := by
  rw [overflowMargin]
  exact Nat.two_pow_pos 2044

/- The overflow is a multiple of the margin. -/
theorem overflowUnits_eq :
    overflowUnits = 2 ^ (54 : Nat) * overflowMargin := by
  have hSum : 2098 = 54 + 2044 := rfl
  rw [overflowUnits, overflowMargin, hSum,
    Nat.pow_add 2 54 2044]

/- The grid of a number is as fine as its digits are few. -/
theorem gridExponent_le
    {n k : Nat}
    (hLess : n < 2 ^ (k + 53)) :
    gridExponent n ≤ k := by
  by_cases hZero : n = 0
  · rw [hZero]
    exact Nat.zero_le k
  · have hLog := (Nat.log2_lt hZero).mpr hLess
    unfold gridExponent
    omega

/- The grid of a number is as wide as its digits are many. -/
theorem le_gridExponent
    {n k : Nat}
    (hLe : 2 ^ (k + 52) ≤ n) :
    k ≤ gridExponent n := by
  have hPos := Nat.two_pow_pos (k + 52)
  have hLog := (Nat.le_log2 (by omega)).mpr hLe
  unfold gridExponent
  omega

/- The next power of two is twice as large. -/
theorem two_pow_succ_eq
    {n k : Nat}
    (hn : n = 2 ^ k) :
    2 ^ (k + 1) = 2 * n := by
  rw [hn, Nat.pow_succ, Nat.mul_comm]

/- The margin is half the width of the last grid. -/
theorem two_pow_eq_margin :
    2 ^ (2044 + 1 : Nat) = 2 * overflowMargin := by
  have hPow := two_pow_succ_eq overflowMargin.eq_1
  exact hPow

/- The grid below the overflow is at most as wide. -/
theorem two_pow_gridExponent_le
    {n : Nat}
    (hLess : n < overflowUnits) :
    2 ^ gridExponent n ≤ 2 * overflowMargin := by
  have hSum : 2098 = 2044 + 1 + 53 := rfl
  rw [overflowUnits, hSum] at hLess
  have hPow := Nat.pow_le_pow_right Nat.zero_lt_two
    (gridExponent_le hLess)
  exact hPow.trans_eq two_pow_eq_margin

/- The grid above half of the overflow is at least as wide. -/
theorem le_two_pow_gridExponent
    {n : Nat}
    (hLe : 2 ^ (53 : Nat) * overflowMargin ≤ n) :
    2 * overflowMargin ≤ 2 ^ gridExponent n := by
  have hSum : 53 + 2044 = 2044 + 1 + 52 := rfl
  rw [overflowMargin, ← Nat.pow_add 2 53 2044, hSum] at hLe
  have hPow := Nat.pow_le_pow_right Nat.zero_lt_two
    (le_gridExponent hLe)
  exact two_pow_eq_margin.symm.trans_le hPow

section

variable {num den : Nat}

/- Below the margin a quotient is rounded to a number. -/
theorem roundedUnits_lt_overflowUnits
    (hDen : 0 < den)
    (hLess :
      (num : ℚ) / den + overflowMargin < overflowUnits) :
    roundedUnits num den < overflowUnits := by
  have hFloor : ((num / den : Nat) : ℚ) ≤ num / den :=
    Nat.cast_div_le
  have hMargin : (0 : ℚ) ≤ overflowMargin := Nat.cast_nonneg _
  have hWhole : num / den < overflowUnits := by
    have hCast :
        ((num / den : Nat) : ℚ) < overflowUnits := by
      linarith
    exact_mod_cast hCast
  have hWidth :
      (2 : ℚ) ^ gridExponent (num / den) ≤
        2 * overflowMargin := by
    exact_mod_cast two_pow_gridExponent_le hWhole
  have hHalf := (roundedUnits_on_grid hDen num).1
  have hBelow := neg_abs_le
    ((num : ℚ) / den - roundedUnits num den)
  have hRounded :
      (roundedUnits num den : ℚ) < overflowUnits := by
    linarith
  exact_mod_cast hRounded

/- From the margin on a quotient is on the last grid. -/
theorem margin_le_div
    (hDen : 0 < den)
    (hLarge :
      (overflowUnits : ℚ) ≤ num / den + overflowMargin) :
    2 ^ (53 : Nat) * overflowMargin ≤ num / den := by
  have hPos := overflowMargin_pos
  rw [overflowUnits_eq] at hLarge
  generalize overflowMargin = margin at hLarge hPos ⊢
  have hCast : (0 : ℚ) < margin := by exact_mod_cast hPos
  push_cast at hLarge
  have hQuotient : (2 : ℚ) ^ 53 * margin ≤ num / den := by
    linarith
  rw [le_div_iff₀ (by positivity)] at hQuotient
  rw [Nat.le_div_iff_mul_le hDen]
  exact_mod_cast hQuotient

/-
  A quotient that is rounded on the last grid is rounded to
  the overflow from the margin on. In the middle between the
  last number and the overflow, the last number is odd.
-/
theorem le_mul_of_last_grid
    {u : ℚ}
    {margin s : Nat}
    (hMargin : 0 < margin)
    (hLarge : 2 ^ 54 * margin ≤ u + margin)
    (hHalf : 2 * |u - s * (2 * margin)| ≤ 2 * margin)
    (hEven :
      2 * |u - s * (2 * margin)| = 2 * margin →
        s % 2 = 0) :
    2 ^ (54 : Nat) * margin ≤ s * (2 * margin) := by
  have hPos : (0 : ℚ) < margin := by exact_mod_cast hMargin
  have hAbove := le_abs_self (u - s * (2 * margin))
  have hLe : 2 ^ (53 : Nat) ≤ s + 1 := by
    have hMul :
        (2 : ℚ) ^ 53 * (2 * margin) ≤
          (s + 1) * (2 * margin) := by
      linarith
    have hCast := le_of_mul_le_mul_right hMul
      (mul_pos two_pos hPos)
    exact_mod_cast hCast
  by_cases hLast : s + 1 = 2 ^ (53 : Nat)
  · have hValue : (s : ℚ) = 2 ^ 53 - 1 := by
      have hSum : (s : ℚ) + 1 = 2 ^ 53 := by
        exact_mod_cast hLast
      linarith
    have hTie : 2 * |u - s * (2 * margin)| = 2 * margin := by
      apply le_antisymm hHalf
      rw [hValue] at hAbove ⊢
      linarith
    have hOdd := hEven hTie
    omega
  · have hMul := Nat.mul_le_mul_right (2 * margin)
      (show 2 ^ (53 : Nat) ≤ s by omega)
    omega

/- From the margin on a quotient is rounded to the overflow. -/
theorem overflowUnits_le_roundedUnits_of_margin
    (hDen : 0 < den)
    (hLarge :
      (overflowUnits : ℚ) ≤ num / den + overflowMargin) :
    overflowUnits ≤ roundedUnits num den := by
  by_cases hWhole : overflowUnits ≤ num / den
  · exact overflowUnits_le_roundedUnits hWhole
  · have hHigh := two_pow_gridExponent_le
      (Nat.not_le.mp hWhole)
    have hLow := le_two_pow_gridExponent
      (margin_le_div hDen hLarge)
    have hWidth := Nat.le_antisymm hHigh hLow
    have hUnits :
        roundedUnits num den =
          roundQuotient num
              (den * 2 ^ gridExponent (num / den)) *
            (2 * overflowMargin) := by
      rw [← hWidth]
      rfl
    have hGrid :
        (2 : ℚ) ^ gridExponent (num / den) =
          2 * overflowMargin := by
      exact_mod_cast hWidth
    rcases roundedUnits_on_grid hDen num with ⟨hHalf, hEven⟩
    rw [hUnits] at hHalf hEven ⊢
    rw [hGrid] at hHalf hEven
    rw [overflowUnits_eq] at hLarge ⊢
    push_cast at hLarge hHalf hEven
    exact le_mul_of_last_grid overflowMargin_pos hLarge
      hHalf hEven

end

end Calculator
