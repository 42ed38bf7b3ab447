import Calculator.Double.Power
import Calculator.Proofs.Double.Values

/-
  This file shows which numbers are whole and which of those
  are odd. Units of one divide the units of a whole number,
  and leave an odd quotient of an odd one, however large it
  is.

  Key definitions include:
    * `Double.IsWhole`
    * `Double.IsOdd`
-/

namespace Calculator

------------------------------------------------------------
-- Whole Magnitudes
------------------------------------------------------------

namespace Magnitude

variable {m : Magnitude}

/- A magnitude of a natural number has units for as many. -/
theorem value_eq_natCast_iff {n : Nat} :
    m.value = n ↔ m.units = n * unitsPerOne := by
  rw [value, div_eq_iff cast_unitsPerOne_pos.ne']
  exact_mod_cast Iff.rfl

/- A magnitude has the value one if its units are one. -/
theorem value_eq_one_iff :
    m.value = 1 ↔ m.units = unitsPerOne := by
  have hNat := value_eq_natCast_iff (m := m) (n := 1)
  rwa [Nat.cast_one, Nat.one_mul] at hNat

/- A magnitude is more than one if its units are. -/
theorem one_lt_value_iff :
    1 < m.value ↔ unitsPerOne < m.units := by
  rw [value, one_lt_div cast_unitsPerOne_pos, Nat.cast_lt]

/- A magnitude with a sign has the size of its value. -/
theorem value_eq_natAbs
    {negative : Bool}
    {n : ℤ}
    (hValue : signed negative m.value = n) :
    m.value = n.natAbs := by
  rw [← abs_signed m.value_nonneg negative, hValue,
    Nat.cast_natAbs, Int.cast_abs]

end Magnitude

namespace Double

variable {x y : Double}

------------------------------------------------------------
-- Whole Numbers
------------------------------------------------------------

/- The whole numbers. -/
def IsWhole (x : Double) : Prop :=
  x.IsFinite ∧ ∃ n : ℤ, x.value = n

/- The odd whole numbers. -/
def IsOdd (x : Double) : Prop :=
  x.IsFinite ∧ ∃ n : ℤ, x.value = 2 * n + 1

/- A whole magnitude has the value of a natural number. -/
theorem value_of_isWhole
    {m : Magnitude}
    (hWhole : m.IsWhole) :
    m.value = (m.units / unitsPerOne : Nat) := by
  apply Magnitude.value_eq_natCast_iff.mpr
  exact (Nat.div_mul_cancel
    (Nat.dvd_of_mod_eq_zero hWhole)).symm

/- A natural number with a sign is a whole number. -/
theorem exists_signed_eq
    (negative : Bool)
    (n : Nat) :
    ∃ k : ℤ, signed negative n = k ∧ k.natAbs = n := by
  cases negative with
  | false => exact ⟨n, by simp [signed], Int.natAbs_natCast n⟩
  | true => exact ⟨-n, by simp [signed], by simp⟩

/- A finite number is whole if its magnitude is. -/
theorem isWhole_finite
    (s : Bool)
    (m : Magnitude) :
    IsWhole (.finite s m) ↔ m.IsWhole := by
  rw [IsWhole, and_iff_right (isFinite_finite s m)]
  constructor
  · rintro ⟨n, hn⟩
    have hUnits := Magnitude.value_eq_natCast_iff.mp
      (Magnitude.value_eq_natAbs hn)
    rw [Magnitude.IsWhole, hUnits, Nat.mul_mod_left]
  · intro hWhole
    rcases exists_signed_eq s (m.units / unitsPerOne) with
      ⟨k, hk, _⟩
    refine ⟨k, ?_⟩
    rw [value, value_of_isWhole hWhole, hk]

/-
  A number is odd if it is found to be, however large it is:
  its units are an odd multiple of those of one.
-/
theorem isOdd_iff (x : Double) :
    x.IsOdd ↔ x.isOddWhole = true := by
  cases x with
  | nan => simp [IsOdd, isOddWhole]
  | infinite s => simp [IsOdd, isOddWhole]
  | finite s m =>
      rw [IsOdd, and_iff_right (isFinite_finite s m),
        isOddWhole, Bool.and_eq_true, decide_eq_true_eq,
        beq_iff_eq]
      constructor
      · rintro ⟨n, hn⟩
        have hCast : signed s m.value = (2 * n + 1 : ℤ) := by
          exact_mod_cast hn
        have hUnits := Magnitude.value_eq_natCast_iff.mp
          (Magnitude.value_eq_natAbs hCast)
        refine ⟨?_, ?_⟩
        · rw [Magnitude.IsWhole, hUnits, Nat.mul_mod_left]
        · rw [hUnits, Nat.mul_div_cancel _ unitsPerOne_pos]
          omega
      · rintro ⟨hWhole, hOdd⟩
        rcases exists_signed_eq s (m.units / unitsPerOne) with
          ⟨k, hk, hAbs⟩
        have hHalf : k = 2 * (k / 2) + 1 := by omega
        refine ⟨k / 2, ?_⟩
        rw [value, value_of_isWhole hWhole, hk]
        exact_mod_cast hHalf

end Double

end Calculator
