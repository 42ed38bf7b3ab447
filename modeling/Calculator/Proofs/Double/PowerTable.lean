import Calculator.Proofs.Double.Wholes

/-
  This file defines the table of powers: which power of two
  numbers is infinite, zero, one or not a number, and which
  has a sign. It shows that what is documented of a power
  that may have faults is enough for the power that is made
  out of it to be in the table.

  Key definitions include:
    * `Double.IsPower`
    * `Double.IsDocumented`
-/

namespace Calculator.Double

variable {x y z : Double}

------------------------------------------------------------
-- The Table of Powers
------------------------------------------------------------

/-
  A number is what the table of powers tells of the power of
  two numbers. A zero exponent and the base one give one.
  Else it is not a number if one of the two is not, or the
  base is less than zero and the exponent a fraction. It is
  infinite or zero if the base is, or the exponent is
  infinite, as it grows or shrinks without end. It has a sign
  if the base has one and the exponent is odd.
-/
structure IsPower (x y z : Double) : Prop where
  one : y.IsZero ∨ x = .one → z = .one
  nan :
    ¬ (y.IsZero ∨ x = .one) →
      (z = .nan ↔
        x = .nan ∨
          y = .nan ∨
          (x.IsFinite ∧ x.IsBelowZero) ∧
            y.IsFinite ∧ ¬ y.IsWhole)
  zeroBase :
    x.IsZero →
      (y.IsBelowZero → z.IsInfinite) ∧
        (y.IsAboveZero → z.IsZero)
  infiniteBase :
    x.IsInfinite →
      (y.IsAboveZero → z.IsInfinite) ∧
        (y.IsBelowZero → z.IsZero)
  infiniteExponent :
    x.IsFinite →
      y.IsInfinite →
        (|x.value| = 1 → z = .one) ∧
          (|x.value| ≠ 1 →
            ((1 < |x.value| ↔ y.IsAboveZero) →
                z.IsInfinite) ∧
              (¬ (1 < |x.value| ↔ y.IsAboveZero) →
                z.IsZero))
  sign :
    z ≠ .nan → (z.HasSignBit ↔ x.HasSignBit ∧ y.IsOdd)

/-
  What is documented of a power that may have faults. With an
  operand that is not finite it is what the table tells. With
  finite operands it is undefined for zero to less than zero
  and for less than zero to a fraction. Otherwise it is one
  or zero where the table says so, and else finite or too
  large. It has the sign that the table tells.
-/
structure IsDocumented
    (primitive : Double → Double → Except PowerFault Double) :
    Prop where
  notFinite :
    ∀ x y,
      ¬ (x.IsFinite ∧ y.IsFinite) →
        ∃ z, primitive x y = .ok z ∧ IsPower x y z
  one :
    ∀ x y,
      x.IsFinite →
        y.IsFinite →
          y.IsZero ∨ x = .one → primitive x y = .ok .one
  zeroBelow :
    ∀ x y,
      x.IsZero →
        y.IsFinite →
          y.IsBelowZero → primitive x y = .error .undefined
  zeroAbove :
    ∀ x y,
      x.IsZero →
        y.IsFinite →
          y.IsAboveZero →
            ∃ z,
              primitive x y = .ok z ∧
                z.IsZero ∧
                (z.HasSignBit ↔ x.HasSignBit ∧ y.IsOdd)
  fraction :
    ∀ x y,
      x.IsFinite →
        x.IsBelowZero →
          y.IsFinite →
            ¬ y.IsWhole → primitive x y = .error .undefined
  ordinary :
    ∀ x y,
      x.IsFinite →
        ¬ x.IsZero →
          y.IsFinite →
            ¬ y.IsZero →
              ¬ (x.IsBelowZero ∧ ¬ y.IsWhole) →
                primitive x y = .error .overflow ∨
                  ∃ z,
                    primitive x y = .ok z ∧
                      z.IsFinite ∧
                      (z.HasSignBit ↔
                        x.HasSignBit ∧ y.IsOdd)

------------------------------------------------------------
-- Powers in the Table
------------------------------------------------------------

/- The value of one. -/
theorem value_one : value .one = 1 := by
  have hValue :=
    Magnitude.value_eq_one_iff.mpr Magnitude.units_one
  simpa only [one, value, signed, Bool.false_eq_true,
    if_false] using hValue

/- One is not zero. -/
theorem not_isZero_one : ¬ IsZero .one := by
  intro hZero
  exact one_ne_zero (value_one.symm.trans hZero.2)

/- One has no sign. -/
theorem not_hasSignBit_one : ¬ HasSignBit .one := by
  rw [one, hasSignBit_finite]
  exact Bool.false_ne_true

/- One is not less than zero. -/
theorem not_isBelowZero_one : ¬ IsBelowZero .one := by
  rw [one, isBelowZero_finite]
  exact fun h => Bool.false_ne_true h.1

/- No zero is less than zero. -/
theorem IsZero.not_isBelowZero (hZero : y.IsZero) :
    ¬ y.IsBelowZero := by
  rintro (rfl | ⟨_, hLess⟩)
  · exact hZero.1
  · exact hLess.ne hZero.2

/- No zero is more than zero. -/
theorem IsZero.not_isAboveZero (hZero : y.IsZero) :
    ¬ y.IsAboveZero := by
  rintro (rfl | ⟨_, hMore⟩)
  · exact hZero.1
  · exact hMore.ne' hZero.2

/- No zero is odd. -/
theorem IsZero.not_isOdd (hZero : y.IsZero) : ¬ y.IsOdd := by
  rintro ⟨_, n, hn⟩
  rw [hZero.2] at hn
  have hInt : (0 : ℤ) = 2 * n + 1 := by exact_mod_cast hn
  omega

/- Every zero is whole. -/
theorem IsZero.isWhole (hZero : y.IsZero) : y.IsWhole := by
  refine ⟨hZero.1, 0, ?_⟩
  rw [hZero.2, Int.cast_zero]

/- One is the power where the table says so. -/
theorem isPower_one (hOne : y.IsZero ∨ x = .one) :
    IsPower x y .one := by
  constructor
  case one => exact fun _ => rfl
  case nan => exact fun hNot => absurd hOne hNot
  case zeroBase =>
      intro hx
      have hy : y.IsZero := by
        apply hOne.resolve_right
        rintro rfl
        exact not_isZero_one hx
      exact ⟨fun h => absurd h hy.not_isBelowZero,
        fun h => absurd h hy.not_isAboveZero⟩
  case infiniteBase =>
      intro hx
      have hy : y.IsZero := by
        apply hOne.resolve_right
        rintro rfl
        exact hx
      exact ⟨fun h => absurd h hy.not_isAboveZero,
        fun h => absurd h hy.not_isBelowZero⟩
  case infiniteExponent =>
      intro _ hy
      have hx : x = .one :=
        hOne.resolve_left
          fun hZero => hZero.1.not_isInfinite hy
      rw [hx, value_one, abs_one]
      exact ⟨fun _ => rfl, absurd rfl⟩
  case sign =>
      intro _
      refine iff_of_false not_hasSignBit_one ?_
      rintro ⟨hSign, hOdd⟩
      rcases hOne with hy | rfl
      · exact hy.not_isOdd hOdd
      · exact not_hasSignBit_one hSign

/- A power of zero is one for a zero exponent only. -/
theorem IsZero.not_one
    (hx : x.IsZero)
    (hy : ¬ y.IsZero) :
    ¬ (y.IsZero ∨ x = .one) := by
  rintro (hZero | rfl)
  · exact hy hZero
  · exact not_isZero_one hx

/- What is not a number makes a power that is none. -/
theorem isPower_nan
    (hNot : ¬ (y.IsZero ∨ x = .one))
    (hNaN : x = .nan ∨ y = .nan) :
    IsPower x y .nan := by
  constructor
  case one => exact fun hOne => absurd hOne hNot
  case nan => exact fun _ => iff_of_true rfl (by tauto)
  case sign => exact absurd rfl
  case zeroBase => rcases hNaN with rfl | rfl <;> simp
  case infiniteBase => rcases hNaN with rfl | rfl <;> simp
  case infiniteExponent =>
      rcases hNaN with rfl | rfl <;> simp

/-
  For finite numbers, the table only tells what is not a
  number, what comes of zero, and the sign.
-/
theorem isPower_of_isFinite
    (hx : x.IsFinite)
    (hy : y.IsFinite)
    (hNot : ¬ (y.IsZero ∨ x = .one))
    (hNaN : z = .nan ↔ x.IsBelowZero ∧ ¬ y.IsWhole)
    (hZero :
      x.IsZero →
        (y.IsBelowZero → z.IsInfinite) ∧
          (y.IsAboveZero → z.IsZero))
    (hSign :
      z ≠ .nan → (z.HasSignBit ↔ x.HasSignBit ∧ y.IsOdd)) :
    IsPower x y z := by
  constructor
  case one => exact fun hOne => absurd hOne hNot
  case nan =>
      intro _
      rw [hNaN]
      constructor
      · rintro ⟨hBelow, hFraction⟩
        exact Or.inr (Or.inr ⟨⟨hx, hBelow⟩, hy, hFraction⟩)
      · rintro (rfl | rfl | ⟨⟨_, hBelow⟩, _, hFraction⟩)
        · exact hx.elim
        · exact hy.elim
        · exact ⟨hBelow, hFraction⟩
  case zeroBase => exact hZero
  case infiniteBase =>
      exact fun h => absurd h hx.not_isInfinite
  case infiniteExponent =>
      exact fun _ h => absurd h hy.not_isInfinite
  case sign => exact hSign

------------------------------------------------------------
-- Powers out of Documented Ones
------------------------------------------------------------

variable
    {primitive : Double → Double → Except PowerFault Double}

/- A power without a fault is passed on. -/
theorem powerBy_of_ok (hPower : primitive x y = .ok z) :
    powerBy primitive x y = z := by
  rw [powerBy, hPower]

/- What is too large becomes infinite. -/
theorem powerBy_of_overflow
    (hPower : primitive x y = .error .overflow) :
    powerBy primitive x y =
      .infinite (x.isBelowZero && y.isOddWhole) := by
  rw [powerBy, hPower]

/- Zero to less than zero becomes infinite. -/
theorem powerBy_of_zero
    (hPower : primitive x y = .error .undefined)
    (hx : x.IsZero)
    (hy : y.IsBelowZero) :
    powerBy primitive x y =
      .infinite (x.isNegative && y.isOddWhole) := by
  rw [isZero_iff] at hx
  rw [isBelowZero_iff] at hy
  simp only [powerBy, hPower, hx, hy, Bool.and_self, if_true]

/- Any other power that is undefined is not a number. -/
theorem powerBy_of_not_zero
    (hPower : primitive x y = .error .undefined)
    (hx : ¬ x.IsZero) :
    powerBy primitive x y = .nan := by
  rw [isZero_iff, Bool.not_eq_true] at hx
  simp only [powerBy, hPower, hx, Bool.false_and,
    Bool.false_eq_true, if_false]

/- The sign of an infinity is that of the base. -/
theorem hasSignBit_infinite_and (x y : Double) :
    HasSignBit (.infinite (x.isNegative && y.isOddWhole)) ↔
      x.HasSignBit ∧ y.IsOdd := by
  rw [hasSignBit_infinite, Bool.and_eq_true, hasSignBit_iff,
    isOdd_iff]

/-
  A number that is not zero is less than zero if it has a
  sign.
-/
theorem isBelowZero_eq_isNegative (hx : ¬ x.IsZero) :
    x.isBelowZero = x.isNegative := by
  rw [isZero_iff, Bool.not_eq_true] at hx
  rw [isBelowZero, hx, Bool.not_false, Bool.and_true]

/-
  The power of zero that is made out of a documented one is
  in the table.
-/
theorem IsDocumented.isPower_zero
    (hDocumented : IsDocumented primitive)
    (hx : x.IsZero)
    (hy : y.IsFinite)
    (hNot : ¬ (y.IsZero ∨ x = .one)) :
    IsPower x y (powerBy primitive x y) := by
  -- The exponent is not zero, so that it is on one side.
  have hCases : y.IsBelowZero ∨ y.IsAboveZero := by
    have hNonzero : y.value ≠ 0 :=
      fun hZero => hNot (Or.inl ⟨hy, hZero⟩)
    exact (lt_or_gt_of_ne hNonzero).imp
      (fun hLess => Or.inr ⟨hy, hLess⟩)
      (fun hMore => Or.inr ⟨hy, hMore⟩)
  rcases hCases with hBelow | hAbove
  · have hPower := hDocumented.zeroBelow x y hx hy hBelow
    rw [powerBy_of_zero hPower hx hBelow]
    refine isPower_of_isFinite hx.1 hy hNot ?_ ?_ ?_
    · exact iff_of_false nofun
        fun h => hx.not_isBelowZero h.1
    · exact fun _ => ⟨fun _ => trivial,
        fun hAbove => absurd hAbove hBelow.not_isAboveZero⟩
    · exact fun _ => hasSignBit_infinite_and x y
  · rcases hDocumented.zeroAbove x y hx hy hAbove with
      ⟨z, hPower, hZero, hSign⟩
    rw [powerBy_of_ok hPower]
    have hNaN : z ≠ .nan := by
      rintro rfl
      exact hZero.1
    refine isPower_of_isFinite hx.1 hy hNot ?_ ?_ ?_
    · exact iff_of_false hNaN
        fun h => hx.not_isBelowZero h.1
    · exact fun _ => ⟨
        fun hBelow => absurd hAbove hBelow.not_isAboveZero,
        fun _ => hZero⟩
    · exact fun _ => hSign

/-
  So is that of any other finite number. If it is not passed
  on, it is too large or there is none.
-/
theorem IsDocumented.isPower_nonzero
    (hDocumented : IsDocumented primitive)
    (hx : x.IsFinite)
    (hZero : ¬ x.IsZero)
    (hy : y.IsFinite)
    (hNot : ¬ (y.IsZero ∨ x = .one)) :
    IsPower x y (powerBy primitive x y) := by
  by_cases hFraction : x.IsBelowZero ∧ ¬ y.IsWhole
  · have hPower := hDocumented.fraction x y hx
      hFraction.1 hy hFraction.2
    rw [powerBy_of_not_zero hPower hZero]
    exact isPower_of_isFinite hx hy hNot
      (iff_of_true rfl hFraction)
      (fun h => absurd h hZero) (absurd rfl)
  · rcases hDocumented.ordinary x y hx hZero hy
        (fun h => hNot (Or.inl h)) hFraction with
      hPower | ⟨z, hPower, hz, hSign⟩
    -- The base decides on the sign by its comparison with
    -- zero here, and by its first bit in the table.
    · rw [powerBy_of_overflow hPower,
        isBelowZero_eq_isNegative hZero]
      exact isPower_of_isFinite hx hy hNot
        (iff_of_false nofun hFraction)
        (fun h => absurd h hZero)
        (fun _ => hasSignBit_infinite_and x y)
    · have hNaN : z ≠ .nan := by
        rintro rfl
        exact hz
      rw [powerBy_of_ok hPower]
      exact isPower_of_isFinite hx hy hNot
        (iff_of_false hNaN hFraction)
        (fun h => absurd h hZero) (fun _ => hSign)

/-
  The power that is made out of a documented one is in the
  table, whatever the two numbers are.
-/
theorem IsDocumented.isPower_powerBy
    (hDocumented : IsDocumented primitive)
    (x y : Double) :
    IsPower x y (powerBy primitive x y) := by
  by_cases hFinite : x.IsFinite ∧ y.IsFinite
  · rcases hFinite with ⟨hx, hy⟩
    by_cases hOne : y.IsZero ∨ x = .one
    · rw [powerBy_of_ok (hDocumented.one x y hx hy hOne)]
      exact isPower_one hOne
    · by_cases hZero : x.IsZero
      · exact hDocumented.isPower_zero hZero hy hOne
      · exact hDocumented.isPower_nonzero hx hZero hy hOne
  · rcases hDocumented.notFinite x y hFinite with
      ⟨z, hPower, hTable⟩
    rwa [powerBy_of_ok hPower]

end Calculator.Double
