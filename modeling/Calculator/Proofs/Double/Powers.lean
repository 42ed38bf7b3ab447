import Calculator.Proofs.Double.PowerTable

/-
  This file shows that the power of the library is as it is
  documented, and so that the power of two numbers is in the
  table, whatever they are.
-/

namespace Calculator.Double

variable {x y z : Double}

------------------------------------------------------------
-- Zeros and One
------------------------------------------------------------

/- A zero is a zero. -/
theorem isZero_zero (negative : Bool) :
    IsZero (zero negative) :=
  (isZero_finite negative Magnitude.zero).mpr rfl

/- There are two zeros. -/
theorem isZero_iff_eq :
    y.IsZero ↔ y = zero false ∨ y = zero true := by
  cases y with
  | nan => simp [zero]
  | infinite t => simp [zero]
  | finite t b =>
      rw [isZero_finite, zero, zero]
      constructor
      · intro hUnits
        have hb : b = Magnitude.zero :=
          Magnitude.ext_units hUnits
        cases t <;> simp [hb]
      · rintro (hZero | hZero) <;> cases hZero <;> rfl

/- Where the table says so, the library gives one. -/
theorem libraryPower_one (hOne : y.IsZero ∨ x = .one) :
    libraryPower x y = .ok .one := by
  rw [isZero_iff_eq, or_assoc] at hOne
  unfold libraryPower
  exact if_pos hOne

------------------------------------------------------------
-- Operands That Are Not Finite
------------------------------------------------------------

/- No infinity is odd. -/
theorem not_isOdd_infinite (t : Bool) :
    ¬ IsOdd (.infinite t) :=
  fun hOdd => hOdd.1

/- Powers of infinities are in the table. -/
theorem isPower_infinite
    {s t : Bool}
    {b : Magnitude}
    (hNot : ¬ (IsZero (.finite t b) ∨ infinite s = .one)) :
    IsPower (.infinite s) (.finite t b)
      (if t then
        zero (s && isOddWhole (.finite t b))
      else
        .infinite (s && isOddWhole (.finite t b))) := by
  have hb : b.units ≠ 0 := by
    intro hZero
    exact hNot (Or.inl ((isZero_finite t b).mpr hZero))
  have hOdd := isOdd_iff (.finite t b)
  constructor
  case one => exact fun hOne => absurd hOne hNot
  case nan => cases t <;> simp [zero]
  case zeroBase => simp
  case infiniteBase =>
      cases t <;> simp [zero, Magnitude.zero, hb]
  case infiniteExponent => simp
  case sign =>
      intro _
      cases t <;>
        simp only [Bool.false_eq_true, if_false, if_true,
          zero, hasSignBit_infinite, hasSignBit_finite,
          Bool.and_eq_true, hOdd]

/- Infinite powers of infinities are in the table. -/
theorem isPower_infinite_infinite (s t : Bool) :
    IsPower (.infinite s) (.infinite t)
      (if t then zero false else .infinite false) := by
  have hOdd := not_isOdd_infinite t
  constructor
  case one => simp [one]
  case nan => cases t <;> simp [zero]
  case zeroBase => simp
  case infiniteBase =>
      cases t <;> simp [zero, Magnitude.zero]
  case infiniteExponent => simp
  case sign => cases t <;> simp [zero, hOdd]

/-
  For an infinite exponent, the table tells the size of the
  power by that of the base. A power of zero is among them.
-/
theorem isPower_of_infinite_exponent
    {s t : Bool}
    {a : Magnitude}
    (hNot : finite s a ≠ .one)
    (hNaN : z ≠ .nan)
    (hSign : ¬ z.HasSignBit)
    (hOne : a.units = unitsPerOne → z = .one)
    (hGrows :
      a.units ≠ unitsPerOne →
        (unitsPerOne < a.units ↔ t = false) → z.IsInfinite)
    (hShrinks :
      a.units ≠ unitsPerOne →
        ¬ (unitsPerOne < a.units ↔ t = false) → z.IsZero) :
    IsPower (.finite s a) (.infinite t) z := by
  have hAbs : |value (.finite s a)| = a.value :=
    abs_signed a.value_nonneg s
  constructor
  case one =>
      rintro (hZero | hBase)
      · exact absurd hZero (not_isZero_infinite t)
      · exact absurd hBase hNot
  case nan => simp [hNaN]
  case zeroBase =>
      intro hZero
      rw [isZero_finite] at hZero
      -- Zero is less than one and so shrinks.
      have hPos := unitsPerOne_pos
      have hUnits : a.units ≠ unitsPerOne := by omega
      have hLess : ¬ unitsPerOne < a.units := by omega
      rw [isBelowZero_infinite, isAboveZero_infinite]
      constructor
      · rintro rfl
        exact hGrows hUnits (iff_of_false hLess nofun)
      · rintro rfl
        exact hShrinks hUnits fun h => hLess (h.mpr rfl)
  case infiniteBase => simp
  case infiniteExponent =>
      intro _ _
      rw [hAbs, ne_eq, Magnitude.value_eq_one_iff,
        Magnitude.one_lt_value_iff, isAboveZero_infinite]
      exact ⟨hOne, fun h => ⟨hGrows h, hShrinks h⟩⟩
  case sign =>
      intro _
      exact iff_of_false hSign
        fun h => not_isOdd_infinite t h.2

/- A power to infinity grows if its size and sign agree. -/
theorem grows_iff (large shrinking : Bool) :
    (large ^^ shrinking) = true ↔
      (large = true ↔ shrinking = false) := by
  cases large <;> cases shrinking <;> decide

/- Infinite powers of finite numbers are in the table. -/
theorem isPower_powerToInfinity
    {s t : Bool}
    {a : Magnitude}
    (hNot : finite s a ≠ .one) :
    IsPower (.finite s a) (.infinite t)
      (powerToInfinity a t) := by
  have hAgree := grows_iff (decide (unitsPerOne < a.units)) t
  rw [decide_eq_true_iff] at hAgree
  unfold powerToInfinity
  split
  · rename_i hOne
    exact isPower_of_infinite_exponent hNot nofun
      not_hasSignBit_one (fun _ => rfl)
      (fun h => absurd hOne h) (fun h => absurd hOne h)
  · rename_i hOne
    split
    · rename_i hGrows
      refine isPower_of_infinite_exponent hNot nofun
        (by simp) (fun h => absurd h hOne)
        (fun _ _ => trivial) ?_
      intro _ hShrinks
      exact absurd (hAgree.mp hGrows) hShrinks
    · rename_i hShrinks
      refine isPower_of_infinite_exponent hNot nofun
        (by simp [zero]) (fun h => absurd h hOne) ?_
        (fun _ _ => isZero_zero false)
      intro _ hGrows
      exact absurd (hAgree.mpr hGrows) hShrinks

/-
  With an operand that is not finite, the library gives what
  the table tells.
-/
theorem exists_libraryPower_of_not_finite
    (hFinite : ¬ (x.IsFinite ∧ y.IsFinite)) :
    ∃ z, libraryPower x y = .ok z ∧ IsPower x y z := by
  by_cases hOne : y.IsZero ∨ x = .one
  · exact ⟨.one, libraryPower_one hOne, isPower_one hOne⟩
  -- What gives one is looked for first, so that no other
  -- case of the library has it.
  · have hGuard := hOne
    rw [isZero_iff_eq, or_assoc] at hGuard
    unfold libraryPower
    rw [if_neg hGuard]
    cases x with
    | nan => exact ⟨.nan, rfl, isPower_nan hOne (Or.inl rfl)⟩
    | infinite s =>
        cases y with
        | nan =>
            exact ⟨.nan, rfl, isPower_nan hOne (Or.inr rfl)⟩
        | infinite t =>
            exact ⟨_, rfl, isPower_infinite_infinite s t⟩
        | finite t b => exact ⟨_, rfl, isPower_infinite hOne⟩
    | finite s a =>
        have hBase : finite s a ≠ .one :=
          fun h => hOne (Or.inr h)
        cases y with
        | nan =>
            exact ⟨.nan, rfl, isPower_nan hOne (Or.inr rfl)⟩
        | infinite t =>
            exact ⟨_, rfl, isPower_powerToInfinity hBase⟩
        | finite t b => exact absurd ⟨trivial, trivial⟩ hFinite

------------------------------------------------------------
-- Finite Operands
------------------------------------------------------------

section Finite

variable {s t : Bool} {a b : Magnitude}

/- Else a power of finite numbers is one of magnitudes. -/
theorem libraryPower_finite
    (hNot : ¬ (IsZero (.finite t b) ∨ finite s a = .one)) :
    libraryPower (.finite s a) (.finite t b) =
      finitePower s a t b := by
  rw [isZero_iff_eq, or_assoc] at hNot
  unfold libraryPower
  rw [if_neg hNot]

/- There is no power of zero to less than zero. -/
theorem libraryPower_zero_below
    (hZero : IsZero (.finite s a))
    (hBelow : IsBelowZero (.finite t b)) :
    libraryPower (.finite s a) (.finite t b) =
      .error .undefined := by
  have hNot := hZero.not_one
    fun hy : IsZero (.finite t b) => hy.not_isBelowZero hBelow
  rw [isZero_finite] at hZero
  rw [isBelowZero_finite] at hBelow
  rw [libraryPower_finite hNot, finitePower, if_pos hZero,
    if_pos hBelow.1]

/- A power of zero to more than zero is zero. -/
theorem libraryPower_zero_above
    (hZero : IsZero (.finite s a))
    (hAbove : IsAboveZero (.finite t b)) :
    libraryPower (.finite s a) (.finite t b) =
      .ok (zero (s && isOddWhole (.finite t b))) := by
  have hNot := hZero.not_one
    fun hy : IsZero (.finite t b) => hy.not_isAboveZero hAbove
  rw [isZero_finite] at hZero
  rw [isAboveZero_finite] at hAbove
  have ht : ¬ t = true := by
    rw [hAbove.1]
    exact Bool.false_ne_true
  rw [libraryPower_finite hNot, finitePower, if_pos hZero,
    if_neg ht]

/- There is no power of less than zero to a fraction. -/
theorem libraryPower_fraction
    (hBelow : IsBelowZero (.finite s a))
    (hFraction : ¬ IsWhole (.finite t b)) :
    libraryPower (.finite s a) (.finite t b) =
      .error .undefined := by
  have hNot :
      ¬ (IsZero (.finite t b) ∨ finite s a = .one) := by
    rintro (hZero | hBase)
    · exact hFraction hZero.isWhole
    · rw [hBase] at hBelow
      exact not_isBelowZero_one hBelow
  rw [isBelowZero_finite] at hBelow
  rw [isWhole_finite] at hFraction
  have hGuard : (s && !decide b.IsWhole) = true := by
    simpa using ⟨hBelow.1, hFraction⟩
  rw [libraryPower_finite hNot, finitePower,
    if_neg hBelow.2, if_pos hGuard]

/-
  Any other power of finite numbers is too large or has the
  sign of its base, where the exponent is odd.
-/
theorem libraryPower_ordinary
    (hNonzero : ¬ IsZero (.finite s a))
    (hNot : ¬ (IsZero (.finite t b) ∨ finite s a = .one))
    (hWhole :
      ¬ (IsBelowZero (.finite s a) ∧
        ¬ IsWhole (.finite t b))) :
    libraryPower (.finite s a) (.finite t b) =
        .error .overflow ∨
      ∃ m,
        libraryPower (.finite s a) (.finite t b) =
          .ok
            (.finite (s && isOddWhole (.finite t b)) m) := by
  rw [isZero_finite] at hNonzero
  rw [isBelowZero_finite, isWhole_finite,
    and_iff_left hNonzero] at hWhole
  have hGuard : ¬ (s && !decide b.IsWhole) = true := by
    simpa using hWhole
  rw [libraryPower_finite hNot, finitePower,
    if_neg hNonzero, if_neg hGuard]
  split
  · exact Or.inr ⟨_, rfl⟩
  · exact Or.inl rfl

/- The sign of a finite number is that of the base. -/
theorem hasSignBit_finite_and (m : Magnitude) :
    HasSignBit
        (.finite (s && isOddWhole (.finite t b)) m) ↔
      HasSignBit (.finite s a) ∧ IsOdd (.finite t b) := by
  rw [hasSignBit_finite, hasSignBit_finite, isOdd_iff,
    Bool.and_eq_true]

end Finite

------------------------------------------------------------
-- The Power of the Library
------------------------------------------------------------

/- What is documented holds of the power of the library. -/
theorem libraryPower_isDocumented :
    IsDocumented libraryPower := by
  constructor
  case notFinite =>
      exact fun x y => exists_libraryPower_of_not_finite
  case one => exact fun x y _ _ => libraryPower_one
  case zeroBelow =>
      intro x y hx hy hBelow
      rcases hx.1.exists_eq with ⟨s, a, rfl⟩
      rcases hy.exists_eq with ⟨t, b, rfl⟩
      exact libraryPower_zero_below hx hBelow
  case zeroAbove =>
      intro x y hx hy hAbove
      rcases hx.1.exists_eq with ⟨s, a, rfl⟩
      rcases hy.exists_eq with ⟨t, b, rfl⟩
      exact ⟨_, libraryPower_zero_above hx hAbove,
        isZero_zero _, hasSignBit_finite_and _⟩
  case fraction =>
      intro x y hx hBelow hy hFraction
      rcases hx.exists_eq with ⟨s, a, rfl⟩
      rcases hy.exists_eq with ⟨t, b, rfl⟩
      exact libraryPower_fraction hBelow hFraction
  case ordinary =>
      intro x y hx hNonzero hy hExponent hWhole
      -- One is ordinary too, and has no sign to pass on.
      by_cases hOne : x = .one
      · refine Or.inr ⟨.one, libraryPower_one (Or.inr hOne),
          trivial, ?_⟩
        rw [hOne]
        exact iff_of_false not_hasSignBit_one
          fun h => not_hasSignBit_one h.1
      · rcases hx.exists_eq with ⟨s, a, rfl⟩
        rcases hy.exists_eq with ⟨t, b, rfl⟩
        have hPower := libraryPower_ordinary hNonzero
          (not_or.mpr ⟨hExponent, hOne⟩) hWhole
        apply hPower.imp_right
        rintro ⟨m, hm⟩
        exact ⟨_, hm, trivial, hasSignBit_finite_and m⟩

------------------------------------------------------------
-- The Power of All Numbers
------------------------------------------------------------

/-
  The power of two numbers is in the table, and so is every
  power that is made out of a documented one. It is the
  documented one, where there is such, and infinite where
  that is too large.
-/
theorem power_follows_table (x y : Double) :
    IsPower x y (power x y) ∧
      ∀ primitive,
        IsDocumented primitive →
          IsPower x y (powerBy primitive x y) ∧
            (∀ z,
              primitive x y = .ok z →
                powerBy primitive x y = z) ∧
            (primitive x y = .error .overflow →
              (powerBy primitive x y).IsInfinite) := by
  constructor
  · exact libraryPower_isDocumented.isPower_powerBy x y
  · intro primitive hDocumented
    refine ⟨hDocumented.isPower_powerBy x y,
      fun z => powerBy_of_ok, fun hPower => ?_⟩
    rw [powerBy_of_overflow hPower]
    exact isInfinite_infinite _

/-
  Zero with a sign gives an infinity with a sign, so that an
  exponent of 53 binary digits less than zero is found odd.
-/
theorem power_follows_table_negative_zero :
    powerBy libraryPower (ofBits 0x8000000000000000)
          (ofBits 0xc33fffffffffffff) =
        .infinite true ∧
      (ofBits 0x8000000000000000).HasSignBit ∧
      (ofBits 0xc33fffffffffffff).IsOdd := by
  have hPower :
      powerBy libraryPower (ofBits 0x8000000000000000)
          (ofBits 0xc33fffffffffffff) =
        .infinite true := by
    decide +kernel
  have hTable := (power_follows_table
    (ofBits 0x8000000000000000)
    (ofBits 0xc33fffffffffffff)).2 libraryPower
      libraryPower_isDocumented
  rw [hPower] at hTable
  have hSign := hTable.1.sign nofun
  rw [hasSignBit_infinite] at hSign
  exact ⟨hPower, hSign.mp rfl⟩

end Calculator.Double
