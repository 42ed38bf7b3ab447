import Mathlib.Data.Rat.Floor
import Calculator.Expr.Evaluation
import Calculator.Proofs.Double.Remainder
import Calculator.Proofs.Double.Wholes

/-
  This file shows that quotients are rounded once, to the
  nearest number, that they have the sign of their terms, and
  that a quotient is rounded down to exactly the greatest
  whole number that is at most the quotient.

  Key definitions include:
    * `Double.withoutSign`
    * `Double.IsQuotient`
    * `Double.IsRoundedDown`
-/

namespace Calculator.Double

variable {x y z : Double}

------------------------------------------------------------
-- Quotients
------------------------------------------------------------

/- A number without its sign. -/
def withoutSign : Double → Double
| .nan => .nan
| .infinite _ => .infinite false
| .finite _ m => .finite false m

/-
  A number is the quotient of two numbers. It is not a number
  if one of the two is not, both are zeros or both are
  infinite. Else it is infinite by a zero or of an infinity,
  zero by an infinity, and otherwise the number nearest to
  the quotient of the values. It has a sign if exactly one of
  the two has.
-/
structure IsQuotient (x y z : Double) : Prop where
  nan :
    z = .nan ↔
      x = .nan ∨
        y = .nan ∨
        (x.IsZero ∧ y.IsZero) ∨
        (x.IsInfinite ∧ y.IsInfinite)
  zeroDivisor : y.IsZero → z ≠ .nan → z.IsInfinite
  infiniteDividend :
    x.IsInfinite → z ≠ .nan → z.IsInfinite
  infiniteDivisor : x.IsFinite → y.IsInfinite → z.IsZero
  nearest :
    x.IsFinite →
      y.IsFinite →
        ¬ y.IsZero →
          IsNearest |x.value / y.value| z.withoutSign
  sign :
    z ≠ .nan →
      (z.HasSignBit ↔ Xor x.HasSignBit y.HasSignBit)

/- The first bits of two numbers make that of a quotient. -/
theorem xor_eq_true_iff (s t : Bool) :
    (s ^^ t) = true ↔ Xor (s = true) (t = true) := by
  cases s <;> cases t <;> simp [Xor]

/- What has no quotient is not a number. -/
theorem isQuotient_nan
    (hNone :
      x = .nan ∨
        y = .nan ∨
        (x.IsZero ∧ y.IsZero) ∨
        (x.IsInfinite ∧ y.IsInfinite)) :
    IsQuotient x y .nan := by
  constructor
  case nan => exact iff_of_true rfl hNone
  case zeroDivisor => exact fun _ h => absurd rfl h
  case infiniteDividend => exact fun _ h => absurd rfl h
  case infiniteDivisor =>
      intro hx hy
      rcases hNone with rfl | rfl | ⟨_, hZero⟩ | ⟨hInfinite, _⟩
      · exact hx.elim
      · exact hy.elim
      · exact absurd hy hZero.1.not_isInfinite
      · exact absurd hInfinite hx.not_isInfinite
  case nearest =>
      intro hx hy hNot
      rcases hNone with rfl | rfl | ⟨_, hZero⟩ | ⟨hInfinite, _⟩
      · exact hx.elim
      · exact hy.elim
      · exact absurd hZero hNot
      · exact absurd hInfinite hx.not_isInfinite
  case sign => exact absurd rfl

/- The quotient of a finite number by an infinity is zero. -/
theorem isQuotient_zero
    (s t : Bool)
    (a : Magnitude) :
    IsQuotient (.finite s a) (.infinite t)
      (zero (s ^^ t)) := by
  constructor
  case nan => simp [zero]
  case zeroDivisor => simp
  case infiniteDividend => simp
  case infiniteDivisor =>
      exact fun _ _ => (isZero_finite _ _).mpr rfl
  case nearest => exact fun _ hy => hy.elim
  case sign =>
      intro _
      rw [zero, hasSignBit_finite, hasSignBit_finite,
        hasSignBit_infinite, xor_eq_true_iff]

/-
  The quotient by a zero or of an infinity is infinite, where
  it is a number.
-/
theorem isQuotient_infinite
    (hNaN : x ≠ .nan ∧ y ≠ .nan)
    (hInfinite : x.IsInfinite ∨ y.IsZero)
    (hZeros : ¬ (x.IsZero ∧ y.IsZero))
    (hInfinities : ¬ (x.IsInfinite ∧ y.IsInfinite)) :
    IsQuotient x y
      (.infinite (x.isNegative ^^ y.isNegative)) := by
  constructor
  case nan => simp [hNaN, hZeros, hInfinities]
  case zeroDivisor => exact fun _ _ => trivial
  case infiniteDividend => exact fun _ _ => trivial
  case infiniteDivisor =>
      intro hx hy
      rcases hInfinite with hDividend | hZero
      · exact absurd hDividend hx.not_isInfinite
      · exact absurd hy hZero.1.not_isInfinite
  case nearest =>
      intro hx _ hNot
      rcases hInfinite with hDividend | hZero
      · exact absurd hDividend hx.not_isInfinite
      · exact absurd hZero hNot
  case sign =>
      intro _
      rw [hasSignBit_infinite, hasSignBit_iff,
        hasSignBit_iff, xor_eq_true_iff]

/-
  Of finite numbers, a quotient by a number that is not zero
  is the nearest number with the sign of the two.
-/
theorem isQuotient_of_isFinite
    (hx : x.IsFinite)
    (hy : y.IsFinite)
    (hNot : ¬ y.IsZero)
    (hNaN : z ≠ .nan)
    (hNearest :
      IsNearest |x.value / y.value| z.withoutSign)
    (hSign :
      z.HasSignBit ↔ Xor x.HasSignBit y.HasSignBit) :
    IsQuotient x y z := by
  constructor
  case nan =>
      refine iff_of_false hNaN ?_
      rintro (rfl | rfl | ⟨_, hZero⟩ | ⟨hInfinite, _⟩)
      · exact hx.elim
      · exact hy.elim
      · exact hNot hZero
      · exact hx.not_isInfinite hInfinite
  case zeroDivisor => exact fun h _ => absurd h hNot
  case infiniteDividend =>
      exact fun h _ => absurd h hx.not_isInfinite
  case infiniteDivisor =>
      exact fun _ h => absurd h hy.not_isInfinite
  case nearest => exact fun _ _ _ => hNearest
  case sign => exact fun _ => hSign

------------------------------------------------------------
-- Rounded Quotients
------------------------------------------------------------

/- Without its sign, a rounded quotient is as if it had none. -/
theorem withoutSign_ofRatio
    (negative : Bool)
    (num den : Nat) :
    (ofRatio negative num den).withoutSign =
      ofRatio false num den := by
  unfold ofRatio
  split
  · rfl
  · rfl

/- A rounded quotient is a number with the sign it is given. -/
theorem ofRatio_cases
    (negative : Bool)
    (num den : Nat) :
    (∃ m, ofRatio negative num den = .finite negative m) ∨
      ofRatio negative num den = .infinite negative := by
  unfold ofRatio
  split
  · exact Or.inl ⟨_, rfl⟩
  · exact Or.inr rfl

/- The first bit of a rounded quotient is the sign. -/
theorem hasSignBit_ofRatio
    (negative : Bool)
    (num den : Nat) :
    HasSignBit (ofRatio negative num den) ↔
      negative = true := by
  rcases ofRatio_cases negative num den with
    ⟨m, hFinite⟩ | hInfinite
  · rw [hFinite, hasSignBit_finite]
  · rw [hInfinite, hasSignBit_infinite]

/- A rounded quotient of units is nearest to that of values. -/
theorem isNearest_div_value
    (a b : Magnitude)
    (hPos : 0 < b.units) :
    IsNearest (a.value / b.value)
      (ofRatio false (a.units * unitsPerOne) b.units) := by
  have hUnits :
      ((a.units * unitsPerOne : Nat) : ℚ) / b.units /
          unitsPerOne =
        a.value / b.value := by
    rw [a.value_div_value b, Nat.cast_mul, div_right_comm,
      mul_div_cancel_right₀ _ cast_unitsPerOne_pos.ne']
  have hNearest := isNearest_ofRatio hPos
    (a.units * unitsPerOne)
  rwa [hUnits] at hNearest

/- The quotient of finite numbers is rounded once. -/
theorem isQuotient_ofRatio
    (s t : Bool)
    (a b : Magnitude)
    (hPos : 0 < b.units) :
    IsQuotient (.finite s a) (.finite t b)
      (ofRatio (s ^^ t) (a.units * unitsPerOne)
        b.units) := by
  refine isQuotient_of_isFinite trivial trivial ?_ ?_ ?_ ?_
  · rw [isZero_finite]
    exact hPos.ne'
  · rcases ofRatio_cases (s ^^ t) (a.units * unitsPerOne)
        b.units with ⟨m, hFinite⟩ | hInfinite
    · simp [hFinite]
    · simp [hInfinite]
  · have hNonneg : 0 ≤ a.value / b.value :=
      div_nonneg a.value_nonneg b.value_nonneg
    rw [withoutSign_ofRatio, value, value,
      signed_div_signed, abs_signed hNonneg]
    exact isNearest_div_value a b hPos
  · rw [hasSignBit_ofRatio, hasSignBit_finite,
      hasSignBit_finite, xor_eq_true_iff]

------------------------------------------------------------
-- The Quotient of All Numbers
------------------------------------------------------------

/- What is found to be the quotient is the quotient. -/
theorem div_eq_of_some (hSome : div? x y = some z) :
    div x y = z :=
  Option.get_of_eq_some _ hSome

/- The division is made where the divisor is not zero. -/
theorem div?_of_not_isZero (hy : ¬ y.IsZero) :
    div? x y = quotient? x y := by
  rw [isZero_iff, Bool.not_eq_true] at hy
  rw [div?, hy, Bool.not_false, if_pos rfl]

/- Else zero and what is not a number have no quotient. -/
theorem div_zero_of_none
    (hy : y.IsZero)
    (hNone : x.IsZero ∨ x = .nan) :
    div x y = .nan := by
  rw [isZero_iff] at hy hNone
  apply div_eq_of_some
  simp only [div?, hy, Bool.not_true, Bool.false_eq_true,
    if_false, hNone, if_true]

/- Any other quotient by zero is infinite. -/
theorem div_zero_of_some
    (hy : y.IsZero)
    (hx : ¬ (x.IsZero ∨ x = .nan)) :
    div x y =
      .infinite (x.isNegative ^^ y.isNegative) := by
  rw [isZero_iff] at hy hx
  have hOne : Magnitude.one.units ≠ 0 := by
    rw [Magnitude.units_one]
    exact unitsPerOne_pos.ne'
  apply div_eq_of_some
  simp only [div?, hy, Bool.not_true, Bool.false_eq_true,
    if_false, hx, mul, hOne]

/- The quotient by a zero is a quotient. -/
theorem isQuotient_div_zero (hy : y.IsZero) :
    IsQuotient x y (div x y) := by
  by_cases hx : x.IsZero ∨ x = .nan
  · rw [div_zero_of_none hy hx]
    apply isQuotient_nan
    rcases hx with hZero | hNaN
    · exact Or.inr (Or.inr (Or.inl ⟨hZero, hy⟩))
    · exact Or.inl hNaN
  · rw [div_zero_of_some hy hx]
    rw [not_or] at hx
    have hNaN : y ≠ .nan := by
      rintro rfl
      exact hy.1
    exact isQuotient_infinite ⟨hx.2, hNaN⟩ (Or.inr hy)
      (fun h => hx.1 h.1) fun h => hy.1.not_isInfinite h.2

/- So is the quotient by any other number. -/
theorem isQuotient_div_nonzero (hy : ¬ y.IsZero) :
    IsQuotient x y (div x y) := by
  have hDiv : ∀ {z}, quotient? x y = some z → div x y = z :=
    fun hSome =>
      div_eq_of_some ((div?_of_not_isZero hy).trans hSome)
  have hDivisor : ¬ y.isZero = true := by
    rwa [← isZero_iff]
  unfold quotient? at hDiv
  rw [if_neg hDivisor] at hDiv
  cases x with
  | nan =>
      rw [hDiv rfl]
      exact isQuotient_nan (Or.inl rfl)
  | infinite s =>
      cases y with
      | nan =>
          rw [hDiv rfl]
          exact isQuotient_nan (Or.inr (Or.inl rfl))
      | infinite t =>
          rw [hDiv rfl]
          exact isQuotient_nan (by simp)
      | finite t b =>
          rw [hDiv rfl]
          exact isQuotient_infinite ⟨nofun, nofun⟩
            (Or.inl trivial) (by simp) (by simp)
  | finite s a =>
      cases y with
      | nan =>
          rw [hDiv rfl]
          exact isQuotient_nan (Or.inr (Or.inl rfl))
      | infinite t =>
          rw [hDiv rfl]
          exact isQuotient_zero s t a
      | finite t b =>
          rw [isZero_finite] at hy
          rw [hDiv rfl]
          exact isQuotient_ofRatio s t a b
            (Nat.pos_of_ne_zero hy)

/- The quotient of two numbers is a quotient. -/
theorem isQuotient_div (x y : Double) :
    IsQuotient x y (div x y) := by
  by_cases hy : y.IsZero
  · exact isQuotient_div_zero hy
  · exact isQuotient_div_nonzero hy

------------------------------------------------------------
-- Rounding Down
------------------------------------------------------------

/-
  A number is rounded down to another one. It stays as it is
  if it is a zero or not finite. Else it becomes exactly the
  greatest whole number that it is not less than, and zero
  without a sign if it is between zero and one.
-/
structure IsRoundedDown (x z : Double) : Prop where
  unchanged : x = .nan ∨ x.IsInfinite ∨ x.IsZero → z = x
  exact :
    x.IsFinite →
      ¬ x.IsZero → z.IsFinite ∧ z.value = ⌊x.value⌋
  small :
    x.IsFinite →
      0 < x.value → x.value < 1 → z = zero false

/- A whole number is its size with its sign. -/
theorem signed_natAbs (n : ℤ) :
    signed (decide (n < 0)) n.natAbs = n := by
  rw [Nat.cast_natAbs]
  by_cases hn : n < 0
  · rw [decide_eq_true hn, signed, if_pos rfl, abs_of_neg hn,
      Int.cast_neg, neg_neg]
  · rw [decide_eq_false hn, signed,
      if_neg Bool.false_ne_true, abs_of_nonneg (by omega)]

/- The value of a finite number is that of its units. -/
theorem value_eq_signedUnits
    (s : Bool)
    (m : Magnitude) :
    value (.finite s m) =
      (signedUnits s m : ℚ) / unitsPerOne := by
  rw [value, Magnitude.value, signed, signedUnits]
  cases s with
  | false =>
      rw [if_neg Bool.false_ne_true,
        if_neg Bool.false_ne_true, Int.cast_natCast]
  | true =>
      rw [if_pos rfl, if_pos rfl, Int.cast_neg,
        Int.cast_natCast, neg_div]

/- The whole number below a number is the floor of its value. -/
theorem floor_value
    {s : Bool}
    {m : Magnitude}
    {n : ℤ}
    (hFloor : floor? (.finite s m) = some n) :
    n = ⌊value (.finite s m)⌋ := by
  rw [value_eq_signedUnits, Rat.floor_intCast_div_natCast]
  rw [floor?, Option.some.injEq] at hFloor
  rw [← hFloor]
  exact Int.fdiv_eq_ediv_of_nonneg _ (Int.natCast_nonneg _)

/- What a number is found to be rounded to, it is. -/
theorem roundDown_eq_of_some
    (hSome : roundDown? x = some z) :
    roundDown x = z :=
  Option.get_of_eq_some _ hSome

/- A zero stays as it is, as does what is not finite. -/
theorem roundDown_unchanged
    (hx : x = .nan ∨ x.IsInfinite ∨ x.IsZero) :
    roundDown x = x := by
  apply roundDown_eq_of_some
  rcases hx with rfl | hInfinite | hZero
  · rfl
  · cases x with
    | nan => rfl
    | infinite s => rfl
    | finite s m => exact hInfinite.elim
  · rw [isZero_iff] at hZero
    rw [roundDown?, hZero, Bool.true_or, if_pos rfl]

/-
  Any other number is rounded down to the floor of its value,
  as a magnitude with the sign of that.
-/
theorem exists_roundDown
    {s : Bool}
    {m : Magnitude}
    (hx : ¬ IsZero (.finite s m)) :
    ∃ m',
      roundDown (.finite s m) =
          .finite (decide (⌊value (.finite s m)⌋ < 0)) m' ∧
        m'.value = ⌊value (.finite s m)⌋.natAbs := by
  rcases exists_floor s m with ⟨n, m', hFloor, hInt, hUnits⟩
  rw [isZero_iff, Bool.not_eq_true] at hx
  have hValue := Magnitude.value_eq_natCast_iff.mpr hUnits
  rw [floor_value hFloor] at hInt hValue
  refine ⟨m', roundDown_eq_of_some ?_, hValue⟩
  rw [roundDown?, hx, isFinite, Bool.not_true, Bool.or_self,
    if_neg Bool.false_ne_true, hFloor, Option.bind_some,
    floor_value hFloor, hInt]

/- A number is rounded down to what it is rounded down to. -/
theorem isRoundedDown_roundDown (x : Double) :
    IsRoundedDown x (roundDown x) := by
  constructor
  case unchanged => exact roundDown_unchanged
  case exact =>
      intro hx hNot
      rcases hx.exists_eq with ⟨s, m, rfl⟩
      rcases exists_roundDown hNot with ⟨m', hDown, hValue⟩
      rw [hDown]
      refine ⟨trivial, ?_⟩
      rw [value, hValue, signed_natAbs]
  case small =>
      intro hx hPos hLess
      rcases hx.exists_eq with ⟨s, m, rfl⟩
      have hNot : ¬ IsZero (.finite s m) :=
        fun hZero => hPos.ne' hZero.2
      rcases exists_roundDown hNot with ⟨m', hDown, hValue⟩
      have hFloor : ⌊value (.finite s m)⌋ = 0 :=
        Int.floor_eq_zero_iff.mpr ⟨hPos.le, hLess⟩
      rw [hFloor] at hDown hValue
      have hm' : m' = Magnitude.zero := by
        apply Magnitude.ext_units
        rw [Int.natAbs_zero, Nat.cast_zero,
          Magnitude.value_eq_zero_iff] at hValue
        exact hValue
      rw [hDown, hm']
      rfl

------------------------------------------------------------
-- Exact Quotients
------------------------------------------------------------

/-
  The two slashes stand for the quotient and for the quotient
  rounded down. There is a quotient of any two numbers: the
  nearest number, with the sign of the two, infinite by a
  zero, and not a number where there is none. It can always
  be rounded down, to exactly the greatest whole number that
  is at most the quotient, unless it stays as it is.
-/
theorem quotient_is_exactly_floored :
    binaryOperation? .slash = some div ∧
      binaryOperation? .doubleSlash = some floorDiv ∧
      ∀ x y,
        div? x y = some (div x y) ∧
          IsQuotient x y (div x y) ∧
          roundDown? (div x y) = some (floorDiv x y) ∧
          IsRoundedDown (div x y) (floorDiv x y) := by
  refine ⟨rfl, rfl, ?_⟩
  intro x y
  refine ⟨?_, isQuotient_div x y, ?_,
    isRoundedDown_roundDown _⟩
  · exact (Option.some_get (isSome_div? x y)).symm
  · exact (Option.some_get (isSome_roundDown? _)).symm

/- The first number below zero is rounded down to minus one. -/
example :
    floorDiv (ofBits 0x8000000000000001) .one =
      .finite true Magnitude.one := by
  decide +kernel

end Calculator.Double
