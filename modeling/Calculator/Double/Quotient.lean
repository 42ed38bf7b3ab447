import Calculator.Double.Arithmetic

/-
  This file defines quotients of floating point numbers. The
  division itself gives none by a zero, so that a divisor of
  zero is told apart before. A quotient is rounded down by
  way of a whole number, which is itself a floating point
  number, however large or small the quotient is.

  Key definitions include:
    * `Double.quotient?`
    * `Double.div?`
    * `Double.div`
    * `Double.floor?`
    * `Double.ofInt?`
    * `Double.roundDown?`
    * `Double.roundDown`
    * `Double.floorDiv`
-/

namespace Calculator

-- Powers of natural numbers are those of the core library.
attribute [local
instance 20000] instPowNat

namespace Double

------------------------------------------------------------
-- Quotients
------------------------------------------------------------

/-
  The quotient, rounded once. Infinity by infinity is not a
  number, and there is no quotient by a zero at all.
-/
def quotient? (x y : Double) : Option Double :=
  if y.isZero then
    none
  else
    match x, y with
    | .nan, _ => some .nan
    | _, .nan => some .nan
    | .infinite _, .infinite _ => some .nan
    | .infinite s, .finite t _ => some (.infinite (s ^^ t))
    | .finite s _, .infinite t => some (zero (s ^^ t))
    | .finite s a, .finite t b =>
        some (ofRatio (s ^^ t) (a.units * unitsPerOne)
          b.units)

/-
  The quotient, also by a zero: an infinity with the sign of
  the dividend, times one with the sign of the divisor. Zero
  by zero is not a number.
-/
def div? (x y : Double) : Option Double :=
  if !y.isZero then
    quotient? x y
  else if x.isZero ∨ x = .nan then
    some .nan
  else
    some (mul (.infinite x.isNegative)
      (.finite y.isNegative Magnitude.one))

/- There is a quotient of any two numbers. -/
theorem isSome_div? (x y : Double) :
    (div? x y).isSome = true := by
  unfold div?
  split
  · rename_i hDivisor
    rw [Bool.not_eq_true', Bool.eq_false_iff] at hDivisor
    unfold quotient?
    rw [if_neg hDivisor]
    split <;> rfl
  · split <;> rfl

/- The quotient. -/
def div (x y : Double) : Double :=
  (div? x y).get (isSome_div? x y)

------------------------------------------------------------
-- Whole Numbers
------------------------------------------------------------

/- Whether a number is finite. -/
def isFinite : Double → Bool
| .finite _ _ => true
| _ => false

/- The greatest whole number that is at most a number. -/
def floor? : Double → Option Int
| .finite s m => some ((signedUnits s m).fdiv unitsPerOne)
| _ => none

/- A number that is finite. -/
def finite? : Double → Option Double
| .finite s m => some (.finite s m)
| _ => none

/- The number nearest to a whole number that fits. -/
def ofInt? (n : Int) : Option Double :=
  finite? (ofInt n)

end Double

------------------------------------------------------------
-- Neighbours That Are Whole
------------------------------------------------------------

/- A power of two is a greater power of two of units. -/
theorem two_pow_mul_unitsPerOne (k : Nat) :
    2 ^ k * unitsPerOne = 2 ^ (k + 1074) := by
  rw [unitsPerOne, Nat.pow_add]

/-
  From 52 binary digits before the point on, a number has
  none behind it.
-/
theorem unitsPerOne_dvd
    {units : Nat}
    (hUnits : Representable units)
    (hLarge : 2 ^ (52 : Nat) * unitsPerOne ≤ units) :
    unitsPerOne ∣ units := by
  have hGrid : 1074 ≤ gridExponent units := by
    have hPos := unitsPerOne_pos
    have hNe : units ≠ 0 := by omega
    rw [two_pow_mul_unitsPerOne] at hLarge
    have hLog := (Nat.le_log2 hNe).mpr hLarge
    unfold gridExponent
    omega
  have hDvd := Nat.pow_dvd_pow 2 hGrid
  rw [← unitsPerOne.eq_1] at hDvd
  exact Nat.dvd_trans hDvd hUnits.2

/- A whole number of units is the only one next to itself. -/
theorem eq_of_next
    {units n : Nat}
    (hWhole : unitsPerOne ∣ units)
    (hBelow : units < n * unitsPerOne + unitsPerOne)
    (hAbove : n * unitsPerOne < units + unitsPerOne) :
    n * unitsPerOne = units := by
  rcases hWhole with ⟨q, hq⟩
  rw [Nat.mul_comm] at hq
  rw [hq, ← Nat.succ_mul] at hBelow hAbove
  have hLow := Nat.lt_of_mul_lt_mul_right hBelow
  have hHigh := Nat.lt_of_mul_lt_mul_right hAbove
  have hSame : n = q := by omega
  rw [hq, hSame]

/-
  The whole numbers next to a number are numbers: it is whole
  itself, or they have few digits.
-/
theorem representable_whole
    {units n : Nat}
    (hUnits : Representable units)
    (hBelow : units < n * unitsPerOne + unitsPerOne)
    (hAbove : n * unitsPerOne < units + unitsPerOne) :
    Representable (n * unitsPerOne) := by
  by_cases hLarge : 2 ^ (52 : Nat) * unitsPerOne ≤ units
  -- There is no whole number next to a large one but itself.
  · have hWhole := unitsPerOne_dvd hUnits hLarge
    rwa [eq_of_next hWhole hBelow hAbove]
  -- Next to a small one, they are on the grid of the ones.
  · have hDigits : n ≤ 2 ^ (52 : Nat) := by
      apply Nat.le_of_lt_succ
      apply Nat.lt_of_mul_lt_mul_right (a := unitsPerOne)
      rw [Nat.succ_mul]
      omega
    have hFits : n * unitsPerOne < overflowUnits := by
      apply Nat.lt_of_le_of_lt
        (Nat.mul_le_mul_right unitsPerOne hDigits)
      rw [two_pow_mul_unitsPerOne]
      exact two_pow_lt_overflowUnits (by decide)
    rw [unitsPerOne] at hFits ⊢
    exact representable_mul_two_pow (by omega) hFits

namespace Double

/-
  A whole number and the next one enclose what is divided, so
  that its size is next to the size of that.
-/
theorem natAbs_next
    {negative : Bool}
    {m : Magnitude}
    {n : Int}
    (hLow : n * unitsPerOne ≤ signedUnits negative m)
    (hHigh :
      signedUnits negative m < (n + 1) * unitsPerOne) :
    m.units < n.natAbs * unitsPerOne + unitsPerOne ∧
      n.natAbs * unitsPerOne < m.units + unitsPerOne := by
  have hPos := unitsPerOne_pos
  generalize unitsPerOne = one at hLow hHigh hPos ⊢
  have hOne : (0 : Int) < one := Int.natCast_pos.mpr hPos
  have hUnits : (0 : Int) ≤ m.units :=
    Int.natCast_nonneg m.units
  rw [Int.add_mul, Int.one_mul] at hHigh
  cases negative with
  | false =>
      simp only [signedUnits, Bool.false_eq_true, if_false]
        at hLow hHigh
      have hNonneg : -1 < n := by
        apply Int.lt_of_mul_lt_mul_right (a := (one : Int))
        · omega
        · omega
      rcases Int.eq_ofNat_of_zero_le hNonneg with ⟨k, rfl⟩
      rw [Int.natAbs_natCast]
      omega
  | true =>
      simp only [signedUnits, if_true] at hLow hHigh
      have hNonpos : n ≤ 0 := by
        apply Int.le_of_mul_le_mul_right (a := (one : Int))
        · omega
        · exact hOne
      rcases Int.exists_eq_neg_ofNat hNonpos with ⟨k, rfl⟩
      rw [Int.natAbs_neg, Int.natAbs_natCast]
      rw [Int.neg_mul] at hLow hHigh
      omega

/- The greatest whole number below a number is a number. -/
theorem representable_floor
    (negative : Bool)
    (m : Magnitude) :
    Representable
      (((signedUnits negative m).fdiv unitsPerOne).natAbs *
        unitsPerOne) := by
  have hOne : (0 : Int) < unitsPerOne :=
    Int.natCast_pos.mpr unitsPerOne_pos
  rw [Int.fdiv_eq_ediv_of_nonneg _ (Int.le_of_lt hOne)]
  rcases natAbs_next
      (Int.ediv_mul_le _ (Int.ne_of_gt hOne))
      (Int.lt_ediv_add_one_mul_self _ hOne) with
    ⟨hBelow, hAbove⟩
  exact representable_whole m.representable hBelow hAbove

/- A whole number that is a number is nearest to itself. -/
theorem exists_ofInt
    {n : Int}
    (hn : Representable (n.natAbs * unitsPerOne)) :
    ∃ m,
      ofInt n = .finite (decide (n < 0)) m ∧
        m.units = n.natAbs * unitsPerOne := by
  have hUnits := roundedUnits_one hn
  refine ⟨⟨_, hn⟩, ?_, rfl⟩
  simp only [ofInt, ofRatio, hUnits, hn.1, dite_true]

/- So is the greatest whole number below a number. -/
theorem exists_floor
    (negative : Bool)
    (m : Magnitude) :
    ∃ n m',
      floor? (.finite negative m) = some n ∧
        ofInt? n = some (.finite (decide (n < 0)) m') ∧
        m'.units = n.natAbs * unitsPerOne := by
  rcases exists_ofInt (representable_floor negative m) with
    ⟨m', hInt, hUnits⟩
  generalize hn : (signedUnits negative m).fdiv unitsPerOne = n
    at hInt hUnits
  refine ⟨n, m', ?_, ?_, hUnits⟩
  · rw [floor?, hn]
  · rw [ofInt?, hInt, finite?]

------------------------------------------------------------
-- Rounding Down
------------------------------------------------------------

/-
  A number rounded down to a whole one. A zero keeps its sign,
  and so does a number that is not finite.
-/
def roundDown? (x : Double) : Option Double :=
  if x.isZero || !x.isFinite then
    some x
  else
    (floor? x).bind ofInt?

/- Every number can be rounded down. -/
theorem isSome_roundDown? (x : Double) :
    (roundDown? x).isSome = true := by
  unfold roundDown?
  split
  · rfl
  · rename_i hOrdinary
    cases x with
    | nan => exact absurd rfl hOrdinary
    | infinite s => exact absurd rfl hOrdinary
    | finite s m =>
        rcases exists_floor s m with ⟨n, m', hFloor, hInt, _⟩
        rw [hFloor, Option.bind_some, hInt, Option.isSome_some]

/- A number rounded down. -/
def roundDown (x : Double) : Double :=
  (roundDown? x).get (isSome_roundDown? x)

/- The quotient rounded down. -/
def floorDiv (x y : Double) : Double :=
  roundDown (div x y)

end Double

end Calculator
