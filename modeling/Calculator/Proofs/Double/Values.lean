import Calculator.Proofs.Double.Nearest

/-
  This file defines the values of floating point numbers as
  rationals with a sign, and shows which of the 64 bits of a
  number is its sign.

  Key definitions include:
    * `signed`
    * `Double.IsFinite`
    * `Double.IsInfinite`
    * `Double.value`
    * `Double.IsZero`
    * `Double.HasSignBit`
    * `Double.IsBelowZero`
    * `Double.IsAboveZero`
-/

namespace Calculator

-- Powers of natural numbers are those of the core library.
attribute [local
instance 20000] instPowNat

------------------------------------------------------------
-- Signs
------------------------------------------------------------

/- A value with a sign. -/
def signed (negative : Bool) (v : ℚ) : ℚ :=
  if negative then -v else v

/- A sign does not change the absolute value. -/
theorem abs_signed
    {v : ℚ}
    (hv : 0 ≤ v)
    (negative : Bool) :
    |signed negative v| = v := by
  cases negative
  · exact abs_of_nonneg hv
  · rw [signed, if_pos rfl, abs_neg, abs_of_nonneg hv]

/- Only zero is zero with a sign. -/
theorem signed_eq_zero_iff
    {v : ℚ}
    {negative : Bool} :
    signed negative v = 0 ↔ v = 0 := by
  cases negative
  · exact Iff.rfl
  · exact neg_eq_zero

/- A value is less than zero with a sign only. -/
theorem signed_neg_iff
    {v : ℚ}
    (hv : 0 ≤ v)
    {negative : Bool} :
    signed negative v < 0 ↔ negative = true ∧ v ≠ 0 := by
  cases negative
  · simpa [signed] using hv
  · simpa [signed] using hv.lt_iff_ne'

/- A value is more than zero without a sign only. -/
theorem signed_pos_iff
    {v : ℚ}
    (hv : 0 ≤ v)
    {negative : Bool} :
    0 < signed negative v ↔ negative = false ∧ v ≠ 0 := by
  cases negative
  · simpa [signed] using hv.lt_iff_ne'
  · simpa [signed] using hv

/- The sign of a quotient is that of its terms. -/
theorem signed_div_signed
    (s t : Bool)
    (v w : ℚ) :
    signed s v / signed t w = signed (s ^^ t) (v / w) := by
  cases s <;> cases t <;>
    simp [signed, neg_div, div_neg]

/- The sign of a product is that of its factors. -/
theorem signed_mul_signed
    (s t : Bool)
    (v w : ℚ) :
    signed (s ^^ t) v * signed t w = signed s (v * w) := by
  cases s <;> cases t <;> simp [signed]

/- A difference of values with one sign has that sign. -/
theorem signed_sub
    (s : Bool)
    (v w : ℚ) :
    signed s (v - w) = signed s v - signed s w := by
  cases s
  · rfl
  · exact neg_sub' v w

namespace Magnitude

/- The value of a magnitude is not negative. -/
theorem value_nonneg (m : Magnitude) : 0 ≤ m.value := by
  unfold value
  positivity

/- The value of a magnitude is zero if it has no units. -/
theorem value_eq_zero_iff {m : Magnitude} :
    m.value = 0 ↔ m.units = 0 := by
  rw [value, div_eq_zero_iff,
    or_iff_left cast_unitsPerOne_pos.ne', Nat.cast_eq_zero]

/- The fields of a magnitude are below the largest ones. -/
theorem toBits_lt (m : Magnitude) :
    m.toBits < Double.topExponent * 2 ^ (52 : Nat) := by
  have hDigits := div_two_pow_gridExponent_lt m.units
  have hGrid : gridExponent m.units ≤ 2045 := by
    have hFits := m.representable.1
    have hSum : 2098 = 2045 + 53 := rfl
    rw [overflowUnits, hSum] at hFits
    exact gridExponent_le hFits
  rw [toBits, Double.topExponent]
  omega

end Magnitude

------------------------------------------------------------
-- Numbers
------------------------------------------------------------

namespace Double

/- The numbers that are neither infinite nor not a number. -/
def IsFinite : Double → Prop
| .finite _ _ => True
| _ => False

/- The infinities. -/
def IsInfinite : Double → Prop
| .infinite _ => True
| _ => False

@[simp]
theorem isFinite_finite
    (s : Bool)
    (m : Magnitude) :
    IsFinite (.finite s m) :=
  trivial

@[simp]
theorem not_isFinite_infinite (s : Bool) :
    ¬ IsFinite (.infinite s) :=
  id

@[simp]
theorem not_isFinite_nan : ¬ IsFinite .nan :=
  id

@[simp]
theorem isInfinite_infinite (s : Bool) :
    IsInfinite (.infinite s) :=
  trivial

@[simp]
theorem not_isInfinite_finite
    (s : Bool)
    (m : Magnitude) :
    ¬ IsInfinite (.finite s m) :=
  id

@[simp]
theorem not_isInfinite_nan : ¬ IsInfinite .nan :=
  id

/- A finite number has a sign and a magnitude. -/
theorem IsFinite.exists_eq
    {x : Double}
    (hx : x.IsFinite) :
    ∃ s m, x = .finite s m := by
  cases x with
  | finite s m => exact ⟨s, m, rfl⟩
  | infinite s => exact hx.elim
  | nan => exact hx.elim

/- No finite number is infinite. -/
theorem IsFinite.not_isInfinite
    {x : Double}
    (hx : x.IsFinite) :
    ¬ x.IsInfinite := by
  rcases hx.exists_eq with ⟨s, m, rfl⟩
  exact not_isInfinite_finite s m

/- The value of a finite number. -/
def value : Double → ℚ
| .finite s m => signed s m.value
| _ => 0

/- The zeros. -/
def IsZero (x : Double) : Prop :=
  x.IsFinite ∧ x.value = 0

/- The first of the 64 bits of a number is set. -/
def HasSignBit (x : Double) : Prop :=
  2 ^ (63 : Nat) ≤ x.toBits.toNat

/- A finite number is a zero if it has no units. -/
@[simp]
theorem isZero_finite
    (s : Bool)
    (m : Magnitude) :
    IsZero (.finite s m) ↔ m.units = 0 := by
  rw [IsZero, and_iff_right (isFinite_finite s m), value,
    signed_eq_zero_iff, Magnitude.value_eq_zero_iff]

@[simp]
theorem not_isZero_infinite (s : Bool) :
    ¬ IsZero (.infinite s) :=
  And.left

@[simp]
theorem not_isZero_nan : ¬ IsZero .nan :=
  And.left

/- A number is a zero if it is found to be one. -/
theorem isZero_iff (x : Double) :
    x.IsZero ↔ x.isZero = true := by
  cases x with
  | nan => simp [isZero]
  | infinite s => simp [isZero]
  | finite s m => simp [isZero]

/- The first bit beside the others. -/
theorem le_toNat_ofNat_signBit
    (negative : Bool)
    {fields : Nat}
    (hFields : fields < 2 ^ (63 : Nat)) :
    2 ^ (63 : Nat) ≤
        (UInt64.ofNat (signBit negative + fields)).toNat ↔
      negative = true := by
  rw [UInt64.toNat_ofNat']
  cases negative
  · refine iff_of_false ?_ Bool.false_ne_true
    simp only [signBit, Bool.false_eq_true, if_false]
    omega
  · refine iff_of_true ?_ rfl
    simp only [signBit, if_true]
    omega

/- The first bit of a number is its sign. -/
theorem hasSignBit_iff (x : Double) :
    x.HasSignBit ↔ x.isNegative = true := by
  unfold HasSignBit
  cases x with
  | nan =>
      have hFields :
          topExponent * 2 ^ (52 : Nat) + 2 ^ (51 : Nat) <
            2 ^ (63 : Nat) := by
        decide
      exact le_toNat_ofNat_signBit false hFields
  | infinite s =>
      exact le_toNat_ofNat_signBit s (by decide)
  | finite s m =>
      have hFields := m.toBits_lt
      have hTop :
          topExponent * 2 ^ (52 : Nat) ≤ 2 ^ (63 : Nat) := by
        decide
      exact le_toNat_ofNat_signBit s
        (Nat.lt_of_lt_of_le hFields hTop)

@[simp]
theorem hasSignBit_finite
    (s : Bool)
    (m : Magnitude) :
    HasSignBit (.finite s m) ↔ s = true :=
  hasSignBit_iff _

@[simp]
theorem hasSignBit_infinite (s : Bool) :
    HasSignBit (.infinite s) ↔ s = true :=
  hasSignBit_iff _

@[simp]
theorem not_hasSignBit_nan : ¬ HasSignBit .nan := by
  rw [hasSignBit_iff]
  exact Bool.false_ne_true

/- The highest bit of a number is added where it is not. -/
theorem xor_two_pow
    {n k : Nat}
    (hLess : n < 2 ^ k) :
    n ^^^ 2 ^ k = 2 ^ k + n := by
  have hSum := Nat.div_add_mod (n ^^^ 2 ^ k) (2 ^ k)
  rw [Nat.xor_div_two_pow, Nat.xor_mod_two_pow,
    Nat.div_self (Nat.two_pow_pos k), Nat.mod_self,
    Nat.xor_zero, Nat.mod_eq_of_lt hLess,
    Nat.div_eq_of_lt hLess, Nat.zero_xor, Nat.mul_one]
    at hSum
  exact hSum.symm

/- The other sign is the other first bit. -/
theorem signBit_not_add
    (s : Bool)
    {fields : Nat}
    (hFields : fields < 2 ^ (63 : Nat)) :
    signBit (!s) + fields =
      (signBit s + fields) ^^^ 2 ^ (63 : Nat) := by
  have hNegated := xor_two_pow hFields
  cases s with
  | false =>
      rw [signBit, signBit, if_neg Bool.false_ne_true,
        Nat.zero_add, hNegated]
      rfl
  | true =>
      rw [signBit, signBit, if_pos rfl, ← hNegated,
        Nat.xor_assoc, Nat.xor_self, Nat.xor_zero]
      exact Nat.zero_add _

/- So the bits of fields with the other sign. -/
theorem ofNat_signBit_not_add
    (s : Bool)
    {fields : Nat}
    (hFields : fields < 2 ^ (63 : Nat)) :
    UInt64.ofNat (signBit (!s) + fields) =
      UInt64.ofNat (signBit s + fields) ^^^
        0x8000000000000000 := by
  rw [signBit_not_add s hFields, UInt64.ofNat_xor]
  rfl

/-
  A number that is negated has the other first bit, and all
  other bits stay as they are.
-/
theorem toBits_neg
    {x : Double}
    (hx : x ≠ .nan) :
    x.neg.toBits = x.toBits ^^^ 0x8000000000000000 := by
  have hTop :
      topExponent * 2 ^ (52 : Nat) < 2 ^ (63 : Nat) := by
    decide
  cases x with
  | nan => exact absurd rfl hx
  | infinite s => exact ofNat_signBit_not_add s hTop
  | finite s m =>
      exact ofNat_signBit_not_add s
        (Nat.lt_trans m.toBits_lt hTop)

/- Only what is not a number is not a number negated. -/
theorem neg_eq_nan_iff (x : Double) :
    x.neg = .nan ↔ x = .nan := by
  cases x <;> simp [neg]

------------------------------------------------------------
-- Comparisons
------------------------------------------------------------

/- The numbers less than zero. -/
def IsBelowZero (x : Double) : Prop :=
  x = .infinite true ∨ x.IsFinite ∧ x.value < 0

/- The numbers more than zero. -/
def IsAboveZero (x : Double) : Prop :=
  x = .infinite false ∨ x.IsFinite ∧ 0 < x.value

@[simp]
theorem isBelowZero_finite
    (s : Bool)
    (m : Magnitude) :
    IsBelowZero (.finite s m) ↔
      s = true ∧ m.units ≠ 0 := by
  simp [IsBelowZero, value, signed_neg_iff m.value_nonneg,
    Magnitude.value_eq_zero_iff]

@[simp]
theorem isBelowZero_infinite (s : Bool) :
    IsBelowZero (.infinite s) ↔ s = true := by
  simp [IsBelowZero]

@[simp]
theorem not_isBelowZero_nan : ¬ IsBelowZero .nan := by
  simp [IsBelowZero]

@[simp]
theorem isAboveZero_finite
    (s : Bool)
    (m : Magnitude) :
    IsAboveZero (.finite s m) ↔
      s = false ∧ m.units ≠ 0 := by
  simp [IsAboveZero, value, signed_pos_iff m.value_nonneg,
    Magnitude.value_eq_zero_iff]

@[simp]
theorem isAboveZero_infinite (s : Bool) :
    IsAboveZero (.infinite s) ↔ s = false := by
  simp [IsAboveZero]

@[simp]
theorem not_isAboveZero_nan : ¬ IsAboveZero .nan := by
  simp [IsAboveZero]

/- A number is less than zero if it is found to be. -/
theorem isBelowZero_iff (x : Double) :
    x.IsBelowZero ↔ x.isBelowZero = true := by
  cases x with
  | nan => simp [isBelowZero, isNegative]
  | infinite s => simp [isBelowZero, isNegative, isZero]
  | finite s m => simp [isBelowZero, isNegative, isZero]

/- No number is both less and more than zero. -/
theorem IsBelowZero.not_isAboveZero
    {x : Double}
    (hx : x.IsBelowZero) :
    ¬ x.IsAboveZero := by
  cases x <;> simp_all

end Double

end Calculator
