import Calculator.Double.Basic

/-
  This file shows that a finite number has the bits that it
  is read from.
-/

namespace Calculator

-- Powers of natural numbers are those of the core library.
attribute [local
instance 20000] instPowNat

------------------------------------------------------------
-- Fields
------------------------------------------------------------

namespace Magnitude

/- The grid of a number with a full significand. -/
theorem gridExponent_significand
    {significand : Nat}
    (hLow : 2 ^ (52 : Nat) ≤ significand)
    (hHigh : significand < 2 ^ (53 : Nat))
    (k : Nat) :
    gridExponent (significand * 2 ^ k) = k := by
  have hNe : significand ≠ 0 := by omega
  have hLog : significand.log2 = 52 :=
    (Nat.log2_eq_iff hNe).mpr ⟨hLow, hHigh⟩
  rw [gridExponent, log2_mul_two_pow hNe, hLog]
  omega

/- The grid of a number without a full significand. -/
theorem gridExponent_of_lt
    {units : Nat}
    (hLess : units < 2 ^ (52 : Nat)) :
    gridExponent units = 0 := by
  by_cases hZero : units = 0
  · subst hZero
    decide
  · have hLog : units.log2 < 52 :=
      (Nat.log2_lt hZero).mpr hLess
    rw [gridExponent]
    omega

/- A magnitude has the fields that it is made of. -/
theorem toBits_ofFields
    {exponent fraction : Nat}
    (hExponent : exponent < 2047)
    (hFraction : fraction < 2 ^ (52 : Nat)) :
    (ofFields exponent fraction hExponent
        hFraction).toBits =
      exponent * 2 ^ (52 : Nat) + fraction := by
  unfold ofFields
  split
  · rename_i hZero
    rw [toBits, gridExponent_of_lt hFraction, hZero,
      Nat.pow_zero, Nat.div_one]
  · rename_i hPos
    have hLow :
        2 ^ (52 : Nat) ≤ 2 ^ (52 : Nat) + fraction := by
      omega
    have hHigh :
        2 ^ (52 : Nat) + fraction < 2 ^ (53 : Nat) := by
      omega
    have hGrid :=
      gridExponent_significand hLow hHigh (exponent - 1)
    rw [toBits, hGrid,
      Nat.mul_div_cancel _ (Nat.two_pow_pos _)]
    omega

end Magnitude

------------------------------------------------------------
-- Numbers
------------------------------------------------------------

namespace Double

/- The fields of 64 bits make them up. -/
theorem signBit_add_fields
    {n : Nat}
    (hn : n < 2 ^ (64 : Nat)) :
    signBit (decide (2 ^ (63 : Nat) ≤ n)) +
        (n / 2 ^ (52 : Nat) % 2 ^ (11 : Nat) *
            2 ^ (52 : Nat) +
          n % 2 ^ (52 : Nat)) =
      n := by
  unfold signBit
  split
  · rename_i hSign
    have hLe := of_decide_eq_true hSign
    omega
  · rename_i hSign
    have hLt : ¬ 2 ^ (63 : Nat) ≤ n := by
      simpa using hSign
    omega

/- The bits of a finite number. -/
theorem toBits_finite
    (negative : Bool)
    (m : Magnitude) :
    toBits (.finite negative m) =
      UInt64.ofNat (signBit negative + m.toBits) :=
  rfl

/- A finite number has the bits that it is read from. -/
theorem toBits_ofBits
    {bits : UInt64}
    {negative : Bool}
    {m : Magnitude}
    (hFinite : ofBits bits = .finite negative m) :
    (ofBits bits).toBits = bits := by
  by_cases hExponent :
      bits.toNat / 2 ^ (52 : Nat) % 2 ^ (11 : Nat) <
        topExponent
  · have hFields := Magnitude.toBits_ofFields hExponent
      (Nat.mod_lt bits.toNat (Nat.two_pow_pos 52))
    have hSum := signBit_add_fields bits.toNat_lt
    rw [ofBits, dif_pos hExponent, toBits_finite, hFields,
      hSum]
    exact UInt64.ofNat_toNat
  · rw [ofBits, dif_neg hExponent] at hFinite
    by_cases hFraction : bits.toNat % 2 ^ (52 : Nat) = 0
    · rw [if_pos hFraction] at hFinite
      cases hFinite
    · rw [if_neg hFraction] at hFinite
      cases hFinite

end Double

end Calculator
