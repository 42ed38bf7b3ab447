import Calculator.Proofs.Decimal.Digits
import Calculator.Proofs.Decimal.Nearest

/-
  This file shows that a decimal is written as a numeral with
  the same nearest number, whichever notation is chosen.

  Key definitions include:
    * `Decimal.IsWrittenAs`
-/

namespace Calculator

-- Powers of natural numbers are those of the core library.
attribute [local
instance 20000] instPowNat

open Text (isDigit naturalValue AllDigits)

------------------------------------------------------------
-- Runs of Digits
------------------------------------------------------------

/- Digits after digits are digits. -/
theorem Text.AllDigits.append
    {first second : List Char}
    (hFirst : AllDigits first)
    (hSecond : AllDigits second) :
    AllDigits (first ++ second) := by
  intro c hc
  rcases List.mem_append.mp hc with hc | hc
  · exact hFirst c hc
  · exact hSecond c hc

/- The first of some digits are digits. -/
theorem Text.AllDigits.take
    {digits : List Char}
    (hDigits : AllDigits digits)
    (n : Nat) :
    AllDigits (digits.take n) :=
  fun c hc => hDigits c (List.mem_of_mem_take hc)

/- The last of some digits are digits. -/
theorem Text.AllDigits.drop
    {digits : List Char}
    (hDigits : AllDigits digits)
    (n : Nat) :
    AllDigits (digits.drop n) :=
  fun c hc => hDigits c (List.mem_of_mem_drop hc)

namespace Decimal

------------------------------------------------------------
-- Notations
------------------------------------------------------------

/-
  Characters are a numeral that is not whole, with the same
  nearest number as a decimal.
-/
def IsWrittenAs
    (d : Decimal)
    (chars : List Char) : Prop :=
  ∃ n : Numeral,
    n.IsWellFormed ∧
      n.chars = chars ∧
      n.isWhole = false ∧
      n.value.toDouble = d.toDouble

variable {digits : List Char}

/- A point before all digits. -/
theorem isWrittenAs_leading
    (hDigits : AllDigits digits)
    {places : Int}
    (hPlaces : places ≤ 0) :
    IsWrittenAs
      ⟨naturalValue digits, places - digits.length⟩
      ('0' :: '.' :: (zeros (-places).toNat ++ digits)) := by
  refine ⟨⟨['0'], some (zeros (-places).toNat ++ digits),
    none⟩, ?_, ?_, rfl, ?_⟩
  · constructor
    · exact allDigits_zeros 1
    · simp
    · intro fraction hFraction
      cases hFraction
      exact (allDigits_zeros _).append hDigits
    · intro e he
      cases he
  · simp [Numeral.chars, Numeral.fractionChars,
      Numeral.exponentChars]
  · have hValue :
        naturalValue
            (['0'] ++ (zeros (-places).toNat ++ digits)) =
          naturalValue digits := by
      rw [← List.append_assoc]
      exact naturalValue_zeros_append
        ((-places).toNat + 1) digits
    simp only [Numeral.value, Option.getD_some, hValue,
      Option.map_none, Option.getD_none,
      List.length_append, length_zeros]
    congr 2
    omega

/- A point between digits. -/
theorem isWrittenAs_between
    (hDigits : AllDigits digits)
    {places : Int}
    (hPlaces : 0 < places)
    (hLess : places < digits.length) :
    IsWrittenAs
      ⟨naturalValue digits, places - digits.length⟩
      (digits.take places.toNat ++
        '.' :: digits.drop places.toNat) := by
  refine ⟨⟨digits.take places.toNat,
    some (digits.drop places.toNat), none⟩, ?_, ?_, rfl, ?_⟩
  · constructor
    · exact hDigits.take _
    · intro hNil
      have hLength := congrArg List.length hNil
      simp only [List.length_take, List.length_nil]
        at hLength
      omega
    · intro fraction hFraction
      cases hFraction
      exact hDigits.drop _
    · intro e he
      cases he
  · simp [Numeral.chars, Numeral.fractionChars,
      Numeral.exponentChars]
  · simp only [Numeral.value, Option.getD_some,
      List.take_append_drop, Option.map_none,
      Option.getD_none, List.length_drop]
    congr 2
    omega

/- A point after all digits and as many zeros as it takes. -/
theorem isWrittenAs_trailing
    (hDigits : AllDigits digits)
    (hNil : digits ≠ [])
    {places : Int}
    (hPlaces : digits.length ≤ places) :
    IsWrittenAs
      ⟨naturalValue digits, places - digits.length⟩
      (digits ++ zeros (places.toNat - digits.length) ++
        ['.', '0']) := by
  refine ⟨⟨digits ++ zeros (places.toNat - digits.length),
    some ['0'], none⟩, ?_, ?_, rfl, ?_⟩
  · constructor
    · exact hDigits.append (allDigits_zeros _)
    · simp [hNil]
    · intro fraction hFraction
      cases hFraction
      exact allDigits_zeros 1
    · intro e he
      cases he
  · simp [Numeral.chars, Numeral.fractionChars,
      Numeral.exponentChars]
  · have hValue :
        naturalValue
            (digits ++ zeros (places.toNat - digits.length) ++
              ['0']) =
          naturalValue digits *
            10 ^ (places.toNat - digits.length + 1) := by
      rw [List.append_assoc, ← naturalValue_append_zeros]
      congr 2
      exact List.replicate_succ'.symm
    simp only [Numeral.value, Option.getD_some, hValue,
      toDouble_mul_ten_pow, Option.map_none,
      Option.getD_none, List.length_singleton]
    congr 2
    omega

/- The notation without an exponent. -/
theorem isWrittenAs_plainChars
    (hDigits : AllDigits digits)
    (hNil : digits ≠ [])
    (places : Int) :
    IsWrittenAs
      ⟨naturalValue digits, places - digits.length⟩
      (plainChars digits places) := by
  unfold plainChars
  split
  · exact isWrittenAs_leading hDigits ‹_›
  · split
    · exact isWrittenAs_between hDigits (by omega) ‹_›
    · exact isWrittenAs_trailing hDigits hNil (by omega)

/- The exponent that a power of ten is written with. -/
def exponentPart (power : Int) : ExponentPart :=
  { marker := 'e'
    sign := some (if power < 0 then '-' else '+')
    digits :=
      zeros (2 - (naturalChars power.natAbs).length) ++
        naturalChars power.natAbs }

/- An exponent is written as it is read. -/
theorem exponentPart_isWellFormed (power : Int) :
    (exponentPart power).IsWellFormed := by
  constructor
  · rfl
  · intro c hc
    cases hc
    split
    · exact Or.inr rfl
    · exact Or.inl rfl
  · exact (allDigits_zeros _).append
      (allDigits_naturalChars _)
  · simp [exponentPart, naturalChars_ne_nil]

/- An exponent stands for its power of ten. -/
theorem exponentPart_value (power : Int) :
    (exponentPart power).value = power := by
  have hDigits :
      naturalValue (exponentPart power).digits =
        power.natAbs := by
    rw [exponentPart, naturalValue_zeros_append,
      naturalValue_naturalChars]
  rw [ExponentPart.value, hDigits]
  simp only [exponentPart]
  by_cases hPower : power < 0
  · simp only [hPower, if_true]
    omega
  · simp only [hPower, if_false]
    rw [if_neg (by decide)]
    omega

/- The digits after a point behind the first, if any. -/
def pointed (digits : List Char) : Option (List Char) :=
  if digits.length ≤ 1 then none else some (digits.drop 1)

/- The point and the digits after it. -/
theorem fractionChars_pointed (digits : List Char) :
    Numeral.fractionChars (pointed digits) =
      if digits.length ≤ 1 then
        []
      else
        '.' :: digits.drop 1 := by
  unfold pointed
  split <;> rfl

/- The digits after the point are all but the first. -/
theorem pointed_getD (digits : List Char) :
    (pointed digits).getD [] = digits.drop 1 := by
  unfold pointed
  split
  · rename_i hOne
    exact (List.drop_eq_nil_of_le hOne).symm
  · rfl

/- The notation with an exponent. -/
theorem isWrittenAs_markedChars
    (hDigits : AllDigits digits)
    (hNil : digits ≠ [])
    (power : Int) :
    IsWrittenAs
      ⟨naturalValue digits, power + 1 - digits.length⟩
      (markedChars digits power) := by
  have hExponent :
      exponentChars power = (exponentPart power).chars := rfl
  have hLength := List.length_pos_iff.mpr hNil
  refine ⟨⟨digits.take 1, pointed digits,
    some (exponentPart power)⟩, ?_, ?_, ?_, ?_⟩
  · constructor
    · exact hDigits.take 1
    · simp [hNil]
    · intro fraction hFraction
      unfold pointed at hFraction
      split at hFraction
      · cases hFraction
      · cases hFraction
        exact hDigits.drop 1
    · intro e he
      cases he
      exact exponentPart_isWellFormed power
  · simp only [Numeral.chars, fractionChars_pointed,
      Numeral.exponentChars, markedChars, hExponent]
  · unfold Numeral.isWhole
    split
    · rename_i hNone
      cases hNone
    · rfl
  · simp only [Numeral.value, pointed_getD,
      List.take_append_drop, Option.map_some,
      Option.getD_some, exponentPart_value,
      List.length_drop]
    congr 2
    omega

/- A decimal is written as a numeral in either notation. -/
theorem isWrittenAs_chars (d : Decimal) :
    d.IsWrittenAs d.chars := by
  have hDigits := allDigits_naturalChars d.coefficient
  have hNil := naturalChars_ne_nil d.coefficient
  have hPlain := isWrittenAs_plainChars hDigits hNil
    (d.exponent + (naturalChars d.coefficient).length)
  have hMarked := isWrittenAs_markedChars hDigits hNil
    (d.exponent + (naturalChars d.coefficient).length - 1)
  rw [naturalValue_naturalChars] at hPlain hMarked
  rw [Int.add_sub_cancel] at hPlain
  rw [Int.sub_add_cancel, Int.add_sub_cancel] at hMarked
  simp only [chars]
  split
  · exact hPlain
  · exact hMarked

end Decimal

end Calculator
