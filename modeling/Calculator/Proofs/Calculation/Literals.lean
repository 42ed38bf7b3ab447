import Mathlib.Algebra.Order.Field.Power
import Calculator.Proofs.Calculation.Results
import Calculator.Proofs.Double.Nearest
import Calculator.Proofs.Lexing.LongestMatch
import Calculator.Proofs.Trees.Arithmetic

/-
  This file shows that every number in a text is rounded
  correctly: its value is the number nearest to the exact
  value of its digits, whichever way it is read.

  Key definitions include:
    * `Decimal.exact`
    * `Numeral.exact`
-/

namespace Calculator

-- Powers of natural numbers are those of the core library.
attribute [local
instance 20000] instPowNat

open Grammar
open Text (naturalValue)

------------------------------------------------------------
-- Exact Values
------------------------------------------------------------

/- A number without a sign is no negative infinity. -/
theorem Double.IsUnsigned.withoutNegativeInfinity_eq
    {x : Double}
    (hx : x.IsUnsigned) :
    x.withoutNegativeInfinity = x := by
  cases hx <;> rfl

namespace Decimal

/- The exact value of a decimal. -/
def exact (d : Decimal) : ℚ :=
  d.coefficient * 10 ^ d.exponent

/- A power of ten is a quotient of natural powers. -/
theorem ten_zpow_eq (k : Int) :
    (10 : ℚ) ^ k = 10 ^ k.toNat / 10 ^ (-k).toNat := by
  rw [← zpow_natCast, ← zpow_natCast,
    ← zpow_sub₀ (by norm_num), Int.toNat_sub_toNat_neg]

/- The exact value of a decimal as a quotient of units. -/
theorem exact_eq_div (d : Decimal) :
    d.exact =
      (d.numerator : ℚ) / d.denominator / unitsPerOne := by
  have hUnits := cast_unitsPerOne_pos.ne'
  rw [exact, ten_zpow_eq, numerator, denominator]
  generalize unitsPerOne = units at hUnits ⊢
  push_cast
  field_simp

/- A decimal is rounded to the number nearest to it. -/
theorem isNearest_toDouble (d : Decimal) :
    d.toDouble.IsNearest d.exact := by
  rw [toDouble_eq_ofRatio, exact_eq_div]
  exact Double.isNearest_ofRatio d.denominator_pos _

/- A whole decimal is rounded as a whole number is. -/
theorem toDouble_whole (coefficient : Nat) :
    toDouble ⟨coefficient, 0⟩ = integerValue coefficient := by
  have hNumerator :
      numerator ⟨coefficient, 0⟩ =
        coefficient * unitsPerOne := by
    simp [numerator]
  have hDenominator : denominator ⟨coefficient, 0⟩ = 1 := rfl
  have hUnsigned := Double.isUnsigned_ofRatio
    (coefficient * unitsPerOne) 1
  rw [toDouble_eq_ofRatio, hNumerator, hDenominator,
    integerValue, Double.ofInt_natCast,
    hUnsigned.withoutNegativeInfinity_eq]

end Decimal

namespace Numeral

/-
  The exact value of a numeral: its whole digits and those of
  its fraction, times the power of ten of its exponent.
-/
def exact (n : Numeral) : ℚ :=
  let places := n.fraction.getD []
  let exponent := (n.exponent.map ExponentPart.value).getD 0
  (naturalValue n.whole +
      naturalValue places / 10 ^ places.length) *
    10 ^ exponent

/- The decimal of a numeral has its exact value. -/
theorem exact_value (n : Numeral) :
    n.value.exact = n.exact := by
  simp only [Decimal.exact, value, exact, naturalValue_append]
  generalize n.fraction.getD [] = places
  generalize (n.exponent.map ExponentPart.value).getD 0 = e
  rw [zpow_sub₀ (by norm_num), zpow_natCast]
  push_cast
  field_simp

variable {n : Numeral}

/- A whole numeral is its digits. -/
theorem chars_of_isWhole
    (hWhole : n.isWhole = true) :
    n.chars = n.whole ∧
      n.value = ⟨naturalValue n.whole, 0⟩ := by
  rcases n with ⟨whole, _ | digits, _ | e⟩
  · simp [chars, fractionChars, exponentChars, value]
  all_goals cases hWhole

/- The exact value of a whole numeral is that of its digits. -/
theorem exact_of_isWhole
    (hWhole : n.isWhole = true) :
    n.exact = naturalValue n.whole := by
  rw [← exact_value, (chars_of_isWhole hWhole).2,
    Decimal.exact, zpow_zero, mul_one]

/- Both ways to read a numeral give the nearest number. -/
theorem literal_eq_toDouble (n : Numeral) :
    n.literal = n.value.toDouble := by
  unfold literal
  split
  · rename_i hWhole
    rw [(chars_of_isWhole hWhole.1).2, Decimal.toDouble_whole]
  · rfl

/- A whole numeral has the value of its digits. -/
theorem literal_of_isWhole
    (hWhole : n.isWhole = true) :
    n.literal = integerValue (naturalValue n.chars) := by
  rcases chars_of_isWhole hWhole with ⟨hChars, hValue⟩
  rw [literal_eq_toDouble, hValue, Decimal.toDouble_whole,
    hChars]

/- A numeral of which the token is an integer is whole. -/
theorem isWhole_of_numeralKind
    (hKind : Lexer.numeralKind n = .integer) :
    n.isWhole = true := by
  unfold Lexer.numeralKind at hKind
  split at hKind
  · assumption
  · cases hKind

/- A numeral has the number nearest to its exact value. -/
theorem isNearest_literal (n : Numeral) :
    n.literal.IsNearest n.exact := by
  rw [literal_eq_toDouble, ← exact_value]
  exact n.value.isNearest_toDouble

/- A numeral with zeros before it. -/
def padded (n : Numeral) (k : Nat) : Numeral :=
  { n with whole := zeros k ++ n.whole }

/- A padded numeral is a numeral. -/
theorem isWellFormed_padded
    (hn : n.IsWellFormed)
    (k : Nat) :
    (n.padded k).IsWellFormed where
  whole := (allDigits_zeros k).append hn.whole
  whole_ne_nil := by simp [padded, hn.whole_ne_nil]
  fraction := hn.fraction
  exponent := hn.exponent

/- The zeros are the first characters of a padded numeral. -/
theorem chars_padded (n : Numeral) (k : Nat) :
    (n.padded k).chars = zeros k ++ n.chars := by
  simp [padded, chars]

/- Zeros before a numeral do not change its value. -/
theorem literal_padded (n : Numeral) (k : Nat) :
    (n.padded k).literal = n.literal := by
  rw [literal_eq_toDouble, literal_eq_toDouble]
  simp [padded, value, naturalValue_zeros_append]

end Numeral

------------------------------------------------------------
-- Texts of One Number
------------------------------------------------------------

/- A number token is the token of a numeral. -/
theorem Token.IsSpelled.exists_numeral
    {t : Token}
    (hSpelled : t.IsSpelled)
    (hNumber : t.kind.isNumber = true) :
    ∃ n : Numeral,
      n.IsWellFormed ∧ t = n.token t.position := by
  cases hSpelled with
  | numeral n hn hKind hText =>
      refine ⟨n, hn, ?_⟩
      rcases t with ⟨kind, text, position⟩
      cases hKind
      cases hText
      rfl
  | symbol chars hSymbol hText =>
      rw [Lexer.isNumber_of_symbol? hSymbol] at hNumber
      cases hNumber

/-
  A text of one number has the number nearest to the exact
  value of the digits, which is infinite from the overflow
  bound on and has no sign. A number without a point and an
  exponent has the value of the whole number, however many
  digits it has, and zeros before a number do not change it.
-/
theorem calculate_literal
    {text : String}
    {t eof : Token}
    (hTokens : tokenize text = .ok [t, eof])
    (hNumber : t.kind.isNumber = true)
    {bounds : Bounds}
    (hLimit : 1 ≤ bounds.limit) :
    ∃ n : Numeral,
      n.IsWellFormed ∧
        t.text = String.ofList n.chars ∧
        ∃ x,
          calculate text bounds = .ok x ∧
            x.IsNearest n.exact ∧
            (x = .infinite false ↔
              overflowBound ≤ n.exact) ∧
            x.IsUnsigned ∧
            (t.kind = .integer →
              x =
                integerValue
                  (naturalValue t.text.toList)) ∧
            ∀ k,
              calculate (String.ofList (zeros k) ++ t.text)
                  bounds =
                .ok x := by
  have hDraws :
      (Lexer.start text).draws = ⟨[t], .ok eof⟩ :=
    tokenize_eq_ok.mp hTokens
  have hSpelled :=
    Lexer.isSpelled_of_mem_draws (Lexer.start text)
  rw [hDraws] at hSpelled
  rcases (hSpelled t (by simp)).exists_numeral hNumber with
    ⟨n, hn, ht⟩
  have hText : t.text = String.ofList n.chars := by rw [ht]; rfl
  have hNearest := n.isNearest_literal
  refine ⟨n, hn, hText, n.literal, ?_, hNearest, ?_, ?_, ?_,
    ?_⟩
  · have hKind : eof.kind = .eof := by
      apply Lexer.kind_eq_eof_of_ending (l := Lexer.start text)
      rw [hDraws]
    have hValue := Numeral.evaluate_ofNumber hn t.position
    rw [← ht] at hValue
    exact calculate_of_operand (d := .number t hNumber)
      hDraws hKind (bounds.allow_number hLimit) hValue
  · constructor
    · intro hInfinite
      rw [hInfinite] at hNearest
      cases hNearest
      assumption
    · intro hBound
      exact hNearest.unique (.infinite hBound)
  · rw [Numeral.literal_eq_toDouble]
    exact Decimal.isUnsigned_toDouble _
  · intro hInteger
    have hWhole : n.isWhole = true := by
      rw [ht] at hInteger
      exact Numeral.isWhole_of_numeralKind hInteger
    rw [hText, String.toList_ofList]
    exact Numeral.literal_of_isWhole hWhole
  · intro k
    have hValue := calculate_chars
      (Numeral.isWellFormed_padded hn k) hLimit
    rw [Numeral.chars_padded, Numeral.literal_padded,
      String.ofList_append, ← hText] at hValue
    exact hValue

/-
  The first whole number that is no double is rounded, with
  zeros before it or without.
-/
theorem calculate_literal_inexact :
    ∃ x,
      calculate "9007199254740993" { limit := 1 } = .ok x ∧
        x.IsNearest 9007199254740993 ∧
        x = integerValue 9007199254740993 ∧
        calculate "0009007199254740993" { limit := 1 } =
          .ok x := by
  have hTokens :
      tokenize "9007199254740993" =
        .ok [⟨.integer, "9007199254740993", 0⟩,
          ⟨.eof, "", 16⟩] := by
    cbv
  have hLimit : 1 ≤ ({ limit := 1 } : Bounds).limit := by
    decide
  rcases calculate_literal hTokens rfl hLimit with
    ⟨n, hn, hText, x, hValue, hNearest, _, _, hWhole, hZeros⟩
  have hRead := Numeral.ofText?_chars hn
  have hDigits :
      Numeral.ofText? "9007199254740993" =
        some ⟨"9007199254740993".toList, none, none⟩ := by
    cbv
  rw [← hText, hDigits] at hRead
  cases hRead
  have hExact :
      Numeral.exact
          ⟨"9007199254740993".toList, none, none⟩ =
        9007199254740993 := by
    have hNatural :
        naturalValue "9007199254740993".toList =
          9007199254740993 := by
      cbv
    rw [Numeral.exact_of_isWhole rfl, hNatural]
    norm_num
  rw [hExact] at hNearest
  exact ⟨x, hValue, hNearest, hWhole rfl, hZeros 3⟩

end Calculator
