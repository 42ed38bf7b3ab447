import Calculator.Calculation
import Calculator.Proofs.Decimal.Notation
import Calculator.Proofs.Double.Bits
import Calculator.Proofs.Reading.Sentences
import Calculator.Proofs.Trees.Fold

/-
  This file shows that the result of a calculation can be
  calculated again: a finite number is written as a numeral,
  after a minus if it is negative, and the numeral has that
  very number as its value.

  Key definitions include:
    * `Numeral.literal`
-/

namespace Calculator

-- Powers of natural numbers are those of the core library.
attribute [local
instance 20000] instPowNat

open Grammar

------------------------------------------------------------
-- Numerals
------------------------------------------------------------

/-
  The value of a number in a text. A whole number is read as
  such, unless it has too many digits.
-/
def Numeral.literal (n : Numeral) : Double :=
  if n.isWhole = true ∧ n.whole.length ≤ Text.digitLimit then
    integerValue n.value.coefficient
  else
    n.value.toDouble

/- A number token with the characters of a numeral. -/
def Numeral.token (n : Numeral) (position : Nat) : Token :=
  ⟨Lexer.numeralKind n, String.ofList n.chars, position⟩

namespace Numeral

variable {n : Numeral}

/- The token of a numeral is spelled as it. -/
theorem isSpelled_token
    (hn : n.IsWellFormed)
    (position : Nat) :
    (n.token position).IsSpelled :=
  .numeral n hn rfl rfl

/- The node of a numeral has its value. -/
theorem evaluate_ofNumber
    (hn : n.IsWellFormed)
    (position : Nat) :
    (Tree.ofNumber (n.token position)).evaluate =
      .ok n.literal := by
  have hRead :
      ofText? (n.token position).text = some n :=
    ofText?_chars hn
  have hKind :
      (n.token position).kind = .integer ↔
        n.isWhole = true := by
    simp only [token, Lexer.numeralKind]
    split <;> simp_all
  simp only [Tree.ofNumber, Tree.ofNumber?, hRead,
    Option.map_some, Option.getD_some, literal, hKind,
    and_self_left]
  split
  · exact Expr.evaluate_integer _ _
  · exact Expr.evaluate_float _ _

/- A numeral at the end of a text is drawn as its token. -/
theorem draws_chars
    (hn : n.IsWellFormed)
    (position : Nat) :
    (Lexer.mk n.chars position).draws =
      ⟨[n.token position],
        .ok ⟨.eof, "", position + n.chars.length⟩⟩ := by
  have hDraws := Lexer.draws_of_isSpelled
    (isSpelled_token hn position) (Lexer.isSeam_nil _)
    position
  simp only [token, String.toList_ofList, List.append_nil,
    Lexer.draws_nil] at hDraws
  exact hDraws

end Numeral

------------------------------------------------------------
-- Numerals with a Sign
------------------------------------------------------------

/-
  A text whose tokens are an operand is calculated to the
  value of its tree, if the bounds allow what it needs.
-/
theorem calculate_of_operand
    {text : String}
    {d : Derivation .operand}
    {eof : Token}
    {bounds : Bounds}
    {value : Double}
    (hDraws :
      (Lexer.start text).draws = ⟨d.tokens, .ok eof⟩)
    (hKind : eof.kind = .eof)
    (hAllow : bounds.Allow ⟨d.depth, d.calls + 2⟩)
    (hValue : Expr.evaluate d.tree = .ok value) :
    calculate text bounds = .ok value := by
  have hRead := parse_of_operand hDraws hKind bounds
  rw [if_pos hAllow] at hRead
  simp only [calculate, calculation, hRead, hValue]

/- A numeral is calculated to its value. -/
theorem calculate_chars
    {n : Numeral}
    (hn : n.IsWellFormed)
    {bounds : Bounds}
    (hLimit : 1 ≤ bounds.limit) :
    calculate (String.ofList n.chars) bounds =
      .ok n.literal := by
  let d : Derivation .operand :=
    .number (n.token 0) (Lexer.isNumber_numeralKind n)
  have hDraws :
      (Lexer.start (String.ofList n.chars)).draws =
        ⟨d.tokens, .ok ⟨.eof, "", 0 + n.chars.length⟩⟩ := by
    rw [Lexer.start, String.toList_ofList]
    exact Numeral.draws_chars hn 0
  exact calculate_of_operand hDraws rfl
    (bounds.allow_number hLimit)
    (Numeral.evaluate_ofNumber hn 0)

/-
  A numeral after a minus is calculated to its value with the
  other sign. The minus nests it by one level.
-/
theorem calculate_minus_chars
    {n : Numeral}
    (hn : n.IsWellFormed)
    {bounds : Bounds}
    (hLimit : 2 ≤ bounds.limit) :
    calculate (String.ofList ('-' :: n.chars)) bounds =
      .ok n.literal.neg := by
  let minus : Token := ⟨.minus, "-", 0⟩
  let d : Derivation .operand :=
    .signed minus rfl
      (.number (n.token 1) (Lexer.isNumber_numeralKind n))
  have hDraws :
      (Lexer.start (String.ofList ('-' :: n.chars))).draws =
        ⟨d.tokens, .ok ⟨.eof, "", 1 + n.chars.length⟩⟩ := by
    have hSymbol :
        Lexer.symbol? ['-'] = some (.minus, ['-'], []) := rfl
    have hStop : Token.Kind.minus.StopsAt n.chars :=
      fun _ _ => rfl
    have hMinus := Lexer.draws_symbol hSymbol hStop 0
    rw [Lexer.start, String.toList_ofList]
    exact hMinus.trans
      (congrArg (Draws.cons minus)
        (Numeral.draws_chars hn 1))
  have hValue :
      Expr.evaluate d.tree = .ok n.literal.neg := by
    have hOperation :
        unaryOperation? minus.kind = some Double.neg := rfl
    simp only [d, Derivation.tree]
    rw [Expr.evaluate_unary hOperation,
      Numeral.evaluate_ofNumber hn 1]
    rfl
  exact calculate_of_operand hDraws rfl
    ⟨hLimit, bounds.stack.enough⟩ hValue

------------------------------------------------------------
-- Results
------------------------------------------------------------

/- The numeral of a natural number. -/
def Numeral.ofNatural (n : Nat) : Numeral :=
  ⟨naturalChars n, none, none⟩

namespace Numeral

/- A natural number is written as a numeral. -/
theorem isWellFormed_ofNatural (n : Nat) :
    (ofNatural n).IsWellFormed := by
  constructor
  · exact allDigits_naturalChars n
  · exact naturalChars_ne_nil n
  · intro fraction hFraction
    cases hFraction
  · intro e he
    cases he

/- The numeral of a natural number has its digits. -/
@[simp]
theorem chars_ofNatural (n : Nat) :
    (ofNatural n).chars = naturalChars n := by
  simp [ofNatural, chars, fractionChars, exponentChars]

/- The numeral of a natural number has its value. -/
theorem literal_ofNatural
    {n : Nat}
    (hLess : n < Double.wholeResultLimit) :
    (ofNatural n).literal = integerValue n := by
  have hLength :
      (ofNatural n).whole.length ≤ Text.digitLimit := by
    have hDigits := length_naturalChars_le
      (show 0 < 16 by decide) hLess
    exact Nat.le_trans hDigits (by decide)
  have hWhole : (ofNatural n).isWhole = true := rfl
  have hValue : (ofNatural n).value.coefficient = n := by
    simp only [ofNatural, value, Option.getD_none,
      List.append_nil, naturalValue_naturalChars]
  rw [literal, if_pos ⟨hWhole, hLength⟩, hValue]

end Numeral

/- A whole number that is finite is its own value. -/
theorem integerValue_of_ofInt
    {n : Int}
    {negative : Bool}
    {m : Magnitude}
    (hInt : Double.ofInt n = .finite negative m) :
    integerValue n = .finite negative m := by
  rw [integerValue, hInt]
  rfl

namespace Magnitude

variable {m : Magnitude}

/- A whole magnitude is the value of a natural number. -/
theorem integerValue_of_whole
    (hWhole : m.units % unitsPerOne = 0) :
    integerValue ((m.units / unitsPerOne : Nat) : Int) =
      .finite false m := by
  have hUnits :
      m.units / unitsPerOne * unitsPerOne = m.units * 1 := by
    rw [Nat.mul_one]
    exact Nat.div_mul_cancel (Nat.dvd_of_mod_eq_zero hWhole)
  have hInt := Double.ofInt_natCast (m.units / unitsPerOne)
  rw [hUnits, Double.ofRatio_units false m Nat.one_pos]
    at hInt
  exact integerValue_of_ofInt hInt

/-
  The result of a finite number is a numeral with its value,
  after a minus if the number is negative.
-/
theorem exists_numeral_of_result
    (negative : Bool)
    (m : Magnitude) :
    ∃ n : Numeral,
      n.IsWellFormed ∧
        Double.result (.finite negative m) =
          String.ofList
            (Double.signChars negative ++ n.chars) ∧
        n.literal = .finite false m := by
  by_cases hWhole :
      m.units % unitsPerOne = 0 ∧
        m.units < Double.wholeResultLimit * unitsPerOne
  · have hLess :
        m.units / unitsPerOne < Double.wholeResultLimit :=
      (Nat.div_lt_iff_lt_mul unitsPerOne_pos).mpr hWhole.2
    refine ⟨.ofNatural (m.units / unitsPerOne),
      Numeral.isWellFormed_ofNatural _, ?_, ?_⟩
    · rw [Double.result, if_pos hWhole,
        Numeral.chars_ofNatural]
    · rw [Numeral.literal_ofNatural hLess,
        integerValue_of_whole hWhole.1]
  · have hNe : m.units ≠ 0 := by
      intro hZero
      apply hWhole
      rw [hZero, Nat.zero_mod]
      exact ⟨rfl, Nat.mul_pos (by decide) unitsPerOne_pos⟩
    rcases m.shortest.isWrittenAs_chars with
      ⟨n, hn, hChars, hPoint, hValue⟩
    refine ⟨n, hn, ?_, ?_⟩
    · rw [Double.result, if_neg hWhole, Double.written,
        if_neg hNe, hChars]
    · have hNotWhole : ¬ n.isWhole = true := by
        rw [hPoint]
        decide
      rw [Numeral.literal, if_neg fun h => hNotWhole h.1,
        hValue]
      exact m.readsBack_shortest

end Magnitude

/- The result of a finite number is calculated to it. -/
theorem calculate_result_finite
    (negative : Bool)
    (m : Magnitude)
    {bounds : Bounds}
    (hLimit : 2 ≤ bounds.limit) :
    calculate (Double.result (.finite negative m)) bounds =
      .ok (.finite negative m) := by
  rcases m.exists_numeral_of_result negative with
    ⟨n, hn, hResult, hLiteral⟩
  rw [hResult]
  cases negative with
  | false =>
      have hLess : 1 ≤ bounds.limit := by omega
      have hValue := calculate_chars hn hLess
      rw [hLiteral] at hValue
      exact hValue
  | true =>
      have hValue := calculate_minus_chars hn hLimit
      rw [hLiteral] at hValue
      exact hValue

/-
  The result of a finite number is calculated to a number
  with the same 64 bits, if signs may be nested once.
-/
theorem calculate_result
    {bits : UInt64}
    {negative : Bool}
    {m : Magnitude}
    (hFinite : Double.ofBits bits = .finite negative m)
    {bounds : Bounds}
    (hLimit : 2 ≤ bounds.limit) :
    ∃ x,
      calculate (Double.ofBits bits).result bounds = .ok x ∧
        x = Double.ofBits bits ∧
        x.toBits = bits := by
  refine ⟨.ofBits bits, ?_, rfl,
    Double.toBits_ofBits hFinite⟩
  rw [hFinite]
  exact calculate_result_finite negative m hLimit

/- The bits of a tenth below zero are such a number. -/
theorem calculate_result_minus_tenth :
    ∃ x,
      calculate (Double.ofBits 0xBFB999999999999A).result
          { limit := 2 } =
        .ok x ∧
        x.toBits = 0xBFB999999999999A := by
  have hExponent : 1019 < 2047 := by decide
  have hFraction : 2702159776422298 < 2 ^ (52 : Nat) := by
    decide
  have hFinite :
      Double.ofBits 0xBFB999999999999A =
        .finite true
          (.ofFields 1019 2702159776422298 hExponent
            hFraction) := by
    rfl
  have hLimit : 2 ≤ ({ limit := 2 } : Bounds).limit := by
    decide
  rcases calculate_result hFinite hLimit with
    ⟨x, hResult, _, hBits⟩
  exact ⟨x, hResult, hBits⟩

end Calculator
