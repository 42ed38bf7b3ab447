import Calculator.Calculation
import Calculator.Proofs.Double.Values
import Calculator.Proofs.Trees.Places

/-
  This file shows that texts are calculated by their parts: a
  text in brackets, with a sign before the brackets or with
  an operator between brackets, has the value that its parts
  give when they are calculated alone, if there is room for
  the brackets and signs.

  Key definitions include:
    * `IsExpression`
    * `IsOperand`
    * `operators`
    * `HasValueBeyond`
-/

namespace Calculator

open Grammar
open Lexer (IsSeam)

------------------------------------------------------------
-- Texts with a Value
------------------------------------------------------------

/-
  A text is an expression that has a value, and needs so much
  to be read. It is drawn as such before every seam.
-/
def IsExpression
    (text : List Char)
    (need : Need)
    (value : Double) : Prop :=
  ∀ after position,
    IsSeam after →
      ∃ (d : Derivation .expr) (position' : Nat),
        (Lexer.mk (text ++ after) position).draws =
            (Lexer.mk after position').draws.prepend
              d.tokens ∧
          d.size = need ∧
          Expr.evaluate d.tree = .ok value

/-
  A text is an operand that has a value, and needs so much to
  be read as an expression. It is drawn as such whatever
  stands after it.
-/
def IsOperand
    (text : List Char)
    (need : Need)
    (value : Double) : Prop :=
  ∀ after position,
    ∃ (d : Derivation .operand) (position' : Nat),
      (Lexer.mk (text ++ after) position).draws =
          (Lexer.mk after position').draws.prepend
            d.tokens ∧
        d.ofOperand.size = need ∧
        Expr.evaluate d.tree = .ok value

/- A text has the value of the tree that it is read as. -/
theorem calculate_eq_ok
    {text : String}
    {bounds : Bounds}
    {value : Double} :
    calculate text bounds = .ok value ↔
      ∃ tree,
        parse text bounds = .ok tree ∧
          tree.evaluate = .ok value := by
  unfold calculate calculation
  cases hParse : parse text bounds with
  | error e => simp
  | ok tree =>
      cases hTree : tree.evaluate with
      | error e => simp [hTree]
      | ok x => simp [hTree]

/-
  A text with a value is an expression with that value, and
  needs what is allowed.
-/
theorem exists_isExpression_of_calculate
    {text : String}
    {bounds : Bounds}
    {value : Double}
    (hValue : calculate text bounds = .ok value) :
    ∃ need,
      bounds.Allow need ∧
        IsExpression text.toList need value := by
  rcases calculate_eq_ok.mp hValue with
    ⟨tree, hParse, hTree⟩
  rcases exists_derivation_of_parse hParse with
    ⟨d, eof, hDraws, _, hAllow, rfl⟩
  refine ⟨d.size, hAllow, ?_⟩
  intro after position hSeam
  rcases Lexer.draws_append hDraws hSeam position with
    ⟨tokens, position', hDraws', hAlike⟩
  rcases d.exists_alike hAlike with ⟨d', rfl, hLike⟩
  refine ⟨d', position', hDraws',
    Need.ext hLike.depth hLike.calls, ?_⟩
  have hEqual : d'.tree.unplaced = d.tree.unplaced :=
    hLike.tree
  rw [← Expr.evaluate_unplaced, hEqual,
    Expr.evaluate_unplaced]
  exact hTree

/- An expression needs three calls a level at most. -/
theorem IsExpression.calls_le
    {text : List Char}
    {need : Need}
    {value : Double}
    (hText : IsExpression text need value) :
    need.calls ≤ 3 * need.depth := by
  rcases hText [] 0 Lexer.isSeam_nil with ⟨d, _, _, hSize, _⟩
  rw [← hSize]
  exact d.calls_le

/-
  An expression with a value is calculated to it, if what it
  needs is allowed, and nested too deeply if it is not.
-/
theorem IsExpression.calculate_cases
    {text : String}
    {need : Need}
    {value : Double}
    (hText : IsExpression text.toList need value)
    (bounds : Bounds) :
    (bounds.Allow need → calculate text bounds = .ok value) ∧
      (¬ bounds.Allow need →
        ∃ e,
          calculate text bounds = .error (.syntactic e) ∧
            e.fault.IsOfDepth) := by
  rcases hText [] 0 Lexer.isSeam_nil with
    ⟨d, position, hDraws, rfl, hValue⟩
  have hStart :
      (Lexer.start text).draws =
        ⟨d.tokens, .ok ⟨.eof, "", position⟩⟩ := by
    rw [List.append_nil, Lexer.draws_nil] at hDraws
    rw [Lexer.start, hDraws]
    simp [Draws.prepend]
  have hRead := parse_of_draws hStart rfl bounds
  constructor
  · intro hAllow
    rw [if_pos hAllow] at hRead
    exact calculate_eq_ok.mpr ⟨d.tree, hRead, hValue⟩
  · intro hAllow
    rw [if_neg hAllow] at hRead
    rcases hRead with ⟨t, _, fault, hFault, hError⟩
    refine ⟨⟨fault, t.position⟩, ?_, hFault⟩
    simp only [calculate, calculation, hError]

------------------------------------------------------------
-- Brackets and Signs
------------------------------------------------------------

section

variable {text left right : List Char}
variable {need need' : Need}
variable {value x y : Double}

/- An operand is an expression. -/
theorem IsOperand.isExpression
    (hText : IsOperand text need value) :
    IsExpression text need value := by
  intro after position _
  rcases hText after position with
    ⟨d, position', hDraws, hSize, hValue⟩
  refine ⟨d.ofOperand, position', ?_, hSize, hValue⟩
  rw [hDraws, d.tokens_ofOperand]

/- A text in brackets. -/
def inBrackets (text : List Char) : List Char :=
  '(' :: (text ++ [')'])

/- What a pair of brackets needs. -/
def bracketNeed : Need := ⟨1, 3⟩

/- What a sign needs. -/
def signNeed : Need := ⟨1, 1⟩

/- An expression in brackets is an operand, a level deeper. -/
theorem IsExpression.inBrackets
    (hText : IsExpression text need value) :
    IsOperand (inBrackets text) (need + bracketNeed)
      value := by
  intro after position
  rcases hText (')' :: after) (position + 1)
      (Lexer.isSeam_closing after) with
    ⟨d, position', hDraws, rfl, hValue⟩
  refine ⟨.bracketed ⟨.bracketOpen, "(", position⟩ rfl d
    ⟨.bracketClose, ")", position'⟩ rfl, position' + 1,
    ?_, ?_, hValue⟩
  · simp only [Calculator.inBrackets, List.cons_append,
      List.append_assoc, List.nil_append,
      Lexer.draws_opening, hDraws, Lexer.draws_closing]
    simp [Draws.prepend, Draws.cons, Derivation.tokens]
  · rw [Derivation.size_ofOperand]
    ext <;>
      simp only [Derivation.size, Derivation.depth,
        Derivation.calls, Need.add_depth, Need.add_calls,
        bracketNeed] <;>
      omega

/- An operand after a sign is an operand, a level deeper. -/
theorem IsOperand.signed
    (hText : IsOperand text need value)
    {sign : List Char}
    {kind : Token.Kind}
    (hSymbol :
      Lexer.symbol? sign = some (kind, sign, []))
    (hSign : kind.isSign = true)
    {operation : Double → Double}
    (hOperation : unaryOperation? kind = some operation) :
    IsOperand (sign ++ text) (need + signNeed)
      (operation value) := by
  intro after position
  rcases hText after (position + sign.length) with
    ⟨d, position', hDraws, rfl, hValue⟩
  refine ⟨.signed ⟨kind, String.ofList sign, position⟩ hSign
    d, position', ?_, ?_, ?_⟩
  · rw [List.append_assoc,
      Lexer.draws_symbol hSymbol
        (Lexer.stopsAt_of_isSign hSign _), hDraws]
    rfl
  · rw [Derivation.size_ofOperand,
      Derivation.size_ofOperand]
    ext <;>
      simp only [Derivation.depth, Derivation.calls,
        Need.add_depth, Need.add_calls, signNeed] <;>
      omega
  · simp only [Derivation.tree]
    rw [Expr.evaluate_unary hOperation, hValue]
    rfl

------------------------------------------------------------
-- Operators
------------------------------------------------------------

/- The value of an operation is that of its two sides. -/
theorem evaluate_operation
    {operator : Token}
    {operation : Double → Double → Double}
    (hOperation :
      binaryOperation? operator.kind = some operation)
    {a b : Tree}
    (hLeft : a.evaluate = .ok x)
    (hRight : b.evaluate = .ok y) :
    Expr.evaluate (.binary a operator b) =
      .ok (operation x y) := by
  rw [Expr.evaluate_binary hOperation, hLeft, hRight]
  rfl

/- An operator is a sign or joins factors. -/
theorem isSign_or_isFactorOperator
    {kind : Token.Kind}
    {operation : Double → Double → Double}
    (hOperation : binaryOperation? kind = some operation) :
    kind.isSign = true ∨ kind.isFactorOperator = true := by
  cases kind <;> simp_all [binaryOperation?,
    Token.Kind.isSign, Token.Kind.isFactorOperator]

/-
  An operator between two operands makes an expression, if
  the right one starts at a seam. A sign makes a run of
  addends, and any other operator a run of factors.
-/
theorem IsOperand.binary
    (hLeft : IsOperand left need x)
    (hRight : IsOperand right need' y)
    {operator : List Char}
    {kind : Token.Kind}
    (hSymbol :
      Lexer.symbol? operator = some (kind, operator, []))
    (hSeam : ∀ after, IsSeam (right ++ after))
    {operation : Double → Double → Double}
    (hOperation : binaryOperation? kind = some operation) :
    IsExpression (left ++ (operator ++ right))
      (max need need') (operation x y) := by
  intro after position _
  rcases hLeft (operator ++ (right ++ after)) position with
    ⟨d, place, hDraws, rfl, hValue⟩
  rcases hRight after (place + operator.length) with
    ⟨d', position', hDraws', rfl, hValue'⟩
  let token : Token :=
    ⟨kind, String.ofList operator, place⟩
  have hText :
      (Lexer.mk (left ++ (operator ++ right) ++ after)
          position).draws =
        (Lexer.mk after position').draws.prepend
          (d.tokens ++ token :: d'.tokens) := by
    rw [List.append_assoc, List.append_assoc, hDraws,
      Lexer.draws_symbol hSymbol (hSeam after kind), hDraws']
    simp [Draws.prepend, Draws.cons, token]
  have hToken :
      binaryOperation? token.kind = some operation :=
    hOperation
  have hTree := evaluate_operation hToken hValue hValue'
  rcases isSign_or_isFactorOperator hOperation with
    hSign | hFactor
  · refine ⟨.expr (.term d .noFactor)
      (.addend token hSign (.term d' .noFactor) .noAddend),
      position', ?_, ?_, hTree⟩
    · rw [hText]
      simp [Derivation.tokens]
    · rw [d.size_ofOperand, d'.size_ofOperand]
      ext <;>
        simp only [Derivation.size, Derivation.depth,
          Derivation.calls, Need.max_depth,
          Need.max_calls] <;>
        omega
  · refine ⟨.expr
      (.term d (.factor token hFactor d' .noFactor))
      .noAddend, position', ?_, ?_, hTree⟩
    · rw [hText]
      simp [Derivation.tokens]
    · rw [d.size_ofOperand, d'.size_ofOperand]
      ext <;>
        simp only [Derivation.size, Derivation.depth,
          Derivation.calls, Need.max_depth,
          Need.max_calls] <;>
        omega

/-
  A run of addends has room for one more at its end, which
  takes the whole run as its left side.
-/
theorem Grammar.Derivation.exists_addends_concat
    {operator : Token}
    (hOperator : operator.kind.isSign = true)
    (right : Derivation .term) :
    ∀ run : Derivation .addends,
      ∃ run' : Derivation .addends,
        run'.tokens =
            run.tokens ++ operator :: right.tokens ∧
          run'.depth = max run.depth right.depth ∧
          run'.calls = max run.calls right.calls ∧
          ∀ left : Tree,
            run'.tree left =
              Expr.binary (run.tree left) operator right.tree
| .noAddend => by
    refine ⟨.addend operator hOperator right .noAddend, ?_,
      ?_, ?_, fun left => rfl⟩
    · simp [tokens]
    · simp [depth]
    · simp [calls]
| .addend operator' hOperator' right' rest => by
    rcases exists_addends_concat hOperator right rest with
      ⟨rest', hTokens, hDepth, hCalls, hTree⟩
    refine ⟨.addend operator' hOperator' right' rest', ?_,
      ?_, ?_, fun left => hTree _⟩
    · simp [tokens, hTokens]
    · simp only [depth, hDepth]
      omega
    · simp only [calls, hCalls]
      omega

/-
  An operand after a sign is added to the whole expression
  before the sign. No brackets are needed for that, because
  signs bind least and group to the left.
-/
theorem IsExpression.addend
    (hLeft : IsExpression left need x)
    (hRight : IsOperand right need' y)
    {operator : List Char}
    {kind : Token.Kind}
    (hSymbol :
      Lexer.symbol? operator = some (kind, operator, []))
    (hSeam : ∀ after, IsSeam (operator ++ after))
    (hSign : kind.isSign = true)
    {operation : Double → Double → Double}
    (hOperation : binaryOperation? kind = some operation) :
    IsExpression (left ++ (operator ++ right))
      (max need need') (operation x y) := by
  intro after position _
  rcases hLeft (operator ++ (right ++ after)) position
      (hSeam _) with
    ⟨d, place, hDraws, rfl, hValue⟩
  rcases hRight after (place + operator.length) with
    ⟨d', position', hDraws', rfl, hValue'⟩
  let token : Token :=
    ⟨kind, String.ofList operator, place⟩
  have hToken : token.kind.isSign = true := hSign
  cases d with
  | expr first rest =>
      rcases Derivation.exists_addends_concat hToken
          (.term d' .noFactor) rest with
        ⟨rest', hTokens, hDepth, hCalls, hTree⟩
      refine ⟨.expr first rest', position', ?_, ?_, ?_⟩
      · rw [List.append_assoc, List.append_assoc, hDraws,
          Lexer.draws_symbol hSymbol
            (Lexer.stopsAt_of_isSign hSign _), hDraws']
        simp [Draws.prepend, Draws.cons, Derivation.tokens,
          hTokens, token]
      · rw [d'.size_ofOperand]
        ext <;>
          simp only [Derivation.size, Derivation.depth,
            Derivation.calls, hDepth, hCalls,
            Need.max_depth, Need.max_calls] <;>
          omega
      · simp only [Derivation.tree] at hValue ⊢
        rw [hTree]
        exact evaluate_operation hOperation hValue hValue'

end

------------------------------------------------------------
-- Calculations
------------------------------------------------------------

/- The operators as they are written. -/
def operators : List (String × Token.Kind) :=
  [("+", .plus), ("-", .minus), ("*", .star),
    ("/", .slash), ("//", .doubleSlash),
    ("**", .doubleStar), ("%", .percent)]

/- Operators are symbols. -/
theorem symbol?_of_mem_operators :
    ∀ p ∈ operators,
      Lexer.symbol? p.1.toList =
        some (p.2, p.1.toList, []) := by
  decide

/- Operators have an operation. -/
theorem isSome_of_mem_operators :
    ∀ p ∈ operators,
      (binaryOperation? p.2).isSome = true := by
  decide

/- The operators that are signs are a plus and a minus. -/
theorem toList_of_mem_operators :
    ∀ p ∈ operators,
      p.2.isSign = true →
        p.1.toList = ['+'] ∨ p.1.toList = ['-'] := by
  decide

/- The operators that are signs are seams. -/
theorem isSeam_of_mem_operators
    {p : String × Token.Kind}
    (hOperator : p ∈ operators)
    (hSign : p.2.isSign = true)
    (after : List Char) :
    IsSeam (p.1.toList ++ after) := by
  rcases toList_of_mem_operators p hOperator hSign with
    hPlus | hMinus
  · rw [hPlus]
    exact Lexer.isSeam_sign (Or.inl rfl) after
  · rw [hMinus]
    exact Lexer.isSeam_sign (Or.inr rfl) after

/-
  A text has a value where more is allowed than by some
  bounds: the limit is higher by the levels that are needed
  more, and there is room for the calls that are, or for
  three calls a level. Where there is no room, it has this
  value or is nested too deeply.
-/
structure HasValueBeyond
    (bounds : Bounds)
    (more : Need)
    (text : String)
    (value : Double) : Prop where
  calculated :
    ∀ bounds' : Bounds,
      bounds.limit + more.depth ≤ bounds'.limit →
        (bounds.stack.room + more.calls ≤
            bounds'.stack.room ∨
          3 * (bounds.limit + more.depth) ≤
            bounds'.stack.room) →
          calculate text bounds' = .ok value
  otherwise :
    ∀ bounds' : Bounds,
      bounds.limit + more.depth ≤ bounds'.limit →
        calculate text bounds' = .ok value ∨
          ∃ e,
            calculate text bounds' =
                .error (.syntactic e) ∧
              e.fault.message =
                "Expression is nested too deeply"

/-
  An expression has its value where more is allowed than by
  bounds that would allow with more what it needs.
-/
theorem IsExpression.hasValueBeyond
    {text : String}
    {need more : Need}
    {bounds : Bounds}
    {value : Double}
    (hText : IsExpression text.toList need value)
    (hAllow : bounds.AllowWith more need) :
    HasValueBeyond bounds more text value := by
  have hLeast := hText.calls_le
  rcases hAllow with ⟨hDepth, hCalls⟩
  constructor
  · intro bounds' hLimit hRoom
    refine (hText.calculate_cases bounds').1 ⟨?_, ?_⟩
    · exact Int.le_trans hDepth hLimit
    · omega
  · intro bounds' hLimit
    rcases hText.calculate_cases bounds' with
      ⟨hAllowed, hTooDeep⟩
    by_cases hAllow : bounds'.Allow need
    · exact Or.inl (hAllowed hAllow)
    · rcases hTooDeep hAllow with ⟨e, hError, hFault⟩
      exact Or.inr ⟨e, hError,
        ParseFault.isOfDepth_iff_message.mp hFault⟩

/-
  A text is calculated from the values of its parts. Each
  pair of brackets needs a level of nesting and three calls,
  each sign a level and one call, and an expression before a
  plus or a minus needs nothing more. What a minus stands
  before has the other sign, and is the same otherwise.
-/
theorem calculate_composed
    {left right : String}
    {bounds : Bounds}
    {x y : Double}
    (hLeft : calculate left bounds = .ok x)
    (hRight : calculate right bounds = .ok y) :
    (∀ text kind,
      (text, kind) ∈ operators →
        ∃ operation,
          binaryOperation? kind = some operation ∧
            HasValueBeyond bounds ⟨1, 3⟩
              ("(" ++ left ++ ")" ++ text ++
                "(" ++ right ++ ")")
              (operation x y)) ∧
      HasValueBeyond bounds ⟨1, 3⟩ ("(" ++ left ++ ")") x ∧
      (∃ z,
        HasValueBeyond bounds ⟨2, 4⟩
            ("-(" ++ left ++ ")") z ∧
          (z = .nan ↔ x = .nan) ∧
          (x ≠ .nan →
            z.toBits =
              x.toBits ^^^ 0x8000000000000000)) ∧
      HasValueBeyond bounds ⟨2, 4⟩ ("+(" ++ left ++ ")") x ∧
      (∀ text kind,
        (text, kind) ∈ operators →
          kind.isSign = true →
            ∃ operation,
              binaryOperation? kind = some operation ∧
                HasValueBeyond bounds ⟨1, 3⟩
                  (left ++ text ++ "(" ++ right ++ ")")
                  (operation x y)) := by
  rcases exists_isExpression_of_calculate hLeft with
    ⟨need, hAllow, hLeftText⟩
  rcases exists_isExpression_of_calculate hRight with
    ⟨need', hAllow', hRightText⟩
  have hLeftOperand := hLeftText.inBrackets
  have hRightOperand := hRightText.inBrackets
  have hLeftAllow := hAllow.add_more bracketNeed
  have hRightAllow := hAllow'.add_more bracketNeed
  refine ⟨?_, ?_, ?_, ?_, ?_⟩
  · intro text kind hText
    rcases Option.isSome_iff_exists.mp
        (isSome_of_mem_operators _ hText) with
      ⟨operation, hOperation⟩
    refine ⟨operation, hOperation, ?_⟩
    have hWhole := hLeftOperand.binary hRightOperand
      (symbol?_of_mem_operators _ hText)
      (fun _ => Lexer.isSeam_opening _) hOperation
    refine IsExpression.hasValueBeyond ?_
      (hLeftAllow.max hRightAllow)
    simpa [inBrackets] using hWhole
  · refine IsExpression.hasValueBeyond ?_ hLeftAllow
    simpa [inBrackets] using hLeftOperand.isExpression
  · have hMinus :
        Lexer.symbol? ['-'] = some (.minus, ['-'], []) := rfl
    have hNegated := hLeftOperand.signed hMinus rfl rfl
    rw [Need.add_assoc] at hNegated
    refine ⟨x.neg, ?_, x.neg_eq_nan_iff,
      fun hx => Double.toBits_neg hx⟩
    refine IsExpression.hasValueBeyond ?_
      (hAllow.add_more (bracketNeed + signNeed))
    simpa [inBrackets] using hNegated.isExpression
  · have hPlus :
        Lexer.symbol? ['+'] = some (.plus, ['+'], []) := rfl
    have hSame := hLeftOperand.signed hPlus rfl rfl
    rw [Need.add_assoc] at hSame
    refine IsExpression.hasValueBeyond ?_
      (hAllow.add_more (bracketNeed + signNeed))
    simpa [inBrackets] using hSame.isExpression
  · intro text kind hText hSign
    rcases Option.isSome_iff_exists.mp
        (isSome_of_mem_operators _ hText) with
      ⟨operation, hOperation⟩
    refine ⟨operation, hOperation, ?_⟩
    have hWhole := hLeftText.addend hRightOperand
      (symbol?_of_mem_operators _ hText)
      (isSeam_of_mem_operators hText hSign) hSign hOperation
    refine IsExpression.hasValueBeyond ?_
      ((hAllow.with_more bracketNeed).max hRightAllow)
    simpa [inBrackets] using hWhole

/-
  A difference and a number with a sign are composed on the
  usual stack, which has room for every level of the limits
  that are needed.
-/
theorem calculate_composed_power :
    calculate "1 - 2" { limit := 2 } =
        .ok ((integerValue 1).sub (integerValue 2)) ∧
      calculate " -3\n" { limit := 2 } =
        .ok (integerValue 3).neg ∧
      calculate "(1 - 2)**( -3\n)" { limit := 3 } =
        .ok
          (((integerValue 1).sub (integerValue 2)).power
            (integerValue 3).neg) ∧
      (∃ z,
        calculate "-(1 - 2)" { limit := 4 } = .ok z ∧
          z.toBits = 0x3FF0000000000000) ∧
      calculate "1 - 2-( -3\n)" { limit := 3 } =
        .ok
          (((integerValue 1).sub (integerValue 2)).sub
            (integerValue 3).neg) := by
  have hLeft :
      calculate "1 - 2" { limit := 2 } =
        .ok ((integerValue 1).sub (integerValue 2)) := by
    have hParse :
        parse "1 - 2" { limit := 2 } =
          .ok (.binary
            (.integer ⟨.integer, "1", 0⟩ 1)
            ⟨.minus, "-", 2⟩
            (.integer ⟨.integer, "2", 4⟩ 2)) := by
      cbv
    have hOperation :
        binaryOperation? (Token.mk .minus "-" 2).kind =
          some Double.sub := rfl
    refine calculate_eq_ok.mpr ⟨_, hParse, ?_⟩
    exact evaluate_operation hOperation
      (Expr.evaluate_integer _ 1) (Expr.evaluate_integer _ 2)
  have hRight :
      calculate " -3\n" { limit := 2 } =
        .ok (integerValue 3).neg := by
    have hParse :
        parse " -3\n" { limit := 2 } =
          .ok (.unary ⟨.minus, "-", 1⟩
            (.integer ⟨.integer, "3", 2⟩ 3)) := by
      cbv
    have hOperation :
        unaryOperation? (Token.mk .minus "-" 1).kind =
          some Double.neg := rfl
    refine calculate_eq_ok.mpr ⟨_, hParse, ?_⟩
    rw [Expr.evaluate_unary hOperation,
      Expr.evaluate_integer]
    rfl
  rcases calculate_composed hLeft hRight with
    ⟨hBoth, _, ⟨z, hNegated, _, hBits⟩, _, hAddend⟩
  refine ⟨hLeft, hRight, ?_, ?_, ?_⟩
  · rcases hBoth "**" .doubleStar (by decide) with
      ⟨operation, hOperation, hValue⟩
    cases hOperation
    exact hValue.calculated { limit := 3 } (by decide)
      (Or.inr (by decide))
  · have hValue := hNegated.calculated { limit := 4 }
      (by decide) (Or.inr (by decide))
    have hOne :
        ((integerValue 1).sub (integerValue 2)).toBits =
          0xBFF0000000000000 := by
      decide +kernel
    refine ⟨z, hValue, (hBits ?_).trans ?_⟩
    · intro hNan
      rw [hNan] at hOne
      exact absurd hOne (by decide)
    · rw [hOne]
      rfl
  · rcases hAddend "-" .minus (by decide) rfl with
      ⟨operation, hOperation, hValue⟩
    cases hOperation
    exact hValue.calculated { limit := 3 } (by decide)
      (Or.inr (by decide))

/-
  So brackets do not always keep a value, however high the
  limit is: the number one in three thousand pairs of them
  has none, though each pair is put around an expression.
-/
theorem brackets_lose_value :
    ¬ ∀ (text : String) (limit : Int) (x : Double),
      calculate text { limit := limit } = .ok x →
        ∀ limit',
          limit + 1 ≤ limit' →
            calculate ("(" ++ text ++ ")")
                { limit := limit' } =
              .ok x := by
  intro hAll
  have hOne :
      calculate "1" { limit := 1 } = .ok (integerValue 1) := by
    have hParse :
        parse "1" { limit := 1 } =
          .ok (.integer ⟨.integer, "1", 0⟩ 1) := by
      cbv
    exact calculate_eq_ok.mpr
      ⟨_, hParse, Expr.evaluate_integer _ 1⟩
  have hNested :
      ∀ n : Nat,
        calculate (nested n) { limit := 1 + n } =
          .ok (integerValue 1) := by
    intro n
    induction n with
    | zero => exact hOne
    | succ n ih =>
        exact hAll (nested n) (1 + n) _ ih _
          (Int.le_of_eq (Int.add_assoc 1 n 1))
  have hRoom :
      ({ limit := 1 + 3000 } : Bounds).stack.room <
        3 * 3000 + 3 := by
    decide
  rcases parse_nested_of_room_lt hRoom with ⟨e, hError, _⟩
  rcases calculate_eq_ok.mp (hNested 3000) with
    ⟨tree, hTree, _⟩
  rw [Nat.cast_ofNat, hError] at hTree
  cases hTree

end Calculator
