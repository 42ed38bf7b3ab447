import Calculator.Proofs.Grammar.Frames

/-
  This file defines where the parts of a sentence may start:
  after which tokens, and inside which open signs, brackets
  and operations. Whatever is awaited completes the tokens
  before it to the start of a sentence.

  Key definitions include:
    * `Grammar.Awaits`
    * `Grammar.IsOperandDue`
    * `Grammar.IsOperandComplete`
    * `Grammar.HasOpenBracket`
-/

namespace Calculator

namespace Grammar

------------------------------------------------------------
-- Longer Runs
------------------------------------------------------------

/-
  A derivation has room for one more operator at its end, if
  it is a part with operators. The tree before the operator
  becomes the left side of the new one.
-/
def Part.IsExtensible :
    (part : Part) → Derivation part → Prop
| .expr, d =>
    ∀ (operator : Token) (right : Derivation .term),
      operator.kind.isSign = true →
        ∃ d' : Derivation .expr,
          d'.tokens = d.tokens ++ operator :: right.tokens ∧
            d'.tree = .binary d.tree operator right.tree
| .addends, d =>
    ∀ (operator : Token) (right : Derivation .term),
      operator.kind.isSign = true →
        ∃ d' : Derivation .addends,
          d'.tokens = d.tokens ++ operator :: right.tokens ∧
            ∀ left,
              d'.tree left =
                .binary (d.tree left) operator right.tree
| .term, d =>
    ∀ (operator : Token) (right : Derivation .operand),
      operator.kind.isFactorOperator = true →
        ∃ d' : Derivation .term,
          d'.tokens = d.tokens ++ operator :: right.tokens ∧
            d'.tree = .binary d.tree operator right.tree
| .factors, d =>
    ∀ (operator : Token) (right : Derivation .operand),
      operator.kind.isFactorOperator = true →
        ∃ d' : Derivation .factors,
          d'.tokens = d.tokens ++ operator :: right.tokens ∧
            ∀ left,
              d'.tree left =
                .binary (d.tree left) operator right.tree
| .operand, _ => True

/- Every derivation is extensible. -/
theorem Derivation.isExtensible
    {part : Part}
    (d : Derivation part) :
    part.IsExtensible d := by
  induction d with
  | number token hNumber => trivial
  | signed sign hSign operand ih => trivial
  | bracketed opening hOpening inner closing hClosing ih =>
      trivial
  | term first rest ihFirst ihRest =>
      intro operator right hOperator
      rcases ihRest operator right hOperator with
        ⟨rest', hTokens, hTree⟩
      refine ⟨.term first rest', ?_, hTree first.tree⟩
      simp only [tokens, hTokens, List.append_assoc]
  | noFactor =>
      intro operator right hOperator
      refine ⟨.factor operator hOperator right .noFactor,
        ?_, fun left => rfl⟩
      simp only [tokens, List.append_nil, List.nil_append]
  | factor operator hOperator right rest ihRight ihRest =>
      intro operator' right' hOperator'
      rcases ihRest operator' right' hOperator' with
        ⟨rest', hTokens, hTree⟩
      refine ⟨.factor operator hOperator right rest', ?_,
        fun left => hTree _⟩
      simp only [tokens, hTokens, List.append_assoc,
        List.cons_append]
  | expr first rest ihFirst ihRest =>
      intro operator right hOperator
      rcases ihRest operator right hOperator with
        ⟨rest', hTokens, hTree⟩
      refine ⟨.expr first rest', ?_, hTree first.tree⟩
      simp only [tokens, hTokens, List.append_assoc]
  | noAddend =>
      intro operator right hOperator
      refine ⟨.addend operator hOperator right .noAddend,
        ?_, fun left => rfl⟩
      simp only [tokens, List.append_nil, List.nil_append]
  | addend operator hOperator right rest ihRight ihRest =>
      intro operator' right' hOperator'
      rcases ihRest operator' right' hOperator' with
        ⟨rest', hTokens, hTree⟩
      refine ⟨.addend operator hOperator right rest', ?_,
        fun left => hTree _⟩
      simp only [tokens, hTokens, List.append_assoc,
        List.cons_append]

------------------------------------------------------------
-- Where a Part May Start
------------------------------------------------------------

/-
  A part may start after tokens, and frames wait for it: the
  signs and brackets that are open, and the left sides of
  the operations that have no right side yet, the innermost
  first.
-/
inductive Awaits :
    Part → List Frame → List Token → Prop where
| expr : Awaits .expr [] []
| firstTerm
    {frames : List Frame}
    {before : List Token}
    (hAwaits : Awaits .expr frames before) :
    Awaits .term frames before
| addend
    {frames : List Frame}
    {before : List Token}
    (left : Derivation .expr)
    (operator : Token)
    (hOperator : operator.kind.isSign = true)
    (hAwaits : Awaits .expr frames before) :
    Awaits .term (.addend left.tree operator :: frames)
      (before ++ left.tokens ++ [operator])
| firstOperand
    {frames : List Frame}
    {before : List Token}
    (hAwaits : Awaits .term frames before) :
    Awaits .operand frames before
| factor
    {frames : List Frame}
    {before : List Token}
    (left : Derivation .term)
    (operator : Token)
    (hOperator : operator.kind.isFactorOperator = true)
    (hAwaits : Awaits .term frames before) :
    Awaits .operand (.factor left.tree operator :: frames)
      (before ++ left.tokens ++ [operator])
| signed
    {frames : List Frame}
    {before : List Token}
    (sign : Token)
    (hSign : sign.kind.isSign = true)
    (hAwaits : Awaits .operand frames before) :
    Awaits .operand (.sign sign :: frames)
      (before ++ [sign])
| bracketed
    {frames : List Frame}
    {before : List Token}
    (opening : Token)
    (hOpening : opening.kind = .bracketOpen)
    (hAwaits : Awaits .operand frames before) :
    Awaits .expr (.bracket :: frames) (before ++ [opening])

/- No more frames are open than there are tokens. -/
theorem Awaits.depth_le
    {part : Part}
    {frames : List Frame}
    {before : List Token}
    (hAwaits : Awaits part frames before) :
    Frame.depth frames ≤ before.length := by
  induction hAwaits with
  | expr => exact Nat.le_refl 0
  | firstTerm hAwaits ih | firstOperand hAwaits ih => exact ih
  | addend left operator hOperator hAwaits ih
  | factor left operator hOperator hAwaits ih =>
      simp only [Frame.depth_cons, Frame.nesting,
        List.length_append]
      omega
  | signed sign hSign hAwaits ih
  | bracketed opening hOpening hAwaits ih =>
      simp only [Frame.depth_cons, Frame.nesting,
        List.length_append, List.length_singleton]
      omega

/- A closing bracket. -/
def closingBracket : Token :=
  ⟨.bracketClose, ")", 0⟩

/-
  What is awaited, once it is derived, makes the start of a
  sentence with the tokens before it.
-/
theorem Awaits.isSentenceStart
    {part : Part}
    {frames : List Frame}
    {before : List Token}
    (hAwaits : Awaits part frames before) :
    ∀ d : Derivation part,
      IsSentenceStart (before ++ d.tokens) := by
  induction hAwaits with
  | expr =>
      intro d
      exact ⟨[], d, by simp⟩
  | firstTerm hAwaits ih =>
      intro d
      have hStart := ih (.expr d .noAddend)
      simpa [Derivation.tokens] using hStart
  | addend left operator hOperator hAwaits ih =>
      intro d
      rcases left.isExtensible operator d hOperator with
        ⟨whole, hTokens, _⟩
      have hStart := ih whole
      simpa [hTokens] using hStart
  | firstOperand hAwaits ih =>
      intro d
      have hStart := ih (.term d .noFactor)
      simpa [Derivation.tokens] using hStart
  | factor left operator hOperator hAwaits ih =>
      intro d
      rcases left.isExtensible operator d hOperator with
        ⟨whole, hTokens, _⟩
      have hStart := ih whole
      simpa [hTokens] using hStart
  | signed sign hSign hAwaits ih =>
      intro d
      have hStart := ih (.signed sign hSign d)
      simpa [Derivation.tokens] using hStart
  | bracketed opening hOpening hAwaits ih =>
      intro d
      rcases ih (.bracketed opening hOpening d
          closingBracket rfl) with ⟨rest, hSentence⟩
      refine ⟨closingBracket :: rest, ?_⟩
      simpa [Derivation.tokens] using hSentence

------------------------------------------------------------
-- Between Operands
------------------------------------------------------------

/-
  An operand is due after tokens, inside a number of signs
  and brackets that are still open, and inside a number of
  calls: those of an expression and a term, one for each of
  the signs and three for each of the brackets.
-/
def IsOperandDue
    (before : List Token)
    (depth calls : Nat) : Prop :=
  ∃ frames,
    Awaits .operand frames before ∧
      Frame.depth frames = depth ∧
      Frame.calls frames + 2 = calls

/- An operand is complete at the end of tokens. -/
def IsOperandComplete (tokens : List Token) : Prop :=
  ∃ before depth calls,
    IsOperandDue before depth calls ∧
      ∃ d : Derivation .operand, before ++ d.tokens = tokens

/- The kinds of token that an operand ends with. -/
def endsOperand (kind : Token.Kind) : Bool :=
  kind.isNumber || kind = .bracketClose

/- Tokens that end as an operand does. -/
def EndWithOperand (tokens : List Token) : Prop :=
  ∃ last ∈ tokens.getLast?, endsOperand last.kind = true

/-
  Tokens with a part after them end with an operand, for a
  run of operators if those before it do.
-/
def Part.Ends : (part : Part) → Derivation part → Prop
| .expr, d =>
    ∀ before, EndWithOperand (before ++ d.tokens)
| .addends, d =>
    ∀ before,
      EndWithOperand before →
        EndWithOperand (before ++ d.tokens)
| .term, d =>
    ∀ before, EndWithOperand (before ++ d.tokens)
| .factors, d =>
    ∀ before,
      EndWithOperand before →
        EndWithOperand (before ++ d.tokens)
| .operand, d =>
    ∀ before, EndWithOperand (before ++ d.tokens)

/- The last token of a derivation ends an operand. -/
theorem Derivation.ends
    {part : Part}
    (d : Derivation part) :
    part.Ends d := by
  induction d with
  | number token hNumber =>
      intro before
      refine ⟨token, ?_, by simp [endsOperand, hNumber]⟩
      simp [tokens]
  | signed sign hSign operand ih =>
      intro before
      have hEnd := ih (before ++ [sign])
      simpa [tokens] using hEnd
  | bracketed opening hOpening inner closing hClosing ih =>
      intro before
      refine ⟨closing, ?_, by simp [endsOperand, hClosing]⟩
      simp [tokens, List.getLast?_cons]
  | term first rest ihFirst ihRest =>
      intro before
      have hEnd := ihRest _ (ihFirst before)
      simpa [tokens] using hEnd
  | noFactor =>
      intro before hBefore
      simpa [tokens] using hBefore
  | factor operator hOperator right rest ihRight ihRest =>
      intro before hBefore
      have hEnd := ihRest _ (ihRight (before ++ [operator]))
      simpa [tokens] using hEnd
  | expr first rest ihFirst ihRest =>
      intro before
      have hEnd := ihRest _ (ihFirst before)
      simpa [tokens] using hEnd
  | noAddend =>
      intro before hBefore
      simpa [tokens] using hBefore
  | addend operator hOperator right rest ihRight ihRest =>
      intro before hBefore
      have hEnd := ihRest _ (ihRight (before ++ [operator]))
      simpa [tokens] using hEnd

/- One more token ends as itself. -/
@[simp]
theorem endWithOperand_concat
    (tokens : List Token)
    (last : Token) :
    EndWithOperand (tokens ++ [last]) ↔
      endsOperand last.kind = true := by
  simp [EndWithOperand]

/- No part is awaited after an operand. -/
theorem Awaits.not_endWithOperand
    {part : Part}
    {frames : List Frame}
    {before : List Token}
    (hAwaits : Awaits part frames before) :
    ¬ EndWithOperand before := by
  induction hAwaits with
  | expr => simp [EndWithOperand]
  | firstTerm hAwaits ih => exact ih
  | firstOperand hAwaits ih => exact ih
  | addend left operator hOperator hAwaits ih =>
      rw [endWithOperand_concat]
      cases hKind : operator.kind <;>
        simp_all [endsOperand, Token.Kind.isSign,
          Token.Kind.isNumber]
  | factor left operator hOperator hAwaits ih =>
      rw [endWithOperand_concat]
      cases hKind : operator.kind <;>
        simp_all [endsOperand, Token.Kind.isFactorOperator,
          Token.Kind.isNumber]
  | signed sign hSign hAwaits ih =>
      rw [endWithOperand_concat]
      cases hKind : sign.kind <;>
        simp_all [endsOperand, Token.Kind.isSign,
          Token.Kind.isNumber]
  | bracketed opening hOpening hAwaits ih =>
      rw [endWithOperand_concat]
      simp [endsOperand, hOpening, Token.Kind.isNumber]

/- Where an operand is complete, none is due. -/
theorem IsOperandComplete.not_isOperandDue
    {tokens : List Token}
    (hComplete : IsOperandComplete tokens)
    (depth calls : Nat) :
    ¬ IsOperandDue tokens depth calls := by
  intro hDue
  rcases hDue with ⟨frames, hAwaits, _⟩
  rcases hComplete with ⟨before, _, _, _, d, rfl⟩
  exact hAwaits.not_endWithOperand (d.ends before)

------------------------------------------------------------
-- Open Brackets
------------------------------------------------------------

/- The brackets opened in tokens, less those closed. -/
def openBrackets (tokens : List Token) : Int :=
  tokens.countP (·.kind = .bracketOpen) -
    tokens.countP (·.kind = .bracketClose)

/- A bracket is open at the end of tokens. -/
def HasOpenBracket (tokens : List Token) : Prop :=
  0 < openBrackets tokens

/- The brackets of lists add up. -/
@[simp]
theorem openBrackets_append
    (before after : List Token) :
    openBrackets (before ++ after) =
      openBrackets before + openBrackets after := by
  simp only [openBrackets, List.countP_append]
  omega

/- The brackets of a first token. -/
theorem openBrackets_cons
    (t : Token)
    (tokens : List Token) :
    openBrackets (t :: tokens) =
      openBrackets [t] + openBrackets tokens :=
  openBrackets_append [t] tokens

/- A bracket that opens. -/
theorem openBrackets_opening
    {t : Token}
    (hOpening : t.kind = .bracketOpen) :
    openBrackets [t] = 1 := by
  simp [openBrackets, hOpening]

/- A bracket that closes. -/
theorem openBrackets_closing
    {t : Token}
    (hClosing : t.kind = .bracketClose) :
    openBrackets [t] = -1 := by
  simp [openBrackets, hClosing]

/- A token of another kind. -/
theorem openBrackets_other
    {t : Token}
    (hKind :
      (t.kind.isNumber || t.kind.isSign ||
        t.kind.isFactorOperator) = true) :
    openBrackets [t] = 0 := by
  cases h : t.kind <;>
    simp_all [openBrackets, Token.Kind.isNumber,
      Token.Kind.isSign, Token.Kind.isFactorOperator]

/- As many brackets are closed in a part as are opened. -/
theorem Derivation.openBrackets_tokens
    {part : Part}
    (d : Derivation part) :
    openBrackets d.tokens = 0 := by
  induction d with
  | number token hNumber =>
      exact openBrackets_other (by simp [hNumber])
  | signed sign hSign operand ih =>
      have hKind := openBrackets_other (t := sign)
        (by simp [hSign])
      rw [tokens, openBrackets_cons, hKind, ih]
      rfl
  | bracketed opening hOpening inner closing hClosing ih =>
      rw [tokens, openBrackets_cons, openBrackets_append,
        openBrackets_opening hOpening, ih,
        openBrackets_closing hClosing]
      rfl
  | term first rest ihFirst ihRest =>
      rw [tokens, openBrackets_append, ihFirst, ihRest]
      rfl
  | noFactor => rfl
  | factor operator hOperator right rest ihRight ihRest =>
      have hKind := openBrackets_other (t := operator)
        (by simp [hOperator])
      rw [tokens, openBrackets_cons, openBrackets_append,
        hKind, ihRight, ihRest]
      rfl
  | expr first rest ihFirst ihRest =>
      rw [tokens, openBrackets_append, ihFirst, ihRest]
      rfl
  | noAddend => rfl
  | addend operator hOperator right rest ihRight ihRest =>
      have hKind := openBrackets_other (t := operator)
        (by simp [hOperator])
      rw [tokens, openBrackets_cons, openBrackets_append,
        hKind, ihRight, ihRest]
      rfl

/- No more brackets are closed than opened before a part. -/
theorem Awaits.openBrackets_nonneg
    {part : Part}
    {frames : List Frame}
    {before : List Token}
    (hAwaits : Awaits part frames before) :
    0 ≤ openBrackets before := by
  induction hAwaits with
  | expr => exact Int.le_refl 0
  | firstTerm hAwaits ih => exact ih
  | firstOperand hAwaits ih => exact ih
  | addend left operator hOperator hAwaits ih =>
      have hKind := openBrackets_other (t := operator)
        (by simp [hOperator])
      have hLeft := left.openBrackets_tokens
      simp only [openBrackets_append, hKind, hLeft]
      omega
  | factor left operator hOperator hAwaits ih =>
      have hKind := openBrackets_other (t := operator)
        (by simp [hOperator])
      have hLeft := left.openBrackets_tokens
      simp only [openBrackets_append, hKind, hLeft]
      omega
  | signed sign hSign hAwaits ih =>
      have hKind := openBrackets_other (t := sign)
        (by simp [hSign])
      rw [openBrackets_append, hKind]
      omega
  | bracketed opening hOpening hAwaits ih =>
      rw [openBrackets_append,
        openBrackets_opening hOpening]
      omega

/- No bracket is open at the end of a sentence. -/
theorem Derivation.not_hasOpenBracket
    (d : Derivation .expr) :
    ¬ HasOpenBracket d.tokens := by
  unfold HasOpenBracket
  rw [d.openBrackets_tokens]
  exact Int.lt_irrefl 0

/- A bracket before an expression is still open after it. -/
theorem Awaits.hasOpenBracket
    {frames : List Frame}
    {before : List Token}
    {opening : Token}
    (hAwaits : Awaits .operand frames before)
    (hOpening : opening.kind = .bracketOpen)
    (d : Derivation .expr) :
    HasOpenBracket (before ++ [opening] ++ d.tokens) := by
  have hBefore := hAwaits.openBrackets_nonneg
  unfold HasOpenBracket
  rw [openBrackets_append, openBrackets_append,
    openBrackets_opening hOpening, d.openBrackets_tokens]
  omega

end Grammar

end Calculator
