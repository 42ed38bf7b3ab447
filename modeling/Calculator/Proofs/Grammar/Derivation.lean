import Calculator.Expr.Parser

/-
  This file defines the grammar of expressions, by the
  derivations of its sentences:

    expr    := term ((PLUS | MINUS) term)*
    term    := operand (factor operator operand)*
    operand := (PLUS | MINUS) operand
             | BRACKET_OPEN expr BRACKET_CLOSE
             | number

  A sentence has only one derivation.

  Key definitions include:
    * `Grammar.Part`
    * `Grammar.Derivation`
    * `Grammar.Derivation.tokens`
    * `Grammar.Derivation.depth`
    * `Grammar.Derivation.calls`
    * `Grammar.Derivation.tree`
    * `Grammar.IsSentence`
    * `Grammar.IsSentenceStart`
-/

namespace Calculator

------------------------------------------------------------
-- Number Tokens
------------------------------------------------------------

/-
  The node of a number token. A token whose text is no
  numeral, which no lexer gives, stands for no number.
-/
def Tree.ofNumber (token : Token) : Tree :=
  (Tree.ofNumber? token).getD (.float token .nan)

namespace Grammar

------------------------------------------------------------
-- Derivations
------------------------------------------------------------

/-
  The parts of a sentence. The runs of operators after the
  first term and after the first operand are parts as well.
-/
inductive Part where
| expr : Part
| addends : Part
| term : Part
| factors : Part
| operand : Part
deriving DecidableEq, Repr

/- The derivations of a part. -/
inductive Derivation : Part → Type where
| number
    (token : Token)
    (hNumber : token.kind.isNumber = true) :
    Derivation .operand
| signed
    (sign : Token)
    (hSign : sign.kind.isSign = true)
    (operand : Derivation .operand) :
    Derivation .operand
| bracketed
    (opening : Token)
    (hOpening : opening.kind = .bracketOpen)
    (inner : Derivation .expr)
    (closing : Token)
    (hClosing : closing.kind = .bracketClose) :
    Derivation .operand
| term
    (first : Derivation .operand)
    (rest : Derivation .factors) :
    Derivation .term
| noFactor : Derivation .factors
| factor
    (operator : Token)
    (hOperator : operator.kind.isFactorOperator = true)
    (right : Derivation .operand)
    (rest : Derivation .factors) :
    Derivation .factors
| expr
    (first : Derivation .term)
    (rest : Derivation .addends) :
    Derivation .expr
| noAddend : Derivation .addends
| addend
    (operator : Token)
    (hOperator : operator.kind.isSign = true)
    (right : Derivation .term)
    (rest : Derivation .addends) :
    Derivation .addends

/-
  What a derivation stands for: a tree, or for a run of
  operators the tree that the run makes of the tree before
  it.
-/
abbrev Part.Meaning : Part → Type
| .expr => Tree
| .addends => Tree → Tree
| .term => Tree
| .factors => Tree → Tree
| .operand => Tree

namespace Derivation

/- The tokens that are derived, in order. -/
def tokens : {part : Part} → Derivation part → List Token
| _, .number token _ => [token]
| _, .signed sign _ operand => sign :: operand.tokens
| _, .bracketed opening _ inner closing _ =>
    opening :: (inner.tokens ++ [closing])
| _, .term first rest => first.tokens ++ rest.tokens
| _, .noFactor => []
| _, .factor operator _ right rest =>
    operator :: (right.tokens ++ rest.tokens)
| _, .expr first rest => first.tokens ++ rest.tokens
| _, .noAddend => []
| _, .addend operator _ right rest =>
    operator :: (right.tokens ++ rest.tokens)

/-
  The depth of the nesting. Signs and brackets add a level
  to what stands in them, and a run of operators adds none,
  however long it is.
-/
def depth : {part : Part} → Derivation part → Nat
| _, .number _ _ => 1
| _, .signed _ _ operand => 1 + operand.depth
| _, .bracketed _ _ inner _ _ => 1 + inner.depth
| _, .term first rest => max first.depth rest.depth
| _, .noFactor => 0
| _, .factor _ _ right rest => max right.depth rest.depth
| _, .expr first rest => max first.depth rest.depth
| _, .noAddend => 0
| _, .addend _ _ right rest => max right.depth rest.depth

/-
  How many rules are called inside each other to read what
  is derived. An expression calls a term and a term calls an
  operand, for each part of its run anew.
-/
def calls : {part : Part} → Derivation part → Nat
| _, .number _ _ => 1
| _, .signed _ _ operand => 1 + operand.calls
| _, .bracketed _ _ inner _ _ => 1 + inner.calls
| _, .term first rest => 1 + max first.calls rest.calls
| _, .noFactor => 0
| _, .factor _ _ right rest => max right.calls rest.calls
| _, .expr first rest => 1 + max first.calls rest.calls
| _, .noAddend => 0
| _, .addend _ _ right rest => max right.calls rest.calls

/-
  The tree of a derivation. Brackets leave no node, and runs
  of operators are grouped to the left.
-/
def tree : {part : Part} → Derivation part → part.Meaning
| _, .number token _ => Tree.ofNumber token
| _, .signed sign _ operand => .unary sign operand.tree
| _, .bracketed _ _ inner _ _ => inner.tree
| _, .term first rest => rest.tree first.tree
| _, .noFactor => fun left => left
| _, .factor operator _ right rest =>
    fun left =>
      rest.tree (.binary left operator right.tree)
| _, .expr first rest => rest.tree first.tree
| _, .noAddend => fun left => left
| _, .addend operator _ right rest =>
    fun left =>
      rest.tree (.binary left operator right.tree)

end Derivation

/-
  The kinds of token that a part goes on with after any of
  its derivations.
-/
def Part.goesOnWith : Part → Token.Kind → Bool
| .expr, kind => kind.isFactorOperator || kind.isSign
| .addends, kind => kind.isFactorOperator || kind.isSign
| .term, kind => kind.isFactorOperator
| .factors, kind => kind.isFactorOperator
| .operand, _ => false

/- Tokens after a part that are no continuation of it. -/
def Part.StopsAt (part : Part) (after : List Token) : Prop :=
  ∀ token ∈ after.head?, part.goesOnWith token.kind = false

------------------------------------------------------------
-- One Derivation
------------------------------------------------------------

/- No factor operator is a sign. -/
theorem isFactorOperator_of_isSign
    {kind : Token.Kind}
    (hSign : kind.isSign = true) :
    kind.isFactorOperator = false := by
  cases kind <;> simp_all [Token.Kind.isSign,
    Token.Kind.isFactorOperator]

/- No number is a sign. -/
theorem isNumber_of_isSign
    {kind : Token.Kind}
    (hSign : kind.isSign = true) :
    kind.isNumber = false := by
  cases kind <;> simp_all [Token.Kind.isSign,
    Token.Kind.isNumber]

/- An operand is complete whatever stands after it. -/
theorem stopsAt_operand (after : List Token) :
    Part.operand.StopsAt after :=
  fun _ _ => rfl

/- What continues no run of addends continues no term. -/
theorem stopsAt_term_of_addends
    {after : List Token}
    (hStop : Part.addends.StopsAt after) :
    Part.term.StopsAt after := by
  intro token hToken
  have hKind := hStop token hToken
  simp only [Part.goesOnWith, Bool.or_eq_false_iff] at hKind
  exact hKind.1

/- A sign after a term continues no term. -/
theorem stopsAt_sign
    {operator : Token}
    (hOperator : operator.kind.isSign = true)
    {after : List Token} :
    Part.term.StopsAt (operator :: after) := by
  intro token hToken
  cases hToken
  exact isFactorOperator_of_isSign hOperator

/- A closing bracket continues no part. -/
theorem stopsAt_closing
    {part : Part}
    {closing : Token}
    {after : List Token}
    (hClosing : closing.kind = .bracketClose) :
    part.StopsAt (closing :: after) := by
  intro token hToken
  simp only [List.head?_cons, Option.mem_some_iff] at hToken
  subst hToken
  rw [hClosing]
  cases part <;> rfl

namespace Derivation

variable {part : Part}

/- A run of addends is no continuation of the term before. -/
theorem stopsAt_addends
    (d : Derivation .addends)
    {after : List Token}
    (hStop : Part.term.StopsAt after) :
    Part.term.StopsAt (d.tokens ++ after) := by
  cases d with
  | noAddend => exact hStop
  | addend operator hOperator right rest =>
      intro token hToken
      simp only [tokens, List.cons_append, List.head?_cons,
        Option.mem_some_iff] at hToken
      subst hToken
      exact isFactorOperator_of_isSign hOperator

/- An operand that starts with a number is the number. -/
theorem eq_number_of_head
    (d : Derivation .operand)
    {t : Token}
    {after ts : List Token}
    (hNumber : t.kind.isNumber = true)
    (hTokens : d.tokens ++ after = t :: ts) :
    d = .number t hNumber ∧ after = ts := by
  cases d with
  | number token hToken =>
      cases hTokens
      exact ⟨rfl, rfl⟩
  | signed sign hSign operand =>
      cases hTokens
      rw [isNumber_of_isSign hSign] at hNumber
      cases hNumber
  | bracketed opening hOpening inner closing hClosing =>
      cases hTokens
      rw [hOpening] at hNumber
      cases hNumber

/- An operand that starts with a sign has the sign. -/
theorem exists_signed_of_head
    (d : Derivation .operand)
    {t : Token}
    {after ts : List Token}
    (hSign : t.kind.isSign = true)
    (hTokens : d.tokens ++ after = t :: ts) :
    ∃ operand,
      d = .signed t hSign operand ∧
        operand.tokens ++ after = ts := by
  cases d with
  | number token hNumber =>
      cases hTokens
      rw [isNumber_of_isSign hSign] at hNumber
      cases hNumber
  | signed sign hSign' operand =>
      cases hTokens
      exact ⟨operand, rfl, rfl⟩
  | bracketed opening hOpening inner closing hClosing =>
      cases hTokens
      rw [hOpening] at hSign
      cases hSign

/- An operand that starts with a bracket is in brackets. -/
theorem exists_bracketed_of_head
    (d : Derivation .operand)
    {t : Token}
    {after ts : List Token}
    (hOpening : t.kind = .bracketOpen)
    (hTokens : d.tokens ++ after = t :: ts) :
    ∃ inner closing hClosing,
      d = .bracketed t hOpening inner closing hClosing ∧
        inner.tokens ++ closing :: after = ts := by
  cases d with
  | number token hNumber =>
      cases hTokens
      rw [hOpening] at hNumber
      cases hNumber
  | signed sign hSign operand =>
      cases hTokens
      rw [hOpening] at hSign
      cases hSign
  | bracketed opening hOpening' inner closing hClosing =>
      simp only [tokens, List.cons_append,
        List.append_assoc, List.nil_append,
        List.cons.injEq] at hTokens
      rcases hTokens with ⟨rfl, hTokens⟩
      exact ⟨inner, closing, hClosing, rfl, hTokens⟩

/- A run of factors is empty where a term stops. -/
theorem eq_noFactor_of_stop
    (d : Derivation .factors)
    {after ts : List Token}
    (hStop : Part.factors.StopsAt ts)
    (hTokens : d.tokens ++ after = ts) :
    d = .noFactor ∧ after = ts := by
  cases d with
  | noFactor => exact ⟨rfl, hTokens⟩
  | factor operator hOperator right rest =>
      cases hTokens
      have hKind : operator.kind.isFactorOperator = false :=
        hStop operator rfl
      rw [hOperator] at hKind
      cases hKind

/- A run of factors goes on with a factor operator. -/
theorem exists_factor_of_head
    (d : Derivation .factors)
    {t : Token}
    {after ts : List Token}
    (hOperator : t.kind.isFactorOperator = true)
    (hStop : Part.factors.StopsAt after)
    (hTokens : d.tokens ++ after = t :: ts) :
    ∃ right rest,
      d = .factor t hOperator right rest ∧
        right.tokens ++ (rest.tokens ++ after) = ts := by
  cases d with
  | noFactor =>
      have hAfter : after = t :: ts := hTokens
      rw [hAfter] at hStop
      have hKind : t.kind.isFactorOperator = false :=
        hStop t rfl
      rw [hOperator] at hKind
      cases hKind
  | factor operator hOperator' right rest =>
      simp only [tokens, List.cons_append,
        List.append_assoc, List.cons.injEq] at hTokens
      rcases hTokens with ⟨rfl, hTokens⟩
      exact ⟨right, rest, rfl, hTokens⟩

/- A run of addends is empty where an expression stops. -/
theorem eq_noAddend_of_stop
    (d : Derivation .addends)
    {after ts : List Token}
    (hStop : Part.addends.StopsAt ts)
    (hTokens : d.tokens ++ after = ts) :
    d = .noAddend ∧ after = ts := by
  cases d with
  | noAddend => exact ⟨rfl, hTokens⟩
  | addend operator hOperator right rest =>
      cases hTokens
      have hKind := hStop operator rfl
      simp [Part.goesOnWith, hOperator] at hKind

/- A run of addends goes on with a sign. -/
theorem exists_addend_of_head
    (d : Derivation .addends)
    {t : Token}
    {after ts : List Token}
    (hOperator : t.kind.isSign = true)
    (hStop : Part.addends.StopsAt after)
    (hTokens : d.tokens ++ after = t :: ts) :
    ∃ right rest,
      d = .addend t hOperator right rest ∧
        right.tokens ++ (rest.tokens ++ after) = ts := by
  cases d with
  | noAddend =>
      have hAfter : after = t :: ts := hTokens
      rw [hAfter] at hStop
      have hKind := hStop t rfl
      simp [Part.goesOnWith, hOperator] at hKind
  | addend operator hOperator' right rest =>
      simp only [tokens, List.cons_append,
        List.append_assoc, List.cons.injEq] at hTokens
      rcases hTokens with ⟨rfl, hTokens⟩
      exact ⟨right, rest, rfl, hTokens⟩

/-
  A derivation is determined by its tokens, whatever stands
  after them, as long as that does not continue the part. The
  first token of each part decides how the part is derived.
-/
theorem eq_of_tokens_append_eq
    (d d' : Derivation part)
    {after after' : List Token}
    (hStop : part.StopsAt after)
    (hStop' : part.StopsAt after')
    (hTokens : d'.tokens ++ after' = d.tokens ++ after) :
    d' = d ∧ after' = after := by
  induction d generalizing after after' with
  | number token hNumber =>
      exact d'.eq_number_of_head hNumber hTokens
  | signed sign hSign operand ih =>
      rcases d'.exists_signed_of_head hSign hTokens with
        ⟨operand', rfl, hOperand⟩
      rcases ih operand' hStop hStop' hOperand with
        ⟨rfl, rfl⟩
      exact ⟨rfl, rfl⟩
  | bracketed opening hOpening inner closing hClosing ih =>
      rw [tokens, List.cons_append, List.append_assoc]
        at hTokens
      rcases d'.exists_bracketed_of_head hOpening
          hTokens with
        ⟨inner', closing', hClosing', rfl, hInner⟩
      rcases ih inner' (stopsAt_closing hClosing)
          (stopsAt_closing hClosing') hInner with
        ⟨rfl, hAfter⟩
      cases hAfter
      exact ⟨rfl, rfl⟩
  | term first rest ihFirst ihRest =>
      cases d' with
      | term first' rest' =>
          simp only [tokens, List.append_assoc] at hTokens
          rcases ihFirst first' (stopsAt_operand _)
              (stopsAt_operand _) hTokens with
            ⟨rfl, hRest⟩
          rcases ihRest rest' hStop hStop' hRest with
            ⟨rfl, rfl⟩
          exact ⟨rfl, rfl⟩
  | noFactor =>
      exact d'.eq_noFactor_of_stop hStop hTokens
  | factor operator hOperator right rest ihRight ihRest =>
      rw [tokens, List.cons_append, List.append_assoc]
        at hTokens
      rcases d'.exists_factor_of_head hOperator hStop'
          hTokens with
        ⟨right', rest', rfl, hRight⟩
      rcases ihRight right' (stopsAt_operand _)
          (stopsAt_operand _) hRight with
        ⟨rfl, hRest⟩
      rcases ihRest rest' hStop hStop' hRest with
        ⟨rfl, rfl⟩
      exact ⟨rfl, rfl⟩
  | expr first rest ihFirst ihRest =>
      cases d' with
      | expr first' rest' =>
          simp only [tokens, List.append_assoc] at hTokens
          rcases ihFirst first'
              (stopsAt_addends rest
                (stopsAt_term_of_addends hStop))
              (stopsAt_addends rest'
                (stopsAt_term_of_addends hStop'))
              hTokens with
            ⟨rfl, hRest⟩
          rcases ihRest rest' hStop hStop' hRest with
            ⟨rfl, rfl⟩
          exact ⟨rfl, rfl⟩
  | noAddend =>
      exact d'.eq_noAddend_of_stop hStop hTokens
  | addend operator hOperator right rest ihRight ihRest =>
      rw [tokens, List.cons_append, List.append_assoc]
        at hTokens
      rcases d'.exists_addend_of_head hOperator hStop'
          hTokens with
        ⟨right', rest', rfl, hRight⟩
      rcases ihRight right'
          (stopsAt_addends rest
            (stopsAt_term_of_addends hStop))
          (stopsAt_addends rest'
            (stopsAt_term_of_addends hStop'))
          hRight with
        ⟨rfl, hRest⟩
      rcases ihRest rest' hStop hStop' hRest with
        ⟨rfl, rfl⟩
      exact ⟨rfl, rfl⟩

/- A sentence has one derivation. -/
theorem eq_of_tokens_eq
    {d d' : Derivation part}
    (hTokens : d.tokens = d'.tokens) :
    d = d' := by
  have hStop : part.StopsAt [] := by
    intro token hToken
    cases hToken
  exact (eq_of_tokens_append_eq d' d hStop hStop
    (congrArg (· ++ []) hTokens)).1

end Derivation

/- The tokens that an expression derives. -/
def IsSentence (tokens : List Token) : Prop :=
  ∃ d : Derivation .expr, d.tokens = tokens

/- The tokens that a sentence starts with. -/
def IsSentenceStart (tokens : List Token) : Prop :=
  ∃ rest, IsSentence (tokens ++ rest)

end Grammar

end Calculator
