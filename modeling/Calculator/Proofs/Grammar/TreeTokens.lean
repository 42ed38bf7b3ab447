import Calculator.Proofs.Grammar.Derivation

/-
  This file relates the tokens that a tree keeps to the
  tokens that the tree is derived from: all but the brackets
  are kept, in order.

  Key definitions include:
    * `Expr.tokens`
    * `Token.Kind.isBracket`
    * `Grammar.Part.Keeps`
-/

namespace Calculator

------------------------------------------------------------
-- The Tokens of a Tree
------------------------------------------------------------

namespace Expr

variable {α : Type}

/- The tokens of a tree from left to right. -/
def tokens : Expr α → List Token
| .integer token _ => [token]
| .float token _ => [token]
| .unary operator operand => operator :: operand.tokens
| .binary left operator right =>
    left.tokens ++ operator :: right.tokens
| .foreign _ => []

end Expr

/- The kinds of the two brackets. -/
def Token.Kind.isBracket : Token.Kind → Bool
| .bracketOpen => true
| .bracketClose => true
| _ => false

/- The tokens that are no brackets. -/
def Token.withoutBrackets (tokens : List Token) :
    List Token :=
  tokens.filter fun token => !token.kind.isBracket

/- A token that is a number keeps itself as a tree. -/
@[simp]
theorem Tree.tokens_ofNumber (token : Token) :
    (Tree.ofNumber token).tokens = [token] := by
  unfold Tree.ofNumber Tree.ofNumber?
  cases Numeral.ofText? token.text with
  | none => rfl
  | some numeral =>
      simp only [Option.map_some, Option.getD_some]
      split <;> rfl

------------------------------------------------------------
-- The Tokens of a Derivation
------------------------------------------------------------

namespace Grammar

/-
  The meaning of a part keeps tokens: as those of its tree,
  or after those of the tree that stands before a run.
-/
def Part.Keeps :
    (part : Part) → part.Meaning → List Token → Prop
| .expr, tree, kept => tree.tokens = kept
| .addends, run, kept =>
    ∀ left, (run left).tokens = left.tokens ++ kept
| .term, tree, kept => tree.tokens = kept
| .factors, run, kept =>
    ∀ left, (run left).tokens = left.tokens ++ kept
| .operand, tree, kept => tree.tokens = kept

/- The kinds of numbers and operators are no brackets. -/
theorem isBracket_eq_false
    {kind : Token.Kind}
    (hKind :
      (kind.isNumber || kind.isSign ||
        kind.isFactorOperator) = true) :
    kind.isBracket = false := by
  cases kind <;> simp_all [Token.Kind.isNumber,
    Token.Kind.isSign, Token.Kind.isFactorOperator,
    Token.Kind.isBracket]

namespace Derivation

/- A derivation keeps all tokens but the brackets. -/
theorem keeps_tokens
    {part : Part}
    (d : Derivation part) :
    part.Keeps d.tree (Token.withoutBrackets d.tokens) := by
  unfold Token.withoutBrackets
  induction d with
  | number token hNumber =>
      have hKept : token.kind.isBracket = false :=
        isBracket_eq_false (by simp [hNumber])
      simp [Part.Keeps, tree, tokens, hKept,
        Tree.tokens_ofNumber]
  | signed sign hSign operand ih =>
      have hKept : sign.kind.isBracket = false :=
        isBracket_eq_false (by simp [hSign])
      simp only [Part.Keeps] at ih
      simp [Part.Keeps, tree, tokens, hKept, Expr.tokens, ih]
  | bracketed opening hOpening inner closing hClosing ih =>
      simp only [Part.Keeps] at ih
      simp [Part.Keeps, tree, tokens, hOpening, hClosing,
        Token.Kind.isBracket, ih]
  | term first rest ihFirst ihRest =>
      simp only [Part.Keeps] at ihFirst ihRest
      simp [Part.Keeps, tree, tokens, ihFirst, ihRest]
  | noFactor => simp [Part.Keeps, tree, tokens]
  | factor operator hOperator right rest ihRight ihRest =>
      have hKept : operator.kind.isBracket = false :=
        isBracket_eq_false (by simp [hOperator])
      simp only [Part.Keeps] at ihRight ihRest
      simp [Part.Keeps, tree, tokens, hKept, Expr.tokens,
        ihRight, ihRest]
  | expr first rest ihFirst ihRest =>
      simp only [Part.Keeps] at ihFirst ihRest
      simp [Part.Keeps, tree, tokens, ihFirst, ihRest]
  | noAddend => simp [Part.Keeps, tree, tokens]
  | addend operator hOperator right rest ihRight ihRest =>
      have hKept : operator.kind.isBracket = false :=
        isBracket_eq_false (by simp [hOperator])
      simp only [Part.Keeps] at ihRight ihRest
      simp [Part.Keeps, tree, tokens, hKept, Expr.tokens,
        ihRight, ihRest]

end Derivation

end Grammar

end Calculator
