import Calculator.Proofs.Lexing.Locality
import Calculator.Proofs.Trees.Written

/-
  This file shows that the places of tokens make no
  difference: tokens that are like those of a derivation are
  derived in the same way, as a tree with the same value.

  Key definitions include:
    * `Grammar.Part.MeansAlike`
    * `Grammar.Derivation.IsAlike`
-/

namespace Calculator

/- The value of a tree is that of the unplaced tree. -/
theorem Expr.evaluate_unplaced
    {α : Type}
    (tree : Expr α) :
    tree.unplaced.evaluate = tree.evaluate := by
  simp only [evaluate, fold_eq_recurse]
  induction tree with
  | integer token value => rfl
  | float token value => rfl
  | unary operator operand ih =>
      rw [unplaced, recurse, ih]
      rfl
  | binary left operator right ihLeft ihRight =>
      rw [unplaced, recurse, ihLeft, ihRight]
      rfl
  | foreign value => rfl

namespace Grammar

/-
  Meanings that are the same but for the places of tokens.
  Runs are, if they make such trees of such trees.
-/
def Part.MeansAlike :
    (part : Part) → part.Meaning → part.Meaning → Prop
| .expr, tree, tree' => tree.unplaced = tree'.unplaced
| .addends, run, run' =>
    ∀ left left' : Tree,
      left.unplaced = left'.unplaced →
        (run left).unplaced = (run' left').unplaced
| .term, tree, tree' => tree.unplaced = tree'.unplaced
| .factors, run, run' =>
    ∀ left left' : Tree,
      left.unplaced = left'.unplaced →
        (run left).unplaced = (run' left').unplaced
| .operand, tree, tree' => tree.unplaced = tree'.unplaced

/-
  Derivations that are the same but for the places of tokens:
  they nest as much, and their meanings are alike.
-/
structure Derivation.IsAlike
    {part : Part}
    (d' d : Derivation part) : Prop where
  depth : d'.depth = d.depth
  calls : d'.calls = d.calls
  tree : part.MeansAlike d'.tree d.tree

/-
  Tokens like those of a derivation have a derivation like
  it. The induction is on the derivation.
-/
theorem Derivation.exists_alike
    {part : Part}
    (d : Derivation part)
    {tokens : List Token}
    (hAlike : Token.AreAlike tokens d.tokens) :
    ∃ d' : Derivation part,
      d'.tokens = tokens ∧ d'.IsAlike d := by
  induction d generalizing tokens with
  | number token hNumber =>
      rcases hAlike.exists_cons with
        ⟨place, tokens', rfl, hRest⟩
      cases List.map_eq_nil_iff.mp hRest
      exact ⟨.number (token.movedTo place) hNumber, rfl, rfl,
        rfl, Tree.unplaced_ofNumber_movedTo token place⟩
  | signed sign hSign operand ih =>
      rcases hAlike.exists_cons with
        ⟨place, tokens', rfl, hRest⟩
      rcases ih hRest with ⟨operand', rfl, hOperand⟩
      exact ⟨.signed (sign.movedTo place) hSign operand',
        rfl, congrArg (1 + ·) hOperand.depth,
        congrArg (1 + ·) hOperand.calls,
        congrArg (Expr.unary (sign.movedTo 0))
          hOperand.tree⟩
  | bracketed opening hOpening inner closing hClosing ih =>
      rcases hAlike.exists_cons with
        ⟨place, tokens', rfl, hRest⟩
      rcases hRest.exists_append with
        ⟨inside, tokens', rfl, hInside, hLast⟩
      rcases hLast.exists_cons with
        ⟨place', tokens', rfl, hNil⟩
      cases List.map_eq_nil_iff.mp hNil
      rcases ih hInside with ⟨inner', rfl, hInner⟩
      exact ⟨.bracketed (opening.movedTo place) hOpening
          inner' (closing.movedTo place') hClosing,
        rfl, congrArg (1 + ·) hInner.depth,
        congrArg (1 + ·) hInner.calls, hInner.tree⟩
  | term first rest ihFirst ihRest =>
      rcases hAlike.exists_append with
        ⟨ts, us, rfl, hLeft, hRight⟩
      rcases ihFirst hLeft with ⟨first', rfl, hFirst⟩
      rcases ihRest hRight with ⟨rest', rfl, hRest⟩
      exact ⟨.term first' rest', rfl,
        by simp only [depth, hFirst.depth, hRest.depth],
        by simp only [calls, hFirst.calls, hRest.calls],
        hRest.tree first'.tree first.tree hFirst.tree⟩
  | noFactor =>
      cases List.map_eq_nil_iff.mp hAlike
      exact ⟨.noFactor, rfl, rfl, rfl,
        fun _ _ hLeft => hLeft⟩
  | factor operator hOperator right rest ihRight ihRest =>
      rcases hAlike.exists_cons with
        ⟨place, tokens', rfl, hOthers⟩
      rcases hOthers.exists_append with
        ⟨ts, us, rfl, hNext, hLast⟩
      rcases ihRight hNext with ⟨right', rfl, hRight⟩
      rcases ihRest hLast with ⟨rest', rfl, hRest⟩
      refine ⟨.factor (operator.movedTo place) hOperator
          right' rest', rfl,
        by simp only [depth, hRight.depth, hRest.depth],
        by simp only [calls, hRight.calls, hRest.calls], ?_⟩
      intro left left' hLeft
      apply hRest.tree
      have hTree := hRight.tree
      simp only [Part.MeansAlike] at hTree
      simp only [Expr.unplaced, hLeft, hTree]
      rfl
  | expr first rest ihFirst ihRest =>
      rcases hAlike.exists_append with
        ⟨ts, us, rfl, hLeft, hRight⟩
      rcases ihFirst hLeft with ⟨first', rfl, hFirst⟩
      rcases ihRest hRight with ⟨rest', rfl, hRest⟩
      exact ⟨.expr first' rest', rfl,
        by simp only [depth, hFirst.depth, hRest.depth],
        by simp only [calls, hFirst.calls, hRest.calls],
        hRest.tree first'.tree first.tree hFirst.tree⟩
  | noAddend =>
      cases List.map_eq_nil_iff.mp hAlike
      exact ⟨.noAddend, rfl, rfl, rfl,
        fun _ _ hLeft => hLeft⟩
  | addend operator hOperator right rest ihRight ihRest =>
      rcases hAlike.exists_cons with
        ⟨place, tokens', rfl, hOthers⟩
      rcases hOthers.exists_append with
        ⟨ts, us, rfl, hNext, hLast⟩
      rcases ihRight hNext with ⟨right', rfl, hRight⟩
      rcases ihRest hLast with ⟨rest', rfl, hRest⟩
      refine ⟨.addend (operator.movedTo place) hOperator
          right' rest', rfl,
        by simp only [depth, hRight.depth, hRest.depth],
        by simp only [calls, hRight.calls, hRest.calls], ?_⟩
      intro left left' hLeft
      apply hRest.tree
      have hTree := hRight.tree
      simp only [Part.MeansAlike] at hTree
      simp only [Expr.unplaced, hLeft, hTree]
      rfl

end Grammar

end Calculator
