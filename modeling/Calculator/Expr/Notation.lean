import Calculator.Expr.Fold

/-
  This file defines how a tree is written: every operation in
  brackets, so that the text shows how operands are grouped.

  Key definitions include:
    * `Expr.writer`
    * `Expr.written?`
    * `Tree.written`
-/

namespace Calculator

namespace Expr

variable {m : Type → Type} {α : Type}

/-
  The visitor that writes a tree: a number as its token, a
  sign before its operand, and an operator between its
  operands with a space on each side.
-/
def writer
    [Monad m]
    (foreign : α → m String) :
    Visitor m α String where
  integer token _ := pure token.text
  float token _ := pure token.text
  unary operator _ x :=
    pure ("(" ++ operator.text ++ x ++ ")")
  binary _ operator _ x y :=
    pure ("(" ++ x ++ " " ++ operator.text ++ " " ++ y ++ ")")
  foreign := foreign

/- A tree as it is written, unless it holds a foreign value. -/
def written? (tree : Expr α) :
    Except (MalformedTree α) String :=
  tree.fold (writer fun value => throw ⟨value⟩)

end Expr

namespace Tree

/- A tree of nodes as it is written. -/
def written (tree : Tree) : String :=
  Id.run (Expr.fold (Expr.writer Empty.elim) tree)

end Tree

end Calculator
