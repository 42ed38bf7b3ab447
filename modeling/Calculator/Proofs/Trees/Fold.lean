import Calculator.Expr.Evaluation
import Calculator.Expr.Notation

/-
  This file shows that the traversal of a tree does what a
  recursion over the tree would do, in the same order, and
  what a tree is written as and evaluated to by that.

  Key definitions include:
    * `Expr.recurse`
-/

namespace Calculator

variable {m : Type → Type} {α β : Type}

------------------------------------------------------------
-- Recursion
------------------------------------------------------------

/- Visit a tree by recursion. -/
def Expr.recurse
    [Monad m]
    (v : Visitor m α β) :
    Expr α → m β
| .integer token value => v.integer token value
| .float token value => v.float token value
| .unary operator operand => do
    let x ← recurse v operand
    v.unary operator operand x
| .binary left operator right => do
    let x ← recurse v left
    let y ← recurse v right
    v.binary left operator right x y
| .foreign value => v.foreign value

/-
  A tree that is visited is visited by recursion before the
  work that is left. The induction is on the tree, for any
  work and any results at hand.
-/
theorem Work.run_visit
    [Monad m]
    [LawfulMonad m]
    (v : Visitor m α β)
    (tree : Expr α)
    {n : Nat}
    (next : Work α (n + 1))
    (results : Results β n) :
    run v (.visit tree next) results =
      (do
        let b ← tree.recurse v
        run v next (results.push b)) := by
  induction tree generalizing n with
  | integer token value =>
      rw [run, Expr.recurse]
  | float token value =>
      rw [run, Expr.recurse]
  | unary operator operand ih =>
      rw [run, ih, Expr.recurse, bind_assoc]
      congr 1
      funext x
      rw [run]
  | binary left operator right ihLeft ihRight =>
      rw [run, ihLeft, Expr.recurse, bind_assoc]
      congr 1
      funext x
      rw [ihRight, bind_assoc]
      congr 1
      funext y
      rw [run]
  | foreign value =>
      rw [run, Expr.recurse]

/- The traversal of a tree is the recursion. -/
theorem Expr.fold_eq_recurse
    [Monad m]
    [LawfulMonad m]
    (v : Visitor m α β)
    (tree : Expr α) :
    tree.fold v = tree.recurse v := by
  rw [fold, Work.run_visit]
  simp only [Work.run, bind_pure]

------------------------------------------------------------
-- Written Trees
------------------------------------------------------------

namespace Tree

/- A number is written as its token. -/
@[simp]
theorem written_integer (token : Token) (value : Int) :
    written (.integer token value) = token.text := by
  rw [written, Expr.fold_eq_recurse]
  rfl

/- A number with a point is written as its token. -/
@[simp]
theorem written_float (token : Token) (value : Double) :
    written (.float token value) = token.text := by
  rw [written, Expr.fold_eq_recurse]
  rfl

/- A sign is written before its operand, in brackets. -/
@[simp]
theorem written_unary (operator : Token) (operand : Tree) :
    written (.unary operator operand) =
      "(" ++ operator.text ++ operand.written ++ ")" := by
  simp only [written, Expr.fold_eq_recurse]
  rfl

/- An operator is written between its operands. -/
@[simp]
theorem written_binary
    (left : Tree)
    (operator : Token)
    (right : Tree) :
    written (.binary left operator right) =
      "(" ++ left.written ++ " " ++ operator.text ++ " " ++
        right.written ++ ")" := by
  simp only [written, Expr.fold_eq_recurse]
  rfl

end Tree

------------------------------------------------------------
-- Evaluated Trees
------------------------------------------------------------

namespace Expr

/- A whole number is the number nearest to it. -/
@[simp]
theorem evaluate_integer (token : Token) (value : Int) :
    evaluate (α := α) (.integer token value) =
      .ok (integerValue value) := by
  rw [evaluate, fold_eq_recurse]
  rfl

/- A number with a point is its own value. -/
@[simp]
theorem evaluate_float (token : Token) (value : Double) :
    evaluate (α := α) (.float token value) = .ok value := by
  rw [evaluate, fold_eq_recurse]
  rfl

/- A sign is applied to the value of its operand. -/
theorem evaluate_unary
    {operation : Double → Double}
    {operator : Token}
    (hOperation :
      unaryOperation? operator.kind = some operation)
    (operand : Expr α) :
    evaluate (.unary operator operand) =
      operand.evaluate.map operation := by
  rw [evaluate, evaluate, fold_eq_recurse, fold_eq_recurse,
    recurse]
  simp only [evaluator, hOperation]
  rfl

/- An operator is applied to the values of its operands. -/
theorem evaluate_binary
    {operation : Double → Double → Double}
    {operator : Token}
    (hOperation :
      binaryOperation? operator.kind = some operation)
    (left right : Expr α) :
    evaluate (.binary left operator right) =
      (do
        let x ← left.evaluate
        let y ← right.evaluate
        pure (operation x y)) := by
  simp only [evaluate, fold_eq_recurse, recurse]
  simp only [evaluator, hOperation]

end Expr

end Calculator
