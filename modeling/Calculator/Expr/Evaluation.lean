import Calculator.Double.Arithmetic
import Calculator.Double.Power
import Calculator.Double.Quotient
import Calculator.Expr.Fold

/-
  This file defines the value of a tree.

  Key definitions include:
    * `EvaluationError`
    * `EvaluationError.message`
    * `integerValue`
    * `unaryOperation?`
    * `binaryOperation?`
    * `Expr.evaluate`
-/

namespace Calculator

------------------------------------------------------------
-- Failures
------------------------------------------------------------

/-
  A tree has no value when it holds a foreign value or a
  token that is no operator where an operator belongs.
-/
inductive EvaluationError (α : Type) where
| malformed (cause : MalformedTree α) : EvaluationError α
| unaryOperator (kind : Token.Kind) : EvaluationError α
| binaryOperator (kind : Token.Kind) : EvaluationError α
deriving DecidableEq

namespace EvaluationError

variable {α : Type}

/- What went wrong, with a description of foreign values. -/
def message (describe : α → String) :
    EvaluationError α → String
| .malformed cause =>
    "Internal error, " ++ cause.message describe
| .unaryOperator kind =>
    "Internal error, unexpected unary operator: " ++ kind.name
| .binaryOperator kind =>
    "Internal error, unexpected binary operator: " ++
      kind.name

/- The message as it is reported. -/
def report
    (describe : α → String)
    (e : EvaluationError α) : String :=
  "[Evaluation error] " ++ e.message describe

end EvaluationError

------------------------------------------------------------
-- Operations
------------------------------------------------------------

/- Infinity of either sign as positive infinity. -/
def Double.withoutNegativeInfinity : Double → Double
| .infinite _ => .infinite false
| x => x

/-
  The value of a whole number. One that is too large in
  either direction counts as positive infinity.
-/
def integerValue (n : Int) : Double :=
  (Double.ofInt n).withoutNegativeInfinity

/- The operation of a sign. -/
def unaryOperation? : Token.Kind → Option (Double → Double)
| .plus => some id
| .minus => some Double.neg
| _ => none

/- The operation of an operator between two operands. -/
def binaryOperation? :
    Token.Kind → Option (Double → Double → Double)
| .plus => some Double.add
| .minus => some Double.sub
| .star => some Double.mul
| .slash => some Double.div
| .doubleSlash => some Double.floorDiv
| .doubleStar => some Double.power
| .percent => some Double.remainder
| _ => none

------------------------------------------------------------
-- Evaluation
------------------------------------------------------------

namespace Expr

variable {α : Type}

/- The visitor that computes the value of a tree. -/
def evaluator :
    Visitor (Except (EvaluationError α)) α Double where
  integer _ value := pure (integerValue value)
  float _ value := pure value
  unary operator _ x :=
    match unaryOperation? operator.kind with
    | some operation => pure (operation x)
    | none => throw (.unaryOperator operator.kind)
  binary _ operator _ x y :=
    match binaryOperation? operator.kind with
    | some operation => pure (operation x y)
    | none => throw (.binaryOperator operator.kind)
  foreign value := throw (.malformed ⟨value⟩)

/- The value of a tree. -/
def evaluate (tree : Expr α) :
    Except (EvaluationError α) Double :=
  tree.fold evaluator

end Expr

end Calculator
