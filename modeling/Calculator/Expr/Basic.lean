import Calculator.Double.Basic
import Calculator.Token.Basic

/-
  This file defines expression trees. Every node keeps the
  token that it was made from.

  Key definitions include:
    * `Expr`
    * `Tree`
    * `Expr.size`
    * `MalformedTree`
-/

namespace Calculator

/-
  An expression tree. A tree that is put together by hand
  may hold a value of type `α` where a node belongs.
-/
inductive Expr (α : Type) where
| integer (token : Token) (value : Int) : Expr α
| float (token : Token) (value : Double) : Expr α
| unary (operator : Token) (operand : Expr α) : Expr α
| binary
    (left : Expr α)
    (operator : Token)
    (right : Expr α) : Expr α
| foreign (value : α) : Expr α
deriving DecidableEq

/- A tree of nodes only. -/
abbrev Tree : Type :=
  Expr Empty

namespace Expr

variable {α : Type}

/- The number of nodes and foreign values in a tree. -/
def size : Expr α → Nat
| .integer _ _ => 1
| .float _ _ => 1
| .unary _ operand => operand.size + 1
| .binary left _ right => left.size + right.size + 1
| .foreign _ => 1

end Expr

/- A foreign value was found where a node belongs. -/
structure MalformedTree (α : Type) where
  value : α
deriving DecidableEq

namespace MalformedTree

variable {α : Type}

/- What went wrong, with a description of the value. -/
def message
    (describe : α → String)
    (e : MalformedTree α) : String :=
  "Unexpected expression type: " ++ describe e.value

end MalformedTree

end Calculator
