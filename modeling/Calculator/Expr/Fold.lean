import Calculator.Expr.Basic

/-
  This file defines the traversal of a tree from the leaves
  to the root, left before right. A chain of operations makes
  a tree as deep as the chain is long, so the traversal keeps
  the work that is left in a list instead of recursing.

  Key definitions include:
    * `Visitor`
    * `Results`
    * `Work`
    * `Work.run`
    * `Expr.fold`
    * `Expr.postorder`
-/

namespace Calculator

------------------------------------------------------------
-- Visitors
------------------------------------------------------------

/-
  What a traversal does at each kind of node, given the node
  and the results of its operands.
-/
structure Visitor
    (m : Type → Type)
    (α β : Type) where
  integer : Token → Int → m β
  float : Token → Double → m β
  unary : Token → Expr α → β → m β
  binary : Expr α → Token → Expr α → β → β → m β
  foreign : α → m β

------------------------------------------------------------
-- Work and Results
------------------------------------------------------------

/- The results at hand, the last one on top. -/
inductive Results (β : Type) : Nat → Type where
| empty : Results β 0
| push {n : Nat} (rest : Results β n) (top : β) :
    Results β (n + 1)

/-
  The work that is left of a traversal when `n` results are
  at hand: trees to visit, and operations whose operands have
  been visited. Finished work leaves one result, and work is
  never begun with too few results.
-/
inductive Work (α : Type) : Nat → Type where
| finished : Work α 1
| visit {n : Nat}
    (tree : Expr α)
    (next : Work α (n + 1)) : Work α n
| unary {n : Nat}
    (operator : Token)
    (operand : Expr α)
    (next : Work α (n + 1)) : Work α (n + 1)
| binary {n : Nat}
    (left : Expr α)
    (operator : Token)
    (right : Expr α)
    (next : Work α (n + 1)) : Work α (n + 2)

namespace Work

variable {m : Type → Type} {α β : Type}

/-
  A bound on the steps that work takes: each operation is
  met twice, before and after its operands.
-/
def steps {n : Nat} : Work α n → Nat
| .finished => 0
| .visit tree next => 2 * tree.size + next.steps
| .unary _ _ next => next.steps + 1
| .binary _ _ _ next => next.steps + 1

/- Do the work that is left. -/
def run
    [Monad m]
    (v : Visitor m α β) :
    {n : Nat} → Work α n → Results β n → m β
| _, .finished, .push _ top => pure top
| _, .visit (.integer token value) next, results => do
    let b ← v.integer token value
    run v next (results.push b)
| _, .visit (.float token value) next, results => do
    let b ← v.float token value
    run v next (results.push b)
| _, .visit (.unary operator operand) next, results =>
    run v (.visit operand (.unary operator operand next))
      results
| _, .visit (.binary left operator right) next, results =>
    run v
      (.visit left
        (.visit right (.binary left operator right next)))
      results
| _, .visit (.foreign value) next, results => do
    let b ← v.foreign value
    run v next (results.push b)
| _, .unary operator operand next, .push results x => do
    let b ← v.unary operator operand x
    run v next (results.push b)
| _, .binary left operator right next,
    .push (.push results x) y => do
    let b ← v.binary left operator right x y
    run v next (results.push b)
termination_by _ work => work.steps
decreasing_by
  all_goals simp only [steps, Expr.size]
  all_goals omega

end Work

------------------------------------------------------------
-- Traversals
------------------------------------------------------------

namespace Expr

variable {m : Type → Type} {α β : Type}

/- Visit a tree from the leaves to the root. -/
def fold
    [Monad m]
    (v : Visitor m α β)
    (tree : Expr α) : m β :=
  Work.run v (.visit tree .finished) .empty

/- The visitor that notes every node that it comes to. -/
def recorder :
    Visitor
      (StateT (List (Expr α)) (Except (MalformedTree α)))
      α Unit where
  integer token value :=
    modify fun nodes => .integer token value :: nodes
  float token value :=
    modify fun nodes => .float token value :: nodes
  unary operator operand _ :=
    modify fun nodes => .unary operator operand :: nodes
  binary left operator right _ _ :=
    modify fun nodes => .binary left operator right :: nodes
  foreign value := throw ⟨value⟩

/-
  The nodes of a tree in the order of the traversal. There
  are none if a foreign value stands in the tree.
-/
def postorder (tree : Expr α) :
    Except (MalformedTree α) (List (Expr α)) :=
  ((tree.fold recorder).run []).map
    fun result => result.2.reverse

end Expr

end Calculator
