import Calculator.Proofs.Trees.Fold

/-
  This file shows that a loop over two plain stacks, one of
  nodes and one of results, does what the traversal of a tree
  does. No type keeps count of the results here, but none is
  ever lacking, and a single one is left in the end.

  Key definitions include:
    * `Stacks`
    * `LoopEnd`
    * `Stacks.turn`
    * `Stacks.loop`
    * `Expr.turns`
-/

namespace Calculator

variable {α β : Type}

------------------------------------------------------------
-- The Loop
------------------------------------------------------------

/-
  Two plain stacks: the nodes that are still to be met, each
  with whether its operands have been visited, and the
  results at hand. Nothing tells how many results there are.
-/
structure Stacks (α β : Type) where
  work : List (Expr α × Bool)
  results : List β

/-
  How the loop can end: with the results that are left, or
  for want of a result. It may also be broken off.
-/
inductive LoopEnd (β : Type) where
| finished (results : List β) : LoopEnd β
| lacking : LoopEnd β
| brokenOff : LoopEnd β

namespace Stacks

variable {m : Type → Type} [Monad m]

/- Push the result of an action. -/
def push (s : Stacks α β) (action : m β) :
    m (Option (Stacks α β)) := do
  let b ← action
  return some { s with results := b :: s.results }

/-
  One turn of the loop for a node that was taken off the
  work. Nothing is left if a result is lacking.
-/
def turn (v : Visitor m α β) :
    Expr α → Bool → Stacks α β → m (Option (Stacks α β))
| .integer token value, _, s => s.push (v.integer token value)
| .float token value, _, s => s.push (v.float token value)
| .foreign value, _, s => s.push (v.foreign value)
| .unary operator operand, false, s =>
    return some
      { s with
        work :=
          (operand, false) ::
            (.unary operator operand, true) :: s.work }
| .unary operator operand, true, s =>
    match s.results with
    | x :: results =>
        push ⟨s.work, results⟩ (v.unary operator operand x)
    | [] => return none
| .binary left operator right, false, s =>
    return some
      { s with
        work :=
          (left, false) :: (right, false) ::
            (.binary left operator right, true) :: s.work }
| .binary left operator right, true, s =>
    match s.results with
    | y :: x :: results =>
        push ⟨s.work, results⟩
          (v.binary left operator right x y)
    | _ => return none

/- The loop, for a number of turns at most. -/
def loop (v : Visitor m α β) :
    Nat → Stacks α β → m (LoopEnd β)
| _, ⟨[], results⟩ => return .finished results
| 0, ⟨_ :: _, _⟩ => return .brokenOff
| n + 1, ⟨(node, visited) :: work, results⟩ => do
    match ← turn v node visited ⟨work, results⟩ with
    | some s => loop v n s
    | none => return .lacking

end Stacks

------------------------------------------------------------
-- Turns
------------------------------------------------------------

/- The turns for a tree: two for each operation. -/
def Expr.turns : Expr α → Nat
| .integer _ _ => 1
| .float _ _ => 1
| .unary _ operand => operand.turns + 2
| .binary left _ right => left.turns + right.turns + 2
| .foreign _ => 1

namespace Stacks

variable {m : Type → Type} [Monad m] [LawfulMonad m]
variable (v : Visitor m α β)

/- A result that is pushed is on top in the next turn. -/
theorem loop_push
    (n : Nat)
    (s : Stacks α β)
    (action : m β) :
    (do
      match ← s.push action with
      | some s => loop v n s
      | none => return .lacking) =
      (do
        let b ← action
        loop v n { s with results := b :: s.results }) := by
  simp only [push, bind_assoc, pure_bind]

/-
  A node that is met is visited by recursion, which leaves
  its result on top of the results at hand. The induction is
  on the tree, for any work and any results at hand.
-/
theorem loop_visit
    (tree : Expr α)
    (work : List (Expr α × Bool))
    (results : List β)
    (n : Nat) :
    loop v (tree.turns + n) ⟨(tree, false) :: work, results⟩ =
      (do
        let b ← tree.recurse v
        loop v n ⟨work, b :: results⟩) := by
  induction tree generalizing work results n with
  | integer token value =>
      rw [Expr.turns, Nat.add_comm, loop, Expr.recurse]
      exact loop_push v n _ _
  | float token value =>
      rw [Expr.turns, Nat.add_comm, loop, Expr.recurse]
      exact loop_push v n _ _
  | foreign value =>
      rw [Expr.turns, Nat.add_comm, loop, Expr.recurse]
      exact loop_push v n _ _
  | unary operator operand ih =>
      have hTurns :
          (Expr.unary operator operand).turns + n =
            operand.turns + (n + 1) + 1 := by
        rw [Expr.turns]
        omega
      rw [hTurns, loop, turn, pure_bind]
      simp only [ih, Expr.recurse, bind_assoc]
      congr 1
      funext x
      exact loop_push v n _ _
  | binary left operator right ihLeft ihRight =>
      have hTurns :
          (Expr.binary left operator right).turns + n =
            left.turns + (right.turns + (n + 1)) + 1 := by
        rw [Expr.turns]
        omega
      rw [hTurns, loop, turn, pure_bind]
      simp only [ihLeft, ihRight, Expr.recurse, bind_assoc]
      congr 1
      funext x
      congr 1
      funext y
      exact loop_push v n _ _

/-
  The loop does what the traversal does, in a number of turns
  that the tree tells.
-/
theorem loop_eq_fold
    (tree : Expr α)
    (n : Nat) :
    loop v (tree.turns + n) ⟨[(tree, false)], []⟩ =
      (do
        let b ← tree.fold v
        return .finished [b]) := by
  rw [loop_visit, tree.fold_eq_recurse]
  simp only [loop]

end Stacks

end Calculator
