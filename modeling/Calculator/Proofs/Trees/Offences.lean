import Calculator.Proofs.Trees.Traversals

/-
  This file shows which trees have a value and which can be
  written, and what is found wrong with any other: the first
  of its nodes that offends, in the order of the traversal.
  An operation is looked at only after both its operands.

  Key definitions include:
    * `failureOf`
    * `Visitor.FailsBy`
    * `Expr.offence?`
    * `Expr.foreignValue?`
    * `Expr.bare`
-/

namespace Calculator

variable {ε α β γ : Type}

------------------------------------------------------------
-- First Failures
------------------------------------------------------------

/- The failure that an outcome is, if it is one. -/
def failureOf : Except ε β → Option ε
| .ok _ => none
| .error e => some e

/- An outcome without a failure is a result. -/
theorem failureOf_eq_none_iff {outcome : Except ε β} :
    failureOf outcome = none ↔ ∃ x, outcome = .ok x := by
  cases outcome <;> simp [failureOf]

/- An outcome with a failure is that failure. -/
theorem failureOf_eq_some_iff
    {outcome : Except ε β}
    {e : ε} :
    failureOf outcome = some e ↔ outcome = .error e := by
  cases outcome <;> simp [failureOf]

/-
  A failure comes before whatever would follow. After a
  result, what follows may fail, in the same way for every
  result.
-/
theorem failureOf_bind
    {outcome : Except ε γ}
    {next : γ → Except ε β}
    {later : Option ε}
    (hNext : ∀ x, failureOf (next x) = later) :
    failureOf (outcome >>= next) =
      (failureOf outcome).or later := by
  cases outcome with
  | error e => rfl
  | ok x =>
      rw [show (Except.ok x >>= next) = next x from rfl,
        hNext]
      rfl

/-
  A visitor fails by what offends in a node: the failure at a
  node depends on the node alone, not on the results of its
  operands.
-/
structure Visitor.FailsBy
    (v : Visitor (Except ε) α β)
    (offence : Expr α → Option ε) : Prop where
  integer :
    ∀ token value,
      failureOf (v.integer token value) =
        offence (.integer token value)
  float :
    ∀ token value,
      failureOf (v.float token value) =
        offence (.float token value)
  unary :
    ∀ operator operand x,
      failureOf (v.unary operator operand x) =
        offence (.unary operator operand)
  binary :
    ∀ left operator right x y,
      failureOf (v.binary left operator right x y) =
        offence (.binary left operator right)
  foreign :
    ∀ value,
      failureOf (v.foreign value) = offence (.foreign value)

/-
  The traversal of a tree fails at the first of its nodes
  that offends. The induction is on the tree, whose nodes are
  those of its operands and then the node itself.
-/
theorem Visitor.FailsBy.failureOf_fold
    {v : Visitor (Except ε) α β}
    {offence : Expr α → Option ε}
    (hFails : v.FailsBy offence)
    (tree : Expr α) :
    failureOf (tree.fold v) =
      tree.subtrees.findSome? offence := by
  rw [Expr.fold_eq_recurse]
  induction tree with
  | integer token value =>
      rw [Expr.recurse, hFails.integer, Expr.subtrees,
        List.findSome?_singleton]
  | float token value =>
      rw [Expr.recurse, hFails.float, Expr.subtrees,
        List.findSome?_singleton]
  | unary operator operand ih =>
      rw [Expr.recurse,
        failureOf_bind (hFails.unary operator operand), ih,
        Expr.subtrees, List.findSome?_append,
        List.findSome?_singleton]
  | binary left operator right ihLeft ihRight =>
      have hOwn :=
        hFails.binary left operator right
      rw [Expr.recurse,
        failureOf_bind fun x => failureOf_bind (hOwn x),
        ihLeft, ihRight, Expr.subtrees,
        List.findSome?_append, List.findSome?_append,
        List.findSome?_singleton, Option.or_assoc]
  | foreign value =>
      rw [Expr.recurse, hFails.foreign, Expr.subtrees,
        List.findSome?_singleton]

------------------------------------------------------------
-- What Offends in a Tree
------------------------------------------------------------

namespace Expr

/-
  What keeps a tree from having a value at one of its nodes:
  a foreign value in its place, a token that is no sign
  before its operand, or one that is none of the seven
  operators between its operands.
-/
def offence? : Expr α → Option (EvaluationError α)
| .integer _ _ => none
| .float _ _ => none
| .unary operator _ =>
    if operator.kind ∈ [.plus, .minus] then
      none
    else
      some (.unaryOperator operator.kind)
| .binary _ operator _ =>
    if operator.kind ∈
        [.plus, .minus, .star, .slash, .doubleSlash,
          .doubleStar, .percent] then
      none
    else
      some (.binaryOperator operator.kind)
| .foreign value => some (.malformed ⟨value⟩)

/- The foreign value that stands in the place of a node. -/
def foreignValue? : Expr α → Option (MalformedTree α)
| .foreign value => some ⟨value⟩
| _ => none

/-
  What offends is malformed exactly where a foreign value
  stands.
-/
theorem malformed_iff_isForeign
    {node : Expr α}
    {e : EvaluationError α}
    (hOffence : node.offence? = some e) :
    (∃ cause, e = .malformed cause) ↔
      node.isForeign = true := by
  cases node with
  | integer token value => cases hOffence
  | float token value => cases hOffence
  | unary operator operand =>
      simp only [offence?] at hOffence
      split at hOffence <;> cases hOffence
      simp [isForeign]
  | binary left operator right =>
      simp only [offence?] at hOffence
      split at hOffence <;> cases hOffence
      simp [isForeign]
  | foreign value =>
      cases hOffence
      simp [isForeign]

/- A node is foreign if it has a foreign value. -/
theorem foreignValue?_eq_none_iff {node : Expr α} :
    node.foreignValue? = none ↔ node.isForeign = false := by
  cases node <;> simp [foreignValue?, isForeign]

/- The computation of values fails by what offends. -/
theorem evaluator_failsBy :
    evaluator.FailsBy (offence? (α := α)) := by
  constructor
  case integer => exact fun _ _ => rfl
  case float => exact fun _ _ => rfl
  case foreign => exact fun _ => rfl
  case unary =>
      intro operator operand x
      simp only [evaluator, offence?]
      cases operator.kind <;> rfl
  case binary =>
      intro left operator right x y
      simp only [evaluator, offence?]
      cases operator.kind <;> rfl

/- Writing fails by foreign values alone. -/
theorem writer_failsBy :
    (writer (m := Except (MalformedTree α))
        fun value => throw ⟨value⟩).FailsBy
      foreignValue? := by
  constructor
  case integer => exact fun _ _ => rfl
  case float => exact fun _ _ => rfl
  case foreign => exact fun _ => rfl
  case unary => exact fun _ _ _ => rfl
  case binary => exact fun _ _ _ _ _ => rfl

------------------------------------------------------------
-- What a Value Depends On
------------------------------------------------------------

/-
  A tree without its tokens: only the kinds of operators are
  left of them.
-/
def bare : Expr α → Expr α
| .integer _ value => .integer ⟨.eof, "", 0⟩ value
| .float _ value => .float ⟨.eof, "", 0⟩ value
| .unary operator operand =>
    .unary ⟨operator.kind, "", 0⟩ operand.bare
| .binary left operator right =>
    .binary left.bare ⟨operator.kind, "", 0⟩ right.bare
| .foreign value => .foreign value

/- A tree has the value that it has without its tokens. -/
theorem evaluate_bare (tree : Expr α) :
    tree.bare.evaluate = tree.evaluate := by
  simp only [evaluate, fold_eq_recurse]
  induction tree with
  | integer token value => rfl
  | float token value => rfl
  | unary operator operand ih =>
      rw [bare, recurse, ih]
      rfl
  | binary left operator right ihLeft ihRight =>
      rw [bare, recurse, ihLeft, ihRight]
      rfl
  | foreign value => rfl

------------------------------------------------------------
-- Trees Made by Hand
------------------------------------------------------------

/-
  A tree that is put together by hand has a value if none of
  its nodes offends. If some do, the first of them in the
  order of the traversal is what fails, because of a foreign
  value if it is one. The value depends only on the values of
  the numbers, the kinds of the operators, and the shape. The
  tree can be written if no foreign value is in it, whatever
  the kinds of its operators are, and otherwise the first one
  is what fails.
-/
theorem evaluate_fails_at_first_offence (tree : Expr α) :
    ((∃ x, tree.evaluate = .ok x) ↔
      ∀ node ∈ tree.subtrees, node.offence? = none) ∧
      (∀ e,
        tree.evaluate = .error e ↔
          ∃ before node after,
            tree.subtrees = before ++ node :: after ∧
              (node.offence? = some e ∧
                ((∃ cause, e = .malformed cause) ↔
                  node.isForeign = true)) ∧
              ∀ n ∈ before, n.offence? = none) ∧
      (∀ tree' : Expr α,
        tree'.bare = tree.bare →
          tree'.evaluate = tree.evaluate) ∧
      ((∃ text, tree.written? = .ok text) ↔
        ∀ node ∈ tree.subtrees, node.isForeign = false) ∧
      ∀ e,
        tree.written? = .error e ↔
          ∃ before value after,
            tree.subtrees =
                before ++ .foreign value :: after ∧
              e = ⟨value⟩ ∧
              ∀ n ∈ before, n.isForeign = false := by
  have hEvaluate :
      failureOf tree.evaluate =
        tree.subtrees.findSome? offence? :=
    evaluator_failsBy.failureOf_fold tree
  have hWritten :
      failureOf tree.written? =
        tree.subtrees.findSome? foreignValue? :=
    writer_failsBy.failureOf_fold tree
  refine ⟨?_, ?_, ?_, ?_, ?_⟩
  · rw [← failureOf_eq_none_iff, hEvaluate,
      List.findSome?_eq_none_iff]
  · intro e
    rw [← failureOf_eq_some_iff, hEvaluate,
      List.findSome?_eq_some_iff]
    constructor
    · rintro ⟨before, node, after, hTree, hOwn, hBefore⟩
      exact ⟨before, node, after, hTree,
        ⟨hOwn, malformed_iff_isForeign hOwn⟩, hBefore⟩
    · rintro ⟨before, node, after, hTree, ⟨hOwn, _⟩, hBefore⟩
      exact ⟨before, node, after, hTree, hOwn, hBefore⟩
  · intro tree' hBare
    rw [← evaluate_bare tree', hBare, evaluate_bare]
  · rw [← failureOf_eq_none_iff, hWritten,
      List.findSome?_eq_none_iff]
    exact forall₂_congr fun _ _ => foreignValue?_eq_none_iff
  · intro e
    rw [← failureOf_eq_some_iff, hWritten,
      List.findSome?_eq_some_iff]
    constructor
    · rintro ⟨before, node, after, hTree, hOwn, hBefore⟩
      cases node with
      | foreign value =>
          cases hOwn
          exact ⟨before, value, after, hTree, rfl,
            fun n hn =>
              foreignValue?_eq_none_iff.mp (hBefore n hn)⟩
      | _ => cases hOwn
    · rintro ⟨before, value, after, hTree, rfl, hBefore⟩
      exact ⟨before, .foreign value, after, hTree, rfl,
        fun n hn =>
          foreignValue?_eq_none_iff.mpr (hBefore n hn)⟩

/-
  A quotient with a comma for its operator, of a number with
  a star before it and a foreign value.
-/
def misshapen : Expr Nat :=
  .binary
    (.unary ⟨.star, "*", 0⟩ (.integer ⟨.float, "x", 1⟩ 2))
    ⟨.eof, ",", 2⟩
    (.foreign 7)

/-
  The star is the first to offend, before the foreign value,
  which is the first that cannot be written.
-/
theorem evaluate_fails_at_first_offence_star :
    misshapen.evaluate = .error (.unaryOperator .star) ∧
      misshapen.written? = .error ⟨7⟩ ∧
      evaluate
          (.binary
            (.unary ⟨.star, "times", 9⟩
              (.integer ⟨.plus, "two", 5⟩ 2))
            ⟨.eof, "by", 1⟩
            (.foreign 7)) =
        misshapen.evaluate := by
  rcases evaluate_fails_at_first_offence misshapen with
    ⟨_, hEvaluate, hBare, _, hWritten⟩
  refine ⟨?_, ?_, ?_⟩
  · apply (hEvaluate _).mpr
    refine ⟨[.integer ⟨.float, "x", 1⟩ 2], _, _, rfl,
      ⟨rfl, ?_⟩, ?_⟩
    · simp [isForeign]
    · simp [offence?]
  · apply (hWritten _).mpr
    refine ⟨[.integer ⟨.float, "x", 1⟩ 2,
        .unary ⟨.star, "*", 0⟩
          (.integer ⟨.float, "x", 1⟩ 2)],
      7, _, rfl, rfl, ?_⟩
    simp [isForeign]
  · exact hBare _ rfl

end Expr

end Calculator
