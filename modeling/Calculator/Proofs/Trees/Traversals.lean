import Calculator.Proofs.Trees.Stacks

/-
  This file shows which callbacks the traversal of a tree
  calls, in which order and with which results, and where it
  stops when one of them fails.

  Key definitions include:
    * `Expr.subtrees`
    * `Visit`
    * `Callback`
    * `Callback.visitor`
    * `Visits`
    * `Stops`
    * `ComesTo`
-/

namespace Calculator

variable {ε α β : Type}

------------------------------------------------------------
-- Callbacks
------------------------------------------------------------

namespace Expr

/-
  The nodes of a tree and the foreign values in it, each
  after all that is below it, left before right.
-/
def subtrees : Expr α → List (Expr α)
| .integer token value => [.integer token value]
| .float token value => [.float token value]
| .unary operator operand =>
    operand.subtrees ++ [.unary operator operand]
| .binary left operator right =>
    left.subtrees ++ right.subtrees ++
      [.binary left operator right]
| .foreign value => [.foreign value]

/- Whether a foreign value stands in the place of a node. -/
def isForeign : Expr α → Bool
| .foreign _ => true
| _ => false

end Expr

/- A call for a node, with the results of its operands. -/
structure Visit (α β : Type) where
  node : Expr α
  operands : List β

/-
  Callbacks that may fail. What they answer may depend on all
  the calls before.
-/
abbrev Callback (ε α β : Type) : Type :=
  List (Visit α β) → Visit α β → Except ε β

namespace Callback

variable (f : Callback ε α β)
variable (malformed : MalformedTree α → ε)

/- Record a call, and give the answer to it. -/
def call (visit : Visit α β) :
    ExceptT ε (StateM (List (Visit α β))) β := do
  let before ← get
  set (before ++ [visit])
  ExceptT.mk (pure (f before visit))

/-
  The visitor that calls callbacks. There is none for a
  foreign value, which is a failure.
-/
def visitor :
    Visitor (ExceptT ε (StateM (List (Visit α β)))) α β where
  integer token value := f.call ⟨.integer token value, []⟩
  float token value := f.call ⟨.float token value, []⟩
  unary operator operand x :=
    f.call ⟨.unary operator operand, [x]⟩
  binary left operator right x y :=
    f.call ⟨.binary left operator right, [x, y]⟩
  foreign value := throw (malformed ⟨value⟩)

/- What a traversal gives, and all calls after it. -/
def traverse
    (before : List (Visit α β))
    (tree : Expr α) :
    Except ε β × List (Visit α β) :=
  Id.run ((tree.fold (f.visitor malformed)).run.run before)

end Callback

------------------------------------------------------------
-- Calls in Order
------------------------------------------------------------

/-
  The calls that are made for a tree after other calls, and
  what they come to. The callback of a node is called after
  those of its operands, with their results, and the first
  failure is what all comes to.
-/
inductive Visits
    (f : Callback ε α β)
    (malformed : MalformedTree α → ε) :
    List (Visit α β) → Expr α → List (Visit α β) →
      Except ε β → Prop where
| integer
    (before : List (Visit α β))
    (token : Token)
    (value : Int) :
    Visits f malformed before (.integer token value)
      [⟨.integer token value, []⟩]
      (f before ⟨.integer token value, []⟩)
| float
    (before : List (Visit α β))
    (token : Token)
    (value : Double) :
    Visits f malformed before (.float token value)
      [⟨.float token value, []⟩]
      (f before ⟨.float token value, []⟩)
| foreign
    (before : List (Visit α β))
    (value : α) :
    Visits f malformed before (.foreign value) []
      (.error (malformed ⟨value⟩))
| unary
    {before calls : List (Visit α β)}
    {operand : Expr α}
    {x : β}
    (operator : Token)
    (hOperand :
      Visits f malformed before operand calls (.ok x)) :
    Visits f malformed before (.unary operator operand)
      (calls ++ [⟨.unary operator operand, [x]⟩])
      (f (before ++ calls) ⟨.unary operator operand, [x]⟩)
| unaryStopped
    {before calls : List (Visit α β)}
    {operand : Expr α}
    {e : ε}
    (operator : Token)
    (hOperand :
      Visits f malformed before operand calls (.error e)) :
    Visits f malformed before (.unary operator operand)
      calls (.error e)
| binary
    {before calls calls' : List (Visit α β)}
    {left right : Expr α}
    {x y : β}
    (operator : Token)
    (hLeft : Visits f malformed before left calls (.ok x))
    (hRight :
      Visits f malformed (before ++ calls) right calls'
        (.ok y)) :
    Visits f malformed before (.binary left operator right)
      (calls ++ calls' ++
        [⟨.binary left operator right, [x, y]⟩])
      (f (before ++ (calls ++ calls'))
        ⟨.binary left operator right, [x, y]⟩)
| leftStopped
    {before calls : List (Visit α β)}
    {left : Expr α}
    {e : ε}
    (operator : Token)
    (right : Expr α)
    (hLeft :
      Visits f malformed before left calls (.error e)) :
    Visits f malformed before (.binary left operator right)
      calls (.error e)
| rightStopped
    {before calls calls' : List (Visit α β)}
    {left right : Expr α}
    {x : β}
    {e : ε}
    (operator : Token)
    (hLeft : Visits f malformed before left calls (.ok x))
    (hRight :
      Visits f malformed (before ++ calls) right calls'
        (.error e)) :
    Visits f malformed before (.binary left operator right)
      (calls ++ calls') (.error e)

/- All calls after others are answered with a result. -/
def Callback.Answers (f : Callback ε α β) :
    List (Visit α β) → List (Visit α β) → Prop
| _, [] => True
| before, visit :: later =>
    (∃ x, f before visit = .ok x) ∧
      f.Answers (before ++ [visit]) later

/-
  Where the traversal of a tree stops with a failure: at a
  foreign value, or at a node for which the callback fails.
  The callbacks of all nodes before are called, and answer.
-/
inductive Stops
    (f : Callback ε α β)
    (malformed : MalformedTree α → ε)
    (before : List (Visit α β))
    (tree : Expr α)
    (calls : List (Visit α β))
    (e : ε) : Prop where
| atForeign
    {value : α}
    {later : List (Expr α)}
    (hTree :
      tree.subtrees =
        calls.map Visit.node ++ .foreign value :: later)
    (hAnswers : f.Answers before calls)
    (hError : e = malformed ⟨value⟩)
| atCall
    {earlier : List (Visit α β)}
    {visit : Visit α β}
    {later : List (Expr α)}
    (hTree :
      tree.subtrees =
        earlier.map Visit.node ++ visit.node :: later)
    (hCalls : calls = earlier ++ [visit])
    (hAnswers : f.Answers before earlier)
    (hError : f (before ++ earlier) visit = .error e)

/-
  What the calls for a tree come to. With a result, all nodes
  have been called for, and with a failure those up to it.
-/
def ComesTo
    (f : Callback ε α β)
    (malformed : MalformedTree α → ε)
    (before : List (Visit α β))
    (tree : Expr α)
    (calls : List (Visit α β)) :
    Except ε β → Prop
| .ok _ =>
    calls.map Visit.node = tree.subtrees ∧
      f.Answers before calls
| .error e => Stops f malformed before tree calls e

------------------------------------------------------------
-- The Calls of a Traversal
------------------------------------------------------------

namespace Callback

variable (f : Callback ε α β)
variable (malformed : MalformedTree α → ε)

/- What follows a result goes on from the calls so far. -/
theorem run_bind_ok
    {γ : Type}
    {action : ExceptT ε (StateM (List (Visit α β))) γ}
    {before after : List (Visit α β)}
    {x : γ}
    (hAction : action.run.run before = (.ok x, after))
    (next : γ → ExceptT ε (StateM (List (Visit α β))) β) :
    (action >>= next).run.run before =
      (next x).run.run after := by
  simp only [ExceptT.run_bind, StateT.run_bind, hAction]
  rfl

/- What follows a failure is not done. -/
theorem run_bind_error
    {γ : Type}
    {action : ExceptT ε (StateM (List (Visit α β))) γ}
    {before after : List (Visit α β)}
    {e : ε}
    (hAction : action.run.run before = (.error e, after))
    (next : γ → ExceptT ε (StateM (List (Visit α β))) β) :
    (action >>= next).run.run before = (.error e, after) := by
  simp only [ExceptT.run_bind, StateT.run_bind, hAction]
  rfl

/-
  The recursion over a tree makes the calls of the tree. The
  induction is on the tree, after any calls.
-/
theorem exists_visits_of_recurse
    (tree : Expr α)
    (before : List (Visit α β)) :
    ∃ calls outcome,
      (tree.recurse (f.visitor malformed)).run.run before =
          (outcome, before ++ calls) ∧
        Visits f malformed before tree calls outcome := by
  induction tree generalizing before with
  | integer token value =>
      exact ⟨_, _, rfl, .integer before token value⟩
  | float token value =>
      exact ⟨_, _, rfl, .float before token value⟩
  | foreign value =>
      refine ⟨[], _, ?_, .foreign before value⟩
      rw [List.append_nil]
      rfl
  | unary operator operand ih =>
      rcases ih before with ⟨calls, outcome, hRun, hVisits⟩
      rw [Expr.recurse]
      cases outcome with
      | error e =>
          exact ⟨calls, _, run_bind_error hRun _,
            .unaryStopped operator hVisits⟩
      | ok x =>
          refine ⟨_, _, ?_, .unary operator hVisits⟩
          rw [run_bind_ok hRun, ← List.append_assoc]
          rfl
  | binary left operator right ihLeft ihRight =>
      rcases ihLeft before with ⟨calls, outcome, hRun, hLeft⟩
      rw [Expr.recurse]
      cases outcome with
      | error e =>
          exact ⟨calls, _, run_bind_error hRun _,
            .leftStopped operator right hLeft⟩
      | ok x =>
          rw [run_bind_ok hRun]
          rcases ihRight (before ++ calls) with
            ⟨calls', outcome', hRun', hRight⟩
          rw [List.append_assoc] at hRun'
          cases outcome' with
          | error e =>
              exact ⟨calls ++ calls', _,
                run_bind_error hRun' _,
                .rightStopped operator hLeft hRight⟩
          | ok y =>
              refine ⟨_, _, ?_,
                .binary operator hLeft hRight⟩
              rw [run_bind_ok hRun',
                ← List.append_assoc before (calls ++ calls')]
              rfl

/- All of two runs of calls are answered if both are. -/
theorem Answers.append
    {f : Callback ε α β}
    {before calls calls' : List (Visit α β)}
    (hCalls : f.Answers before calls)
    (hCalls' : f.Answers (before ++ calls) calls') :
    f.Answers before (calls ++ calls') := by
  induction calls generalizing before with
  | nil =>
      rw [List.append_nil] at hCalls'
      exact hCalls'
  | cons visit calls ih =>
      refine ⟨hCalls.1, ih hCalls.2 ?_⟩
      rwa [List.append_assoc, List.singleton_append]

end Callback

namespace Visits

variable {f : Callback ε α β}
variable {malformed : MalformedTree α → ε}
variable {before calls : List (Visit α β)}
variable {tree : Expr α}
variable {outcome : Except ε β}

/- No callback is called for a foreign value. -/
theorem not_isForeign
    (hVisits :
      Visits f malformed before tree calls outcome) :
    ∀ visit ∈ calls, visit.node.isForeign = false := by
  induction hVisits with
  | integer => simp [Expr.isForeign]
  | float => simp [Expr.isForeign]
  | foreign => simp
  | unary operator hOperand ih =>
      rw [List.forall_mem_append]
      exact ⟨ih, by simp [Expr.isForeign]⟩
  | unaryStopped operator hOperand ih => exact ih
  | binary operator hLeft hRight ihLeft ihRight =>
      rw [List.forall_mem_append, List.forall_mem_append]
      exact ⟨⟨ihLeft, ihRight⟩, by simp [Expr.isForeign]⟩
  | leftStopped operator right hLeft ih => exact ih
  | rightStopped operator hLeft hRight ihLeft ihRight =>
      rw [List.forall_mem_append]
      exact ⟨ihLeft, ihRight⟩

/- The call for a node comes last, and may be a failure. -/
theorem comesTo_own
    {visit : Visit α β}
    (hTree :
      tree.subtrees = calls.map Visit.node ++ [visit.node])
    (hAnswers : f.Answers before calls) :
    ComesTo f malformed before tree (calls ++ [visit])
      (f (before ++ calls) visit) := by
  cases hOwn : f (before ++ calls) visit with
  | error e => exact .atCall hTree rfl hAnswers hOwn
  | ok x =>
      refine ⟨?_, hAnswers.append ⟨⟨x, hOwn⟩, trivial⟩⟩
      rw [hTree, List.map_append]
      rfl

/- For a node without operands there is one call. -/
theorem comesTo_leaf
    {visit : Visit α β}
    (hTree : tree.subtrees = [visit.node]) :
    ComesTo f malformed before tree [visit]
      (f before visit) := by
  have hOwn : ComesTo f malformed before tree ([] ++ [visit])
      (f (before ++ []) visit) :=
    comesTo_own hTree trivial
  rwa [List.append_nil] at hOwn

/-
  Where the traversal of a part stops, that of the whole tree
  does, if all nodes before the part have been called for.
-/
theorem stops_within
    {part : Expr α}
    {done : List (Visit α β)}
    {rest : List (Expr α)}
    {e : ε}
    (hStops : Stops f malformed (before ++ done) part calls e)
    (hTree :
      tree.subtrees =
        done.map Visit.node ++ (part.subtrees ++ rest))
    (hDone : f.Answers before done) :
    Stops f malformed before tree (done ++ calls) e := by
  cases hStops with
  | @atForeign value later hPart hAnswers hError =>
      have hTree' :
          tree.subtrees =
            (done ++ calls).map Visit.node ++
              .foreign value :: (later ++ rest) := by
        rw [hTree, hPart, List.map_append]
        simp only [List.append_assoc, List.cons_append]
      exact .atForeign hTree' (hDone.append hAnswers) hError
  | @atCall earlier visit later hPart hCalls hAnswers
      hError =>
      have hTree' :
          tree.subtrees =
            (done ++ earlier).map Visit.node ++
              visit.node :: (later ++ rest) := by
        rw [hTree, hPart, List.map_append]
        simp only [List.append_assoc, List.cons_append]
      refine .atCall hTree' ?_ (hDone.append hAnswers) ?_
      · rw [hCalls, List.append_assoc]
      · rwa [← List.append_assoc]

/- So it is with the part that is visited first. -/
theorem stops_first
    {part : Expr α}
    {rest : List (Expr α)}
    {e : ε}
    (hStops : Stops f malformed before part calls e)
    (hTree : tree.subtrees = part.subtrees ++ rest) :
    Stops f malformed before tree calls e := by
  rw [← List.append_nil before] at hStops
  exact stops_within hStops hTree trivial

/-
  The calls for a tree come to a result when all nodes have
  been called for, and to a failure where the first one is.
  The induction is on the calls of the operands.
-/
theorem comesTo
    (hVisits :
      Visits f malformed before tree calls outcome) :
    ComesTo f malformed before tree calls outcome := by
  induction hVisits with
  | integer before token value => exact comesTo_leaf rfl
  | float before token value => exact comesTo_leaf rfl
  | foreign before value =>
      exact .atForeign (List.nil_append [_]).symm trivial rfl
  | unary operator hOperand ih =>
      apply comesTo_own _ ih.2
      rw [ih.1]
      rfl
  | unaryStopped operator hOperand ih =>
      exact stops_first ih rfl
  | binary operator hLeft hRight ihLeft ihRight =>
      apply comesTo_own _ (ihLeft.2.append ihRight.2)
      rw [List.map_append, ihLeft.1, ihRight.1]
      rfl
  | leftStopped operator right hLeft ih =>
      exact stops_first ih (List.append_assoc ..)
  | @rightStopped before calls calls' left right x e operator
      hLeft hRight ihLeft ihRight =>
      have hTree :
          (Expr.binary left operator right).subtrees =
            left.subtrees ++
              (right.subtrees ++
                [.binary left operator right]) :=
        List.append_assoc ..
      rw [← ihLeft.1] at hTree
      exact stops_within ihRight hTree ihLeft.2

end Visits

------------------------------------------------------------
-- Traversals
------------------------------------------------------------

/-
  The traversal of a tree is the recursion, whatever effects
  and failures its visitor has, and so is the loop over two
  plain stacks, which takes a number of turns that the tree
  tells, lacks no result, and ends with a single one. The
  callback of each node is called once, after those of its
  operands and with their results, left before right. The
  first failure, of a callback or at a foreign value, is what
  the traversal comes to, with all calls before and none
  after it.
-/
theorem fold_visits_in_postorder (tree : Expr α) :
    (∀ (m : Type → Type) [Monad m] [LawfulMonad m]
        (v : Visitor m α β),
      tree.fold v = tree.recurse v ∧
        ∀ n,
          Stacks.loop v (tree.turns + n)
              ⟨[(tree, false)], []⟩ =
            (do
              let b ← tree.fold v
              return .finished [b])) ∧
      ∀ (f : Callback ε α β)
        (malformed : MalformedTree α → ε)
        (before : List (Visit α β)),
        ∃ calls outcome,
          f.traverse malformed before tree =
              (outcome, before ++ calls) ∧
            Visits f malformed before tree calls outcome ∧
            (∀ visit ∈ calls,
              visit.node.isForeign = false) ∧
            ComesTo f malformed before tree calls outcome := by
  refine ⟨?_, ?_⟩
  · intro m _ _ v
    exact ⟨tree.fold_eq_recurse v,
      Stacks.loop_eq_fold v tree⟩
  · intro f malformed before
    rcases f.exists_visits_of_recurse malformed tree before
      with ⟨calls, outcome, hRun, hVisits⟩
    refine ⟨calls, outcome, ?_, hVisits,
      hVisits.not_isForeign, hVisits.comesTo⟩
    rw [Callback.traverse, tree.fold_eq_recurse, hRun]
    rfl

/- A sum with a foreign value below its second operand. -/
def Expr.halfMade : Expr Nat :=
  .binary
    (.integer ⟨.integer, "1", 0⟩ 1)
    ⟨.plus, "+", 2⟩
    (.unary ⟨.minus, "-", 4⟩ (.foreign 7))

/- Callbacks that count the calls before them. -/
def Callback.counting :
    Callback (MalformedTree Nat) Nat Nat :=
  fun before _ => .ok before.length

/-
  The callbacks of the sign and of the sum are not called,
  and the loop comes to the same failure.
-/
theorem fold_visits_in_postorder_stopped :
    (∀ n,
      Stacks.loop (Expr.writer Except.error)
          (Expr.halfMade.turns + n)
          ⟨[(Expr.halfMade, false)], []⟩ =
        .error 7) ∧
      ∃ calls,
        Callback.counting.traverse id [] Expr.halfMade =
            (.error ⟨7⟩, calls) ∧
          calls = [⟨.integer ⟨.integer, "1", 0⟩ 1, []⟩] ∧
          Visits Callback.counting id [] Expr.halfMade calls
            (.error ⟨7⟩) := by
  constructor
  · intro n
    rcases (fold_visits_in_postorder (ε := Nat)
        Expr.halfMade).1 (Except Nat)
        (Expr.writer Except.error) with ⟨hFold, hLoop⟩
    rw [hLoop, hFold]
    rfl
  · rcases (fold_visits_in_postorder Expr.halfMade).2
        Callback.counting id [] with
      ⟨calls, outcome, hTraverse, hVisits, _⟩
    have hRun :
        Callback.counting.traverse id [] Expr.halfMade =
          (.error ⟨7⟩,
            [⟨.integer ⟨.integer, "1", 0⟩ 1, []⟩]) := by
      rw [Callback.traverse, Expr.fold_eq_recurse]
      rfl
    rw [hRun] at hTraverse
    cases hTraverse
    exact ⟨_, hRun, rfl, hVisits⟩

end Calculator
