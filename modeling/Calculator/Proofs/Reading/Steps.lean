import Calculator.Proofs.Grammar.Frames

/-
  This file shows what a step of a parser can do. It calls a
  rule or returns a tree without a take, or it takes a token;
  it fails to do so, comes to an end, or refuses the token
  that comes next. The count of the operands that are read
  goes up and down with the frames that are open, and the
  calls that wait are as many as these frames need.

  Key definitions include:
    * `Parser.frames`
    * `Parser.IsAround`
    * `Parser.Stands`
    * `Parser.kept`
    * `Parser.recount`
    * `Parser.Steps`
    * `Parser.Reaches`
-/

namespace Calculator

open Grammar

/-
  The faults that are found by a take: no token comes next,
  or the one that is taken is no number.
-/
def ParseFault.isOfTake : ParseFault → Bool
| .lexical _ => true
| .malformedNumber _ => true
| _ => false

namespace Parser

------------------------------------------------------------
-- Calls That Wait
------------------------------------------------------------

/- The frames that calls hold open. -/
def frames : List Pending → List Frame
| [] => []
| .expr :: stack => frames stack
| .addend left operator :: stack =>
    .addend left operator :: frames stack
| .term :: stack => frames stack
| .factor left operator :: stack =>
    .factor left operator :: frames stack
| .sign operator :: stack => .sign operator :: frames stack
| .bracket :: stack => .bracket :: frames stack

/-
  The calls that wait for a rule, the first of which is a
  call of a rule from the outside.
-/
inductive IsAround (base : Rule) :
    Rule → List Pending → Prop where
| base : IsAround base base []
| expr
    {stack : List Pending}
    (hAround : IsAround base .expr stack) :
    IsAround base .term (.expr :: stack)
| addend
    {stack : List Pending}
    (left : Tree)
    (operator : Token)
    (hAround : IsAround base .expr stack) :
    IsAround base .term (.addend left operator :: stack)
| term
    {stack : List Pending}
    (hAround : IsAround base .term stack) :
    IsAround base .operand (.term :: stack)
| factor
    {stack : List Pending}
    (left : Tree)
    (operator : Token)
    (hAround : IsAround base .term stack) :
    IsAround base .operand (.factor left operator :: stack)
| sign
    {stack : List Pending}
    (operator : Token)
    (hAround : IsAround base .operand stack) :
    IsAround base .operand (.sign operator :: stack)
| bracket
    {stack : List Pending}
    (hAround : IsAround base .operand stack) :
    IsAround base .expr (.bracket :: stack)

/- The part of the grammar that a rule reads. -/
def Rule.part : Rule → Part
| .expr => .expr
| .term => .term
| .operand => .operand

/-
  The calls that wait are those that the frames need, and
  those of the expression that the rule reads for.
-/
theorem IsAround.length_eq
    {base rule : Rule}
    {stack : List Pending}
    (hAround : IsAround base rule stack) :
    stack.length + base.part.level =
      Frame.calls (frames stack) + rule.part.level := by
  induction hAround with
  | base => simp [frames, Frame.calls]
  | expr hAround ih | term hAround ih =>
      simp only [frames, List.length_cons, Rule.part,
        Part.level] at *
      omega
  | addend left operator hAround ih
  | factor left operator hAround ih
  | sign operator hAround ih =>
      simp only [frames, List.length_cons, Rule.part,
        Part.level,
        Frame.calls_cons, Frame.rules] at *
      omega
  | bracket hAround ih =>
      simp only [frames, List.length_cons, Rule.part,
        Part.level,
        Frame.calls_cons, Frame.rules] at *
      omega

/- The frames around an expression end at a bracket. -/
theorem IsAround.opensExpr
    {stack : List Pending}
    (hAround : IsAround .expr .expr stack) :
    Frame.OpensExpr (frames stack) := by
  cases hAround with
  | base => exact Or.inl rfl
  | bracket hAround => exact Or.inr ⟨_, rfl⟩

/- The frames around a term stay open at its end. -/
theorem IsAround.opensTerm
    {stack : List Pending}
    (hAround : IsAround .expr .term stack) :
    Frame.OpensTerm (frames stack) := by
  cases hAround with
  | expr hAround => exact hAround.opensExpr.opensTerm
  | addend left operator hAround =>
      exact Frame.opensTerm_addend left operator _

/-
  A parser stands where the calls that wait fit what comes
  next: a rule that is called, or a tree that a rule returns
  since the next token does not go on with what it reads.
-/
def Stands (base : Rule) :
    Phase → List Pending → Parser → Prop
| .call rule, stack, _ => IsAround base rule stack
| .value _, stack, p =>
    ∃ rule : Rule,
      IsAround base rule stack ∧
        rule.part.goesOnWith p.lookahead.kind = false

/- An operand is returned whatever comes next. -/
theorem stands_operand
    {base : Rule}
    {stack : List Pending}
    (hAround : IsAround base .operand stack)
    (tree : Tree)
    (p : Parser) :
    Stands base (.value tree) stack p :=
  ⟨.operand, hAround, rfl⟩

------------------------------------------------------------
-- The Count of Operands
------------------------------------------------------------

/- Takes do not look at the count. -/
theorem take_enter (p : Parser) :
    p.enter.take = (p.take.1, p.take.2.enter) := by
  unfold take enter
  cases p.lexer.next with
  | mk result lexer => cases result <;> rfl

/- Nor do they change it, or the limit. -/
theorem take_keeps
    {p p' : Parser}
    {result : Except ParseError Token}
    (hTake : p.take = (result, p')) :
    p'.limit = p.limit ∧ p'.depth = p.depth := by
  unfold take at hTake
  split at hTake <;>
  · cases hTake
    exact ⟨rfl, rfl⟩

/- An operand that is entered is left again. -/
@[simp]
theorem leave_enter (p : Parser) : p.enter.leave = p := by
  simp only [enter, leave, Int.add_sub_cancel]

/-
  A parser that has counted the operands of one stack, when
  it counts those of another one.
-/
def recount (p : Parser) (stack stack' : List Pending) :
    Parser :=
  { p with
    depth :=
      p.depth - Frame.depth (frames stack) +
        Frame.depth (frames stack') }

/- As many operands are counted as before. -/
theorem eq_recount
    {stack stack' : List Pending}
    (hDepth :
      Frame.depth (frames stack') =
        Frame.depth (frames stack))
    (p : Parser) :
    p = p.recount stack stack' := by
  unfold recount
  rw [hDepth, Int.sub_add_cancel]

/- One more operand is counted. -/
theorem enter_eq_recount
    {stack stack' : List Pending}
    (hDepth :
      Frame.depth (frames stack') =
        1 + Frame.depth (frames stack))
    (p : Parser) :
    p.enter = p.recount stack stack' := by
  unfold recount enter
  rw [hDepth, Int.natCast_add]
  congr 1
  omega

/- One operand less is counted. -/
theorem leave_eq_recount
    {stack stack' : List Pending}
    (hDepth :
      Frame.depth (frames stack) =
        1 + Frame.depth (frames stack'))
    (p : Parser) :
    p.leave = p.recount stack stack' := by
  unfold recount leave
  rw [hDepth, Int.natCast_add]
  congr 1
  omega

/- Ending the calls that wait leaves their operands. -/
theorem unwind_eq_recount
    (stack : List Pending)
    (p : Parser) :
    unwind stack p = p.recount stack [] := by
  fun_induction unwind stack p with
  | case1 p => exact eq_recount rfl p
  | case2 p operator stack ih | case3 p stack ih =>
      rw [ih]
      simp only [recount, leave, frames, Frame.depth_cons,
        Frame.nesting, Int.natCast_add]
      congr 1
      omega
  | case4 p stack ih => exact ih
  | case5 p left operator stack ih =>
      rw [ih]
      simp [recount, frames, Frame.nesting]
  | case6 p stack ih => exact ih
  | case7 p left operator stack ih =>
      rw [ih]
      simp [recount, frames, Frame.nesting]

------------------------------------------------------------
-- Tokens That Are Kept
------------------------------------------------------------

/- The tokens of the tree that is returned. -/
def Phase.tokens : Phase → List Token
| .call _ => []
| .value tree => tree.tokens

/- The tokens that are kept of those read in a run so far. -/
def kept (phase : Phase) (stack : List Pending) :
    List Token :=
  Frame.kept (frames stack) ++ phase.tokens

/- A token that is no bracket is kept. -/
theorem withoutBrackets_singleton
    {t : Token}
    (hKind :
      (t.kind.isNumber || t.kind.isSign ||
        t.kind.isFactorOperator) = true) :
    Token.withoutBrackets [t] = [t] := by
  simp [Token.withoutBrackets, Grammar.isBracket_eq_false hKind]

/- And it is not the end. -/
theorem ne_eof_of_kind
    {kind : Token.Kind}
    (hKind :
      (kind.isNumber || kind.isSign ||
        kind.isFactorOperator) = true) :
    kind ≠ .eof := by
  intro hEof
  rw [hEof] at hKind
  cases hKind

/- A bracket is not the end either. -/
theorem ne_eof_of_isBracket
    {kind : Token.Kind}
    (hKind : kind.isBracket = true) :
    kind ≠ .eof := by
  intro hEof
  rw [hEof] at hKind
  cases hKind

/- The node of a number keeps its token. -/
theorem tokens_of_ofNumber?
    {t : Token}
    {tree : Tree}
    (hTree : Tree.ofNumber? t = some tree) :
    tree.tokens = [t] := by
  have hNode : Tree.ofNumber t = tree := by
    rw [Tree.ofNumber, hTree, Option.getD_some]
  rw [← hNode, Tree.tokens_ofNumber]

/- The token that is taken is the one that comes next. -/
theorem eq_lookahead_of_take
    {p p' : Parser}
    {token : Token}
    (hTake : p.take = (.ok token, p')) :
    token = p.lookahead := by
  unfold take at hTake
  split at hTake
  · cases hTake
    rfl
  · cases hTake

------------------------------------------------------------
-- Steps
------------------------------------------------------------

/- The takes in what ends a call without a tree. -/
def Abort.takes : Abort → Nat
| .error e => if e.fault.isOfTake then 1 else 0
| .overflow => 0

/-
  The takes before another phase. An operand that goes on has
  taken its first token, an operator is taken before one more
  part is called, and a bracket is closed by a token.
-/
def takesToGoOn : Phase → List Pending → Phase → Nat
| .call .operand, _, _ => 1
| .value _, _, .call _ => 1
| .value _, .bracket :: _, .value _ => 1
| _, _, _ => 0

/- The takes in a step that has some outcome. -/
def takesInStep
    (phase : Phase)
    (stack : List Pending) :
    Outcome → Nat
| .more phase' _ => takesToGoOn phase stack phase'
| .done _ => 0
| .failed cause => cause.takes

/-
  What a step can do: go on without a take, go on and keep
  the token taken, fail to take it, take what is no number,
  come to an end, refuse the token that comes next, or find
  no room for a call.
-/
inductive Steps
    (phase : Phase)
    (stack : List Pending)
    (p : Parser) :
    Outcome × Parser → Prop where
| moved
    {q : Parser}
    (phase' : Phase)
    (stack' : List Pending)
    (hCount : q = p.recount stack stack')
    (hTakes :
      takesInStep phase stack (.more phase' stack') = 0)
    (hKept : kept phase' stack' = kept phase stack)
    (hStands :
      ∀ base,
        Stands base phase stack p →
          Stands base phase' stack' p) :
    Steps phase stack p (.more phase' stack', q)
| took
    {p' q : Parser}
    (phase' : Phase)
    (stack' : List Pending)
    (hCount : q = p'.recount stack stack')
    (hTake : p.take = (.ok p.lookahead, p'))
    (hKind : p.lookahead.kind ≠ .eof)
    (hTakes :
      takesInStep phase stack (.more phase' stack') = 1)
    (hKept :
      kept phase' stack' =
        kept phase stack ++
          Token.withoutBrackets [p.lookahead])
    (hStands :
      ∀ base,
        Stands base phase stack p →
          Stands base phase' stack' p') :
    Steps phase stack p (.more phase' stack', q)
| undrawn
    {e : ParseError}
    {p' : Parser}
    (hTake : p.take = (.error e, p')) :
    Steps phase stack p (.failed (.error e), p')
| malformed
    {p' : Parser}
    (hTake : p.take = (.ok p.lookahead, p')) :
    Steps phase stack p
      (.failed
        (.error
          ⟨.malformedNumber p.lookahead.text,
            p.lookahead.position⟩), p')
| ended
    (tree : Tree)
    (hPhase : phase = .value tree)
    (hStack : stack = []) :
    Steps phase stack p (.done tree, p)
| refused
    {fault : ParseFault}
    (hFault : fault.isOfTake = false) :
    Steps phase stack p
      (.failed (.error (p.errorHere fault)), p)
| overflow : Steps phase stack p (.failed .overflow, p)

/- A shift takes a token or fails to. -/
theorem steps_shift
    {phase phase' : Phase}
    {stack stack' : List Pending}
    {p : Parser}
    (hKind : p.lookahead.kind ≠ .eof)
    (hTakes :
      takesInStep phase stack (.more phase' stack') = 1)
    (hDepth :
      Frame.depth (frames stack') =
        Frame.depth (frames stack))
    (hKept :
      kept phase' stack' =
        kept phase stack ++
          Token.withoutBrackets [p.lookahead])
    (hStands :
      ∀ base q,
        Stands base phase stack p →
          Stands base phase' stack' q) :
    p.Steps phase stack (p.shift phase' stack') := by
  unfold shift
  cases hTake : p.take with
  | mk result p' =>
      cases result with
      | error e => exact .undrawn hTake
      | ok token =>
          have hToken := eq_lookahead_of_take hTake
          subst hToken
          exact .took phase' stack' (eq_recount hDepth p')
            hTake hKind hTakes hKept fun base => hStands base p'

/- So does one in an operand, which is left if it fails. -/
theorem steps_shift_enter
    {phase phase' : Phase}
    {stack stack' : List Pending}
    {p : Parser}
    (hKind : p.lookahead.kind ≠ .eof)
    (hTakes :
      takesInStep phase stack (.more phase' stack') = 1)
    (hDepth :
      Frame.depth (frames stack') =
        1 + Frame.depth (frames stack))
    (hKept :
      kept phase' stack' =
        kept phase stack ++
          Token.withoutBrackets [p.lookahead])
    (hStands :
      ∀ base q,
        Stands base phase stack p →
          Stands base phase' stack' q) :
    p.Steps phase stack
      (leaveOnFailure (p.enter.shift phase' stack')) := by
  unfold shift
  rw [take_enter]
  cases hTake : p.take with
  | mk result p' =>
      cases result with
      | error e =>
          simp only [leaveOnFailure, leave_enter]
          exact .undrawn hTake
      | ok token =>
          have hToken := eq_lookahead_of_take hTake
          subst hToken
          exact .took phase' stack'
            (enter_eq_recount hDepth p') hTake hKind hTakes
            hKept
            fun base => hStands base p'

/- A number is taken in an operand, which is left again. -/
theorem steps_number_enter
    {stack : List Pending}
    {p : Parser}
    (hNumber : p.lookahead.kind.isNumber = true) :
    p.Steps (.call .operand) stack
      (leaveOnFailure (p.enter.openNumber stack)) := by
  unfold openNumber number
  rw [take_enter]
  cases hTake : p.take with
  | mk result p' =>
      cases result with
      | error e =>
          simp only [leaveOnFailure, leave_enter]
          exact .undrawn hTake
      | ok token =>
          have hToken := eq_lookahead_of_take hTake
          subst hToken
          cases hTree : Tree.ofNumber? p.lookahead with
          | none =>
              simp only [hTree, leaveOnFailure, leave_enter]
              exact .malformed hTake
          | some tree =>
              simp only [hTree, leaveOnFailure, leave_enter]
              refine .took (.value tree) stack
                (eq_recount rfl p') hTake
                (ne_eof_of_kind (by simp [hNumber])) rfl ?_
                fun base hAround =>
                  stands_operand hAround tree p'
              rw [withoutBrackets_singleton
                (by simp [hNumber])]
              simp [kept, Phase.tokens,
                tokens_of_ofNumber? hTree]

/- What a call of an operand does. -/
theorem steps_callOperand
    (stack : List Pending)
    (p : Parser) :
    p.Steps (.call .operand) stack (p.callOperand stack) := by
  have hLookahead : p.enter.lookahead = p.lookahead := rfl
  unfold callOperand
  split
  · exact .refused rfl
  · unfold openOperand
    rw [hLookahead]
    by_cases hSign : p.lookahead.kind.isSign = true
    · simp only [hSign, if_true]
      refine steps_shift_enter
        (ne_eof_of_kind (by simp [hSign])) rfl rfl ?_ ?_
      · rw [withoutBrackets_singleton (by simp [hSign])]
        simp [kept, frames, Frame.kept, Frame.tokens,
          Phase.tokens]
      · exact fun base q hAround => .sign p.lookahead hAround
    · by_cases hOpening : p.lookahead.kind = .bracketOpen
      · rw [if_neg hSign, if_pos hOpening]
        refine steps_shift_enter
          (ne_eof_of_isBracket (by rw [hOpening]; rfl))
          rfl rfl ?_ ?_
        · simp [kept, frames, Frame.kept, Frame.tokens,
            Phase.tokens, Token.withoutBrackets, hOpening,
            Token.Kind.isBracket]
        · exact fun base q hAround => .bracket hAround
      · by_cases hNumber : p.lookahead.kind.isNumber = true
        · simp only [hSign, hOpening, hNumber,
            Bool.false_eq_true, if_false, if_true]
          exact steps_number_enter hNumber
        · simp only [hSign, hOpening, hNumber,
            Bool.false_eq_true, if_false, leaveOnFailure,
            leave_enter]
          exact .refused rfl

/- What a call of a rule does. -/
theorem steps_stepCall
    (room : Nat)
    (rule : Rule)
    (stack : List Pending)
    (p : Parser) :
    p.Steps (.call rule) stack
      (stepCall room rule stack p) := by
  unfold stepCall
  split
  · exact .overflow
  · cases rule with
    | expr =>
        exact .moved _ _ (eq_recount rfl p) rfl rfl
          fun base hAround => .expr hAround
    | term =>
        exact .moved _ _ (eq_recount rfl p) rfl rfl
          fun base hAround => .term hAround
    | operand => exact steps_callOperand stack p

/-
  What going on with a part does. The tree so far stands for
  what the innermost call has kept, and waits in a frame of
  its own for what comes after an operator.
-/
theorem steps_goOn
    {first pending : Pending}
    {frame : Frame}
    {inner outer : Rule}
    {isOperator : Bool}
    {tree tree' : Tree}
    {stack : List Pending}
    {p : Parser}
    (hDepth :
      Frame.depth (frames (first :: stack)) =
        Frame.depth (frames stack))
    (hKept :
      kept (.value tree') stack =
        kept (.value tree) (first :: stack))
    (hAround :
      ∀ base rule,
        IsAround base rule (first :: stack) →
          rule = inner ∧ IsAround base outer stack)
    (hPending :
      ∀ base,
        IsAround base outer stack →
          IsAround base inner (pending :: stack))
    (hFrames :
      frames (pending :: stack) = frame :: frames stack)
    (hNesting : frame.nesting = 0)
    (hTokens : frame.tokens = tree'.tokens ++ [p.lookahead])
    (hOperator :
      isOperator = true →
        (p.lookahead.kind.isNumber ||
          p.lookahead.kind.isSign ||
          p.lookahead.kind.isFactorOperator) = true)
    (hGoesOn :
      outer.part.goesOnWith p.lookahead.kind =
        (inner.part.goesOnWith p.lookahead.kind ||
          isOperator)) :
    p.Steps (.value tree) (first :: stack)
      (p.goOn isOperator inner pending tree' stack) := by
  unfold goOn
  split
  · rename_i hIs
    refine steps_shift (ne_eof_of_kind (hOperator hIs)) rfl
      ?_ ?_ ?_
    · rw [hFrames, Frame.depth_cons, hNesting, hDepth,
        Nat.zero_add]
    · rw [withoutBrackets_singleton (hOperator hIs), ← hKept]
      simp [kept, hFrames, Frame.kept, hTokens, Phase.tokens]
    · rintro base _ ⟨rule, hStack, _⟩
      exact hPending base (hAround base rule hStack).2
  · rename_i hIs
    refine .moved _ _ (eq_recount hDepth.symm p) ?_ hKept ?_
    · cases first with
      | bracket =>
          -- A bracket adds to the depth, unlike what goes on.
          simp only [frames, Frame.depth_cons, Frame.nesting]
            at hDepth
          omega
      | _ => rfl
    · rintro base ⟨rule, hStack, hStop⟩
      rcases hAround base rule hStack with ⟨rfl, hOuter⟩
      refine ⟨outer, hOuter, ?_⟩
      rw [hGoesOn, hStop, Bool.false_or]
      exact Bool.eq_false_iff.mpr hIs

/- What going on with a term does. -/
theorem steps_afterOperand
    {first : Pending}
    {tree tree' : Tree}
    {stack : List Pending}
    (p : Parser)
    (hDepth :
      Frame.depth (frames (first :: stack)) =
        Frame.depth (frames stack))
    (hKept :
      kept (.value tree') stack =
        kept (.value tree) (first :: stack))
    (hAround :
      ∀ base rule,
        IsAround base rule (first :: stack) →
          rule = .operand ∧ IsAround base .term stack) :
    p.Steps (.value tree) (first :: stack)
      (p.afterOperand tree' stack) := by
  refine steps_goOn hDepth hKept hAround
    (fun base hTerm => .factor tree' p.lookahead hTerm)
    rfl rfl rfl ?_ rfl
  intro hOperator
  simp [hOperator]

/- What going on with an expression does. -/
theorem steps_afterTerm
    {first : Pending}
    {tree tree' : Tree}
    {stack : List Pending}
    (p : Parser)
    (hDepth :
      Frame.depth (frames (first :: stack)) =
        Frame.depth (frames stack))
    (hKept :
      kept (.value tree') stack =
        kept (.value tree) (first :: stack))
    (hAround :
      ∀ base rule,
        IsAround base rule (first :: stack) →
          rule = .term ∧ IsAround base .expr stack) :
    p.Steps (.value tree) (first :: stack)
      (p.afterTerm tree' stack) := by
  refine steps_goOn hDepth hKept hAround
    (fun base hExpr => .addend tree' p.lookahead hExpr)
    rfl rfl rfl ?_ rfl
  intro hSign
  simp [hSign]

/- What is kept does not change when a tree is completed. -/
theorem kept_binary
    (left right : Tree)
    (operator : Token)
    (frames' : List Frame) :
    Frame.kept frames' ++
        (Expr.binary left operator right).tokens =
      Frame.kept frames' ++ (left.tokens ++ [operator]) ++
        right.tokens := by
  simp [Expr.tokens]

/- What returning a tree does. -/
theorem steps_stepValue
    (tree : Tree)
    (stack : List Pending)
    (p : Parser) :
    p.Steps (.value tree) stack (stepValue tree stack p) := by
  cases stack with
  | nil => exact .ended tree rfl rfl
  | cons pending stack =>
      cases pending with
      | expr =>
          refine steps_afterTerm p rfl rfl ?_
          intro base rule hStack
          cases hStack with
          | expr hExpr => exact ⟨rfl, hExpr⟩
      | addend left operator =>
          refine steps_afterTerm p ?_
            (kept_binary left tree operator _) ?_
          · exact Nat.zero_add _
          · intro base rule hStack
            cases hStack with
            | addend left operator hExpr =>
                exact ⟨rfl, hExpr⟩
      | term =>
          refine steps_afterOperand p rfl rfl ?_
          intro base rule hStack
          cases hStack with
          | term hTerm => exact ⟨rfl, hTerm⟩
      | factor left operator =>
          refine steps_afterOperand p ?_
            (kept_binary left tree operator _) ?_
          · exact Nat.zero_add _
          · intro base rule hStack
            cases hStack with
            | factor left operator hTerm =>
                exact ⟨rfl, hTerm⟩
      | sign operator =>
          refine .moved _ _ (leave_eq_recount rfl p) rfl ?_ ?_
          · simp [kept, frames, Frame.kept, Frame.tokens,
              Phase.tokens, Expr.tokens]
          · rintro base ⟨rule, hStack, _⟩
            cases hStack with
            | sign operator hOperand =>
                exact stands_operand hOperand _ p
      | bracket =>
          simp only [stepValue, eat]
          by_cases hClosing :
              p.lookahead.kind = .bracketClose
          · rw [if_pos hClosing]
            cases hTake : p.take with
            | mk result p' =>
                cases result with
                | error e => exact .undrawn hTake
                | ok token =>
                    have hToken := eq_lookahead_of_take hTake
                    subst hToken
                    refine .took _ _
                      (leave_eq_recount rfl p') hTake
                      (ne_eof_of_isBracket
                        (by rw [hClosing]; rfl))
                      rfl ?_ ?_
                    · simp [kept, frames, Frame.kept,
                        Frame.tokens, Token.withoutBrackets,
                        hClosing, Token.Kind.isBracket]
                    · rintro base ⟨rule, hStack, _⟩
                      cases hStack with
                      | bracket hOperand =>
                          exact stands_operand hOperand _ p'
          · rw [if_neg hClosing]
            exact .refused rfl

/- Every step does one of these things. -/
theorem steps_step
    (room : Nat)
    (phase : Phase)
    (stack : List Pending)
    (p : Parser) :
    p.Steps phase stack (step room phase stack p) := by
  cases phase with
  | call rule => exact steps_stepCall room rule stack p
  | value tree => exact steps_stepValue tree stack p

/-
  The count of the operands goes up and down with the frames
  that are open.
-/
theorem Steps.depth_eq
    {phase phase' : Phase}
    {stack stack' : List Pending}
    {p p' : Parser}
    (hSteps : p.Steps phase stack (.more phase' stack', p')) :
    p'.depth =
      p.depth - Frame.depth (frames stack) +
        Frame.depth (frames stack') := by
  cases hSteps with
  | moved _ _ hCount => rw [hCount, recount]
  | took _ _ hCount hTake =>
      rw [hCount, recount, (take_keeps hTake).2]

/-
  What is reached while a rule is read: the call of the rule,
  and what each step goes on with.
-/
inductive Reaches
    (room : Nat)
    (rule : Rule)
    (p : Parser) :
    Phase → List Pending → Parser → Prop where
| called : Reaches room rule p (.call rule) [] p
| stepped
    {phase phase' : Phase}
    {stack stack' : List Pending}
    {q q' : Parser}
    (hReaches : Reaches room rule p phase stack q)
    (hStep :
      step room phase stack q = (.more phase' stack', q')) :
    Reaches room rule p phase' stack' q'

/-
  While a rule is read, the operands are counted of all the
  frames that are open, and no others. The induction is on
  the steps.
-/
theorem Reaches.depth_eq
    {room : Nat}
    {rule : Rule}
    {phase : Phase}
    {stack : List Pending}
    {p q : Parser}
    (hReaches : p.Reaches room rule phase stack q) :
    q.depth = p.depth + Frame.depth (frames stack) := by
  induction hReaches with
  | called => exact (Int.add_zero p.depth).symm
  | @stepped phase phase' stack stack' q q' hReaches hStep
      ih =>
      have hSteps := q.steps_step room phase stack
      rw [hStep] at hSteps
      rw [hSteps.depth_eq, ih, Int.add_sub_cancel]

end Parser

end Calculator
