import Calculator.Proofs.Lexing.Draws
import Calculator.Proofs.Reading.Machine
import Calculator.Proofs.Reading.Steps

/-
  This file shows that what a parser does depends only on
  the tokens that are drawn, on the failure that may end the
  draws, and on the bounds of the nesting. The parser does
  what the machine does: the calls that wait hold the frames
  that are open, and the operands that are counted are the
  depth of these frames.

  Key definitions include:
    * `Parser.upcoming`
    * `Parser.reading`
    * `Parser.outcomeFrom`
    * `Parser.conclude`
-/

namespace Calculator

open Grammar

/- A spelled number token has a node. -/
theorem Tree.ofNumber?_of_isSpelled
    {t : Token}
    (hSpelled : t.IsSpelled)
    (hNumber : t.kind.isNumber = true) :
    Tree.ofNumber? t = some (Tree.ofNumber t) := by
  cases hSpelled with
  | numeral n hNumeral hKind hText =>
      have hRead : Numeral.ofText? t.text = some n := by
        rw [hText]
        exact Numeral.ofText?_chars hNumeral
      simp only [Tree.ofNumber, Tree.ofNumber?, hRead,
        Option.map_some, Option.getD_some]
  | symbol chars hSymbol hText =>
      unfold Lexer.symbol? at hSymbol
      split at hSymbol <;>
        simp only [Option.some.injEq, Prod.mk.injEq,
          reduceCtorEq] at hSymbol <;>
        rw [← hSymbol.1] at hNumber <;> cases hNumber

namespace Parser

------------------------------------------------------------
-- Upcoming Tokens
------------------------------------------------------------

/- The tokens that a parser has before it. -/
def upcoming (p : Parser) : Draws :=
  if p.lookahead.kind = .eof then
    ⟨[], .ok p.lookahead⟩
  else
    p.lexer.draws.cons p.lookahead

/- What is taken is the first of the upcoming tokens. -/
theorem upcoming_of_take_ok
    {p p' : Parser}
    {t : Token}
    (hTake : p.take = (.ok t, p'))
    (hKind : p.lookahead.kind ≠ .eof) :
    p.upcoming = p'.upcoming.cons p.lookahead := by
  unfold take at hTake
  cases hNext : p.lexer.next with
  | mk result lexer =>
      cases result with
      | error e =>
          rw [hNext] at hTake
          cases hTake
      | ok next =>
          rw [hNext] at hTake
          cases hTake
          simp only [upcoming, hKind, if_false]
          by_cases hEof : next.kind = .eof
          · rw [Lexer.draws_of_eof hNext hEof]
            simp only [hEof, if_true]
          · rw [Lexer.draws_of_token hNext hEof]
            simp only [hEof, if_false]

/- A token that cannot be taken is the last that is drawn. -/
theorem upcoming_of_take_error
    {p p' : Parser}
    {e : ParseError}
    (hTake : p.take = (.error e, p'))
    (hKind : p.lookahead.kind ≠ .eof) :
    ∃ x, e = .ofLexError x ∧
      p.upcoming = ⟨[p.lookahead], .error x⟩ := by
  unfold take at hTake
  cases hNext : p.lexer.next with
  | mk result lexer =>
      cases result with
      | error x =>
          rw [hNext] at hTake
          cases hTake
          refine ⟨x, rfl, ?_⟩
          simp only [upcoming, hKind, if_false]
          rw [Lexer.draws_of_error hNext]
          rfl
      | ok next =>
          rw [hNext] at hTake
          cases hTake

/- All upcoming tokens are spelled as lexers spell them. -/
def IsSpelled (p : Parser) : Prop :=
  ∀ t ∈ p.upcoming.tokens, t.IsSpelled

/- They are so after a take. -/
theorem IsSpelled.take
    {p p' : Parser}
    {t : Token}
    (hSpelled : p.IsSpelled)
    (hTake : p.take = (.ok t, p'))
    (hKind : p.lookahead.kind ≠ .eof) :
    p'.IsSpelled := by
  intro u hu
  apply hSpelled
  rw [upcoming_of_take_ok hTake hKind]
  exact List.mem_cons_of_mem _ hu

/- A number that comes next has a node. -/
theorem IsSpelled.ofNumber?_lookahead
    {p : Parser}
    (hSpelled : p.IsSpelled)
    (hNumber : p.lookahead.kind.isNumber = true) :
    Tree.ofNumber? p.lookahead =
      some (Tree.ofNumber p.lookahead) := by
  apply Tree.ofNumber?_of_isSpelled _ hNumber
  apply hSpelled
  have hKind : p.lookahead.kind ≠ .eof := by
    intro hEof
    rw [hEof] at hNumber
    cases hNumber
  simp [upcoming, hKind, Draws.cons]

------------------------------------------------------------
-- The State of a Parser
------------------------------------------------------------

/- The state of the machine in a phase. -/
def reading : Phase → List Pending → Reading
| .call _, stack => ⟨.due, frames stack⟩
| .value tree, stack => ⟨.read tree, frames stack⟩

/- What the machine comes to on the upcoming tokens. -/
def outcomeFrom (machine : Stack) (p : Parser) (s : Reading) :
    Except ParseError Tree :=
  s.outcome ⟨p.limit, machine⟩ p.upcoming.ending
    p.upcoming.tokens

/- The first of the upcoming tokens is the one to look at. -/
theorem outcomeFrom_eq
    (machine : Stack)
    (p : Parser)
    (s : Reading) :
    p.outcomeFrom machine s =
      if s.IsTooDeep ⟨p.limit, machine⟩ then
        .error
          (p.errorHere (s.depthFault ⟨p.limit, machine⟩))
      else
        match s.next? p.lookahead with
        | some s' =>
            match p.take with
            | (.ok _, p') => p'.outcomeFrom machine s'
            | (.error e, _) => .error e
        | none => s.stop p.lookahead := by
  by_cases hKind : p.lookahead.kind = .eof
  · have hUpcoming : p.upcoming = ⟨[], .ok p.lookahead⟩ := by
      simp only [upcoming, hKind, if_true]
    simp only [outcomeFrom, hUpcoming, Reading.outcome,
      Reading.next?_eof s hKind, errorHere]
  · cases hTake : p.take with
    | mk result p' =>
        cases result with
        | ok t =>
            have hRest := upcoming_of_take_ok hTake hKind
            have hLimit := (take_keeps hTake).1
            simp only [outcomeFrom, hRest, hLimit]
            rfl
        | error e =>
            rcases upcoming_of_take_error hTake hKind with
              ⟨x, hError, hUpcoming⟩
            simp only [outcomeFrom, hUpcoming, hError]
            rfl

------------------------------------------------------------
-- Steps and Moves
------------------------------------------------------------

/-
  What a parse makes of the end of an expression, or of what
  keeps it from being read.
-/
def conclude :
    Except Abort Tree × Parser → Except ParseError Tree
| (.ok tree, p) =>
    if p.lookahead.kind = .eof then
      .ok tree
    else
      .error (p.errorHere (.trailing p.lookahead.kind))
| (.error (.error e), _) => .error e
| (.error .overflow, p) => .error (p.errorHere .overflow)

/- A parse is a run and its conclusion. -/
theorem parse_eq_conclude (room : Nat) (p : Parser) :
    (p.parse room).1 = conclude (p.read room .expr) := by
  unfold parse
  cases p.read room .expr with
  | mk result p' =>
      cases result with
      | ok tree =>
          simp only [conclude]
          split <;> rfl
      | error cause => cases cause <;> rfl

/- Ending the calls that wait changes no conclusion. -/
theorem conclude_unwind
    (cause : Abort)
    (stack : List Pending)
    (p : Parser) :
    conclude (.error cause, unwind stack p) =
      conclude (.error cause, p) := by
  rw [unwind_eq_recount]
  cases cause <;> rfl

/- What a step comes to. -/
def concludeStep (machine : Stack) :
    Outcome × Parser → Except ParseError Tree
| (.more phase stack, p) =>
    p.outcomeFrom machine (reading phase stack)
| (.done tree, p) => conclude (.ok tree, p)
| (.failed cause, p) => conclude (.error cause, p)

section

variable {machine : Stack}
variable {p : Parser}

/- A shift is a move of the machine. -/
theorem concludeStep_shift
    {s : Reading}
    {phase : Phase}
    {stack : List Pending}
    (hDeep : ¬ s.IsTooDeep ⟨p.limit, machine⟩)
    (hNext : s.next? p.lookahead = some (reading phase stack)) :
    concludeStep machine (p.shift phase stack) =
      p.outcomeFrom machine s := by
  rw [outcomeFrom_eq, if_neg hDeep, hNext]
  unfold shift
  cases p.take with
  | mk result p' => cases result <;> rfl

/- So is one in an operand that is entered. -/
theorem concludeStep_shift_enter
    (phase : Phase)
    (stack : List Pending) :
    concludeStep machine
        (leaveOnFailure (p.enter.shift phase stack)) =
      concludeStep machine (p.shift phase stack) := by
  unfold shift
  rw [take_enter]
  cases p.take with
  | mk result p' => cases result <;> rfl

/- To take a number is to shift it. -/
theorem concludeStep_number_enter
    (hNode :
      Tree.ofNumber? p.lookahead =
        some (Tree.ofNumber p.lookahead))
    (stack : List Pending) :
    concludeStep machine
        (leaveOnFailure (p.enter.openNumber stack)) =
      concludeStep machine
        (p.shift (.value (Tree.ofNumber p.lookahead))
          stack) := by
  unfold openNumber number shift
  rw [take_enter]
  cases hTake : p.take with
  | mk result p' =>
      cases result with
      | error e => rfl
      | ok token =>
          have hToken := eq_lookahead_of_take hTake
          subst hToken
          simp only [hNode]
          rfl

/-
  A call of an operand looks at the limit, and then moves as
  the machine does where an operand is due.
-/
theorem concludeStep_callOperand
    {stack : List Pending}
    (hRoom : stack.length < machine.room)
    (hLength :
      stack.length = Frame.calls (frames stack) + 2)
    (hDepth : p.depth = Frame.depth (frames stack))
    (hSpelled : p.IsSpelled) :
    concludeStep machine (p.callOperand stack) =
      p.outcomeFrom machine ⟨.due, frames stack⟩ := by
  have hCalls :
      (Frame.need (frames stack)).calls ≤ machine.room := by
    simp only [Frame.need]
    omega
  have hLookahead : p.enter.lookahead = p.lookahead := rfl
  unfold callOperand
  by_cases hLimit : p.limit ≤ p.depth
  · have hDeep :
        Reading.IsTooDeep ⟨p.limit, machine⟩
          ⟨.due, frames stack⟩ := by
      intro hAllow
      have hLess := hAllow.depth
      simp only [Frame.need] at hLess
      omega
    rw [if_pos hLimit, outcomeFrom_eq, if_pos hDeep,
      Reading.depthFault, if_pos hCalls]
    rfl
  · have hDeep :
        ¬ Reading.IsTooDeep ⟨p.limit, machine⟩
          ⟨.due, frames stack⟩ := by
      refine not_not_intro ⟨?_, hCalls⟩
      simp only [Frame.need]
      omega
    rw [if_neg hLimit, openOperand, hLookahead]
    by_cases hSign : p.lookahead.kind.isSign = true
    · simp only [hSign, if_true]
      rw [concludeStep_shift_enter]
      exact concludeStep_shift hDeep
        (Reading.next?_sign hSign _)
    · by_cases hOpening : p.lookahead.kind = .bracketOpen
      · rw [if_neg hSign, if_pos hOpening,
          concludeStep_shift_enter]
        exact concludeStep_shift hDeep
          (Reading.next?_opening hOpening _)
      · by_cases hNumber : p.lookahead.kind.isNumber = true
        · simp only [hSign, hOpening, hNumber,
            Bool.false_eq_true, if_false, if_true]
          rw [concludeStep_number_enter
            (hSpelled.ofNumber?_lookahead hNumber)]
          exact concludeStep_shift hDeep
            (Reading.next?_number hNumber _)
        · rw [outcomeFrom_eq, if_neg hDeep]
          simp only [hSign, hOpening, hNumber, Reading.next?,
            Bool.false_eq_true, if_false]
          rfl

/- A call of a rule looks at the room first. -/
theorem concludeStep_stepCall
    {rule : Rule}
    {stack : List Pending}
    (hAround : IsAround .expr rule stack)
    (hDepth : p.depth = Frame.depth (frames stack))
    (hSpelled : p.IsSpelled) :
    concludeStep machine
        (stepCall machine.room rule stack p) =
      p.outcomeFrom machine ⟨.due, frames stack⟩ := by
  have hLength := hAround.length_eq
  unfold stepCall
  by_cases hRoom : machine.room ≤ stack.length
  · have hCalls :
        ¬ (Frame.need (frames stack)).calls ≤
          machine.room := by
      cases rule <;>
        simp only [Frame.need, Rule.part, Part.level]
          at hLength ⊢ <;>
        omega
    have hDeep :
        Reading.IsTooDeep ⟨p.limit, machine⟩
          ⟨.due, frames stack⟩ :=
      fun hAllow => hCalls hAllow.calls
    rw [if_pos hRoom, outcomeFrom_eq, if_pos hDeep,
      Reading.depthFault, if_neg hCalls]
    rfl
  · rw [if_neg hRoom]
    cases rule with
    | expr => rfl
    | term => rfl
    | operand =>
        exact concludeStep_callOperand
          (Nat.lt_of_not_le hRoom) hLength hDepth hSpelled

/- Going on with a term is a move after an operand. -/
theorem concludeStep_afterOperand
    {stack : List Pending}
    (hAround : IsAround .expr .term stack)
    (tree : Tree) :
    concludeStep machine (p.afterOperand tree stack) =
      p.outcomeFrom machine ⟨.read tree, frames stack⟩ := by
  unfold afterOperand goOn
  split
  · rename_i hOperator
    exact concludeStep_shift
      (Reading.not_isTooDeep_read _ _ _)
      (Reading.next?_factor hOperator hAround.opensTerm tree)
  · rfl

/- Going on with an expression is a move after a term. -/
theorem concludeStep_afterTerm
    {stack : List Pending}
    (hAround : IsAround .expr .expr stack)
    (tree : Tree) :
    concludeStep machine (p.afterTerm tree stack) =
      p.outcomeFrom machine ⟨.read tree, frames stack⟩ := by
  unfold afterTerm goOn
  split
  · rename_i hSign
    exact concludeStep_shift
      (Reading.not_isTooDeep_read _ _ _)
      (Reading.next?_addend hSign hAround.opensExpr tree)
  · rfl

/- The first of the upcoming tokens stops what the next does. -/
theorem stopsAt_upcoming
    {part : Part}
    (hStop : part.goesOnWith p.lookahead.kind = false) :
    part.StopsAt p.upcoming.tokens := by
  intro token hToken
  unfold upcoming at hToken
  split at hToken
  · cases hToken
  · cases hToken
    exact hStop

/- A tree that no call waits for is concluded with. -/
theorem conclude_ok
    (hStop : Part.expr.goesOnWith p.lookahead.kind = false)
    (tree : Tree) :
    conclude (.ok tree, p) =
      p.outcomeFrom machine ⟨.read tree, []⟩ := by
  simp only [Part.goesOnWith, Bool.or_eq_false_iff] at hStop
  rw [outcomeFrom_eq,
    if_neg (Reading.not_isTooDeep_read _ _ _)]
  simp only [Reading.next?, Reading.stop, Frame.closeTerm,
    Frame.closeExpr, hStop.1, hStop.2, Bool.false_eq_true,
    if_false]
  rfl

/- A bracket is closed after the expression in it. -/
theorem concludeStep_bracket
    (hStop : Part.expr.goesOnWith p.lookahead.kind = false)
    (tree : Tree)
    (stack : List Pending) :
    concludeStep machine
        (stepValue tree (.bracket :: stack) p) =
      p.outcomeFrom machine
        ⟨.read tree, .bracket :: frames stack⟩ := by
  simp only [Part.goesOnWith, Bool.or_eq_false_iff] at hStop
  rw [outcomeFrom_eq,
    if_neg (Reading.not_isTooDeep_read _ _ _)]
  simp only [stepValue, eat]
  by_cases hClosing : p.lookahead.kind = .bracketClose
  · rw [if_pos hClosing, Reading.next?_closing hClosing]
    cases p.take with
    | mk result p' => cases result <;> rfl
  · rw [if_neg hClosing]
    simp only [Reading.next?, Reading.stop, Frame.closeTerm,
      Frame.closeExpr, hStop.1, hStop.2, hClosing,
      Bool.false_eq_true, if_false]
    rfl

/-
  A tree is returned to the call that waits for it, which
  completes the innermost frame or is a move of the machine.
-/
theorem concludeStep_stepValue
    {tree : Tree}
    {stack : List Pending}
    (hStands : Stands .expr (.value tree) stack p) :
    concludeStep machine (stepValue tree stack p) =
      p.outcomeFrom machine ⟨.read tree, frames stack⟩ := by
  rcases hStands with ⟨rule, hAround, hStop⟩
  cases hAround with
  | base => exact conclude_ok hStop tree
  | expr hExpr => exact concludeStep_afterTerm hExpr tree
  | addend left operator hExpr =>
      refine (concludeStep_afterTerm hExpr _).trans ?_
      exact (Reading.outcome_read_addend hExpr.opensExpr
        (stopsAt_upcoming hStop)).symm
  | term hTerm => exact concludeStep_afterOperand hTerm tree
  | factor left operator hTerm =>
      refine (concludeStep_afterOperand hTerm _).trans ?_
      exact (Reading.outcome_read_factor left tree operator _
        _).symm
  | sign operator hOperand =>
      exact (Reading.outcome_read_sign operator tree _
        _).symm
  | bracket hOperand => exact concludeStep_bracket hStop tree _

end

------------------------------------------------------------
-- Runs
------------------------------------------------------------

/-
  A parser is consistent in a phase: it stands where the
  calls that wait fit what comes next, it has counted the
  operands among them, and what it has before it is spelled
  as lexers spell it.
-/
structure IsConsistent
    (phase : Phase)
    (stack : List Pending)
    (p : Parser) : Prop where
  stands : Stands .expr phase stack p
  counted : p.depth = Frame.depth (frames stack)
  spelled : p.IsSpelled

namespace IsConsistent

variable {phase phase' : Phase}
variable {stack stack' : List Pending}
variable {p p' : Parser}

/- A step comes to what a move of the machine comes to. -/
theorem concludeStep_step
    (hConsistent : IsConsistent phase stack p)
    (machine : Stack) :
    concludeStep machine (step machine.room phase stack p) =
      p.outcomeFrom machine (reading phase stack) := by
  cases phase with
  | call rule =>
      exact concludeStep_stepCall hConsistent.stands
        hConsistent.counted hConsistent.spelled
  | value tree =>
      exact concludeStep_stepValue hConsistent.stands

/- Every step keeps a parser consistent. -/
theorem step
    (hConsistent : IsConsistent phase stack p)
    (hSteps : p.Steps phase stack (.more phase' stack', p')) :
    IsConsistent phase' stack' p' := by
  rcases hConsistent with ⟨hStands, hCounted, hSpelled⟩
  have hDepth : p'.depth = Frame.depth (frames stack') := by
    rw [hSteps.depth_eq, hCounted, Int.sub_self, Int.zero_add]
  cases hSteps with
  | moved _ _ hCount hTakes hKept hKeeps =>
      subst hCount
      refine ⟨?_, hDepth, hSpelled⟩
      have hAfter := hKeeps .expr hStands
      cases phase' <;> exact hAfter
  | took _ _ hCount hTake hKind hTakes hKept hKeeps =>
      subst hCount
      have hTaken := hSpelled.take hTake hKind
      refine ⟨?_, hDepth, hTaken⟩
      have hAfter := hKeeps .expr hStands
      cases phase' <;> exact hAfter

/-
  A run comes to what the machine comes to. The induction is
  on the steps of the run, which keep the parser consistent.
-/
theorem conclude_run
    {machine : Stack}
    (hConsistent : IsConsistent phase stack p) :
    conclude (run machine.room phase stack p) =
      p.outcomeFrom machine (reading phase stack) := by
  fun_induction run machine.room phase stack p with
  | case1 phase stack p phase' stack' p' hStep ih =>
      have hMove := hConsistent.concludeStep_step machine
      have hSteps := p.steps_step machine.room phase stack
      rw [hStep] at hMove hSteps
      exact (ih (hConsistent.step hSteps)).trans hMove
  | case2 phase stack p tree p' hStep =>
      have hMove := hConsistent.concludeStep_step machine
      rw [hStep] at hMove
      exact hMove
  | case3 phase stack p cause p' hStep =>
      have hMove := hConsistent.concludeStep_step machine
      rw [hStep] at hMove
      exact (conclude_unwind cause stack p').trans hMove

end IsConsistent

end Parser

/-
  A text is parsed as the machine reads the tokens that are
  drawn from it.
-/
theorem parse_eq_outcome (text : String) (bounds : Bounds) :
    parse text bounds =
      Reading.initial.outcome bounds
        (Lexer.start text).draws.ending
        (Lexer.start text).draws.tokens := by
  have hSpelled :=
    Lexer.isSpelled_of_mem_draws (Lexer.start text)
  unfold parse Parser.start
  cases hNext : (Lexer.start text).next with
  | mk result lexer =>
      cases result with
      | error e =>
          rw [Lexer.draws_of_error hNext]
          rfl
      | ok t =>
          have hUpcoming :
              Parser.upcoming ⟨bounds.limit, lexer, t, 0⟩ =
                (Lexer.start text).draws := by
            by_cases hKind : t.kind = .eof
            · rw [Lexer.draws_of_eof hNext hKind]
              simp only [Parser.upcoming, hKind, if_true]
            · rw [Lexer.draws_of_token hNext hKind]
              simp only [Parser.upcoming, hKind, if_false]
          rw [← hUpcoming] at hSpelled ⊢
          exact (Parser.parse_eq_conclude _ _).trans
            (Parser.IsConsistent.conclude_run
              ⟨.base, rfl, hSpelled⟩)

end Calculator
