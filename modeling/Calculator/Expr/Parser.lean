import Calculator.Expr.Basic
import Calculator.Expr.ParseError
import Calculator.Text.WholeNumber

/-
  This file defines the parser, which reads a tree from the
  tokens of a text with one token of lookahead. An expression
  is terms joined by additions and subtractions, a term is
  operands joined by all other operators, and both group to
  the left. An operand is a number, an expression in
  brackets, or a sign before an operand, so that a sign binds
  tighter than every operator.

  There is a rule for each of these parts, and rules call
  each other. The calls that wait for another one are kept on
  a stack, the innermost first. The parser counts how many
  operands are read inside each other, which is limited, and
  the stack has room for so many calls only.

  Key definitions include:
    * `Stack`
    * `usualStack`
    * `Bounds`
    * `Parser`
    * `Parser.start`
    * `Parser.eat`
    * `Parser.number`
    * `Parser.Pending`
    * `Parser.step`
    * `Parser.unwind`
    * `Parser.read`
    * `Parser.parse`
    * `parse`
-/

namespace Calculator

------------------------------------------------------------
-- Bounds of the Nesting
------------------------------------------------------------

/-
  The calls that every stack has room for, which read a
  number after a sign: those of an expression, a term and two
  operands.
-/
def leastRoom : Nat := 4

/-
  The stack of a machine: how many calls of rules it holds at
  a time. What a rule calls that is no rule returns before
  the next rule is called, and counts as a part of it.
-/
structure Stack where
  room : Nat
  enough : leastRoom ≤ room
deriving DecidableEq, Repr

/- The stack that there usually is, with room for 960 calls. -/
def usualStack : Stack :=
  ⟨956 + leastRoom, Nat.le_add_left leastRoom 956⟩

/- The depth that nesting is limited to by default. -/
def defaultDepthLimit : Int := 200

/-
  What bounds the nesting of an expression: the limit of its
  depth, which is chosen, and the stack that there is.
-/
structure Bounds where
  limit : Int := defaultDepthLimit
  stack : Stack := usualStack
deriving DecidableEq, Repr

------------------------------------------------------------
-- The Parser
------------------------------------------------------------

/-
  A parser: the limit of the depth, the lexer, the token that
  comes next, and a count of the operands that are read
  inside each other.
-/
structure Parser where
  limit : Int
  lexer : Lexer
  lookahead : Token
  depth : Int
deriving DecidableEq

/- A parser at the start of a text, with its first token. -/
def Parser.start (text : String) (limit : Int) :
    Except ParseError Parser :=
  match (Lexer.start text).next with
  | (.ok token, lexer) => .ok ⟨limit, lexer, token, 0⟩
  | (.error e, _) => .error (.ofLexError e)

/-
  The node of a number token. A token of digits becomes a
  whole number, unless it has too many of them.
-/
def Tree.ofNumber? (token : Token) : Option Tree :=
  (Numeral.ofText? token.text).map fun numeral =>
    if token.kind = .integer ∧ numeral.isWhole ∧
        numeral.whole.length ≤ Text.digitLimit then
      .integer token numeral.value.coefficient
    else
      .float token numeral.value.toDouble

namespace Parser

------------------------------------------------------------
-- Taking Tokens
------------------------------------------------------------

/- A fault at the token that comes next. -/
def errorHere (p : Parser) (fault : ParseFault) : ParseError :=
  ⟨fault, p.lookahead.position⟩

/-
  Take the token that comes next. When the lexer has no
  token to come after it, the token is not taken.
-/
def take (p : Parser) : Except ParseError Token × Parser :=
  match p.lexer.next with
  | (.ok token, lexer) =>
      (.ok p.lookahead,
        { p with lexer := lexer, lookahead := token })
  | (.error e, lexer) =>
      (.error (.ofLexError e), { p with lexer := lexer })

/- Take the token that comes next if it is of one kind. -/
def eat (p : Parser) (kind : Token.Kind) :
    Except ParseError Token × Parser :=
  if p.lookahead.kind = kind then
    p.take
  else
    (.error
      (p.errorHere (.expected kind p.lookahead.kind)), p)

/- Take the token that comes next as a number. -/
def number (p : Parser) : Except ParseError Tree × Parser :=
  match p.take with
  | (.ok token, p') =>
      match Tree.ofNumber? token with
      | some tree => (.ok tree, p')
      | none =>
          (.error
            ⟨.malformedNumber token.text, token.position⟩, p')
  | (.error e, p') => (.error e, p')

------------------------------------------------------------
-- Calls
------------------------------------------------------------

/- The parts of the grammar that can be read. -/
inductive Rule where
| expr : Rule
| term : Rule
| operand : Rule
deriving DecidableEq, Repr

/-
  A call of a rule that waits for another call: an expression
  for its first term or for one more addend, a term for its
  first operand or for one more factor, or an operand, which
  has taken a sign or an open bracket.
-/
inductive Pending where
| expr : Pending
| addend (left : Tree) (operator : Token) : Pending
| term : Pending
| factor (left : Tree) (operator : Token) : Pending
| sign (operator : Token) : Pending
| bracket : Pending
deriving DecidableEq

/- What comes next: a rule is called, or a call has a tree. -/
inductive Phase where
| call (rule : Rule) : Phase
| value (tree : Tree) : Phase

/- What ends a call without a tree: an error, or no room. -/
inductive Abort where
| error (e : ParseError) : Abort
| overflow : Abort
deriving DecidableEq

/- The outcome of one step of reading. -/
inductive Outcome where
| more (phase : Phase) (stack : List Pending) : Outcome
| done (tree : Tree) : Outcome
| failed (cause : Abort) : Outcome

/- One more operand is read inside the others. -/
def enter (p : Parser) : Parser :=
  { p with depth := p.depth + 1 }

/- One operand less is read. -/
def leave (p : Parser) : Parser :=
  { p with depth := p.depth - 1 }

------------------------------------------------------------
-- Steps
------------------------------------------------------------

/- Take the token that comes next, and go on. -/
def shift
    (p : Parser)
    (phase : Phase)
    (stack : List Pending) :
    Outcome × Parser :=
  match p.take with
  | (.ok _, p') => (.more phase stack, p')
  | (.error e, p') => (.failed (.error e), p')

/- Read a number, which ends the operand that it is. -/
def openNumber (p : Parser) (stack : List Pending) :
    Outcome × Parser :=
  match p.number with
  | (.ok tree, p') => (.more (.value tree) stack, p'.leave)
  | (.error e, p') => (.failed (.error e), p')

/- Read the start of an operand that has been entered. -/
def openOperand (p : Parser) (stack : List Pending) :
    Outcome × Parser :=
  if p.lookahead.kind.isSign then
    p.shift (.call .operand) (.sign p.lookahead :: stack)
  else if p.lookahead.kind = .bracketOpen then
    p.shift (.call .expr) (.bracket :: stack)
  else if p.lookahead.kind.isNumber then
    p.openNumber stack
  else
    (.failed
      (.error
        (p.errorHere (.expectedOperand p.lookahead.kind))), p)

/- Leave an operand when it does not start as one. -/
def leaveOnFailure : Outcome × Parser → Outcome × Parser
| (.failed cause, p) => (.failed cause, p.leave)
| (.more phase stack, p) => (.more phase stack, p)
| (.done tree, p) => (.done tree, p)

/- Enter an operand, if it is not too deep. -/
def callOperand (p : Parser) (stack : List Pending) :
    Outcome × Parser :=
  if p.limit ≤ p.depth then
    (.failed (.error (p.errorHere .tooDeep)), p)
  else
    leaveOnFailure (p.enter.openOperand stack)

/- Call a rule, if the stack has room for one more call. -/
def stepCall
    (room : Nat)
    (rule : Rule)
    (stack : List Pending)
    (p : Parser) :
    Outcome × Parser :=
  if room ≤ stack.length then
    (.failed .overflow, p)
  else
    match rule with
    | .expr => (.more (.call .term) (.expr :: stack), p)
    | .term => (.more (.call .operand) (.term :: stack), p)
    | .operand => p.callOperand stack

/-
  Go on after an operator with one more part, or return the
  tree that has been read where there is none.
-/
def goOn
    (p : Parser)
    (isOperator : Bool)
    (rule : Rule)
    (pending : Pending)
    (tree : Tree)
    (stack : List Pending) :
    Outcome × Parser :=
  if isOperator then
    p.shift (.call rule) (pending :: stack)
  else
    (.more (.value tree) stack, p)

/- Go on with a term after an operand. -/
def afterOperand
    (p : Parser)
    (tree : Tree)
    (stack : List Pending) :
    Outcome × Parser :=
  p.goOn p.lookahead.kind.isFactorOperator .operand
    (.factor tree p.lookahead) tree stack

/- Go on with an expression after a term. -/
def afterTerm
    (p : Parser)
    (tree : Tree)
    (stack : List Pending) :
    Outcome × Parser :=
  p.goOn p.lookahead.kind.isSign .term
    (.addend tree p.lookahead) tree stack

/-
  Return a tree to the call that waits for it. An operand is
  left when it returns, which is after its bracket is closed.
-/
def stepValue (tree : Tree) :
    List Pending → Parser → Outcome × Parser
| [], p => (.done tree, p)
| .sign operator :: stack, p =>
    (.more (.value (.unary operator tree)) stack, p.leave)
| .bracket :: stack, p =>
    match p.eat .bracketClose with
    | (.ok _, p') => (.more (.value tree) stack, p'.leave)
    | (.error e, p') => (.failed (.error e), p')
| .term :: stack, p => p.afterOperand tree stack
| .factor left operator :: stack, p =>
    p.afterOperand (.binary left operator tree) stack
| .expr :: stack, p => p.afterTerm tree stack
| .addend left operator :: stack, p =>
    p.afterTerm (.binary left operator tree) stack

/- One step of reading. -/
def step (room : Nat) :
    Phase → List Pending → Parser → Outcome × Parser
| .call rule, stack, p => stepCall room rule stack p
| .value tree, stack, p => stepValue tree stack p

/-
  End the calls that wait, from the innermost on. The ones of
  operands are left.
-/
def unwind : List Pending → Parser → Parser
| [], p => p
| .sign _ :: stack, p => unwind stack p.leave
| .bracket :: stack, p => unwind stack p.leave
| .term :: stack, p => unwind stack p
| .factor _ _ :: stack, p => unwind stack p
| .expr :: stack, p => unwind stack p
| .addend _ _ :: stack, p => unwind stack p

------------------------------------------------------------
-- Progress
------------------------------------------------------------

/-
  The tokens that may still be taken, counted with room for
  the end token.
-/
def remaining (p : Parser) : Nat :=
  2 * p.lexer.rest.length +
    (if p.lookahead.kind = .eof then 0 else 1)

/- Entering an operand takes no token. -/
@[simp]
theorem remaining_enter (p : Parser) :
    p.enter.remaining = p.remaining :=
  rfl

/- Leaving an operand takes no token. -/
@[simp]
theorem remaining_leave (p : Parser) :
    p.leave.remaining = p.remaining :=
  rfl

/- Taking a token other than the end leaves less to take. -/
theorem remaining_take_lt
    {p p' : Parser}
    {t : Token}
    (hTake : p.take = (.ok t, p'))
    (hKind : p.lookahead.kind ≠ .eof) :
    p'.remaining < p.remaining := by
  unfold take at hTake
  split at hTake
  · rename_i token lexer hNext
    simp only [Prod.mk.injEq] at hTake
    rcases hTake with ⟨_, hP⟩
    subst hP
    simp only [remaining, hKind, if_false]
    by_cases hEof : token.kind = .eof
    · have hRest : lexer.rest = [] :=
        Lexer.rest_eq_nil_of_tokenHere hNext hEof
      simp [hRest, hEof]
    · have hLess := Lexer.length_next_lt hNext hEof
      simp only [hEof, if_false]
      omega
  · simp at hTake

/-
  The steps that may follow in a phase before a token is
  taken: a call goes down to an operand, and a tree is
  returned through the stack.
-/
def Phase.steps : Phase → List Pending → Nat
| .call .expr, _ => 2
| .call .term, _ => 1
| .call .operand, _ => 0
| .value _, stack => stack.length

/- A shift takes a token. -/
theorem remaining_shift_lt
    {p p' : Parser}
    {phase phase' : Phase}
    {stack stack' : List Pending}
    (hShift : p.shift phase stack = (.more phase' stack', p'))
    (hKind : p.lookahead.kind ≠ .eof) :
    p'.remaining < p.remaining := by
  unfold shift at hShift
  cases hTake : p.take with
  | mk result q =>
      rw [hTake] at hShift
      cases result with
      | error e => cases hShift
      | ok t =>
          cases hShift
          exact remaining_take_lt hTake hKind

/- A number is a token. -/
theorem remaining_number_lt
    {p p' : Parser}
    {tree : Tree}
    (hNumber : p.number = (.ok tree, p'))
    (hKind : p.lookahead.kind ≠ .eof) :
    p'.remaining < p.remaining := by
  unfold number at hNumber
  cases hTake : p.take with
  | mk result q =>
      rw [hTake] at hNumber
      cases result with
      | error e => cases hNumber
      | ok t =>
          have hLess := remaining_take_lt hTake hKind
          simp only at hNumber
          split at hNumber
          · cases hNumber
            exact hLess
          · cases hNumber

/- So does a number that is an operand. -/
theorem remaining_openNumber_lt
    {p p' : Parser}
    {phase : Phase}
    {stack stack' : List Pending}
    (hOpen : p.openNumber stack = (.more phase stack', p'))
    (hKind : p.lookahead.kind ≠ .eof) :
    p'.remaining < p.remaining := by
  unfold openNumber at hOpen
  split at hOpen
  · rename_i hNumber
    cases hOpen
    rw [remaining_leave]
    exact remaining_number_lt hNumber hKind
  · cases hOpen

/- The start of an operand takes a token. -/
theorem remaining_openOperand_lt
    {p p' : Parser}
    {phase : Phase}
    {stack stack' : List Pending}
    (hOpen : p.openOperand stack = (.more phase stack', p')) :
    p'.remaining < p.remaining := by
  unfold openOperand at hOpen
  split at hOpen
  · rename_i hSign
    refine remaining_shift_lt hOpen ?_
    intro hEof
    rw [hEof] at hSign
    cases hSign
  · split at hOpen
    · rename_i hOpening
      refine remaining_shift_lt hOpen ?_
      rw [hOpening]
      exact nofun
    · split at hOpen
      · rename_i hNumber
        refine remaining_openNumber_lt hOpen ?_
        intro hEof
        rw [hEof] at hNumber
        cases hNumber
      · cases hOpen

/- What is not left has not failed. -/
theorem eq_of_leaveOnFailure
    {result : Outcome × Parser}
    {phase : Phase}
    {stack : List Pending}
    {p : Parser}
    (hLeave : leaveOnFailure result = (.more phase stack, p)) :
    result = (.more phase stack, p) := by
  rcases result with ⟨_ | _ | _, q⟩
  · exact hLeave
  · cases hLeave
  · cases hLeave

/-
  A step that goes on takes a token, or leaves fewer steps
  before one is taken.
-/
def Advances
    (p : Parser)
    (phase : Phase)
    (stack : List Pending)
    (p' : Parser)
    (phase' : Phase)
    (stack' : List Pending) : Prop :=
  p'.remaining < p.remaining ∨
    p'.remaining = p.remaining ∧
      phase'.steps stack' < phase.steps stack

/- A call advances to another one, or takes a token. -/
theorem advances_stepCall
    {room : Nat}
    {rule : Rule}
    {p p' : Parser}
    {phase : Phase}
    {stack stack' : List Pending}
    (hStep :
      stepCall room rule stack p = (.more phase stack', p')) :
    p.Advances (.call rule) stack p' phase stack' := by
  unfold stepCall at hStep
  split at hStep
  · cases hStep
  · cases rule with
    | expr =>
        cases hStep
        exact Or.inr ⟨rfl, Nat.one_lt_two⟩
    | term =>
        cases hStep
        exact Or.inr ⟨rfl, Nat.zero_lt_one⟩
    | operand =>
        simp only [callOperand] at hStep
        split at hStep
        · cases hStep
        · have hOpen := eq_of_leaveOnFailure hStep
          have hLess := remaining_openOperand_lt hOpen
          exact Or.inl (p.remaining_enter ▸ hLess)

/- To go on after an operator takes the operator. -/
theorem advances_goOn
    {isOperator : Bool}
    {rule : Rule}
    {pending first : Pending}
    {tree tree' : Tree}
    {p p' : Parser}
    {phase : Phase}
    {stack stack' : List Pending}
    (hKind : isOperator = true → p.lookahead.kind ≠ .eof)
    (hStep :
      p.goOn isOperator rule pending tree' stack =
        (.more phase stack', p')) :
    p.Advances (.value tree) (first :: stack) p' phase
      stack' := by
  unfold goOn at hStep
  split at hStep
  · rename_i hOperator
    exact Or.inl (remaining_shift_lt hStep (hKind hOperator))
  · cases hStep
    exact Or.inr ⟨rfl, Nat.lt_succ_self _⟩

/- A tree is returned to the call that waits for it. -/
theorem advances_stepValue
    {tree : Tree}
    {p p' : Parser}
    {phase : Phase}
    {stack stack' : List Pending}
    (hStep :
      stepValue tree stack p = (.more phase stack', p')) :
    p.Advances (.value tree) stack p' phase stack' := by
  have hFactor :
      p.lookahead.kind.isFactorOperator = true →
        p.lookahead.kind ≠ .eof := by
    intro hOperator hEof
    rw [hEof] at hOperator
    cases hOperator
  have hSign :
      p.lookahead.kind.isSign = true →
        p.lookahead.kind ≠ .eof := by
    intro hOperator hEof
    rw [hEof] at hOperator
    cases hOperator
  cases stack with
  | nil => cases hStep
  | cons pending stack =>
      cases pending with
      | expr => exact advances_goOn hSign hStep
      | addend left operator => exact advances_goOn hSign hStep
      | term => exact advances_goOn hFactor hStep
      | factor left operator =>
          exact advances_goOn hFactor hStep
      | sign operator =>
          cases hStep
          exact Or.inr ⟨rfl, Nat.lt_succ_self _⟩
      | bracket =>
          simp only [stepValue, eat] at hStep
          split at hStep
          · rename_i hEat
            cases hStep
            split at hEat
            · rename_i hClosing
              refine Or.inl ?_
              rw [remaining_leave]
              refine remaining_take_lt hEat ?_
              rw [hClosing]
              exact nofun
            · cases hEat
          · cases hStep

/- Every step that goes on advances. -/
theorem advances_step
    {room : Nat}
    {p p' : Parser}
    {phase phase' : Phase}
    {stack stack' : List Pending}
    (hStep :
      step room phase stack p = (.more phase' stack', p')) :
    p.Advances phase stack p' phase' stack' := by
  cases phase with
  | call rule => exact advances_stepCall hStep
  | value tree => exact advances_stepValue hStep

------------------------------------------------------------
-- Reading
------------------------------------------------------------

/-
  Step until a tree is read, or until the calls that wait are
  ended for want of one.
-/
def run
    (room : Nat)
    (phase : Phase)
    (stack : List Pending)
    (p : Parser) :
    Except Abort Tree × Parser :=
  match _hStep : step room phase stack p with
  | (.more phase' stack', p') => run room phase' stack' p'
  | (.done tree, p') => (.ok tree, p')
  | (.failed cause, p') => (.error cause, unwind stack p')
termination_by (p.remaining, phase.steps stack)
decreasing_by
  rcases advances_step _hStep with hLess | ⟨hSame, hLess⟩
  · exact Prod.Lex.left _ _ hLess
  · rw [hSame]
    exact Prod.Lex.right _ hLess

/- Read one part of the grammar. -/
def read (room : Nat) (rule : Rule) (p : Parser) :
    Except Abort Tree × Parser :=
  run room (.call rule) [] p

/-
  Read an expression that the text ends after. Where there is
  no room to read on, it is too deep.
-/
def parse (room : Nat) (p : Parser) :
    Except ParseError Tree × Parser :=
  match p.read room .expr with
  | (.ok tree, p') =>
      if p'.lookahead.kind = .eof then
        (.ok tree, p')
      else
        (.error
          (p'.errorHere (.trailing p'.lookahead.kind)), p')
  | (.error (.error e), p') => (.error e, p')
  | (.error .overflow, p') =>
      (.error (p'.errorHere .overflow), p')

end Parser

/- The tree of a text. -/
def parse (text : String) (bounds : Bounds) :
    Except ParseError Tree := do
  let p ← Parser.start text bounds.limit
  (p.parse bounds.stack.room).1

end Calculator
