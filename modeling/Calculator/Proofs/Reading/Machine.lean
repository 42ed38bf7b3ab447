import Calculator.Proofs.Grammar.Frames

/-
  This file defines reading as a machine that moves from one
  state to the next with each token that it takes. Where an
  operand is due, the bounds of the nesting are looked at
  before the token.

  Key definitions include:
    * `Reading`
    * `Reading.IsTooDeep`
    * `Reading.depthFault`
    * `Reading.next?`
    * `Reading.stop`
    * `Reading.outcome`
-/

namespace Calculator

open Grammar

------------------------------------------------------------
-- The Machine
------------------------------------------------------------

/-
  Where reading stands: an operand is due, or one has been
  read.
-/
inductive Reading.Phase where
| due : Reading.Phase
| read (tree : Tree) : Reading.Phase

/- Where reading stands, and the frames that are open. -/
structure Reading where
  phase : Reading.Phase
  frames : List Frame

namespace Reading

/- The state before the first token. -/
def initial : Reading :=
  ⟨.due, []⟩

/- An operand is due and nested too deeply. -/
def IsTooDeep (bounds : Bounds) : Reading → Prop
| ⟨.due, frames⟩ => ¬ bounds.Allow (Frame.need frames)
| ⟨.read _, _⟩ => False

instance (bounds : Bounds) (s : Reading) :
    Decidable (s.IsTooDeep bounds) := by
  rcases s with ⟨_ | _, _⟩ <;>
    unfold IsTooDeep <;> infer_instance

/- Only an operand that is due can be too deep. -/
theorem not_isTooDeep_read
    (bounds : Bounds)
    (tree : Tree)
    (frames : List Frame) :
    ¬ IsTooDeep bounds ⟨.read tree, frames⟩ :=
  id

/-
  What is wrong with an operand that is too deep. There is no
  room to look at the limit where there is none for the call.
-/
def depthFault (bounds : Bounds) (s : Reading) :
    ParseFault :=
  if (Frame.need s.frames).calls ≤ bounds.stack.room then
    .tooDeep
  else
    .overflow

/- Whatever is wrong is told in the same words. -/
theorem message_depthFault
    (bounds : Bounds)
    (s : Reading) :
    (s.depthFault bounds).message =
      "Expression is nested too deeply" := by
  unfold depthFault
  split <;> rfl

/- The state after one more token, if the token fits. -/
def next? : Reading → Token → Option Reading
| ⟨.due, frames⟩, t =>
    if t.kind.isSign then
      some ⟨.due, .sign t :: frames⟩
    else if t.kind = .bracketOpen then
      some ⟨.due, .bracket :: frames⟩
    else if t.kind.isNumber then
      some ⟨.read (Tree.ofNumber t), frames⟩
    else
      none
| ⟨.read tree, frames⟩, t =>
    let (term, outer) := Frame.closeTerm tree frames
    if t.kind.isFactorOperator then
      some ⟨.due, .factor term t :: outer⟩
    else
      match Frame.closeExpr term outer with
      | (expr, none) =>
          if t.kind.isSign then
            some ⟨.due, [.addend expr t]⟩
          else
            none
      | (expr, some outer) =>
          if t.kind.isSign then
            some ⟨.due, .addend expr t :: .bracket :: outer⟩
          else if t.kind = .bracketClose then
            some ⟨.read expr, outer⟩
          else
            none

/- What reading ends with at a token that does not fit. -/
def stop : Reading → Token → Except ParseError Tree
| ⟨.due, _⟩, t =>
    .error ⟨.expectedOperand t.kind, t.position⟩
| ⟨.read tree, frames⟩, t =>
    let (term, outer) := Frame.closeTerm tree frames
    match Frame.closeExpr term outer with
    | (expr, none) =>
        if t.kind = .eof then
          .ok expr
        else
          .error ⟨.trailing t.kind, t.position⟩
    | (_, some _) =>
        .error ⟨.expected .bracketClose t.kind, t.position⟩

/-
  What reading comes to on the tokens that are drawn. The
  depth is looked at before the token.
-/
def outcome
    (bounds : Bounds)
    (ending : Except LexError Token) :
    List Token → Reading → Except ParseError Tree
| [], s =>
    match ending with
    | .error e => .error (.ofLexError e)
    | .ok eof =>
        if s.IsTooDeep bounds then
          .error ⟨s.depthFault bounds, eof.position⟩
        else
          s.stop eof
| t :: ts, s =>
    if s.IsTooDeep bounds then
      .error ⟨s.depthFault bounds, t.position⟩
    else
      match s.next? t with
      | some s' => outcome bounds ending ts s'
      | none => s.stop t

/- No state goes on with the end token. -/
theorem next?_eof
    (s : Reading)
    {t : Token}
    (hKind : t.kind = .eof) :
    s.next? t = none := by
  rcases s with ⟨_ | tree, frames⟩
  · simp [next?, hKind, Token.Kind.isSign,
      Token.Kind.isNumber]
  · simp only [next?, hKind, Token.Kind.isSign,
      Token.Kind.isFactorOperator, Bool.false_eq_true,
      if_false, reduceCtorEq]
    split <;> rfl

------------------------------------------------------------
-- Moves of the Machine
------------------------------------------------------------

variable {bounds : Bounds}
variable {ending : Except LexError Token}

/- Reading goes on where a token leads. -/
theorem outcome_cons
    {s s' : Reading}
    {t : Token}
    {ts : List Token}
    (hDeep : ¬ s.IsTooDeep bounds)
    (hNext : s.next? t = some s') :
    s.outcome bounds ending (t :: ts) =
      s'.outcome bounds ending ts := by
  simp only [outcome, hDeep, if_false, hNext]

/-
  Reading goes on alike from trees that make the same term
  with the frames around them.
-/
theorem outcome_read_congr
    {tree tree' : Tree}
    {frames frames' : List Frame}
    (hTerm :
      Frame.closeTerm tree frames =
        Frame.closeTerm tree' frames')
    (ts : List Token) :
    outcome bounds ending ts ⟨.read tree, frames⟩ =
      outcome bounds ending ts ⟨.read tree', frames'⟩ := by
  cases ts with
  | nil =>
      cases ending <;>
        simp only [outcome, not_isTooDeep_read, if_false,
          stop, hTerm]
  | cons t ts =>
      simp only [outcome, not_isTooDeep_read, if_false,
        next?, stop, hTerm]

/- A sign is applied to its operand. -/
theorem outcome_read_sign
    (sign : Token)
    (operand : Tree)
    (frames : List Frame)
    (ts : List Token) :
    outcome bounds ending ts
        ⟨.read operand, .sign sign :: frames⟩ =
      outcome bounds ending ts
        ⟨.read (.unary sign operand), frames⟩ := by
  apply outcome_read_congr
  rfl

/- A factor joins the term before it. -/
theorem outcome_read_factor
    (left right : Tree)
    (operator : Token)
    (frames : List Frame)
    (ts : List Token) :
    outcome bounds ending ts
        ⟨.read right, .factor left operator :: frames⟩ =
      outcome bounds ending ts
        ⟨.read (.binary left operator right), frames⟩ := by
  apply outcome_read_congr
  rfl

/-
  An addend joins the expression before it when no factor
  operator follows.
-/
theorem outcome_read_addend
    {left right : Tree}
    {operator : Token}
    {frames : List Frame}
    {ts : List Token}
    (hOpens : Frame.OpensExpr frames)
    (hStop : Part.term.StopsAt ts) :
    outcome bounds ending ts
        ⟨.read right, .addend left operator :: frames⟩ =
      outcome bounds ending ts
        ⟨.read (.binary left operator right), frames⟩ := by
  have hTerm := hOpens.opensTerm
    (.binary left operator right)
  cases ts with
  | nil =>
      cases ending <;>
        simp only [outcome, not_isTooDeep_read, if_false,
          stop, hTerm, Frame.closeTerm, Frame.closeExpr]
  | cons t ts =>
      have hFactor : t.kind.isFactorOperator = false :=
        hStop t rfl
      simp only [outcome, not_isTooDeep_read, if_false,
        next?, stop, hTerm, hFactor, Frame.closeTerm,
        Frame.closeExpr, Bool.false_eq_true]

/- A sign is taken where an operand is due. -/
theorem next?_sign
    {t : Token}
    (hSign : t.kind.isSign = true)
    (frames : List Frame) :
    next? ⟨.due, frames⟩ t =
      some ⟨.due, .sign t :: frames⟩ := by
  simp only [next?, hSign, if_true]

/- An open bracket is taken where an operand is due. -/
theorem next?_opening
    {t : Token}
    (hOpening : t.kind = .bracketOpen)
    (frames : List Frame) :
    next? ⟨.due, frames⟩ t =
      some ⟨.due, .bracket :: frames⟩ := by
  simp only [next?, hOpening, Token.Kind.isSign,
    Bool.false_eq_true, if_false, if_true]

/- A number is taken where an operand is due. -/
theorem next?_number
    {t : Token}
    (hNumber : t.kind.isNumber = true)
    (frames : List Frame) :
    next? ⟨.due, frames⟩ t =
      some ⟨.read (Tree.ofNumber t), frames⟩ := by
  have hSign : t.kind.isSign = false := by
    cases hKind : t.kind <;>
      simp_all [Token.Kind.isNumber, Token.Kind.isSign]
  have hOpening : t.kind ≠ .bracketOpen := by
    intro hKind
    simp [hKind, Token.Kind.isNumber] at hNumber
  simp only [next?, hSign, hOpening, hNumber,
    Bool.false_eq_true, if_false, if_true]

/- A factor operator is taken after a term. -/
theorem next?_factor
    {t : Token}
    {frames : List Frame}
    (hOperator : t.kind.isFactorOperator = true)
    (hOpens : Frame.OpensTerm frames)
    (left : Tree) :
    next? ⟨.read left, frames⟩ t =
      some ⟨.due, .factor left t :: frames⟩ := by
  simp only [next?, hOpens left, hOperator, if_true]

/- An operator between addends is taken after an addend. -/
theorem next?_addend
    {t : Token}
    {frames : List Frame}
    (hOperator : t.kind.isSign = true)
    (hOpens : Frame.OpensExpr frames)
    (left : Tree) :
    next? ⟨.read left, frames⟩ t =
      some ⟨.due, .addend left t :: frames⟩ := by
  have hFactor := isFactorOperator_of_isSign hOperator
  rcases hOpens with rfl | ⟨outer, rfl⟩ <;>
    simp only [next?, Frame.closeTerm, Frame.closeExpr,
      hFactor, hOperator, Bool.false_eq_true, if_false,
      if_true]

/- A closing bracket is taken where a bracket is open. -/
theorem next?_closing
    {t : Token}
    (hClosing : t.kind = .bracketClose)
    (inner : Tree)
    (outer : List Frame) :
    next? ⟨.read inner, .bracket :: outer⟩ t =
      some ⟨.read inner, outer⟩ := by
  simp only [next?, Frame.closeTerm, Frame.closeExpr,
    hClosing, Token.Kind.isFactorOperator,
    Token.Kind.isSign, Bool.false_eq_true, if_false,
    if_true]

end Reading

end Calculator
