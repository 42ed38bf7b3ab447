import Calculator.Proofs.Grammar.TreeTokens

/-
  This file defines what is open while an operand is read:
  the signs and brackets before it, and the left sides of the
  operations that wait for it. What is open decides how deep
  the operand is nested, and how many calls it is inside of.

  Key definitions include:
    * `Need`
    * `Bounds.Allow`
    * `Bounds.widen`
    * `Bounds.AllowWith`
    * `Frame`
    * `Frame.depth`
    * `Frame.calls`
    * `Frame.need`
    * `Grammar.Derivation.need`
    * `Frame.closeTerm`
    * `Frame.closeExpr`
    * `Frame.OpensTerm`
    * `Frame.OpensExpr`
    * `Frame.kept`
-/

namespace Calculator

------------------------------------------------------------
-- Needs
------------------------------------------------------------

/- What nesting needs: a depth, and calls at a time. -/
@[ext]
structure Need where
  depth : Nat
  calls : Nat

/- What both of two parts need. -/
instance : Max Need where
  max first second :=
    ⟨max first.depth second.depth,
      max first.calls second.calls⟩

/- What a part needs inside of another one. -/
instance : Add Need where
  add outer inner :=
    ⟨outer.depth + inner.depth, outer.calls + inner.calls⟩

/- Both depths are needed. -/
theorem Need.max_depth (need need' : Need) :
    (max need need').depth = max need.depth need'.depth :=
  rfl

/- And both numbers of calls. -/
theorem Need.max_calls (need need' : Need) :
    (max need need').calls = max need.calls need'.calls :=
  rfl

/- Depths are added. -/
theorem Need.add_depth (outer inner : Need) :
    (outer + inner).depth = outer.depth + inner.depth :=
  rfl

/- And so are calls. -/
theorem Need.add_calls (outer inner : Need) :
    (outer + inner).calls = outer.calls + inner.calls :=
  rfl

/- Needs are added in any grouping. -/
theorem Need.add_assoc (first second third : Need) :
    first + second + third = first + (second + third) :=
  Need.ext (Nat.add_assoc _ _ _) (Nat.add_assoc _ _ _)

/- A part needs as much as the part twice. -/
theorem Need.max_self (need : Need) :
    max need need = need := by
  ext
  · exact Nat.max_self _
  · exact Nat.max_self _

/- The bounds of the nesting allow what is needed. -/
structure Bounds.Allow
    (bounds : Bounds)
    (need : Need) : Prop where
  depth : (need.depth : Int) ≤ bounds.limit
  calls : need.calls ≤ bounds.stack.room

/- One of the bounds is below another one. -/
structure Bounds.AtMost (bounds bounds' : Bounds) : Prop where
  limit : bounds.limit ≤ bounds'.limit
  room : bounds.stack.room ≤ bounds'.stack.room

instance (bounds : Bounds) (need : Need) :
    Decidable (bounds.Allow need) :=
  decidable_of_iff
    ((need.depth : Int) ≤ bounds.limit ∧
      need.calls ≤ bounds.stack.room)
    ⟨fun h => ⟨h.1, h.2⟩, fun h => ⟨h.1, h.2⟩⟩

namespace Bounds

variable {bounds bounds' : Bounds}
variable {need need' : Need}

/- What is needed less is allowed as well. -/
theorem Allow.mono
    (hAllow : bounds.Allow need)
    (hDepth : need'.depth ≤ need.depth)
    (hCalls : need'.calls ≤ need.calls) :
    bounds.Allow need' :=
  ⟨Int.le_trans (Int.ofNat_le.mpr hDepth) hAllow.depth,
    Nat.le_trans hCalls hAllow.calls⟩

/- Wider bounds allow as much. -/
theorem Allow.of_atMost
    (hAllow : bounds.Allow need)
    (hAtMost : bounds.AtMost bounds') :
    bounds'.Allow need :=
  ⟨Int.le_trans hAllow.depth hAtMost.limit,
    Nat.le_trans hAllow.calls hAtMost.room⟩

/- Two parts are allowed if each of them is. -/
theorem allow_max :
    bounds.Allow (max need need') ↔
      bounds.Allow need ∧ bounds.Allow need' := by
  constructor
  · intro hAllow
    exact
      ⟨hAllow.mono (Nat.le_max_left _ _)
          (Nat.le_max_left _ _),
        hAllow.mono (Nat.le_max_right _ _)
          (Nat.le_max_right _ _)⟩
  · rintro ⟨hFirst, hSecond⟩
    refine ⟨?_, Nat.max_le.mpr ⟨hFirst.calls, hSecond.calls⟩⟩
    have hDepth := hFirst.depth
    have hDepth' := hSecond.depth
    rw [Need.max_depth]
    omega

/- Bounds that are wide enough for one more need. -/
def widen (bounds : Bounds) (need : Need) : Bounds where
  limit := max bounds.limit need.depth
  stack :=
    { room := max bounds.stack.room need.calls
      enough :=
        Nat.le_trans bounds.stack.enough
          (Nat.le_max_left _ _) }

/- They are no narrower than before. -/
theorem atMost_widen (bounds : Bounds) (need : Need) :
    bounds.AtMost (bounds.widen need) :=
  ⟨Int.le_max_left _ _, Nat.le_max_left _ _⟩

/- They allow what they are made for. -/
theorem allow_widen (bounds : Bounds) (need : Need) :
    (bounds.widen need).Allow need :=
  ⟨Int.le_max_right _ _, Nat.le_max_right _ _⟩

/-
  What is needed would be allowed, if more were allowed by
  what is told.
-/
structure AllowWith
    (bounds : Bounds)
    (more need : Need) : Prop where
  depth : (need.depth : Int) ≤ bounds.limit + more.depth
  calls : need.calls ≤ bounds.stack.room + more.calls

/- What is allowed is allowed with more as well. -/
theorem Allow.with_more
    (hAllow : bounds.Allow need)
    (more : Need) :
    bounds.AllowWith more need := by
  have hDepth := hAllow.depth
  have hCalls := hAllow.calls
  constructor
  · omega
  · omega

/- So is what needs more by that. -/
theorem Allow.add_more
    (hAllow : bounds.Allow need)
    (more : Need) :
    bounds.AllowWith more (need + more) := by
  have hDepth := hAllow.depth
  have hCalls := hAllow.calls
  constructor
  · rw [Need.add_depth]
    omega
  · rw [Need.add_calls]
    omega

/- And so are two parts that are. -/
theorem AllowWith.max
    {more : Need}
    (hFirst : bounds.AllowWith more need)
    (hSecond : bounds.AllowWith more need') :
    bounds.AllowWith more (max need need') := by
  have hDepth := hFirst.depth
  have hDepth' := hSecond.depth
  constructor
  · rw [Need.max_depth]
    omega
  · exact Nat.max_le.mpr ⟨hFirst.calls, hSecond.calls⟩

/- Every stack has room for a number. -/
theorem allow_number (hLimit : 1 ≤ bounds.limit) :
    bounds.Allow ⟨1, 3⟩ :=
  ⟨hLimit, Nat.le_trans (by decide) bounds.stack.enough⟩

end Bounds

------------------------------------------------------------
-- Frames
------------------------------------------------------------

/-
  What waits for the operand that is read: a sign, an open
  bracket, or the left side of an operation.
-/
inductive Frame where
| sign (operator : Token) : Frame
| bracket : Frame
| factor (left : Tree) (operator : Token) : Frame
| addend (left : Tree) (operator : Token) : Frame
deriving DecidableEq

namespace Frame

/- The levels of nesting that a frame adds. -/
def nesting : Frame → Nat
| .sign _ => 1
| .bracket => 1
| .factor _ _ => 0
| .addend _ _ => 0

/-
  The calls that a frame adds: that of an operand, and in a
  bracket those of an expression and a term as well.
-/
def rules : Frame → Nat
| .sign _ => 1
| .bracket => 3
| .factor _ _ => 0
| .addend _ _ => 0

/- The depth of the nesting inside frames. -/
def depth : List Frame → Nat
| [] => 0
| frame :: frames => frame.nesting + depth frames

/-
  The calls around an expression that is read inside frames.
-/
def calls : List Frame → Nat
| [] => 0
| frame :: frames => frame.rules + calls frames

/-
  What it needs to start an operand inside frames: one more
  level, and the calls of an expression, of a term and of the
  operand.
-/
def need (frames : List Frame) : Need :=
  ⟨depth frames + 1, calls frames + 3⟩

end Frame

namespace Grammar

/- The calls around a part in the expression it stands in. -/
def Part.level : Part → Nat
| .expr => 0
| .addends => 1
| .term => 1
| .factors => 2
| .operand => 2

/- What it needs to come to a part inside frames. -/
def Part.need (part : Part) (frames : List Frame) : Need :=
  ⟨Frame.depth frames, Frame.calls frames + part.level⟩

/- What it needs to read what is derived inside frames. -/
def Derivation.need
    {part : Part}
    (d : Derivation part)
    (frames : List Frame) : Need :=
  ⟨Frame.depth frames + d.depth,
    Frame.calls frames + part.level + d.calls⟩

end Grammar

namespace Frame

------------------------------------------------------------
-- Completion
------------------------------------------------------------

/-
  Complete the signs and factors that wait for an operand,
  which makes a term.
-/
def closeTerm : Tree → List Frame → Tree × List Frame
| tree, .sign operator :: frames =>
    closeTerm (.unary operator tree) frames
| tree, .factor left operator :: frames =>
    closeTerm (.binary left operator tree) frames
| tree, frames => (tree, frames)

/-
  Complete everything that waits for an operand inside the
  innermost open bracket, which makes an expression. The
  frames around the bracket are left, if there is one.
-/
def closeExpr : Tree → List Frame → Tree × Option (List Frame)
| tree, [] => (tree, none)
| tree, .bracket :: frames => (tree, some frames)
| tree, .sign operator :: frames =>
    closeExpr (.unary operator tree) frames
| tree, .factor left operator :: frames =>
    closeExpr (.binary left operator tree) frames
| tree, .addend left operator :: frames =>
    closeExpr (.binary left operator tree) frames

------------------------------------------------------------
-- Frames Around a Part
------------------------------------------------------------

/- Frames that stay open at the end of a term. -/
def OpensTerm (frames : List Frame) : Prop :=
  ∀ tree, closeTerm tree frames = (tree, frames)

/- Frames that stay open at the end of an expression. -/
def OpensExpr (frames : List Frame) : Prop :=
  frames = [] ∨ ∃ outer, frames = .bracket :: outer

/- The end of a term comes before that of an expression. -/
theorem OpensExpr.opensTerm
    {frames : List Frame}
    (hOpens : OpensExpr frames) :
    OpensTerm frames := by
  intro tree
  rcases hOpens with rfl | ⟨outer, rfl⟩ <;> rfl

/- An addend is a term. -/
theorem opensTerm_addend
    (left : Tree)
    (operator : Token)
    (frames : List Frame) :
    OpensTerm (.addend left operator :: frames) :=
  fun _ => rfl

------------------------------------------------------------
-- Depth
------------------------------------------------------------

/- The calls in frames are three for each level at most. -/
theorem calls_le (frames : List Frame) :
    calls frames ≤ 3 * depth frames := by
  induction frames with
  | nil => exact Nat.le_refl 0
  | cons frame frames ih =>
      have hFrame : frame.rules ≤ 3 * frame.nesting := by
        cases frame <;> simp [rules, nesting]
      rw [calls, depth]
      omega

/- Each frame adds its nesting to the depth. -/
@[simp]
theorem depth_cons
    (frame : Frame)
    (frames : List Frame) :
    depth (frame :: frames) =
      frame.nesting + depth frames :=
  rfl

/- Each frame adds its calls. -/
@[simp]
theorem calls_cons
    (frame : Frame)
    (frames : List Frame) :
    calls (frame :: frames) = frame.rules + calls frames :=
  rfl

/- A term is no deeper than what it completes. -/
theorem depth_closeTerm_le
    (tree : Tree)
    (frames : List Frame) :
    depth (closeTerm tree frames).2 ≤ depth frames := by
  fun_induction closeTerm tree frames with
  | case1 tree operator frames ih =>
      rw [depth]
      omega
  | case2 tree left operator frames ih =>
      rw [depth]
      omega
  | case3 tree frames => exact Nat.le_refl _

/- Around an open bracket it is less deep than inside. -/
theorem depth_closeExpr_lt
    {tree expr : Tree}
    {frames outer : List Frame}
    (hClose : closeExpr tree frames = (expr, some outer)) :
    depth outer < depth frames := by
  fun_induction closeExpr tree frames with
  | case1 tree => cases hClose
  | case2 tree frames =>
      cases hClose
      simp only [depth, nesting]
      omega
  | case3 tree operator frames ih =>
      have hLess := ih hClose
      rw [depth]
      omega
  | case4 tree left operator frames ih =>
      have hLess := ih hClose
      rw [depth]
      omega
  | case5 tree left operator frames ih =>
      have hLess := ih hClose
      rw [depth]
      omega

------------------------------------------------------------
-- Tokens
------------------------------------------------------------

/- The tokens that a frame keeps. -/
def tokens : Frame → List Token
| .sign operator => [operator]
| .bracket => []
| .factor left operator => left.tokens ++ [operator]
| .addend left operator => left.tokens ++ [operator]

/- The tokens that frames keep, in the order of the text. -/
def kept : List Frame → List Token
| [] => []
| frame :: frames => kept frames ++ frame.tokens

end Frame

------------------------------------------------------------
-- Needs of Derivations
------------------------------------------------------------

namespace Grammar.Derivation

section

variable (frames : List Frame)

/- What a sign needs is needed inside its frame. -/
theorem need_signed
    (sign : Token)
    (hSign : sign.kind.isSign = true)
    (operand : Derivation .operand) :
    (signed sign hSign operand).need frames =
      operand.need (.sign sign :: frames) := by
  ext <;>
    simp only [need, depth, calls, Frame.depth_cons,
      Frame.calls_cons, Frame.nesting, Frame.rules,
      Part.level] <;>
    omega

/- So is what a bracket needs. -/
theorem need_bracketed
    (opening : Token)
    (hOpening : opening.kind = .bracketOpen)
    (inner : Derivation .expr)
    (closing : Token)
    (hClosing : closing.kind = .bracketClose) :
    (bracketed opening hOpening inner closing
        hClosing).need frames =
      inner.need (.bracket :: frames) := by
  ext <;>
    simp only [need, depth, calls, Frame.depth_cons,
      Frame.calls_cons, Frame.nesting, Frame.rules,
      Part.level] <;>
    omega

/- A term needs what its operands need. -/
theorem need_term
    (first : Derivation .operand)
    (rest : Derivation .factors) :
    (term first rest).need frames =
      max (first.need frames) (rest.need frames) := by
  ext <;>
    simp only [need, depth, calls, Part.level,
      Need.max_depth, Need.max_calls] <;>
    omega

/- So does a run of factors. -/
theorem need_factor
    (left : Tree)
    (operator : Token)
    (hOperator : operator.kind.isFactorOperator = true)
    (right : Derivation .operand)
    (rest : Derivation .factors) :
    (factor operator hOperator right rest).need frames =
      max (right.need (.factor left operator :: frames))
        (rest.need frames) := by
  ext <;>
    simp only [need, depth, calls, Frame.depth_cons,
      Frame.calls_cons, Frame.nesting, Frame.rules,
      Part.level, Need.max_depth, Need.max_calls] <;>
    omega

/- An expression needs what its terms need. -/
theorem need_expr
    (first : Derivation .term)
    (rest : Derivation .addends) :
    (expr first rest).need frames =
      max (first.need frames) (rest.need frames) := by
  ext <;>
    simp only [need, depth, calls, Part.level,
      Need.max_depth, Need.max_calls] <;>
    omega

/- So does a run of addends. -/
theorem need_addend
    (left : Tree)
    (operator : Token)
    (hOperator : operator.kind.isSign = true)
    (right : Derivation .term)
    (rest : Derivation .addends) :
    (addend operator hOperator right rest).need frames =
      max (right.need (.addend left operator :: frames))
        (rest.need frames) := by
  ext <;>
    simp only [need, depth, calls, Frame.depth_cons,
      Frame.calls_cons, Frame.nesting, Frame.rules,
      Part.level, Need.max_depth, Need.max_calls] <;>
    omega

end

/- Every operand is a level of nesting. -/
theorem one_le_depth (d : Derivation .operand) :
    1 ≤ d.depth := by
  cases d <;> simp only [depth] <;> omega

/-
  No more than three calls are needed for each level of the
  nesting. The induction counts the calls around a part, too.
-/
theorem calls_add_level_le
    {part : Part}
    (d : Derivation part) :
    d.calls + part.level ≤
      max part.level (3 * d.depth) := by
  induction d with
  | number token hNumber =>
      simp only [calls, depth, Part.level]
      omega
  | signed sign hSign operand ih =>
      have hDepth := operand.one_le_depth
      simp only [calls, depth, Part.level] at ih ⊢
      omega
  | bracketed opening hOpening inner closing hClosing ih =>
      simp only [calls, depth, Part.level] at ih ⊢
      omega
  | term first rest ihFirst ihRest =>
      have hDepth := first.one_le_depth
      simp only [calls, depth, Part.level]
        at ihFirst ihRest ⊢
      omega
  | expr first rest ihFirst ihRest =>
      cases first with
      | term operand factors =>
          have hDepth := operand.one_le_depth
          simp only [calls, depth, Part.level]
            at ihFirst ihRest ⊢
          omega
  | noFactor | noAddend =>
      simp only [calls, depth, Part.level]
      omega
  | factor operator hOperator right rest ihRight ihRest
  | addend operator hOperator right rest ihRight ihRest =>
      simp only [calls, depth, Part.level]
        at ihRight ihRest ⊢
      omega

/- An expression needs no more calls than that. -/
theorem calls_le (d : Derivation .expr) :
    d.calls ≤ 3 * d.depth := by
  have hCalls := d.calls_add_level_le
  rwa [Part.level, Nat.zero_max] at hCalls

end Grammar.Derivation

end Calculator
