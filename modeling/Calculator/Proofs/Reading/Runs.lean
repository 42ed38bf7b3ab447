import Calculator.Proofs.Lexing.Draws
import Calculator.Proofs.Reading.Prefixes

/-
  This file follows the machine over the tokens that it
  takes, to the one that it takes no more. What it has read
  by then is the start of a sentence that no further token
  completes, unless a draw fails or an operand is too deep.

  Key definitions include:
    * `Reading.Takes`
    * `Reading.Halts`
    * `Grammar.IsDueTooDeep`
    * `Grammar.IsDueBeyond`
-/

namespace Calculator

open Grammar

namespace Reading

variable {bounds bounds' : Bounds}
variable {ending : Except LexError Token}

------------------------------------------------------------
-- Taken Tokens
------------------------------------------------------------

/- The machine takes tokens from one state to another. -/
inductive Takes (bounds : Bounds) :
    List Token → Reading → Reading → Prop where
| nil (s : Reading) : Takes bounds [] s s
| cons
    {s s' s'' : Reading}
    {t : Token}
    {ts : List Token}
    (hDeep : ¬ s.IsTooDeep bounds)
    (hNext : s.next? t = some s')
    (hTakes : Takes bounds ts s' s'') :
    Takes bounds (t :: ts) s s''

/- What is taken has been read. -/
theorem Takes.has
    {ts : List Token}
    {s s' : Reading}
    (hTakes : Takes bounds ts s s') :
    ∀ before, s.Has before → s'.Has (before ++ ts) := by
  induction hTakes with
  | nil s =>
      intro before hHas
      rwa [List.append_nil]
  | cons hDeep hNext hTakes ih =>
      intro before hHas
      have hAfter := ih _ (hHas.next hNext)
      rwa [List.append_assoc] at hAfter

/- An operand too deep for bounds is so for narrower ones. -/
theorem IsTooDeep.mono
    {s : Reading}
    (hAtMost : bounds.AtMost bounds')
    (hDeep : s.IsTooDeep bounds') :
    s.IsTooDeep bounds := by
  rcases s with ⟨_ | tree, frames⟩
  · exact fun hAllow => hDeep (hAllow.of_atMost hAtMost)
  · exact hDeep

/- Wider bounds let the machine take the same tokens. -/
theorem Takes.mono
    {ts : List Token}
    {s s' : Reading}
    (hAtMost : bounds.AtMost bounds')
    (hTakes : Takes bounds ts s s') :
    Takes bounds' ts s s' := by
  induction hTakes with
  | nil s => exact .nil s
  | cons hDeep hNext hTakes ih =>
      exact .cons (fun h => hDeep (h.mono hAtMost)) hNext ih

/- Reading comes to the same after taken tokens. -/
theorem Takes.outcome_append
    {ts : List Token}
    {s s' : Reading}
    (hTakes : Takes bounds ts s s')
    (rest : List Token) :
    s.outcome bounds ending (ts ++ rest) =
      s'.outcome bounds ending rest := by
  induction hTakes with
  | nil s => rfl
  | cons hDeep hNext hTakes ih =>
      rw [List.cons_append, outcome_cons hDeep hNext]
      exact ih

------------------------------------------------------------
-- Where the Machine Halts
------------------------------------------------------------

/-
  What the machine ends with at one of the draws: a draw that
  fails, an operand that is too deep, or a token that does
  not fit.
-/
inductive Halts
    (bounds : Bounds)
    (draws : Draws)
    (k : Nat)
    (s : Reading) : Except ParseError Tree → Prop where
| undrawn
    (e : LexError)
    (hFailure : draws.failure? k = some e) :
    Halts bounds draws k s (.error (.ofLexError e))
| tooDeep
    (t : Token)
    (hToken : draws.token? k = some t)
    (hDeep : s.IsTooDeep bounds) :
    Halts bounds draws k s
      (.error ⟨s.depthFault bounds, t.position⟩)
| stop
    {result : Except ParseError Tree}
    (t : Token)
    (hToken : draws.token? k = some t)
    (hDeep : ¬ s.IsTooDeep bounds)
    (hNext : s.next? t = none)
    (hStop : s.stop t = result) :
    Halts bounds draws k s result

/- The draws are counted from the first token on. -/
theorem Halts.cons
    {ts : List Token}
    {k : Nat}
    {s : Reading}
    {result : Except ParseError Tree}
    (hHalts : Halts bounds ⟨ts, ending⟩ k s result)
    (t : Token) :
    Halts bounds ⟨t :: ts, ending⟩ (k + 1) s result := by
  cases hHalts with
  | undrawn e hFailure =>
      rcases Draws.failure?_eq_some.mp hFailure with
        ⟨hEnding, rfl⟩
      exact .undrawn e
        (Draws.failure?_eq_some.mpr ⟨hEnding, rfl⟩)
  | tooDeep u hToken hDeep =>
      exact .tooDeep u hToken hDeep
  | stop u hToken hDeep hNext hStop =>
      exact .stop u hToken hDeep hNext hStop

/-
  Reading takes some of the tokens and halts at the draw that
  comes next.
-/
theorem exists_takes
    (bounds : Bounds)
    (hEnding : ∀ eof, ending = .ok eof → eof.kind = .eof)
    (ts : List Token)
    (s : Reading) :
    ∃ k s',
      k ≤ ts.length ∧
        Takes bounds (ts.take k) s s' ∧
        Halts bounds ⟨ts, ending⟩ k s'
          (s.outcome bounds ending ts) := by
  induction ts generalizing s with
  | nil =>
      refine ⟨0, s, Nat.le_refl 0, .nil s, ?_⟩
      cases ending with
      | error e =>
          apply Halts.undrawn
          rfl
      | ok eof =>
          by_cases hDeep : s.IsTooDeep bounds
          · simp only [outcome, hDeep, if_true]
            exact .tooDeep eof rfl hDeep
          · simp only [outcome, hDeep, if_false]
            exact .stop eof rfl hDeep
              (next?_eof s (hEnding eof rfl)) rfl
  | cons t ts ih =>
      by_cases hDeep : s.IsTooDeep bounds
      · refine ⟨0, s, Nat.zero_le _, .nil s, ?_⟩
        simp only [outcome, hDeep, if_true]
        exact .tooDeep t rfl hDeep
      · cases hNext : s.next? t with
        | none =>
            refine ⟨0, s, Nat.zero_le _, .nil s, ?_⟩
            simp only [outcome, hDeep, if_false, hNext]
            exact .stop t rfl hDeep hNext rfl
        | some s' =>
            rcases ih s' with ⟨k, s'', hk, hTakes, hHalts⟩
            refine ⟨k + 1, s'', Nat.succ_le_succ hk,
              .cons hDeep hNext hTakes, ?_⟩
            rw [outcome_cons hDeep hNext]
            exact hHalts.cons t

------------------------------------------------------------
-- Tokens That Do Not Fit
------------------------------------------------------------

/- Only at the end token is a tree complete. -/
theorem Has.stop_ok
    {s : Reading}
    {ts : List Token}
    {t : Token}
    {tree : Tree}
    (hHas : s.Has ts)
    (hStop : s.stop t = .ok tree) :
    t.kind = .eof ∧
      ∃ d : Derivation .expr,
        d.tokens = ts ∧ d.tree = tree := by
  rcases s with ⟨_ | operand, frames⟩
  · cases hStop
  · rcases hHas.exists_expr with
      ⟨outer, before, d, hExpr, rfl, hClose⟩
    simp only [stop, hClose] at hStop
    cases hExpr with
    | expr =>
        simp only [Frame.closeExpr] at hStop
        split at hStop
        · rename_i hKind
          cases hStop
          exact ⟨hKind, d, rfl, rfl⟩
        · cases hStop
    | bracketed opening hOpening hAwaits =>
        cases hStop

/-
  What a token that does not fit is told to be: not the
  operand that is due, or not what may follow the operand
  that is complete.
-/
theorem Has.stop_error
    {s : Reading}
    {ts : List Token}
    {t : Token}
    {e : ParseError}
    (hHas : s.Has ts)
    (hStop : s.stop t = .error e) :
    e.position = t.position ∧
      ((∃ depth calls, IsOperandDue ts depth calls) ∧
          e.fault = .expectedOperand t.kind ∨
        (IsOperandComplete ts ∧ HasOpenBracket ts) ∧
          e.fault = .expected .bracketClose t.kind ∨
        (IsOperandComplete ts ∧ ¬ HasOpenBracket ts) ∧
          e.fault = .trailing t.kind) := by
  rcases s with ⟨_ | operand, frames⟩
  · cases hStop
    exact ⟨rfl,
      Or.inl ⟨⟨_, _, frames, hHas, rfl, rfl⟩, rfl⟩⟩
  · have hComplete : IsOperandComplete ts := by
      rcases hHas with ⟨before, d, hAwaits, hTokens, _⟩
      exact ⟨before, _, _, ⟨frames, hAwaits, rfl, rfl⟩, d,
        hTokens⟩
    rcases hHas.exists_expr with
      ⟨outer, before, d, hExpr, rfl, hClose⟩
    simp only [stop, hClose] at hStop
    cases hExpr with
    | expr =>
        simp only [Frame.closeExpr] at hStop
        split at hStop
        · cases hStop
        · cases hStop
          exact ⟨rfl, Or.inr (Or.inr
            ⟨⟨hComplete, d.not_hasOpenBracket⟩, rfl⟩)⟩
    | bracketed opening hOpening hAwaits =>
        cases hStop
        exact ⟨rfl, Or.inr (Or.inl
          ⟨⟨hComplete, hAwaits.hasOpenBracket hOpening d⟩,
            rfl⟩)⟩

/- A token that does not fit is blamed by its kind. -/
theorem stop_fault
    {s : Reading}
    {t : Token}
    {e : ParseError}
    (hStop : s.stop t = .error e) :
    e.fault = .expectedOperand t.kind ∨
      e.fault = .expected .bracketClose t.kind ∨
      e.fault = .trailing t.kind := by
  rcases s with ⟨_ | tree, frames⟩
  · cases hStop
    exact Or.inl rfl
  · simp only [stop] at hStop
    split at hStop
    · split at hStop
      · cases hStop
      · cases hStop
        exact Or.inr (Or.inr rfl)
    · cases hStop
      exact Or.inr (Or.inl rfl)

/- A token that does not fit is not too deep. -/
theorem not_isOfDepth_of_stop
    {s : Reading}
    {t : Token}
    {e : ParseError}
    (hStop : s.stop t = .error e) :
    ¬ e.fault.IsOfDepth := by
  rcases stop_fault hStop with hFault | hFault | hFault <;>
  · rw [hFault]
    rintro (hTooDeep | hOverflow)
    · cases hTooDeep
    · cases hOverflow

------------------------------------------------------------
-- Operands Too Deep
------------------------------------------------------------

/- Reading finds an operand that is too deep. -/
def FindsTooDeep
    (bounds : Bounds)
    (ending : Except LexError Token)
    (ts : List Token)
    (s : Reading) : Prop :=
  ∃ e : ParseError,
    e.fault.IsOfDepth ∧
      s.outcome bounds ending ts = .error e

namespace FindsTooDeep

variable {s s' : Reading}

/- It is found after tokens that are passed, if not there. -/
theorem of_passes
    {need : Need}
    {ts rest : List Token}
    (hPasses : Passes bounds ending need ts rest s s')
    (hFinds : FindsTooDeep bounds ending rest s') :
    FindsTooDeep bounds ending (ts ++ rest) s := by
  unfold Passes at hPasses
  split at hPasses
  · rcases hFinds with ⟨e, hFault, hOutcome⟩
    exact ⟨e, hFault, hPasses.trans hOutcome⟩
  · rcases hPasses with ⟨t, _, fault, hFault, hOutcome⟩
    exact ⟨_, hFault, hOutcome⟩

/- It is found after a token that is taken, if not there. -/
theorem cons
    {t : Token}
    {ts : List Token}
    (hNext : s.next? t = some s')
    (hFinds : FindsTooDeep bounds ending ts s') :
    FindsTooDeep bounds ending (t :: ts) s := by
  by_cases hDeep : s.IsTooDeep bounds
  · refine ⟨⟨s.depthFault bounds, t.position⟩,
      isOfDepth_depthFault bounds s, ?_⟩
    simp only [outcome, hDeep, if_true]
  · rcases hFinds with ⟨e, hFault, hOutcome⟩
    exact ⟨e, hFault,
      (outcome_cons hDeep hNext).trans hOutcome⟩

end FindsTooDeep

end Reading

namespace Grammar

variable {bounds bounds' : Bounds}
variable {ending : Except LexError Token}

open Reading

/- An operand is due inside as much nesting as the limit. -/
def IsDueTooDeep
    (limit : Int)
    (before : List Token) : Prop :=
  ∃ depth calls : Nat,
    IsOperandDue before depth calls ∧ limit ≤ depth

/-
  An operand is due inside as many calls as a stack has room
  for, so that there is no room for that of the operand.
-/
def IsDueBeyond
    (room : Nat)
    (before : List Token) : Prop :=
  ∃ depth calls : Nat,
    IsOperandDue before depth calls ∧ room ≤ calls

/-
  What is found too deep inside the frames that wait after
  tokens is found so from the start. The induction is on the
  frames, with the part that was read before each of them.
-/
theorem Awaits.findsTooDeep
    {part : Part}
    {frames : List Frame}
    {before : List Token}
    (hAwaits : Awaits part frames before)
    (bounds : Bounds)
    (ending : Except LexError Token) :
    ∀ rest,
      FindsTooDeep bounds ending rest ⟨.due, frames⟩ →
        FindsTooDeep bounds ending (before ++ rest)
          Reading.initial := by
  induction hAwaits with
  | expr =>
      intro rest hFinds
      exact hFinds
  | firstTerm hAwaits ih => exact ih
  | firstOperand hAwaits ih => exact ih
  | addend left operator hOperator hAwaits ih =>
      intro rest hFinds
      have hOpens := hAwaits.opensExpr
      have hPasses := left.isPassed bounds ending _
        (operator :: rest) hOpens
        (stopsAt_sign hOperator)
      have hStart := ih _
        (.of_passes hPasses
          (.cons (next?_addend hOperator hOpens _) hFinds))
      simpa using hStart
  | factor left operator hOperator hAwaits ih =>
      intro rest hFinds
      have hOpens := hAwaits.opensTerm
      have hPasses := left.isPassed bounds ending _
        (operator :: rest) hOpens
      have hStart := ih _
        (.of_passes hPasses
          (.cons (next?_factor hOperator hOpens _) hFinds))
      simpa using hStart
  | signed sign hSign hAwaits ih =>
      intro rest hFinds
      have hStart := ih _
        (.cons (next?_sign hSign _) hFinds)
      simpa using hStart
  | bracketed opening hOpening hAwaits ih =>
      intro rest hFinds
      have hStart := ih _
        (.cons (next?_opening hOpening _) hFinds)
      simpa using hStart

/-
  Where an operand is due too deep, the machine finds so. Any
  token will do to see it, since the depth is looked at
  before the token.
-/
theorem Awaits.isTooDeep
    {frames : List Frame}
    {before : List Token}
    {s : Reading}
    (hAwaits : Awaits .operand frames before)
    (hDeep : Reading.IsTooDeep bounds ⟨.due, frames⟩)
    (hTakes : Takes bounds before Reading.initial s) :
    s.IsTooDeep bounds := by
  have hFinds := hAwaits.findsTooDeep bounds
    (.ok closingBracket) []
    ⟨⟨depthFault bounds ⟨.due, frames⟩,
        closingBracket.position⟩,
      isOfDepth_depthFault bounds ⟨.due, frames⟩, by
        simp only [outcome, hDeep, if_true]⟩
  rcases hFinds with ⟨e, hFault, hOutcome⟩
  rw [hTakes.outcome_append, outcome] at hOutcome
  by_cases hState : s.IsTooDeep bounds
  · exact hState
  · rw [if_neg hState] at hOutcome
    exact absurd hFault (not_isOfDepth_of_stop hOutcome)

/- An operand of the machine needs more than there is. -/
theorem exists_due_of_isTooDeep
    {s : Reading}
    (hDeep : s.IsTooDeep bounds) :
    ∃ frames,
      s = ⟨.due, frames⟩ ∧
        ¬ bounds.Allow (Frame.need frames) := by
  rcases s with ⟨_ | tree, frames⟩
  · exact ⟨frames, rfl, hDeep⟩
  · cases hDeep

/-
  The machine is inside as much nesting as the limit where an
  operand is due that is. On a stack with room for any of
  them, nothing else keeps either from being read.
-/
theorem IsDueTooDeep.limit_le
    {before : List Token}
    {s : Reading}
    (hDue : IsDueTooDeep bounds.limit before)
    (hTakes : Takes bounds before Reading.initial s) :
    ∃ frames,
      s = ⟨.due, frames⟩ ∧
        bounds.limit ≤ Frame.depth frames := by
  rcases hDue with
    ⟨_, _, ⟨frames, hAwaits, rfl, rfl⟩, hLimit⟩
  let wide := bounds.widen ⟨0, (Frame.need s.frames).calls⟩
  have hDeep : Reading.IsTooDeep wide ⟨.due, frames⟩ := by
    intro hAllow
    have hLess : ((Frame.depth frames + 1 : Nat) : Int) ≤
        max bounds.limit 0 := hAllow.depth
    omega
  have hState := hAwaits.isTooDeep hDeep
    (hTakes.mono (bounds.atMost_widen _))
  rcases exists_due_of_isTooDeep hState with
    ⟨frames', rfl, hNeed⟩
  refine ⟨frames', rfl, Int.not_lt.mp fun hLess => ?_⟩
  refine hNeed ⟨?_, Nat.le_max_right _ _⟩
  change ((Frame.depth frames' + 1 : Nat) : Int) ≤
    max bounds.limit 0
  omega

/-
  The machine is inside as many calls as the stack has room
  for where an operand is due that is. With a limit above any
  of them, nothing else keeps either from being read.
-/
theorem IsDueBeyond.room_lt
    {before : List Token}
    {s : Reading}
    (hDue : IsDueBeyond bounds.stack.room before)
    (hTakes : Takes bounds before Reading.initial s) :
    ∃ frames,
      s = ⟨.due, frames⟩ ∧
        bounds.stack.room < (Frame.need frames).calls := by
  rcases hDue with
    ⟨_, _, ⟨frames, hAwaits, rfl, rfl⟩, hRoom⟩
  let wide := bounds.widen ⟨(Frame.need s.frames).depth, 0⟩
  have hDeep : Reading.IsTooDeep wide ⟨.due, frames⟩ := by
    intro hAllow
    have hLess : Frame.calls frames + 3 ≤
        max bounds.stack.room 0 := hAllow.calls
    omega
  have hState := hAwaits.isTooDeep hDeep
    (hTakes.mono (bounds.atMost_widen _))
  rcases exists_due_of_isTooDeep hState with
    ⟨frames', rfl, hNeed⟩
  refine ⟨frames', rfl, Nat.lt_of_not_le fun hLess => ?_⟩
  exact hNeed ⟨Int.le_max_right _ _,
    Nat.le_trans hLess (Nat.le_max_left _ _)⟩

/- So the machine finds it too deep for the limit, -/
theorem IsDueTooDeep.isTooDeep
    {before : List Token}
    {s : Reading}
    (hDue : IsDueTooDeep bounds.limit before)
    (hTakes : Takes bounds before Reading.initial s) :
    s.IsTooDeep bounds := by
  rcases hDue.limit_le hTakes with ⟨frames, rfl, hLimit⟩
  intro hAllow
  have hDepth : ((Frame.depth frames + 1 : Nat) : Int) ≤
      bounds.limit := hAllow.depth
  omega

/- and for the stack. -/
theorem IsDueBeyond.isTooDeep
    {before : List Token}
    {s : Reading}
    (hDue : IsDueBeyond bounds.stack.room before)
    (hTakes : Takes bounds before Reading.initial s) :
    s.IsTooDeep bounds := by
  rcases hDue.room_lt hTakes with ⟨frames, rfl, hRoom⟩
  exact fun hAllow => Nat.not_le.mpr hRoom hAllow.calls

/- What the machine finds too deep is so for one of them. -/
theorem due_of_isTooDeep
    {before : List Token}
    {s : Reading}
    (hHas : s.Has before)
    (hDeep : s.IsTooDeep bounds) :
    IsDueTooDeep bounds.limit before ∨
      IsDueBeyond bounds.stack.room before := by
  rcases exists_due_of_isTooDeep hDeep with
    ⟨frames, rfl, hNeed⟩
  have hDue :
      IsOperandDue before (Frame.depth frames)
        (Frame.calls frames + 2) :=
    ⟨frames, hHas, rfl, rfl⟩
  by_cases hLimit : bounds.limit ≤ Frame.depth frames
  · exact Or.inl ⟨_, _, hDue, hLimit⟩
  · refine Or.inr ⟨_, _, hDue, ?_⟩
    refine Nat.le_of_lt_succ (Nat.lt_of_not_le ?_)
    intro hRoom
    have hLess := Int.not_le.mp hLimit
    exact hNeed ⟨Int.add_one_le_of_lt hLess, hRoom⟩

------------------------------------------------------------
-- Sentences
------------------------------------------------------------

/- What it needs to read a sentence. -/
def Derivation.size (d : Derivation .expr) : Need :=
  ⟨d.depth, d.calls⟩

/-
  The tokens of a sentence are read as its tree, if there is
  what it needs, and too deep at one of the tokens if there
  is not.
-/
theorem Derivation.outcome_tokens
    (d : Derivation .expr)
    (bounds : Bounds)
    {eof : Token}
    (hKind : eof.kind = .eof) :
    if bounds.Allow d.size then
      Reading.initial.outcome bounds (.ok eof) d.tokens =
        .ok d.tree
    else
      ∃ t ∈ d.tokens,
        ∃ fault : ParseFault,
          fault.IsOfDepth ∧
            Reading.initial.outcome bounds (.ok eof)
                d.tokens =
              .error ⟨fault, t.position⟩ := by
  have hPasses := d.isPassed bounds (.ok eof) [] []
    (Or.inl rfl) (fun t ht => by cases ht)
  have hNeed : d.need [] = d.size := by
    ext <;>
      simp [need, size, Frame.depth, Frame.calls, Part.level]
  unfold Passes at hPasses
  rw [hNeed, List.append_nil] at hPasses
  split
  · rename_i hAllow
    rw [if_pos hAllow] at hPasses
    apply hPasses.trans
    simp only [outcome, not_isTooDeep_read, if_false, stop,
      Frame.closeTerm, Frame.closeExpr, hKind, if_true]
  · rename_i hAllow
    rwa [if_neg hAllow] at hPasses

/-
  No sentence goes on with a token that does not fit. Bounds
  that are wide enough for a sentence would let the machine
  read it, past that token.
-/
theorem not_isSentenceStart_of_stop
    {before : List Token}
    {s : Reading}
    {t : Token}
    {e : ParseError}
    (hTakes : Takes bounds before Reading.initial s)
    (hDeep : ¬ s.IsTooDeep bounds)
    (hNext : s.next? t = none)
    (hStop : s.stop t = .error e) :
    ¬ IsSentenceStart (before ++ [t]) := by
  intro hStart
  rcases hStart with ⟨rest, d, hTokens⟩
  have hWide := bounds.atMost_widen d.size
  have hEof : Token.kind ⟨.eof, "", 0⟩ = .eof := rfl
  have hRead := d.outcome_tokens (bounds.widen d.size) hEof
  rw [if_pos (bounds.allow_widen d.size), hTokens,
    List.append_assoc, (hTakes.mono hWide).outcome_append,
    List.singleton_append, outcome] at hRead
  have hDeep' : ¬ s.IsTooDeep (bounds.widen d.size) :=
    fun h => hDeep (h.mono hWide)
  simp only [hDeep', if_false, hNext, hStop] at hRead
  cases hRead

/- Nor is it a sentence if the end token does not fit. -/
theorem not_isSentence_of_stop
    {before : List Token}
    {s : Reading}
    {eof : Token}
    {e : ParseError}
    (hTakes : Takes bounds before Reading.initial s)
    (hDeep : ¬ s.IsTooDeep bounds)
    (hKind : eof.kind = .eof)
    (hStop : s.stop eof = .error e) :
    ¬ IsSentence before := by
  intro hSentence
  rcases hSentence with ⟨d, rfl⟩
  have hWide := bounds.atMost_widen d.size
  have hRead := d.outcome_tokens (bounds.widen d.size) hKind
  rw [if_pos (bounds.allow_widen d.size),
    ← List.append_nil d.tokens,
    (hTakes.mono hWide).outcome_append, outcome] at hRead
  have hDeep' : ¬ s.IsTooDeep (bounds.widen d.size) :=
    fun h => hDeep (h.mono hWide)
  simp only [hDeep', if_false, hStop] at hRead
  cases hRead

end Grammar

end Calculator
