import Calculator.Proofs.Grammar.Context
import Calculator.Proofs.Reading.Derivations

/-
  This file shows what the machine has read at any time: the
  tokens taken so far are the start of a sentence, and the
  frames are the ones that wait there.

  Key definitions include:
    * `Reading.Has`
-/

namespace Calculator

open Grammar

------------------------------------------------------------
-- Closing Frames
------------------------------------------------------------

namespace Grammar

/- Frames around an expression end at a bracket. -/
theorem Awaits.opensExpr
    {frames : List Frame}
    {before : List Token}
    (hAwaits : Awaits .expr frames before) :
    Frame.OpensExpr frames := by
  cases hAwaits with
  | expr => exact Or.inl rfl
  | bracketed opening hOpening hAwaits =>
      exact Or.inr ⟨_, rfl⟩

/- Frames around a term stay open at its end. -/
theorem Awaits.opensTerm
    {frames : List Frame}
    {before : List Token}
    (hAwaits : Awaits .term frames before) :
    Frame.OpensTerm frames := by
  cases hAwaits with
  | firstTerm hAwaits =>
      exact hAwaits.opensExpr.opensTerm
  | addend left operator hOperator hAwaits =>
      exact Frame.opensTerm_addend left.tree operator _

/-
  Signs and factors before an operand make a term with it.
  The induction is on the frames, each of which is closed by
  the operand that it waits for.
-/
theorem exists_term_of_operand
    {frames : List Frame}
    {before : List Token}
    (hAwaits : Awaits .operand frames before)
    (d : Derivation .operand) :
    ∃ outer before',
      ∃ e : Derivation .term,
        Awaits .term outer before' ∧
          before' ++ e.tokens = before ++ d.tokens ∧
          Frame.closeTerm d.tree frames =
            (e.tree, outer) := by
  induction frames generalizing before d with
  | nil =>
      cases hAwaits with
      | firstOperand hAwaits =>
          refine ⟨[], before, .term d .noFactor, hAwaits,
            ?_, rfl⟩
          simp [Derivation.tokens]
  | cons frame frames ih =>
      cases hAwaits with
      | firstOperand hAwaits =>
          refine ⟨frame :: frames, before,
            .term d .noFactor, hAwaits, ?_,
            hAwaits.opensTerm d.tree⟩
          simp [Derivation.tokens]
      | factor left operator hOperator hAwaits =>
          rcases left.isExtensible operator d hOperator with
            ⟨e, hTokens, hTree⟩
          refine ⟨frames, _, e, hAwaits, ?_, ?_⟩
          · simp [hTokens]
          · rw [hTree]
            exact hAwaits.opensTerm _
      | signed sign hSign hAwaits =>
          rcases ih hAwaits (.signed sign hSign d) with
            ⟨outer, before', e, hTerm, hTokens, hClose⟩
          refine ⟨outer, before', e, hTerm, ?_, hClose⟩
          simp [hTokens, Derivation.tokens]

/-
  A term completes the expression that waits for it, up to
  the innermost open bracket.
-/
theorem exists_expr_of_term
    {frames : List Frame}
    {before : List Token}
    (hAwaits : Awaits .term frames before)
    (d : Derivation .term) :
    ∃ outer before',
      ∃ e : Derivation .expr,
        Awaits .expr outer before' ∧
          before' ++ e.tokens = before ++ d.tokens ∧
          Frame.closeExpr d.tree frames =
            Frame.closeExpr e.tree outer := by
  cases hAwaits with
  | firstTerm hAwaits =>
      refine ⟨frames, before, .expr d .noAddend, hAwaits,
        ?_, rfl⟩
      simp [Derivation.tokens]
  | addend left operator hOperator hAwaits =>
      rcases left.isExtensible operator d hOperator with
        ⟨e, hTokens, hTree⟩
      refine ⟨_, _, e, hAwaits, ?_, ?_⟩
      · simp [hTokens]
      · rw [hTree]
        rfl

end Grammar

------------------------------------------------------------
-- What Has Been Read
------------------------------------------------------------

namespace Reading

/-
  A state holds tokens that have been read: its frames wait
  for the operand that is due, or for the one that has been
  read last.
-/
def Has : Reading → List Token → Prop
| ⟨.due, frames⟩, ts => Awaits .operand frames ts
| ⟨.read tree, frames⟩, ts =>
    ∃ before,
      ∃ d : Derivation .operand,
        Awaits .operand frames before ∧
          before ++ d.tokens = ts ∧
          d.tree = tree

/- Nothing has been read at first. -/
theorem initial_has : initial.Has [] :=
  .firstOperand (.firstTerm .expr)

/-
  What has been read is an expression inside a bracket, or
  one from the start on.
-/
theorem Has.exists_expr
    {tree : Tree}
    {frames : List Frame}
    {ts : List Token}
    (hHas : Has ⟨.read tree, frames⟩ ts) :
    ∃ outer before,
      ∃ e : Derivation .expr,
        Awaits .expr outer before ∧
          before ++ e.tokens = ts ∧
          Frame.closeExpr
              (Frame.closeTerm tree frames).1
              (Frame.closeTerm tree frames).2 =
            Frame.closeExpr e.tree outer := by
  rcases hHas with ⟨before, d, hAwaits, hTokens, rfl⟩
  rcases exists_term_of_operand hAwaits d with
    ⟨frames', before', term, hTerm, hTokens', hClose⟩
  rcases exists_expr_of_term hTerm term with
    ⟨outer, before'', expr, hExpr, hTokens'', hClose'⟩
  refine ⟨outer, before'', expr, hExpr, ?_, ?_⟩
  · rw [hTokens'', hTokens', hTokens]
  · rw [hClose]
    exact hClose'

/- One more token has been read where an operand is due. -/
theorem Has.next_due
    {s : Reading}
    {frames : List Frame}
    {ts : List Token}
    {t : Token}
    (hAwaits : Awaits .operand frames ts)
    (hNext : next? ⟨.due, frames⟩ t = some s) :
    s.Has (ts ++ [t]) := by
  simp only [next?] at hNext
  split at hNext
  · rename_i hSign
    cases hNext
    exact .signed t hSign hAwaits
  · split at hNext
    · rename_i hOpening
      cases hNext
      exact .firstOperand
        (.firstTerm (.bracketed t hOpening hAwaits))
    · split at hNext
      · rename_i hNumber
        cases hNext
        exact ⟨ts, .number t hNumber, hAwaits, rfl, rfl⟩
      · cases hNext

/- One more token has been read after an operand. -/
theorem Has.next_read
    {s : Reading}
    {tree : Tree}
    {frames : List Frame}
    {ts : List Token}
    {t : Token}
    (hHas : Has ⟨.read tree, frames⟩ ts)
    (hNext : next? ⟨.read tree, frames⟩ t = some s) :
    s.Has (ts ++ [t]) := by
  simp only [next?] at hNext
  split at hNext
  · rename_i hOperator
    cases hNext
    rcases hHas with ⟨before, d, hAwaits, rfl, rfl⟩
    rcases exists_term_of_operand hAwaits d with
      ⟨outer, before', term, hTerm, hTokens, hClose⟩
    rw [hClose, ← hTokens]
    exact .factor term t hOperator hTerm
  · rcases hHas.exists_expr with
      ⟨outer, before, expr, hExpr, rfl, hClose⟩
    rw [hClose] at hNext
    cases hExpr with
    | expr =>
        simp only [Frame.closeExpr] at hNext
        split at hNext
        · rename_i hOperator
          cases hNext
          exact .firstOperand (.addend expr t hOperator .expr)
        · cases hNext
    | bracketed opening hOpening hAwaits =>
        simp only [Frame.closeExpr] at hNext
        split at hNext
        · rename_i hOperator
          cases hNext
          exact .firstOperand
            (.addend expr t hOperator
              (.bracketed opening hOpening hAwaits))
        · split at hNext
          · rename_i hClosing
            cases hNext
            refine ⟨_, .bracketed opening hOpening expr t
              hClosing, hAwaits, ?_, rfl⟩
            simp [Derivation.tokens]
          · cases hNext

/- One more token has been read after a move. -/
theorem Has.next
    {s s' : Reading}
    {ts : List Token}
    {t : Token}
    (hHas : s.Has ts)
    (hNext : s.next? t = some s') :
    s'.Has (ts ++ [t]) := by
  rcases s with ⟨_ | tree, frames⟩
  · exact Has.next_due hHas hNext
  · exact hHas.next_read hNext

/- What has been read is the start of a sentence. -/
theorem Has.isSentenceStart
    {s : Reading}
    {ts : List Token}
    (hHas : s.Has ts) :
    IsSentenceStart ts := by
  rcases s with ⟨_ | tree, frames⟩
  · have hAwaits : Awaits .operand frames ts := hHas
    rcases hAwaits.isSentenceStart
        (.number ⟨.integer, "1", 0⟩ rfl) with
      ⟨rest, hSentence⟩
    rw [List.append_assoc] at hSentence
    exact ⟨_, hSentence⟩
  · rcases hHas with ⟨before, d, hAwaits, rfl, _⟩
    exact hAwaits.isSentenceStart d

end Reading

end Calculator
