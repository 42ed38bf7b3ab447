import Calculator.Proofs.Reading.FaultPlaces
import Calculator.Proofs.Reading.Faults

/-
  This file shows when a text of which the tokens cannot be
  listed is refused for the same reason when it is read. A
  parser draws one token after another and stops at the first
  that does not fit, so that it comes to the draw that fails
  only if all of the tokens before it fit.

  Key definitions include:
    * `Grammar.IsPassable`
    * `ParseError.Reports`
-/

namespace Calculator

open Grammar

------------------------------------------------------------
-- Places before a Failure
------------------------------------------------------------

/-
  The tokens that are drawn before a failure are placed
  before it, from where the lexer stands on.
-/
theorem Lexer.position_lt_of_ending
    {l : Lexer}
    {e : LexError}
    (hEnding : l.draws.ending = .error e) :
    l.position ≤ e.position ∧
      ∀ t ∈ l.draws.tokens, t.position < e.position := by
  fun_induction draws l with
  | case1 l x l' hNext =>
      cases hEnding
      have hReads := (readsOn_next l).position_le
      rw [hNext] at hReads
      refine ⟨?_, fun t ht => absurd ht List.not_mem_nil⟩
      rwa [position_of_next_error hNext]
  | case2 l t l' hNext hKind => cases hEnding
  | case3 l t l' hNext hKind ih =>
      rcases place_of_next hNext with
        ⟨hStart, hStop, hShort⟩
      have hLess : t.position < l'.position :=
        hStop ▸ hShort hKind
      rcases ih hEnding with ⟨hFrom, hTokens⟩
      refine ⟨by omega, ?_⟩
      intro u hu
      rcases List.mem_cons.mp hu with rfl | hu
      · omega
      · exact hTokens u hu

------------------------------------------------------------
-- Tokens That Fit
------------------------------------------------------------

/-
  Tokens all of which fit within bounds: they are the start
  of a sentence, and before none of them an operand is due
  that is nested too deeply for the limit, or inside as many
  calls as the stack holds.
-/
structure Grammar.IsPassable
    (bounds : Bounds)
    (tokens : List Token) : Prop where
  start : IsSentenceStart tokens
  shallow :
    ∀ before t after,
      tokens = before ++ t :: after →
        ¬ IsDueTooDeep bounds.limit before ∧
          ¬ IsDueBeyond bounds.stack.room before

/- The start of the start of a sentence is one as well. -/
theorem Grammar.IsSentenceStart.of_append
    {before after : List Token}
    (hStart : IsSentenceStart (before ++ after)) :
    IsSentenceStart before := by
  rcases hStart with ⟨rest, hSentence⟩
  rw [List.append_assoc] at hSentence
  exact ⟨after ++ rest, hSentence⟩

namespace Reading

variable {bounds : Bounds}

/- The machine takes a token where no operand is too deep. -/
theorem Takes.exists_before
    {before after : List Token}
    {t : Token}
    {s s' : Reading}
    (hTakes : Takes bounds (before ++ t :: after) s s') :
    ∃ s'',
      Takes bounds before s s'' ∧
        ¬ s''.IsTooDeep bounds := by
  induction before generalizing s with
  | nil =>
      cases hTakes with
      | cons hDeep hNext hTakes => exact ⟨s, .nil s, hDeep⟩
  | cons u before ih =>
      cases hTakes with
      | cons hDeep hNext hTakes =>
          rcases ih hTakes with ⟨s'', hBefore, hShallow⟩
          exact ⟨s'', .cons hDeep hNext hBefore, hShallow⟩

/- The tokens that the machine takes all fit. -/
theorem Takes.isPassable
    {tokens : List Token}
    {s : Reading}
    (hTakes : Takes bounds tokens initial s) :
    IsPassable bounds tokens := by
  have hHas : s.Has tokens := hTakes.has [] initial_has
  refine ⟨hHas.isSentenceStart, ?_⟩
  rintro before t after rfl
  rcases hTakes.exists_before with ⟨s', hBefore, hShallow⟩
  exact
    ⟨fun hDue => hShallow (hDue.isTooDeep hBefore),
      fun hDue => hShallow (hDue.isTooDeep hBefore)⟩

/- A token of draws that fail stands among the others. -/
theorem exists_before_of_token?
    {draws : Draws}
    {x : LexError}
    {k : Nat}
    {t : Token}
    (hEnding : draws.ending = .error x)
    (hToken : draws.token? k = some t) :
    t ∈ draws.tokens ∧
      ∃ after,
        draws.tokens = draws.tokens.take k ++ t :: after := by
  rw [Draws.token?_of_ending hEnding] at hToken
  refine ⟨List.mem_of_getElem? hToken,
    draws.tokens.drop (k + 1), ?_⟩
  rcases List.getElem?_eq_some_iff.mp hToken with ⟨hk, rfl⟩
  rw [← List.drop_eq_getElem_cons hk, List.take_append_drop]

/-
  Among tokens that end in a failure, the machine halts at
  that failure after all of them, or at one that does not
  fit.
-/
theorem Halts.cases_of_failure
    {draws : Draws}
    {x : LexError}
    {k : Nat}
    {s : Reading}
    {result : Except ParseError Tree}
    (hEnding : draws.ending = .error x)
    (hKinds : ∀ t ∈ draws.tokens, t.kind ≠ .eof)
    (hTakes : Takes bounds (draws.tokens.take k) initial s)
    (hHalts : Halts bounds draws k s result) :
    (IsPassable bounds draws.tokens ∧
        result = .error (.ofLexError x)) ∨
      ¬ IsPassable bounds draws.tokens ∧
        ∃ t ∈ draws.tokens,
          ∃ e,
            result = .error e ∧
              e.position = t.position ∧
              ∀ y, e.fault ≠ .lexical y := by
  have hHas : s.Has (draws.tokens.take k) :=
    hTakes.has [] initial_has
  cases hHalts with
  | undrawn e hFailure =>
      rcases Draws.failure?_eq_some.mp hFailure with
        ⟨hError, rfl⟩
      rw [hEnding] at hError
      cases hError
      -- Nothing is left to draw, so that all tokens are taken.
      rw [List.take_length] at hTakes
      exact Or.inl ⟨hTakes.isPassable, rfl⟩
  | tooDeep t hToken hDeep =>
      rcases exists_before_of_token? hEnding hToken with
        ⟨hMem, after, hTokens⟩
      refine Or.inr ⟨?_, t, hMem, _, rfl, rfl, ?_⟩
      · intro hPassable
        have hShallow := hPassable.shallow _ t after hTokens
        rcases due_of_isTooDeep hHas hDeep with
          hDue | hDue
        · exact hShallow.1 hDue
        · exact hShallow.2 hDue
      · intro y
        rcases isOfDepth_depthFault bounds s with
          hFault | hFault
        · rw [hFault]
          exact nofun
        · rw [hFault]
          exact nofun
  | stop t hToken hDeep hNext hStop =>
      rcases exists_before_of_token? hEnding hToken with
        ⟨hMem, after, hTokens⟩
      cases result with
      | ok tree =>
          exact absurd (hHas.stop_ok hStop).1 (hKinds t hMem)
      | error e =>
          have hPlace := (hHas.stop_error hStop).1
          refine Or.inr ⟨?_, t, hMem, e, rfl, hPlace, ?_⟩
          · intro hPassable
            -- Tokens that fit would fit up to this one, too.
            have hStart := hPassable.start
            rw [hTokens, ← List.singleton_append,
              ← List.append_assoc] at hStart
            exact not_isSentenceStart_of_stop hTakes hDeep
              hNext hStop hStart.of_append
          · intro y
            rcases stop_fault hStop with
              hFault | hFault | hFault
            · rw [hFault]
              exact nofun
            · rw [hFault]
              exact nofun
            · rw [hFault]
              exact nofun

end Reading

------------------------------------------------------------
-- Failures That Are Reported
------------------------------------------------------------

/-
  An error reports the failure of a draw: it is the reason
  for it, it is told in the message, and it has its place.
-/
structure ParseError.Reports
    (e : ParseError)
    (x : LexError) : Prop where
  cause : e.fault = .lexical x
  message : e.fault.message = "Syntax error: " ++ x.message
  place : e.position = x.position

/- An error out of a failure reports it. -/
theorem ParseError.reports_ofLexError (x : LexError) :
    (ofLexError x).Reports x :=
  ⟨rfl, rfl, rfl⟩

/-
  A text whose tokens cannot be listed is never read. The
  error of reading it reports the failure of the list exactly
  if all the tokens before that fit. Otherwise it is of
  another kind, and placed at a token before the failure.
-/
theorem parse_reports_lexical_failure_iff
    {text : String}
    {x : LexError}
    (hTokens : tokenize text = .error x)
    (bounds : Bounds) :
    ∃ e,
      parse text bounds = .error e ∧
        (e.Reports x ↔
          IsPassable bounds
            (Lexer.start text).draws.tokens) ∧
        (¬ e.Reports x →
          e.position < x.position ∧
            (∀ y, e.fault ≠ .lexical y) ∧
            ∃ t ∈ (Lexer.start text).draws.tokens,
              e.position = t.position) := by
  have hEnding := tokenize_eq_error.mp hTokens
  rcases Reading.exists_takes bounds
      (fun eof hEof => Lexer.kind_eq_eof_of_ending hEof)
      (Lexer.start text).draws.tokens Reading.initial with
    ⟨k, s, _, hTakes, hHalts⟩
  rw [← parse_eq_outcome] at hHalts
  rcases hHalts.cases_of_failure hEnding
      (fun t ht => Lexer.kind_ne_eof_of_mem_draws ht)
      hTakes with
    ⟨hPassable, hParse⟩ |
      ⟨hNot, t, ht, e, hParse, hPlace, hOther⟩
  · have hReports := ParseError.reports_ofLexError x
    exact ⟨_, hParse, iff_of_true hReports hPassable,
      absurd hReports⟩
  · have hUnreported : ¬ e.Reports x :=
      fun hReports => hOther x hReports.cause
    have hBefore := (Lexer.position_lt_of_ending hEnding).2
    refine ⟨e, hParse, iff_of_false hUnreported hNot, ?_⟩
    intro _
    exact ⟨hPlace ▸ hBefore t ht, hOther, t, ht, hPlace⟩

/-
  An exponent without a digit is reported where one more
  operand may start, even if the limit allows no bracket.
-/
theorem parse_reports_lexical_failure_exponent :
    tokenize "1 + 2e" = .error ⟨6, none⟩ ∧
      (ParseError.ofLexError ⟨6, none⟩).Reports ⟨6, none⟩ ∧
      IsPassable { limit := 1 }
        (Lexer.start "1 + 2e").draws.tokens := by
  have hTokens : tokenize "1 + 2e" = .error ⟨6, none⟩ := by
    cbv
  have hRead :
      parse "1 + 2e" { limit := 1 } =
        .error (.ofLexError ⟨6, none⟩) := by
    cbv
  rcases parse_reports_lexical_failure_iff hTokens
      { limit := 1 } with
    ⟨e, hParse, hReported, _⟩
  rw [hRead, Except.error.injEq] at hParse
  have hReports := ParseError.reports_ofLexError ⟨6, none⟩
  rw [← hParse] at hReported
  exact ⟨hTokens, hReports, hReported.mp hReports⟩

/-
  A failure behind a complete expression is not reported:
  the second number is refused before the dollar is drawn.
-/
theorem lexical_failure_unreported :
    ¬ ∀ (text : String) (limit : Int) (x : LexError),
      1 ≤ limit →
        tokenize text = .error x →
          ∃ e,
            parse text { limit := limit } = .error e ∧
              e.Reports x := by
  intro hAll
  have hTokens :
      tokenize "1 1 $" = .error ⟨4, some '$'⟩ := by
    cbv
  have hRead :
      parse "1 1 $" { limit := 200 } =
        .error ⟨.trailing .integer, 2⟩ := by
    cbv
  rcases hAll "1 1 $" 200 _ (by decide) hTokens with
    ⟨e, hParse, hReports⟩
  rw [hRead, Except.error.injEq] at hParse
  have hCause := hReports.cause
  rw [← hParse] at hCause
  cases hCause

end Calculator
