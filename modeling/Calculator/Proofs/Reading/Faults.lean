import Calculator.Proofs.Reading.Sentences

/-
  This file shows which fault is reported for a text that is
  not read. The tokens before the fault are the start of a
  sentence, and the fault is the first thing after them: a
  draw that fails, an operand that is nested too deeply for
  the limit or for the stack, or a token with which no
  sentence goes on.

  Key definitions include:
    * `ParseError.IsLexical`
    * `ParseError.IsTooDeep`
    * `ParseError.IsBeyond`
    * `ParseError.IsMisplaced`
-/

namespace Calculator

open Grammar

------------------------------------------------------------
-- Kinds of Faults
------------------------------------------------------------

namespace ParseError

/- An error at a draw that fails. -/
def IsLexical
    (draws : Draws)
    (k : Nat)
    (e : ParseError) : Prop :=
  ∃ x,
    draws.failure? k = some x ∧
      e.fault = .lexical x ∧
      e.fault.message = "Syntax error: " ++ x.message ∧
      e.position = x.position

/- An error at an operand that is nested too deeply. -/
def IsTooDeep
    (limit : Int)
    (draws : Draws)
    (k : Nat)
    (e : ParseError) : Prop :=
  ∃ t,
    draws.token? k = some t ∧
      IsDueTooDeep limit (draws.tokens.take k) ∧
      e.fault.message =
        "Expression is nested too deeply" ∧
      e.position = t.position

/-
  An error at an operand that is not nested too deeply for
  the limit, but inside as many calls as the stack holds.
-/
def IsBeyond
    (bounds : Bounds)
    (draws : Draws)
    (k : Nat)
    (e : ParseError) : Prop :=
  ∃ t,
    draws.token? k = some t ∧
      ¬ IsDueTooDeep bounds.limit (draws.tokens.take k) ∧
      IsDueBeyond bounds.stack.room (draws.tokens.take k) ∧
      e.fault.message =
        "Expression is nested too deeply" ∧
      e.position = t.position

/-
  What is said about a token that does not fit after others.
  Either an operand is due there, or one is complete.
-/
def Blames
    (before : List Token)
    (t : Token)
    (e : ParseError) : Prop :=
  ((∃ depth calls, IsOperandDue before depth calls) ∨
      IsOperandComplete before) ∧
    (∀ depth calls,
      IsOperandDue before depth calls →
        e.fault.message =
          "Expected a number or '(' but received " ++
            t.kind.name) ∧
    (IsOperandComplete before →
      HasOpenBracket before →
        e.fault.message =
          "Expected BRACKET_CLOSE but received " ++
            t.kind.name) ∧
    (IsOperandComplete before →
      ¬ HasOpenBracket before →
        e.fault.message =
          "Unexpected " ++ t.kind.name ++
            " after the end of expression")

/- An error at a token with which no sentence goes on. -/
def IsMisplaced
    (limit : Int)
    (draws : Draws)
    (k : Nat)
    (e : ParseError) : Prop :=
  ∃ t,
    draws.token? k = some t ∧
      ¬ IsDueTooDeep limit (draws.tokens.take k) ∧
      (t.kind ≠ .eof →
        ¬ IsSentenceStart (draws.tokens.take k ++ [t])) ∧
      (t.kind = .eof →
        ¬ IsSentence (draws.tokens.take k)) ∧
      e.position = t.position ∧
      e.Blames (draws.tokens.take k) t

/- A draw that fails gives no token. -/
theorem token?_eq_none_of_failure?
    {draws : Draws}
    {k : Nat}
    {x : LexError}
    (hFailure : draws.failure? k = some x) :
    draws.token? k = none := by
  rcases Draws.failure?_eq_some.mp hFailure with
    ⟨hEnding, rfl⟩
  rw [Draws.token?_of_ending hEnding,
    List.getElem?_eq_none (Nat.le_refl _)]

/- A token that does not fit is blamed for what is due. -/
theorem blames_of_stop
    {s : Reading}
    {before : List Token}
    {t : Token}
    {e : ParseError}
    (hHas : s.Has before)
    (hStop : s.stop t = .error e) :
    e.Blames before t := by
  rcases hHas.stop_error hStop with ⟨_, hDue | hOpen | hEnd⟩
  · rcases hDue with ⟨⟨depth, calls, hDue⟩, hFault⟩
    refine ⟨Or.inl ⟨depth, calls, hDue⟩, ?_, ?_, ?_⟩
    · intro _ _ _
      rw [hFault]
      rfl
    · intro hComplete
      exact absurd hDue
        (hComplete.not_isOperandDue depth calls)
    · intro hComplete
      exact absurd hDue
        (hComplete.not_isOperandDue depth calls)
  · rcases hOpen with ⟨⟨hComplete, hBracket⟩, hFault⟩
    refine ⟨Or.inr hComplete, ?_, ?_, ?_⟩
    · intro depth calls hDue
      exact absurd hDue
        (hComplete.not_isOperandDue depth calls)
    · intro _ _
      rw [hFault]
      rfl
    · intro _ hClosed
      exact absurd hBracket hClosed
  · rcases hEnd with ⟨⟨hComplete, hClosed⟩, hFault⟩
    refine ⟨Or.inr hComplete, ?_, ?_, ?_⟩
    · intro depth calls hDue
      exact absurd hDue
        (hComplete.not_isOperandDue depth calls)
    · intro _ hBracket
      exact absurd hBracket hClosed
    · intro _ _
      rw [hFault]
      rfl

variable {bounds : Bounds}
variable {draws : Draws}
variable {k : Nat}
variable {e : ParseError}

/- A lexical error is at no token. -/
theorem IsLexical.token?_eq_none
    (hLexical : e.IsLexical draws k) :
    draws.token? k = none := by
  rcases hLexical with ⟨x, hFailure, _⟩
  exact token?_eq_none_of_failure? hFailure

/- What is said of an operand that is due is not its depth. -/
theorem IsBeyond.not_isMisplaced
    (hBeyond : e.IsBeyond bounds draws k) :
    ¬ e.IsMisplaced bounds.limit draws k := by
  rcases hBeyond with
    ⟨_, _, _, ⟨depth, calls, hDue, _⟩, hMessage, _⟩
  rintro ⟨t, _, _, _, _, _, hBlames⟩
  have hExpected := hBlames.2.1 depth calls hDue
  rw [hMessage] at hExpected
  have hDeep :
      (ParseFault.expectedOperand t.kind).IsOfDepth :=
    ParseFault.isOfDepth_iff_message.mpr hExpected.symm
  rcases hDeep with h | h <;> cases h

/-
  A stack that has room for three calls for each level up to
  the limit holds all operands that are not too deep for it.
-/
theorem IsBeyond.room_lt
    (hBeyond : e.IsBeyond bounds draws k) :
    (bounds.stack.room : Int) < 3 * bounds.limit := by
  rcases hBeyond with
    ⟨_, _, hNotDeep,
      ⟨_, _, ⟨frames, hAwaits, rfl, rfl⟩, hRoom⟩, _⟩
  have hCalls := Frame.calls_le frames
  have hLess : (Frame.depth frames : Int) < bounds.limit := by
    refine Int.not_le.mp fun hLimit => hNotDeep ?_
    exact ⟨_, _, ⟨frames, hAwaits, rfl, rfl⟩, hLimit⟩
  omega

end ParseError

------------------------------------------------------------
-- The Leftmost Fault
------------------------------------------------------------

open ParseError

/-
  An operand that the machine finds too deep is due too deep
  for the limit, or else beyond the stack.
-/
theorem fault_of_isTooDeep
    {bounds : Bounds}
    {draws : Draws}
    {k : Nat}
    {s : Reading}
    {t : Token}
    (hHas : s.Has (draws.tokens.take k))
    (hToken : draws.token? k = some t)
    (hDeep : s.IsTooDeep bounds) :
    ParseError.IsTooDeep bounds.limit draws k
        ⟨s.depthFault bounds, t.position⟩ ∨
      ParseError.IsBeyond bounds draws k
        ⟨s.depthFault bounds, t.position⟩ := by
  have hMessage := s.message_depthFault bounds
  by_cases hLimit :
      IsDueTooDeep bounds.limit (draws.tokens.take k)
  · exact Or.inl ⟨t, hToken, hLimit, hMessage, rfl⟩
  · have hBeyond :=
      (due_of_isTooDeep hHas hDeep).resolve_left hLimit
    exact Or.inr
      ⟨t, hToken, hLimit, hBeyond, hMessage, rfl⟩

/- Where the machine halts with an error, it is its fault. -/
theorem fault_of_halts
    {bounds : Bounds}
    {draws : Draws}
    {k : Nat}
    {s : Reading}
    {e : ParseError}
    (hTakes :
      Reading.Takes bounds (draws.tokens.take k)
        Reading.initial s)
    (hHalts : Reading.Halts bounds draws k s (.error e)) :
    e.IsLexical draws k ∨
      e.IsTooDeep bounds.limit draws k ∨
      e.IsMisplaced bounds.limit draws k ∨
      e.IsBeyond bounds draws k := by
  have hHas : s.Has (draws.tokens.take k) :=
    hTakes.has [] Reading.initial_has
  cases hHalts with
  | undrawn x hFailure =>
      exact Or.inl ⟨x, hFailure, rfl, rfl, rfl⟩
  | tooDeep t hToken hDeep =>
      rcases fault_of_isTooDeep hHas hToken hDeep with
        hTooDeep | hBeyond
      · exact Or.inr (Or.inl hTooDeep)
      · exact Or.inr (Or.inr (Or.inr hBeyond))
  | stop t hToken hDeep hNext hStop =>
      refine Or.inr (Or.inr (Or.inl ⟨t, hToken, ?_, ?_, ?_,
        ?_, blames_of_stop hHas hStop⟩))
      · exact fun hDue => hDeep (hDue.isTooDeep hTakes)
      · intro _
        exact not_isSentenceStart_of_stop hTakes hDeep
          hNext hStop
      · intro hKind
        exact not_isSentence_of_stop hTakes hDeep hKind hStop
      · exact (hHas.stop_error hStop).1

/-
  A text that is not read is reported at the first draw that
  makes it so. The tokens before are the start of a sentence,
  and the error is of exactly one kind. None is beyond a
  stack with room for three calls for each level.
-/
theorem parse_reports_leftmost_fault
    {text : String}
    {bounds : Bounds}
    {e : ParseError}
    (hParse : parse text bounds = .error e) :
    ∃ k ≤ (Lexer.start text).draws.tokens.length,
      let draws := (Lexer.start text).draws
      (∀ t ∈ draws.tokens.take k, t.kind ≠ .eof) ∧
      IsSentenceStart (draws.tokens.take k) ∧
      (e.IsLexical draws k ∨
        e.IsTooDeep bounds.limit draws k ∨
        e.IsMisplaced bounds.limit draws k ∨
        e.IsBeyond bounds draws k) ∧
      ¬ (e.IsLexical draws k ∧
        (e.IsTooDeep bounds.limit draws k ∨
          e.IsMisplaced bounds.limit draws k ∨
          e.IsBeyond bounds draws k)) ∧
      ¬ (e.IsTooDeep bounds.limit draws k ∧
        (e.IsMisplaced bounds.limit draws k ∨
          e.IsBeyond bounds draws k)) ∧
      ¬ (e.IsMisplaced bounds.limit draws k ∧
        e.IsBeyond bounds draws k) ∧
      (3 * bounds.limit ≤ bounds.stack.room →
        ¬ e.IsBeyond bounds draws k) := by
  rw [parse_eq_outcome] at hParse
  rcases Reading.exists_takes bounds
      (fun eof hEnding =>
        Lexer.kind_eq_eof_of_ending hEnding)
      (Lexer.start text).draws.tokens Reading.initial with
    ⟨k, s, hk, hTakes, hHalts⟩
  rw [hParse] at hHalts
  have hHas : s.Has _ := hTakes.has [] Reading.initial_has
  refine ⟨k, hk, ?_, hHas.isSentenceStart,
    fault_of_halts hTakes hHalts, ?_, ?_, ?_, ?_⟩
  · intro t ht
    exact Lexer.kind_ne_eof_of_mem_draws
      (List.mem_of_mem_take ht)
  · rintro ⟨hLexical, hDeep | hMisplaced | hBeyond⟩
    · rcases hDeep with ⟨t, hToken, _⟩
      rw [hLexical.token?_eq_none] at hToken
      cases hToken
    · rcases hMisplaced with ⟨t, hToken, _⟩
      rw [hLexical.token?_eq_none] at hToken
      cases hToken
    · rcases hBeyond with ⟨t, hToken, _⟩
      rw [hLexical.token?_eq_none] at hToken
      cases hToken
  · rintro ⟨⟨_, _, hDue, _⟩, hMisplaced | hBeyond⟩
    · rcases hMisplaced with ⟨_, _, hNotDue, _⟩
      exact hNotDue hDue
    · rcases hBeyond with ⟨_, _, hNotDue, _⟩
      exact hNotDue hDue
  · rintro ⟨hMisplaced, hBeyond⟩
    exact hBeyond.not_isMisplaced hMisplaced
  · intro hRoom hBeyond
    exact Int.not_lt.mpr hRoom hBeyond.room_lt

/- The end of a text in an open bracket is such a fault. -/
theorem parse_reports_open_bracket :
    parse "(1" {} =
        .error ⟨.expected .bracketClose .eof, 2⟩ ∧
      ∃ k ≤ (Lexer.start "(1").draws.tokens.length,
        IsSentenceStart
          ((Lexer.start "(1").draws.tokens.take k) := by
  have hParse :
      parse "(1" {} =
        .error ⟨.expected .bracketClose .eof, 2⟩ := by
    cbv
  rcases parse_reports_leftmost_fault hParse with
    ⟨k, hk, _, hStart, _⟩
  exact ⟨hParse, k, hk, hStart⟩

/- No token of a sentence, and no end of it, is misplaced. -/
theorem Grammar.Derivation.not_isMisplaced
    (d : Derivation .expr)
    {eof : Token}
    (hDrawn : ∀ t ∈ d.tokens, t.kind ≠ .eof)
    (hKind : eof.kind = .eof)
    (limit : Int)
    (k : Nat)
    (e : ParseError) :
    ¬ e.IsMisplaced limit ⟨d.tokens, .ok eof⟩ k := by
  rintro ⟨t, hToken, _, hStart, hWhole, _⟩
  by_cases hEof : t.kind = .eof
  · have hAll := Draws.eq_of_token?_eof hDrawn hToken hEof
    exact hWhole hEof ⟨d, congrArg Draws.tokens hAll⟩
  · have hk : k < d.tokens.length := by
      refine Nat.lt_of_not_le fun hEnd => hEof ?_
      have hLast : [eof][k - d.tokens.length]? = some t := by
        rw [← List.getElem?_append_right hEnd]
        exact hToken
      have hMem := List.mem_of_getElem? hLast
      rw [List.mem_singleton.mp hMem, hKind]
    have hGiven : d.tokens[k]? = some t := by
      rw [← List.getElem?_append_left hk]
      exact hToken
    have hTake :
        d.tokens.take k ++ [t] = d.tokens.take (k + 1) := by
      rw [List.take_add_one, hGiven]
      rfl
    refine hStart hEof ⟨d.tokens.drop (k + 1), d, ?_⟩
    rw [hTake, List.take_append_drop]

/-
  Without the stack the kinds of errors are not all there
  are: a number in three thousand pairs of brackets is a
  sentence, and its limit is not reached at any token.
-/
theorem nested_fault_beyond :
    ¬ ∀ (text : String) (limit : Int) (e : ParseError),
      parse text { limit := limit } = .error e →
        ∃ k ≤ (Lexer.start text).draws.tokens.length,
          e.IsLexical (Lexer.start text).draws k ∨
            e.IsTooDeep limit (Lexer.start text).draws k ∨
            e.IsMisplaced limit (Lexer.start text).draws
              k := by
  intro hAll
  have hRoom :
      ({ limit := 100000 } : Bounds).stack.room <
        3 * 3000 + 3 := by
    decide
  rcases parse_nested_of_room_lt hRoom with ⟨e, hError, _⟩
  rcases exists_sentence_of_nested 3000 with
    ⟨d, eof, _, hDraws, hKind, hLength, _⟩
  have hDrawn : ∀ t ∈ d.tokens, t.kind ≠ .eof := by
    intro t ht
    have hMem :
        t ∈ (Lexer.start (nested 3000)).draws.tokens := by
      rwa [hDraws]
    exact Lexer.kind_ne_eof_of_mem_draws hMem
  rcases hAll _ _ _ hError with
    ⟨k, _, hLexical | hDeep | hMisplaced⟩
  · rcases hLexical with ⟨x, hFailure, _⟩
    rw [hDraws] at hFailure
    cases hFailure
  · rcases hDeep with
      ⟨_, _, ⟨_, _, ⟨frames, hAwaits, rfl, _⟩, hLimit⟩, _⟩
    have hDepth := hAwaits.depth_le
    rw [hDraws, List.length_take] at hDepth
    simp only at hDepth
    omega
  · rw [hDraws] at hMisplaced
    exact d.not_isMisplaced hDrawn hKind _ k e hMisplaced

end Calculator
