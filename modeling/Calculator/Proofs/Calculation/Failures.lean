import Calculator.Proofs.Reading.Messages
import Calculator.Proofs.Trees.Arithmetic
import Calculator.Transcript.Run

/-
  This file shows how a calculation can fail: only because
  the text is no expression that is within the bounds. No
  number of a text is malformed, and every tree that is read
  has a value, so that a transcript is ended by a failure
  only where it is told to be.
-/

namespace Calculator

------------------------------------------------------------
-- Faults
------------------------------------------------------------

/- No text is refused because of a malformed number. -/
theorem fault_ne_malformedNumber
    {text : String}
    {bounds : Bounds}
    {e : ParseError}
    (hParse : parse text bounds = .error e)
    (malformed : String) :
    e.fault ≠ .malformedNumber malformed := by
  rw [parse_eq_outcome] at hParse
  rcases Reading.exists_takes bounds
      (fun eof hEnding =>
        Lexer.kind_eq_eof_of_ending hEnding)
      (Lexer.start text).draws.tokens Reading.initial with
    ⟨k, s, _, hTakes, hHalts⟩
  rw [hParse] at hHalts
  cases hHalts with
  | undrawn x hFailure => exact nofun
  | tooDeep t hToken hDeep =>
      rcases Reading.isOfDepth_depthFault bounds s with
        hFault | hFault
      · rw [hFault]
        exact nofun
      · rw [hFault]
        exact nofun
  | stop t hToken hDeep hNext hStop =>
      rcases Reading.stop_fault hStop with
        hFault | hFault | hFault
      · rw [hFault]
        exact nofun
      · rw [hFault]
        exact nofun
      · rw [hFault]
        exact nofun

------------------------------------------------------------
-- Calculations
------------------------------------------------------------

/- A tree that is read has a value. -/
theorem exists_value_of_parse
    {text : String}
    {bounds : Bounds}
    {tree : Tree}
    (hParse : parse text bounds = .ok tree) :
    ∃ x, tree.evaluate = .ok x :=
  (isReadable_of_parse hParse).isArithmetic.exists_value

/- A calculation fails only where the parse does. -/
theorem calculate_cases (text : String) (bounds : Bounds) :
    (∃ x, calculate text bounds = .ok x) ∨
      ∃ e,
        parse text bounds = .error e ∧
          calculate text bounds = .error (.syntactic e) := by
  cases hParse : parse text bounds with
  | error e =>
      refine Or.inr ⟨e, rfl, ?_⟩
      simp only [calculate, calculation, hParse]
  | ok tree =>
      rcases exists_value_of_parse hParse with ⟨x, hx⟩
      refine Or.inl ⟨x, ?_⟩
      simp only [calculate, calculation, hParse, hx]

/- A text has a value or a report. -/
theorem exists_valueOrReport (text : String) :
    ∃ r, valueOrReport text = .ok r := by
  unfold valueOrReport
  rcases calculate_cases text {} with
    ⟨x, hx⟩ | ⟨e, _, hError⟩
  · rw [hx]
    exact ⟨_, rfl⟩
  · rw [hError]
    exact ⟨_, rfl⟩

------------------------------------------------------------
-- Transcripts
------------------------------------------------------------

/- A line is the last because of a failure only if told so. -/
theorem stopOnFailure_of_answer
    {settings : Settings}
    {line : String}
    (hAnswer :
      (answer settings line).2 = some .failed) :
    settings.stopOnFailure = true := by
  unfold answer at hAnswer
  simp only at hAnswer
  split at hAnswer
  · cases hAnswer
  · split at hAnswer
    · cases hAnswer
    · generalize Text.dropLineEnd line = dropped at hAnswer
      have hOutcome :
          (calculation dropped settings.bounds).2 =
            calculate dropped settings.bounds := rfl
      simp only [answerExpression, hOutcome] at hAnswer
      rcases calculate_cases dropped
          settings.bounds with
        ⟨x, hx⟩ | ⟨e, _, hError⟩
      · rw [hx] at hAnswer
        cases hAnswer
      · rw [hError] at hAnswer
        simp only [endingAfter] at hAnswer
        split at hAnswer
        · assumption
        · cases hAnswer

/-
  A transcript ends with a failure only if told so. The
  induction is on the lines, of which each one may be last.
-/
theorem stopOnFailure_of_run
    {settings : Settings}
    (announcement : List Event)
    (lines : List String)
    (hEnding :
      (Transcript.run settings announcement lines).ending =
        .failed) :
    settings.stopOnFailure = true := by
  induction lines with
  | nil => cases hEnding
  | cons line rest ih =>
      have hLast :
          (answer settings line).2 = some .failed →
            settings.stopOnFailure = true :=
        stopOnFailure_of_answer
      unfold Transcript.run at hEnding
      split at hEnding
      · rename_i events ending hAnswer
        simp only at hEnding
        rw [hAnswer, hEnding] at hLast
        exact hLast rfl
      · exact ih hEnding

/-
  No text leads to an internal error. Its calculation gives a
  value, or fails because of a fault of the text that is not
  a malformed number; the trees that are read are those of
  arithmetic; a text has a value or a report; and the exit
  code is that of a failure only where failures are told to
  end the transcript.
-/
theorem calculate_fails_by_syntax_only :
    (∀ text bounds,
      (∃ x, calculate text bounds = .ok x) ∨
        ∃ e,
          calculate text bounds = .error (.syntactic e) ∧
            ∀ malformed,
              e.fault ≠ .malformedNumber malformed ∧
                e.fault.message ≠
                  (ParseFault.malformedNumber
                    malformed).message) ∧
      (∀ text bounds tree,
        parse text bounds = .ok tree →
          tree.IsArithmetic) ∧
      (∀ text, ∃ r, valueOrReport text = .ok r) ∧
      (∀ settings announcement lines,
        (Transcript.run settings announcement
            lines).ending.exitCode = 1 →
          settings.stopOnFailure = true) := by
  refine ⟨?_, ?_, exists_valueOrReport, ?_⟩
  · intro text bounds
    rcases calculate_cases text bounds with
      hValue | ⟨e, hParse, hError⟩
    · exact Or.inl hValue
    · refine Or.inr ⟨e, hError, fun malformed => ?_⟩
      have hFault := fault_ne_malformedNumber hParse
      refine ⟨hFault malformed, fun hMessage => ?_⟩
      rcases ParseFault.exists_malformedNumber hMessage with
        ⟨other, hOther⟩
      exact hFault other hOther
  · intro text bounds tree hParse
    exact (isReadable_of_parse hParse).isArithmetic
  · intro settings announcement lines hCode
    apply stopOnFailure_of_run announcement lines
    revert hCode
    cases (Transcript.run settings announcement
      lines).ending <;> simp [Ending.exitCode]

end Calculator
