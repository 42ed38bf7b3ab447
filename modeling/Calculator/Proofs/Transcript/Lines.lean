import Calculator.Proofs.Transcript.Replies

/-
  This file shows how far a transcript goes: it takes lines
  one after another, each with its reply, up to the first one
  that it stops at. The reply depends on nothing but the line
  and the settings.

  Key definitions include:
    * `Settings.StopsAt`
    * `Transcript.Ends`
-/

namespace Calculator

/-
  A line ends a transcript: it is a quit directive, or it is
  faulty and failures are told to end the transcript.
-/
def Settings.StopsAt
    (settings : Settings)
    (taken : String) : Prop :=
  IsDirective (Text.dropLineEnd taken) ∨
    settings.stopOnFailure = true ∧
      ¬ IsBlank (Text.dropLineEnd taken) ∧
      ∃ e,
        parse (Text.dropLineEnd taken) settings.bounds =
          .error e

------------------------------------------------------------
-- One Line
------------------------------------------------------------

/- A line is the last just if the transcript stops at it. -/
theorem ending_of_reply
    (settings : Settings)
    (taken : String) :
    settings.StopsAt taken ∧
        (∃ ending,
          (settings.reply taken).2 = some ending ∧
            (IsDirective (Text.dropLineEnd taken) →
              ending.exitCode = 0) ∧
            (¬ IsDirective (Text.dropLineEnd taken) →
              ending.exitCode = 1)) ∨
      ¬ settings.StopsAt taken ∧
        (settings.reply taken).2 = none := by
  cases lineCases settings.bounds
      (Text.dropLineEnd taken) with
  | directive hDirective =>
      refine Or.inl ⟨Or.inl hDirective, .quit, ?_, ?_, ?_⟩
      · rw [settings.reply_directive hDirective]
      · exact fun _ => rfl
      · exact absurd hDirective
  | blank hDirective hBlank =>
      refine Or.inr ⟨?_, ?_⟩
      · rintro (hStop | ⟨_, hStop, _⟩)
        · exact hDirective hStop
        · exact hStop hBlank
      · rw [settings.reply_blank hDirective hBlank]
  | expression hDirective hBlank hParse hValue =>
      refine Or.inr ⟨?_, ?_⟩
      · rintro (hStop | ⟨_, _, e, hError⟩)
        · exact hDirective hStop
        · rw [hParse] at hError
          cases hError
      · rw [settings.reply_expression hDirective hBlank
          hParse hValue]
  | @faulty e hDirective hBlank hParse =>
      rw [settings.reply_faulty hDirective hBlank hParse]
      by_cases hStop : settings.stopOnFailure = true
      · refine Or.inl ⟨Or.inr ⟨hStop, hBlank, e, hParse⟩,
          .failed, if_pos hStop, ?_, fun _ => rfl⟩
        intro hQuit
        exact absurd hQuit hDirective
      · refine Or.inr ⟨?_, if_neg hStop⟩
        rintro (hQuit | ⟨hTold, _⟩)
        · exact hDirective hQuit
        · exact hStop hTold

------------------------------------------------------------
-- All Lines
------------------------------------------------------------

/-
  How far a transcript of lines goes: up to the first line
  that it stops at, or to the end of the lines.
-/
inductive Transcript.Ends
    (settings : Settings)
    (lines : List String)
    (t : Transcript) : Prop where
| atLine
    (before : List String)
    (last : String)
    (rest : List String)
    (hLines : lines = before ++ last :: rest)
    (hBefore : ∀ line ∈ before, ¬ settings.StopsAt line)
    (hLast : settings.StopsAt last)
    (hSeen :
      t.seen = (before ++ [last]).flatMap settings.exchange)
    (hQuit :
      IsDirective (Text.dropLineEnd last) →
        t.ending.exitCode = 0)
    (hFailed :
      ¬ IsDirective (Text.dropLineEnd last) →
        t.ending.exitCode = 1)
| atEnd
    (hLines : ∀ line ∈ lines, ¬ settings.StopsAt line)
    (hSeen : t.seen = lines.flatMap settings.exchange)
    (hCode : t.ending.exitCode = 0)

/-
  Every transcript ends in this way. The induction is on the
  lines.
-/
theorem ends_piped
    (settings : Settings)
    (lines : List String) :
    Transcript.Ends settings lines
      (Transcript.piped settings lines) := by
  induction lines with
  | nil =>
      refine .atEnd ?_ rfl rfl
      intro line hLine
      cases hLine
  | cons line lines ih =>
      rcases ending_of_reply settings line with
        ⟨hStop, ending, hLast, hQuit, hFailed⟩ |
          ⟨hStop, hMore⟩
      · rcases Transcript.piped_of_last hLast lines with
          ⟨hSeen, hEnding⟩
        rw [← hEnding] at hQuit hFailed
        refine .atLine [] line lines rfl ?_ hStop ?_ hQuit
          hFailed
        · intro other hOther
          cases hOther
        · rw [hSeen, List.nil_append, List.flatMap_cons,
            List.flatMap_nil, List.append_nil]
      · rcases Transcript.piped_of_more hMore lines with
          ⟨hSeen, hEnding⟩
        cases ih with
        | atLine before last rest hLines hBefore hLast
            hSeen' hQuit hFailed =>
            rw [← hEnding] at hQuit hFailed
            refine .atLine (line :: before) last rest ?_ ?_
              hLast ?_ hQuit hFailed
            · rw [hLines, List.cons_append]
            · exact
                List.forall_mem_cons.mpr ⟨hStop, hBefore⟩
            · rw [hSeen, hSeen', List.cons_append,
                List.flatMap_cons]
        | atEnd hLines hSeen' hCode =>
            rw [← hEnding] at hCode
            refine .atEnd ?_ ?_ hCode
            · exact List.forall_mem_cons.mpr ⟨hStop, hLines⟩
            · rw [hSeen, hSeen', List.flatMap_cons]

/-
  A transcript takes lines one after another, each after all
  that is printed for the line before, up to the first one
  that it stops at, or all of them. What is printed for a
  line is nothing if it is a directive or blank; its tokens
  and its tree, if they are shown, and its value, if it is an
  expression, which is never a directive or blank; and
  otherwise its tokens, if they are shown, and its fault.
-/
theorem piped_answers_each_line
    (settings : Settings)
    (lines : List String) :
    Transcript.Ends settings lines
        (Transcript.piped settings lines) ∧
      ∀ taken line,
        line = Text.dropLineEnd taken →
          (IsDirective line ∨ IsBlank line →
            settings.exchange taken = [.taken taken]) ∧
          (∀ tree,
            parse line settings.bounds = .ok tree →
              ¬ IsDirective line ∧
                ¬ IsBlank line ∧
                ∃ x,
                  calculate line settings.bounds =
                      .ok x ∧
                    settings.exchange taken =
                      .taken taken ::
                        ((settings.shownTokens line).toList ++
                          ((settings.shownTree tree).toList ++
                            [.printed .answers
                              x.result]))) ∧
          ∀ e,
            parse line settings.bounds = .error e →
              ¬ IsDirective line →
                ¬ IsBlank line →
                  settings.exchange taken =
                    .taken taken ::
                      ((settings.shownTokens line).toList ++
                        [.printed .errors
                          (e.report line)]) := by
  refine ⟨ends_piped settings lines, ?_⟩
  rintro taken line rfl
  refine ⟨?_, ?_, ?_⟩
  · intro hNone
    unfold Settings.exchange
    by_cases hDirective :
        IsDirective (Text.dropLineEnd taken)
    · rw [settings.reply_directive hDirective]
    · have hBlank := hNone.resolve_left hDirective
      rw [settings.reply_blank hDirective hBlank]
  · intro tree hParse
    have hDirective := not_isDirective_of_parse hParse
    have hBlank := not_isBlank_of_parse hParse
    rcases exists_value_of_parse hParse with ⟨x, hx⟩
    refine ⟨hDirective, hBlank, x, ?_, ?_⟩
    · simp only [calculate, calculation, hParse, hx]
    · rw [Settings.exchange, settings.reply_expression
        hDirective hBlank hParse hx]
  · intro e hParse hDirective hBlank
    rw [Settings.exchange,
      settings.reply_faulty hDirective hBlank hParse]

end Calculator
