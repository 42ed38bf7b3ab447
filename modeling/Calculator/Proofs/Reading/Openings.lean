import Calculator.Proofs.Lexing.Locality
import Calculator.Proofs.Reading.Simulation

/-
  This file shows what a text that is read starts with: after
  a gap there is a digit, a sign or an open bracket.

  Key definitions include:
    * `Text.opensOperand`
-/

namespace Calculator

/- Whether an operand may start with a character. -/
def Text.opensOperand (c : Char) : Bool :=
  isDigit c || c == '+' || c == '-' || c == '('

------------------------------------------------------------
-- The First Token
------------------------------------------------------------

/- What is read starts with a token that fits at the start. -/
theorem Reading.exists_next_of_outcome
    {bounds : Bounds}
    {ending : Except LexError Token}
    {ts : List Token}
    {tree : Tree}
    (hOutcome :
      initial.outcome bounds ending ts = .ok tree) :
    ∃ t rest s, ts = t :: rest ∧ initial.next? t = some s := by
  cases ts with
  | nil =>
      cases ending with
      | error e => cases hOutcome
      | ok eof =>
          simp only [outcome] at hOutcome
          split at hOutcome <;> cases hOutcome
  | cons t rest =>
      simp only [outcome] at hOutcome
      split at hOutcome
      · cases hOutcome
      · split at hOutcome
        · rename_i s hNext
          exact ⟨t, rest, s, rfl, hNext⟩
        · cases hOutcome

/- A token that fits at the start opens an operand. -/
theorem Token.IsSpelled.opensOperand
    {t : Token}
    {s : Reading}
    (hSpelled : t.IsSpelled)
    (hNext : Reading.initial.next? t = some s) :
    ∃ c cs,
      t.text.toList = c :: cs ∧
        Text.opensOperand c = true := by
  cases hSpelled with
  | numeral n hNumeral hKind hText =>
      rcases Lexer.numeral_head hNumeral with
        ⟨c, cs, hChars, hDigit⟩
      refine ⟨c, cs, ?_, ?_⟩
      · rw [hText, String.toList_ofList, hChars]
      · simp [Text.opensOperand, hDigit]
  | symbol chars hSymbol hText =>
      rw [hText, String.toList_ofList]
      rcases t with ⟨kind, text, position⟩
      simp only at hSymbol
      unfold Lexer.symbol? at hSymbol
      -- Only the signs and the open bracket fit.
      split at hSymbol <;> cases hSymbol
      case h_3 => exact ⟨_, _, rfl, rfl⟩
      case h_4 => exact ⟨_, _, rfl, rfl⟩
      case h_8 => exact ⟨_, _, rfl, rfl⟩
      all_goals cases hNext

------------------------------------------------------------
-- The First Character
------------------------------------------------------------

/- A text that is read opens an operand after a gap. -/
theorem exists_opening_of_parse
    {text : String}
    {bounds : Bounds}
    {tree : Tree}
    (hParse : parse text bounds = .ok tree) :
    ∃ gap c rest,
      text.toList = gap ++ c :: rest ∧
        (∀ d ∈ gap, Lexer.isGap d = true) ∧
        Text.opensOperand c = true := by
  rw [parse_eq_outcome] at hParse
  rcases Reading.exists_next_of_outcome hParse with
    ⟨t, ts, s, hDraws, hFits⟩
  have hSpelled : t.IsSpelled :=
    Lexer.isSpelled_of_mem_draws (Lexer.start text) t
      (by simp [hDraws])
  rcases Lexer.exists_next_of_draws hDraws with ⟨l, hNext⟩
  rcases Lexer.exists_gap_of_next hNext with
    ⟨gap, hGap, hText, _⟩
  rcases hSpelled.opensOperand hFits with ⟨c, cs, hChars, hc⟩
  refine ⟨gap, c, cs ++ l.rest, ?_, hGap, hc⟩
  rw [hChars] at hText
  exact hText

end Calculator
