import Mathlib.Data.List.Basic
import Calculator.Proofs.Lexing.Finality
import Calculator.Proofs.Reading.Runs
import Calculator.Proofs.Reading.Simulation
import Calculator.Proofs.Text.Excerpts

/-
  This file shows that every error of a text has its place in
  the text or at its end, where an excerpt can point at it.
  The places of errors are those of tokens that are drawn, or
  of the draw that fails.

  Key definitions include:
    * `Draws.AreWithin`
-/

namespace Calculator

------------------------------------------------------------
-- Draws
------------------------------------------------------------

/- All tokens and failures are placed up to a position. -/
structure Draws.AreWithin
    (draws : Draws)
    (last : Nat) : Prop where
  token : ∀ t ∈ draws.given, t.position ≤ last
  failure : ∀ e, draws.ending = .error e → e.position ≤ last

namespace Lexer

/- A failure is placed where the lexer stands after it. -/
theorem position_of_next_error
    {l l' : Lexer}
    {e : LexError}
    (hNext : l.next = (.error e, l')) :
    e.position = l'.position := by
  have hTakes := l.skipGap.tokenHere_takes
  rw [show l.skipGap.tokenHere = (.error e, l') from hNext]
    at hTakes
  exact hTakes.error_place.1

/- A draw does not move the end of the text. -/
theorem end_of_next
    {l l' : Lexer}
    {result : Except LexError Token}
    (hNext : l.next = (result, l')) :
    l'.position + l'.rest.length =
      l.position + l.rest.length := by
  have hEnd := (readsOn_next l).position_add_length
  rwa [hNext] at hEnd

/- A token that is drawn is placed up to that end. -/
theorem position_le_of_next
    {l l' : Lexer}
    {t : Token}
    (hNext : l.next = (.ok t, l')) :
    t.position ≤ l.position + l.rest.length := by
  have hEnd := end_of_next hNext
  have hStop := (place_of_next hNext).2.1
  rw [Token.stop] at hStop
  omega

/-
  What a lexer draws is placed up to the end of the text that
  is left to it. The induction is on the draws, of which none
  moves that end.
-/
theorem draws_areWithin (l : Lexer) :
    l.draws.AreWithin (l.position + l.rest.length) := by
  fun_induction draws l with
  | case1 l e l' hNext =>
      have hEnd := end_of_next hNext
      constructor
      case token =>
          intro u hu
          cases hu
      case failure =>
          intro x hx
          cases hx
          rw [position_of_next_error hNext]
          omega
  | case2 l t l' hNext hKind =>
      constructor
      case token =>
          intro u hu
          cases List.mem_singleton.mp hu
          exact position_le_of_next hNext
      case failure =>
          intro x hx
          cases hx
  | case3 l t l' hNext hKind ih =>
      rw [end_of_next hNext] at ih
      constructor
      case token =>
          intro u hu
          rcases List.mem_cons.mp hu with rfl | hu
          · exact position_le_of_next hNext
          · exact ih.token u hu
      case failure => exact ih.failure

/- What is drawn from a text is placed in it. -/
theorem draws_start_areWithin (text : String) :
    (start text).draws.AreWithin text.length := by
  have hWithin := draws_areWithin (start text)
  simp only [start, Nat.zero_add, String.length_toList]
    at hWithin
  exact hWithin

end Lexer

------------------------------------------------------------
-- Errors
------------------------------------------------------------

/- An error of the list of tokens is placed in the text. -/
theorem position_le_of_tokenize
    {text : String}
    {e : LexError}
    (hTokens : tokenize text = .error e) :
    e.position ≤ text.length := by
  have hWithin := Lexer.draws_start_areWithin text
  exact hWithin.failure e (tokenize_eq_error.mp hTokens)

/-
  An error of the machine is placed at one of the tokens, or
  where a draw fails.
-/
theorem Reading.Halts.position_le
    {bounds : Bounds}
    {draws : Draws}
    {k last : Nat}
    {s : Reading}
    {e : ParseError}
    {before : List Token}
    (hHalts : Halts bounds draws k s (.error e))
    (hHas : s.Has before)
    (hWithin : draws.AreWithin last) :
    e.position ≤ last := by
  cases hHalts with
  | undrawn x hFailure =>
      exact hWithin.failure x
        (Draws.failure?_eq_some.mp hFailure).1
  | tooDeep t hToken hDeep =>
      exact hWithin.token t (List.mem_of_getElem? hToken)
  | stop t hToken hDeep hNext hStop =>
      rw [(hHas.stop_error hStop).1]
      exact hWithin.token t (List.mem_of_getElem? hToken)

/- An error of reading is placed in the text. -/
theorem position_le_of_parse
    {text : String}
    {bounds : Bounds}
    {e : ParseError}
    (hParse : parse text bounds = .error e) :
    e.position ≤ text.length := by
  rw [parse_eq_outcome] at hParse
  rcases Reading.exists_takes bounds
      (fun eof hEnding =>
        Lexer.kind_eq_eof_of_ending hEnding)
      (Lexer.start text).draws.tokens Reading.initial with
    ⟨k, s, _, hTakes, hHalts⟩
  rw [hParse] at hHalts
  exact hHalts.position_le
    (hTakes.has [] Reading.initial_has)
    (Lexer.draws_start_areWithin text)

------------------------------------------------------------
-- Diagnostics
------------------------------------------------------------

/-
  Every error of a text is placed in it or at its end. An
  excerpt at such a place is a window of the text, with a
  mark on each side where it goes on, one line feed, and a
  line of blanks that ends in a caret. The caret is under the
  character at that place, which is no part of a mark, or
  behind the window if the text ends there. The window is
  not much longer than twice its reach.
-/
theorem diagnostics_point_at_faults (text : String) :
    (∀ e,
      tokenize text = .error e →
        e.position ≤ text.length) ∧
      (∀ bounds e,
        parse text bounds = .error e →
          e.position ≤ text.length) ∧
      ∀ index ≤ text.length,
        ∀ reach ≥ 1,
          ∃ before shown after column,
            Excerpt.IsWindow text.toList index reach
                before shown after ∧
              (Excerpt.pointAt text index reach).toList =
                Excerpt.marked before shown after ++
                  '\n' ::
                    (List.replicate column ' ' ++ ['^']) ∧
              Excerpt.IsColumn text.toList index
                before shown after column ∧
              (Excerpt.marked before shown after).length ≤
                2 * reach + 6 := by
  refine ⟨fun _ => position_le_of_tokenize,
    fun _ _ => position_le_of_parse, ?_⟩
  intro index hIndex reach hReach
  rcases Excerpt.exists_isWindow_pointAt text index reach
    hIndex with ⟨before, shown, after, hWindow, hLines⟩
  exact ⟨before, shown, after, _, hWindow, hLines,
    hWindow.isColumn hReach, hWindow.length_marked_le⟩

/-
  The exponent without a digit is an error at the end of its
  text, and the caret is under the place behind it.
-/
theorem diagnostics_point_at_faults_end :
    tokenize "12 * 3e+" = .error ⟨8, none⟩ ∧
      parse "12 * 3e+" {} = .error ⟨.lexical ⟨8, none⟩, 8⟩ ∧
      (8 : Nat) ≤ "12 * 3e+".length ∧
      ∃ before shown after column,
        Excerpt.IsWindow "12 * 3e+".toList 8 3
            before shown after ∧
          (Excerpt.pointAt "12 * 3e+" 8 3).toList =
            Excerpt.marked before shown after ++
              '\n' ::
                (List.replicate column ' ' ++ ['^']) ∧
          column =
            (Excerpt.marked before shown after).length := by
  rcases diagnostics_point_at_faults "12 * 3e+" with
    ⟨hTokenize, hParse, hExcerpt⟩
  have hTokens :
      tokenize "12 * 3e+" = .error ⟨8, none⟩ := by
    cbv
  have hRead :
      parse "12 * 3e+" {} =
        .error ⟨.lexical ⟨8, none⟩, 8⟩ := by
    cbv
  rcases hExcerpt 8 (hTokenize _ hTokens) 3 (by decide) with
    ⟨before, shown, after, column, hWindow, hLines, hColumn,
      _⟩
  exact ⟨hTokens, hRead, hParse _ _ hRead, before, shown,
    after, column, hWindow, hLines, hColumn.atEnd (by decide)⟩

end Calculator
