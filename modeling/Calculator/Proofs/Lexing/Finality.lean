import Calculator.Proofs.Lexing.Progress
import Calculator.Proofs.Lexing.Reference

/-
  This file shows how draws go on, failures among them. A
  draw gives a token, fails inside a number, or is final.
  The first two take characters off the text, and a final
  one is repeated by all later draws, so that every text
  comes to a final draw.

  Key definitions include:
    * `Token.StartsNone`
    * `Lexer.facing`
    * `Lexer.FailsInNumber`
    * `Lexer.IsFinal`
    * `Lexer.Proceeds`
-/

namespace Calculator

open Text (isDigit)

------------------------------------------------------------
-- Characters That Start Tokens
------------------------------------------------------------

/- No token starts with a character. -/
def Token.StartsNone (c : Char) : Prop :=
  ∀ (kind : Token.Kind) (chars : List Char),
    kind.Matches chars → c ∉ chars.head?

/- A digit by itself is a token. -/
theorem Token.Kind.matches_digit
    {c : Char}
    (hDigit : isDigit c = true) :
    Token.Kind.integer.Matches [c] :=
  .integer [c] (by simpa [Text.AllDigits] using hDigit)
    (List.cons_ne_nil c [])

/- No digit starts no token. -/
theorem Token.StartsNone.not_isDigit
    {c : Char}
    (hNone : Token.StartsNone c) :
    isDigit c = false := by
  rw [← Bool.not_eq_true]
  intro hDigit
  exact hNone _ _ (Token.Kind.matches_digit hDigit) rfl

/- A number starts with a digit. -/
theorem Token.Kind.Matches.head_of_isNumber
    {kind : Token.Kind}
    {chars : List Char}
    (hMatches : kind.Matches chars)
    (hNumber : kind.isNumber = true) :
    ∃ c cs, chars = c :: cs ∧ isDigit c = true := by
  rcases hMatches.numeral_or_symbol with
    ⟨n, hn, _, rfl⟩ | hSymbol
  · exact Lexer.numeral_head hn
  · rw [Lexer.isNumber_of_symbol? hSymbol] at hNumber
    cases hNumber

/-
  Every character that starts a token is a token by itself,
  so where nothing matches, no token starts.
-/
theorem Token.startsNone_of_not_prefix
    {c : Char}
    {cs : List Char}
    (hNone :
      ∀ (kind : Token.Kind) (chars : List Char),
        kind.Matches chars → ¬ chars <+: c :: cs) :
    Token.StartsNone c := by
  have hSingle :
      ∀ kind : Token.Kind, ¬ kind.Matches [c] :=
    fun kind hMatches =>
      hNone kind [c] hMatches ⟨cs, rfl⟩
  intro kind chars hMatches hHead
  rcases hMatches.numeral_or_symbol with
    ⟨n, hn, _, rfl⟩ | hSymbol
  · rcases Lexer.numeral_head hn with
      ⟨d, ds, hChars, hDigit⟩
    rw [hChars] at hHead
    cases hHead
    exact hSingle _ (Token.Kind.matches_digit hDigit)
  · unfold Lexer.symbol? at hSymbol
    split at hSymbol <;> cases hSymbol <;> cases hHead
    · exact hSingle _ .star
    · exact hSingle _ .slash
    all_goals exact hSingle _ hMatches

------------------------------------------------------------
-- Kinds of Draws
------------------------------------------------------------

namespace Lexer

/- The character that a lexer stands at, after a gap. -/
def facing (l : Lexer) : Option Char :=
  l.skipGap.rest.head?

/- The next draw fails inside a number. -/
def FailsInNumber (l : Lexer) : Prop :=
  (∃ e, l.next.1 = .error e) ∧
    ∃ c ∈ l.facing, isDigit c = true

/-
  The next draw gives the end token, or fails on a character
  that starts no token.
-/
def IsFinal (l : Lexer) : Prop :=
  (∃ t, l.next.1 = .ok t ∧ t.kind = .eof) ∨
    (∃ e, l.next.1 = .error e) ∧
      ∃ c ∈ l.facing, Token.StartsNone c

/-
  What a draw does: it gives a token and moves on, fails
  inside a number and moves on, or is final and moves no
  further than over the gap.
-/
inductive NextCases (l : Lexer) : Prop where
| token
    {t : Token}
    (hToken : l.next.1 = .ok t)
    (hKind : t.kind ≠ .eof)
    (hMoves : l.position < l.next.2.position)
| inNumber
    (hFails : l.FailsInNumber)
    (hMoves : l.position < l.next.2.position)
| final
    (hFinal : l.IsFinal)
    (hStays : l.next.2 = l.skipGap)

/- Every draw is of one of these kinds. -/
theorem nextCases (l : Lexer) : l.NextCases := by
  have hTakes : l.skipGap.Takes l.next := tokenHere_takes _
  have hGap : l.position ≤ l.skipGap.position :=
    (readsOn_skipGap l).position_le
  generalize hNext : l.next = result at hTakes
  cases hTakes with
  | finished hRest =>
      refine .final (Or.inl
        ⟨_, congrArg Prod.fst hNext, rfl⟩) ?_
      rw [hNext]
  | @token kind chars rest hRest hLongest hClosed =>
      have hChars : 0 < chars.length :=
        List.length_pos_iff.mpr hLongest.matched.ne_nil
      refine .token (congrArg Prod.fst hNext) ?_ ?_
      · exact kind_ne_eof_of_isSpelled
          (t := ⟨kind, String.ofList chars, 0⟩)
          hLongest.matched.isSpelled
      · rw [hNext]
        exact Nat.lt_of_le_of_lt hGap
          (Nat.lt_add_of_pos_right hChars)
  | @stuck c cs hRest hNone =>
      refine .final (Or.inr
        ⟨⟨_, congrArg Prod.fst hNext⟩, c, ?_, ?_⟩) ?_
      · rw [facing, hRest]
        rfl
      · exact Token.startsNone_of_not_prefix hNone
      · rw [hNext]
  | @broken kind chars after c hRest hLongest hNumber hPlain
      hMarker =>
      rcases hLongest.matched.head_of_isNumber hNumber with
        ⟨d, ds, rfl, hDigit⟩
      refine .inNumber
        ⟨⟨_, congrArg Prod.fst hNext⟩, d, ?_, hDigit⟩ ?_
      · rw [facing, hRest]
        rfl
      · rw [hNext]
        simp only [failAfter, List.length_append,
          List.length_cons]
        omega

/- A final draw is neither of the other kinds. -/
theorem IsFinal.is_no_other
    {l : Lexer}
    (hFinal : l.IsFinal) :
    ¬ ((∃ t, l.next.1 = .ok t ∧ t.kind ≠ .eof) ∨
      l.FailsInNumber) := by
  rintro (⟨t, hToken, hKind⟩ | ⟨⟨e, hError⟩, c, hc, hDigit⟩)
  · rcases hFinal with ⟨u, hEnd, hEof⟩ | ⟨⟨e, hError⟩, _⟩
    · rw [hToken] at hEnd
      cases hEnd
      exact hKind hEof
    · rw [hToken] at hError
      cases hError
  · rcases hFinal with ⟨u, hEnd, _⟩ | ⟨_, d, hd, hNone⟩
    · rw [hError] at hEnd
      cases hEnd
    · rw [Option.mem_def.mp hc] at hd
      cases hd
      rw [Token.StartsNone.not_isDigit hNone] at hDigit
      cases hDigit

/- A final draw moves no further than over the gap. -/
theorem IsFinal.stays
    {l : Lexer}
    (hFinal : l.IsFinal) :
    l.next.2 = l.skipGap := by
  cases l.nextCases with
  | token hToken hKind _ =>
      exact absurd (Or.inl ⟨_, hToken, hKind⟩)
        hFinal.is_no_other
  | inNumber hFails _ =>
      exact absurd (Or.inr hFails) hFinal.is_no_other
  | final _ hStays => exact hStays

------------------------------------------------------------
-- Draws after a Final One
------------------------------------------------------------

/- After a gap there is no gap. -/
theorem skipGap_skipGap (l : Lexer) :
    l.skipGap.skipGap = l.skipGap := by
  have hHead := List.head?_dropWhile_not isGap l.rest
  unfold skipGap
  cases hRest : l.rest.dropWhile isGap with
  | nil => rfl
  | cons c cs =>
      rw [hRest] at hHead
      simp only [List.head?_cons] at hHead
      simp [hHead]

/- A final draw is repeated by the next one. -/
theorem IsFinal.next_next
    {l : Lexer}
    (hFinal : l.IsFinal) :
    l.next.2.next = l.next := by
  rw [hFinal.stays, next, skipGap_skipGap]
  rfl

/- A lexer that a draw does not move is never moved. -/
theorem afterDraws_of_next_eq
    {l : Lexer}
    (hNext : l.next.2 = l)
    (n : Nat) :
    l.afterDraws n = l := by
  induction n with
  | zero => rfl
  | succ n ih => rw [afterDraws, hNext, ih]

/- All draws after a final one give and leave the same. -/
theorem IsFinal.next_afterDraws
    {l : Lexer}
    (hFinal : l.IsFinal)
    (n : Nat) :
    (l.afterDraws n).next = l.next := by
  cases n with
  | zero => rfl
  | succ n =>
      have hStill : l.next.2.next.2 = l.next.2 := by
        rw [hFinal.next_next]
      rw [afterDraws, afterDraws_of_next_eq hStill,
        hFinal.next_next]

/- One more draw. -/
theorem afterDraws_succ
    (l : Lexer)
    (n : Nat) :
    l.afterDraws (n + 1) = (l.afterDraws n).next.2 := by
  induction n generalizing l with
  | zero => rfl
  | succ n ih => rw [afterDraws, ih, afterDraws]

------------------------------------------------------------
-- How Soon Draws Come to an End
------------------------------------------------------------

/- A draw that moves the lexer leaves fewer characters. -/
theorem length_next_lt_of_position_lt
    {l : Lexer}
    (hMoves : l.position < l.next.2.position) :
    l.next.2.rest.length < l.rest.length := by
  have hLength := (readsOn_next l).position_add_length
  omega

/-
  A final draw comes after no more draws than there are
  characters. The induction is on what is left, since every
  draw that is not final takes some of it.
-/
theorem exists_isFinal (l : Lexer) :
    ∃ n ≤ l.rest.length, (l.afterDraws n).IsFinal := by
  induction hLength : l.rest.length using Nat.strongRecOn
    generalizing l with
  | ind k ih =>
      have hMore :
          l.position < l.next.2.position →
            ∃ n ≤ k, (l.afterDraws n).IsFinal := by
        intro hMoves
        have hLess := length_next_lt_of_position_lt hMoves
        rcases ih _ (hLength ▸ hLess) l.next.2 rfl with
          ⟨n, hn, hFinal⟩
        exact ⟨n + 1, by omega, hFinal⟩
      cases l.nextCases with
      | token _ _ hMoves => exact hMore hMoves
      | inNumber _ hMoves => exact hMore hMoves
      | final hFinal _ => exact ⟨0, Nat.zero_le k, hFinal⟩

/-
  The draws up to the end token or the first failure are no
  more than there are characters, and one.
-/
theorem exists_results_eq_draws (l : Lexer) :
    ∃ n ≤ l.rest.length,
      l.results n = l.draws.tokens.map .ok ∧
        (l.afterDraws n).next.1 = l.draws.ending := by
  fun_induction draws l with
  | case1 l e l' hNext =>
      refine ⟨0, Nat.zero_le _, rfl, ?_⟩
      rw [afterDraws, hNext]
  | case2 l t l' hNext hKind =>
      refine ⟨0, Nat.zero_le _, rfl, ?_⟩
      rw [afterDraws, hNext]
  | case3 l t l' hNext hKind ih =>
      rcases ih with ⟨n, hn, hResults, hEnding⟩
      have hLess := length_next_lt hNext hKind
      refine ⟨n + 1, by omega, ?_, ?_⟩
      · rw [results, hNext, hResults]
        rfl
      · rw [afterDraws, hNext, hEnding]
        rfl

------------------------------------------------------------
-- Places in a Text
------------------------------------------------------------

/- A lexer that reads on in a text stays in it. -/
theorem IsIn.readsOn
    {l l' : Lexer}
    {text : List Char}
    (hIn : l.IsIn text)
    (hReads : l.ReadsOn l') :
    l'.IsIn text := by
  rcases hReads with ⟨chars, hRest, hPosition⟩
  have hAfter := hIn.advance hRest
  rwa [← hPosition] at hAfter

/-
  A failure is reported where the lexer stands after it, with
  the character that stands there.
-/
theorem Takes.error_place
    {l l' : Lexer}
    {e : LexError}
    (hTakes : l.Takes (.error e, l')) :
    e.position = l'.position ∧ e.found = l'.rest.head? := by
  cases hTakes with
  | stuck hRest hNone =>
      rw [hRest]
      exact ⟨rfl, rfl⟩
  | broken => exact ⟨rfl, rfl⟩

/-
  A token has the characters of the text from where it starts
  to where the lexer stands after it. Before it, from where
  the lexer stood, there is only a gap.
-/
theorem slices_of_next
    {l l' : Lexer}
    {t : Token}
    {text : List Char}
    (hIn : l.IsIn text)
    (hNext : l.next = (.ok t, l')) :
    (∀ c ∈ text.extract l.position t.position,
        isGap c = true) ∧
      text.extract t.position t.stop = t.text.toList := by
  rcases gap_of_next hNext with ⟨gap, hGap, hRest, hPlace⟩
  have hBefore : text.drop l.position = l.rest := hIn
  have hFrom :
      text.drop t.position = t.text.toList ++ l'.rest := by
    rw [hPlace]
    exact hIn.advance hRest
  constructor
  · rw [List.extract, hBefore, hRest, hPlace,
      Nat.add_sub_cancel_left, List.take_left]
    exact hGap
  · rw [List.extract, hFrom, Token.stop,
      Nat.add_sub_cancel_left, ← String.length_toList,
      List.take_left]

------------------------------------------------------------
-- All Draws
------------------------------------------------------------

/- What a lexer keeps to in a text with its next draw. -/
structure Proceeds (text : String) (l : Lexer) : Prop where
  /- It neither goes back nor leaves the text. -/
  forward : l.position ≤ l.next.2.position
  inside : l.next.2.position ≤ text.length
  /- A token is the part of the text that was read last. -/
  token :
    ∀ t,
      l.next.1 = .ok t →
        t.kind ≠ .eof →
          t.text ≠ "" ∧
            text.toList.extract t.position t.stop =
              t.text.toList ∧
            t.stop = l.next.2.position ∧
            l.position ≤ t.position ∧
            (∀ c ∈ text.toList.extract l.position
                t.position,
              isGap c = true)
  /- A failure is reported where the lexer stands. -/
  failure :
    ∀ e,
      l.next.1 = .error e →
        e.position = l.next.2.position ∧
          e.found = text.toList[l.next.2.position]? ∧
          (e.found = none ↔
            l.next.2.position = text.length)
  /- A draw that is not final moves the lexer. -/
  moves :
    (∃ t, l.next.1 = .ok t ∧ t.kind ≠ .eof) ∨
        l.FailsInNumber →
      l.position < l.next.2.position
  /- There are no draws but those and final ones. -/
  kinds :
    ((∃ t, l.next.1 = .ok t ∧ t.kind ≠ .eof) ∨
        l.FailsInNumber) ∨
      l.IsFinal
  /- A final draw is repeated by all later ones. -/
  final :
    l.IsFinal → ∀ m, (l.afterDraws m).next = l.next

/- A lexer that has read on in a text keeps to all of that. -/
theorem ReadsOn.proceeds
    {l : Lexer}
    {text : String}
    (hReads : (start text).ReadsOn l) :
    l.Proceeds text := by
  have hNext := readsOn_next l
  have hIn : l.IsIn text.toList :=
    (start_isIn text).readsOn hReads
  have hAfter : l.next.2.IsIn text.toList := hIn.readsOn hNext
  have hInside : l.next.2.position ≤ text.length := by
    have hLength := (hReads.trans hNext).position_add_length
    simp only [start, String.length_toList] at hLength
    omega
  constructor
  case forward => exact hNext.position_le
  case inside => exact hInside
  case token =>
      intro t hToken hKind
      have hGiven : l.next = (.ok t, l.next.2) :=
        Prod.ext hToken rfl
      rcases place_of_next hGiven with
        ⟨hStart, hStop, hShort⟩
      rcases slices_of_next hIn hGiven with ⟨hGap, hSlice⟩
      refine ⟨?_, hSlice, hStop, hStart, hGap⟩
      intro hEmpty
      have hLess := hShort hKind
      rw [Token.stop, hEmpty] at hLess
      exact Nat.lt_irrefl _ hLess
  case failure =>
      intro e hError
      have hTakes : l.skipGap.Takes (.error e, l.next.2) := by
        have hHere := tokenHere_takes l.skipGap
        rwa [show l.skipGap.tokenHere = (.error e, l.next.2)
          from Prod.ext hError rfl] at hHere
      rcases hTakes.error_place with ⟨hPlace, hFound⟩
      rw [← hAfter.getElem?_position] at hFound
      refine ⟨hPlace, hFound, ?_⟩
      rw [hFound, List.getElem?_eq_none_iff,
        String.length_toList]
      exact ⟨Nat.le_antisymm hInside, Nat.le_of_eq ∘ Eq.symm⟩
  case moves =>
      intro hOther
      cases l.nextCases with
      | token _ _ hMoves => exact hMoves
      | inNumber _ hMoves => exact hMoves
      | final hFinal _ =>
          exact absurd hOther hFinal.is_no_other
  case kinds =>
      cases l.nextCases with
      | token hToken hKind _ =>
          exact Or.inl (Or.inl ⟨_, hToken, hKind⟩)
      | inNumber hFails _ => exact Or.inl (Or.inr hFails)
      | final hFinal _ => exact Or.inr hFinal
  case final => exact IsFinal.next_afterDraws

/-
  Draws on a text, failures among them, never go back or out
  of the text. A token is the part of the text from its place
  to where the lexer stands then, and starts behind a gap. A
  failure is reported where the lexer stands then, with the
  character there, or none at the end. Tokens and failures
  inside a number move the lexer; any other draw is final,
  and is repeated by all later ones. A final draw comes among
  the first, as many as there are characters and one more,
  and so does the one that ends the list of all tokens.
-/
theorem draws_come_to_an_end (text : String) :
    (∀ n, ((start text).afterDraws n).Proceeds text) ∧
      (∀ n,
        (start text).afterDraws (n + 1) =
          ((start text).afterDraws n).next.2) ∧
      (∃ n < text.length + 1,
        ((start text).afterDraws n).IsFinal) ∧
      ∃ n < text.length + 1,
        ∃ tokens,
          (start text).results n = tokens.map .ok ∧
            (∀ t ∈ tokens, t.kind ≠ .eof) ∧
            ((∃ eof,
                ((start text).afterDraws n).next.1 =
                    .ok eof ∧
                  eof.kind = .eof ∧
                  tokenize text = .ok (tokens ++ [eof])) ∨
              ∃ e,
                ((start text).afterDraws n).next.1 =
                    .error e ∧
                  tokenize text = .error e) := by
  have hLength : (start text).rest.length = text.length :=
    String.length_toList
  refine ⟨?_, (start text).afterDraws_succ, ?_, ?_⟩
  · intro n
    exact (readsOn_afterDraws _ n).proceeds
  · rcases (start text).exists_isFinal with ⟨n, hn, hFinal⟩
    exact ⟨n, by omega, hFinal⟩
  · rcases (start text).exists_results_eq_draws with
      ⟨n, hn, hResults, hEnding⟩
    refine ⟨n, by omega, (start text).draws.tokens, hResults,
      ?_, ?_⟩
    · intro t ht
      exact kind_ne_eof_of_mem_draws ht
    · rw [hEnding, tokenize, drain_eq_all, Draws.all]
      cases hEnd : (start text).draws.ending with
      | ok eof =>
          exact Or.inl ⟨eof, rfl, kind_eq_eof_of_ending hEnd,
            rfl⟩
      | error e => exact Or.inr ⟨e, rfl, rfl⟩

end Lexer

end Calculator
