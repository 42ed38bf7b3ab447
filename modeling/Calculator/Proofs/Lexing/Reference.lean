import Calculator.Proofs.Lexing.LongestMatch

/-
  This file compares the lexer with a reference that only
  knows what the tokens look like: it skips gaps and takes
  the longest match each time. Both give the same tokens. A
  text in which the reference does not come to the end is
  refused by the lexer at the same place, except that the
  lexer reads on after a letter that announces an exponent.

  Key definitions include:
    * `LongestMatches`
    * `LongestMatches.breaksExponent`
    * `LongestMatches.faultPlace`
    * `Lexer.IsIn`
-/

namespace Calculator

open Lexer (isGap)
open Numeral (isExponentMarker scanSign)

------------------------------------------------------------
-- The Reference
------------------------------------------------------------

/-
  The longest matches of a text from a position on, one after
  another with the gaps between them skipped, and the place
  where they end: that of the end of the text, or the first
  one where nothing matches.
-/
inductive LongestMatches :
    List Char → Nat → List Token → Except Nat Nat → Prop where
| finished
    {cs : List Char}
    {position : Nat}
    (hRest : cs.dropWhile isGap = []) :
    LongestMatches cs position []
      (.ok (position + cs.length))
| stuck
    {cs rest : List Char}
    {position : Nat}
    (hRest : cs.dropWhile isGap = rest)
    (hNe : rest ≠ [])
    (hNone :
      ∀ (kind : Token.Kind) (chars : List Char),
        kind.Matches chars → ¬ chars <+: rest) :
    LongestMatches cs position []
      (.error (position + (cs.takeWhile isGap).length))
| token
    {cs chars rest : List Char}
    {position : Nat}
    {kind : Token.Kind}
    {tokens : List Token}
    {ending : Except Nat Nat}
    (hRest : cs.dropWhile isGap = chars ++ rest)
    (hLongest : IsLongestMatch kind chars rest)
    (hTokens :
      LongestMatches rest
        (position + (cs.takeWhile isGap).length +
          chars.length)
        tokens ending) :
    LongestMatches cs position
      (⟨kind, String.ofList chars,
        position + (cs.takeWhile isGap).length⟩ :: tokens)
      ending

namespace LongestMatches

/-
  A letter that announces an exponent stands directly after a
  number that has none.
-/
def breaksExponent
    (text : List Char)
    (tokens : List Token)
    (p : Nat) : Bool :=
  text[p]?.any isExponentMarker &&
    tokens.any fun t =>
      t.kind.isNumber &&
        t.position + t.text.toList.length == p &&
        !t.text.toList.any isExponentMarker

/- The place that is reported when nothing matches at one. -/
def faultPlace
    (text : List Char)
    (tokens : List Token)
    (p : Nat) : Nat :=
  if breaksExponent text tokens p then
    if text[p + 1]?.any fun c => c == '+' || c == '-' then
      p + 2
    else
      p + 1
  else
    p

/- The longest matches of a text are determined by it. -/
theorem unique
    {cs : List Char}
    {position : Nat}
    {tokens tokens' : List Token}
    {ending ending' : Except Nat Nat}
    (hMatches : LongestMatches cs position tokens ending)
    (hMatches' : LongestMatches cs position tokens' ending') :
    tokens = tokens' ∧ ending = ending' := by
  induction hMatches generalizing tokens' with
  | finished hRest =>
      cases hMatches' with
      | finished hRest' => exact ⟨rfl, rfl⟩
      | stuck hRest' hNe hNone =>
          exact absurd (hRest'.symm.trans hRest) hNe
      | token hRest' hLongest hTokens =>
          have hNil := hRest'.symm.trans hRest
          exact absurd (List.append_eq_nil_iff.mp hNil).1
            hLongest.matched.ne_nil
  | stuck hRest hNe hNone =>
      cases hMatches' with
      | finished hRest' =>
          exact absurd (hRest.symm.trans hRest') hNe
      | stuck hRest' hNe' hNone' => exact ⟨rfl, rfl⟩
      | token hRest' hLongest hTokens =>
          exact absurd ⟨_, hRest'.symm.trans hRest⟩
            (hNone _ _ hLongest.matched)
  | token hRest hLongest hTokens ih =>
      cases hMatches' with
      | finished hRest' =>
          have hNil := hRest.symm.trans hRest'
          exact absurd (List.append_eq_nil_iff.mp hNil).1
            hLongest.matched.ne_nil
      | stuck hRest' hNe hNone =>
          exact absurd ⟨_, hRest.symm.trans hRest'⟩
            (hNone _ _ hLongest.matched)
      | token hRest' hLongest' hTokens' =>
          rcases hLongest.unique hLongest'
              (hRest.symm.trans hRest') with
            ⟨rfl, rfl, rfl⟩
          rcases ih hTokens' with ⟨rfl, rfl⟩
          exact ⟨rfl, rfl⟩

/- Matches that come to the end take the whole text. -/
theorem end_eq
    {cs : List Char}
    {position : Nat}
    {tokens : List Token}
    {ending : Except Nat Nat}
    (hMatches : LongestMatches cs position tokens ending) :
    ∀ n, ending = .ok n → n = position + cs.length := by
  induction hMatches with
  | finished hRest =>
      intro n hEnd
      cases hEnd
      rfl
  | stuck hRest hNe hNone =>
      intro n hEnd
      cases hEnd
  | @token cs chars rest position _ _ _ hRest _ _ ih =>
      intro n hEnd
      have hLength := congrArg List.length
        (List.takeWhile_append_dropWhile
          (p := isGap) (l := cs))
      rw [hRest] at hLength
      simp only [List.length_append] at hLength
      rw [ih n hEnd]
      omega

/- With no number before it, a failure is where it is. -/
theorem faultPlace_nil
    (text : List Char)
    (p : Nat) :
    faultPlace text [] p = p := by
  simp [faultPlace, breaksExponent]

/-
  A token that no exponent is announced after has no part in
  where a failure is reported.
-/
theorem faultPlace_cons
    {text : List Char}
    {t : Token}
    (hClosed :
      t.kind.isNumber = true →
        t.text.toList.any isExponentMarker = false →
          text[t.position + t.text.toList.length]?.any
            isExponentMarker = false)
    (tokens : List Token)
    (p : Nat) :
    faultPlace text (t :: tokens) p =
      faultPlace text tokens p := by
  have hBreaks :
      breaksExponent text (t :: tokens) p =
        breaksExponent text tokens p := by
    unfold breaksExponent
    cases hMarker : text[p]?.any isExponentMarker with
    | false => rfl
    | true =>
        have hOther :
            (t.kind.isNumber &&
              t.position + t.text.toList.length == p &&
              !t.text.toList.any isExponentMarker) =
                false := by
          rw [← Bool.not_eq_true]
          intro hAll
          simp only [Bool.and_eq_true, beq_iff_eq,
            Bool.not_eq_true'] at hAll
          rcases hAll with ⟨⟨hNumber, hEnd⟩, hPlain⟩
          have hNot := hClosed hNumber hPlain
          rw [hEnd, hMarker] at hNot
          cases hNot
        rw [List.any_cons, hOther, Bool.false_or]
  simp only [faultPlace, hBreaks]

end LongestMatches

------------------------------------------------------------
-- Places in a Text
------------------------------------------------------------

namespace Lexer

/- A lexer stands in a text, at its position. -/
def IsIn (l : Lexer) (text : List Char) : Prop :=
  text.drop l.position = l.rest

namespace IsIn

variable {l : Lexer}
variable {text : List Char}

/- A lexer that reads on stays in the text. -/
theorem advance
    {chars rest : List Char}
    (hIn : l.IsIn text)
    (hRest : l.rest = chars ++ rest) :
    IsIn ⟨rest, l.position + chars.length⟩ text := by
  unfold IsIn at hIn ⊢
  rw [← List.drop_drop, hIn, hRest, List.drop_left]

/- A gap is read like any other characters. -/
theorem skipGap (hIn : l.IsIn text) :
    l.skipGap.IsIn text :=
  hIn.advance List.takeWhile_append_dropWhile.symm

/- The characters before a lexer are those of the text. -/
theorem getElem?_add
    (hIn : l.IsIn text)
    (i : Nat) :
    text[l.position + i]? = l.rest[i]? := by
  unfold IsIn at hIn
  rw [← List.getElem?_drop, hIn]

/- The first character is the one at the position. -/
theorem getElem?_position (hIn : l.IsIn text) :
    text[l.position]? = l.rest.head? := by
  have hFirst := hIn.getElem?_add 0
  rwa [Nat.add_zero, ← List.head?_eq_getElem?] at hFirst

end IsIn

------------------------------------------------------------
-- The Lexer and the Reference
------------------------------------------------------------

/-
  The reference comes to the same as the draws of a lexer:
  the same tokens up to the end of the text, or an end that
  is reported where the lexer fails.
-/
def Agrees
    (l : Lexer)
    (text : List Char)
    (tokens : List Token) :
    Except Nat Nat → Prop
| .ok n => l.draws = ⟨tokens, .ok ⟨.eof, "", n⟩⟩
| .error p =>
    ∃ e,
      l.draws.ending = .error e ∧
        e.position =
          LongestMatches.faultPlace text tokens p ∧
        e.found = text[e.position]?

/- A broken exponent is reported where a digit is missing. -/
theorem position_of_broken
    {l : Lexer}
    {text chars after : List Char}
    {kind : Token.Kind}
    {c : Char}
    (hIn : l.IsIn text)
    (hRest : l.rest = chars ++ c :: after)
    (hNumber : kind.isNumber = true)
    (hPlain : chars.any isExponentMarker = false)
    (hMarker : isExponentMarker c = true) :
    l.position +
        (chars ++ c :: (scanSign after).1.toList).length =
      LongestMatches.faultPlace text
        [⟨kind, String.ofList chars, l.position⟩]
        (l.position + chars.length) := by
  have hHere := (hIn.advance hRest).getElem?_position
  have hNext := (hIn.advance hRest).getElem?_add 1
  simp only [List.head?_cons] at hHere
  have hBreaks :
      LongestMatches.breaksExponent text
        [⟨kind, String.ofList chars, l.position⟩]
        (l.position + chars.length) = true := by
    simp [LongestMatches.breaksExponent, hNumber, hPlain,
      hMarker, hHere]
  simp only [List.getElem?_cons_succ,
    ← List.head?_eq_getElem?] at hNext
  simp only [LongestMatches.faultPlace, hBreaks, if_true,
    hNext, List.length_append, List.length_cons]
  unfold scanSign
  split
  · simp
    omega
  · simp
    omega
  · rename_i hPlus hMinus
    have hNot :
        (after.head?.any fun d => d == '+' || d == '-') =
          false := by
      cases after with
      | nil => rfl
      | cons d after =>
          have hSign : d ≠ '+' ∧ d ≠ '-' :=
            ⟨fun h => hPlus after (by rw [h]),
              fun h => hMinus after (by rw [h])⟩
          simp [hSign]
    simp [hNot]
    omega

/- Nothing matches at a letter that announces an exponent. -/
theorem longestMatches_marker
    {c : Char}
    (hMarker : isExponentMarker c = true)
    (after : List Char)
    (position : Nat) :
    LongestMatches (c :: after) position []
      (.error position) := by
  have hDigit := (Numeral.not_digit_of_marker hMarker).1
  have hLetter : c = 'e' ∨ c = 'E' := by
    simpa [isExponentMarker] using hMarker
  have hGap : isGap c = false := by
    rcases hLetter with rfl | rfl <;> rfl
  have hSymbol : symbol? (c :: after) = none := by
    rcases hLetter with rfl | rfl <;> rfl
  have hStuck :
      LongestMatches (c :: after) position []
        (.error
          (position +
            ((c :: after).takeWhile isGap).length)) := by
    apply LongestMatches.stuck rfl
    · simp [hGap]
    · intro kind chars hMatches
      rw [List.dropWhile_cons_of_neg (by simp [hGap])]
      exact not_prefix_of_symbol?_eq_none hDigit hSymbol
        hMatches
  rwa [List.takeWhile_cons_of_neg (by simp [hGap])]
    at hStuck

/-
  The longest matches of what is left of a text, and how the
  draws agree with them. The induction is on what is left,
  since every token takes some of it.
-/
theorem exists_longestMatches
    {text : List Char}
    (l : Lexer)
    (hIn : l.IsIn text) :
    ∃ tokens ending,
      LongestMatches l.rest l.position tokens ending ∧
        l.Agrees text tokens ending := by
  induction hLength : l.rest.length using Nat.strongRecOn
    generalizing l with
  | ind n ih =>
      have hTakes := l.skipGap.tokenHere_takes
      generalize hNext : l.skipGap.tokenHere = result
        at hTakes
      cases hTakes with
      | finished hRest =>
          have hAll :
              l.rest.takeWhile isGap = l.rest := by
            have hAppend := List.takeWhile_append_dropWhile
              (p := isGap) (l := l.rest)
            rwa [show l.rest.dropWhile isGap = [] from hRest,
              List.append_nil] at hAppend
          refine ⟨[], _, .finished hRest, ?_⟩
          rw [Agrees, draws_of_eof hNext rfl]
          simp only [skipGap, hAll]
      | token hRest hLongest hClosed =>
          have hKind := kind_ne_eof_of_isSpelled
            hLongest.matched.isSpelled
          have hAfter := hIn.skipGap.advance hRest
          have hLess := length_next_lt hNext hKind
          rcases ih _ (hLength ▸ hLess) _ hAfter rfl with
            ⟨tokens, ending, hTokens, hAgrees⟩
          refine ⟨_, ending, .token hRest hLongest hTokens,
            ?_⟩
          cases ending with
          | ok n =>
              rw [Agrees] at hAgrees ⊢
              rw [draws_of_token hNext hKind, hAgrees]
              rfl
          | error p =>
              rcases hAgrees with
                ⟨e, hEnding, hPlace, hFound⟩
              refine ⟨e, ?_, ?_, hFound⟩
              · rw [draws_of_token hNext hKind]
                exact hEnding
              · rw [hPlace]
                symm
                apply LongestMatches.faultPlace_cons
                simp only [String.toList_ofList]
                intro hNumber hPlain
                have hNot := hClosed hNumber hPlain
                rwa [← hAfter.getElem?_position] at hNot
      | stuck hRest hNone =>
          refine ⟨[], _,
            .stuck hRest (List.cons_ne_nil _ _) hNone,
            _, by rw [draws_of_error hNext],
            (LongestMatches.faultPlace_nil text _).symm, ?_⟩
          rw [hIn.skipGap.getElem?_position, hRest]
          rfl
      | broken hRest hLongest hNumber hPlain hMarker =>
          rename_i after c
          refine ⟨_, _,
            .token hRest hLongest
              (longestMatches_marker hMarker _ _),
            _, by rw [draws_of_error hNext],
            position_of_broken hIn.skipGap hRest hNumber
              hPlain hMarker, ?_⟩
          have hRead := hRest
          rw [← Numeral.scanSign_append after,
            ← List.cons_append, ← List.append_assoc] at hRead
          exact (hIn.skipGap.advance
            hRead).getElem?_position.symm

/- A lexer at the start of a text stands in it. -/
theorem start_isIn (text : String) :
    (start text).IsIn text.toList :=
  rfl

end Lexer

/-
  All tokens of a text are its longest matches, and the end
  token at its length. If nothing matches at some place, that
  place is reported with the character there, or the place
  behind the letter and the sign of an exponent if they stand
  there after a number without one.
-/
theorem tokenize_takes_longest_matches (text : String) :
    (∀ all,
      tokenize text = .ok all ↔
        ∃ tokens,
          LongestMatches text.toList 0 tokens
              (.ok text.length) ∧
            all = tokens ++ [⟨.eof, "", text.length⟩]) ∧
      (∀ e,
        tokenize text = .error e ↔
          ∃ tokens p,
            LongestMatches text.toList 0 tokens (.error p) ∧
              e.position =
                LongestMatches.faultPlace text.toList
                  tokens p ∧
              e.found = text.toList[e.position]?) := by
  rcases Lexer.exists_longestMatches (Lexer.start text)
      (Lexer.start_isIn text) with
    ⟨tokens, ending, hMatches, hAgrees⟩
  have hAll : tokenize text = (Lexer.start text).draws.all :=
    Lexer.drain_eq_all _
  simp only [Lexer.start] at hMatches
  rw [hAll]
  cases ending with
  | ok n =>
      have hEnd : n = text.length := by
        have hLength := hMatches.end_eq n rfl
        rwa [Nat.zero_add, String.length_toList] at hLength
      subst hEnd
      rw [Lexer.Agrees] at hAgrees
      rw [hAgrees]
      constructor
      · intro all
        constructor
        · intro hOk
          cases hOk
          exact ⟨tokens, hMatches, rfl⟩
        · rintro ⟨tokens', hMatches', rfl⟩
          rcases hMatches.unique hMatches' with ⟨rfl, _⟩
          rfl
      · intro e
        constructor
        · intro hError
          cases hError
        · rintro ⟨tokens', p, hMatches', _⟩
          cases (hMatches.unique hMatches').2
  | error p =>
      rcases hAgrees with ⟨e, hEnding, hPlace, hFound⟩
      have hError :
          (Lexer.start text).draws.all = .error e := by
        rw [Draws.all, hEnding]
        rfl
      rw [hError]
      constructor
      · intro all
        constructor
        · intro hOk
          cases hOk
        · rintro ⟨tokens', hMatches', _⟩
          cases (hMatches.unique hMatches').2
      · intro e'
        constructor
        · intro hSame
          cases hSame
          exact ⟨tokens, p, hMatches, hPlace, hFound⟩
        · rintro ⟨tokens', p', hMatches', hPlace', hFound'⟩
          rcases hMatches.unique hMatches' with
            ⟨rfl, hSame⟩
          cases hSame
          have hPosition := hPlace.trans hPlace'.symm
          have hCharacter := hFound.trans
            (hPosition ▸ hFound'.symm)
          rcases e with ⟨position, found⟩
          rcases e' with ⟨position', found'⟩
          simp only at hPosition hCharacter
          rw [hPosition, hCharacter]

/- An exponent without digits is refused behind its sign. -/
example : tokenize "2 1e+" = .error ⟨5, none⟩ := by
  cbv

end Calculator
