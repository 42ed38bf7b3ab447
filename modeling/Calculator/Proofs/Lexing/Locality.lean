import Calculator.Proofs.Lexing.LongestMatch

/-
  This file shows that the lexer works locally: a text that
  can be drawn to its end is drawn as the same tokens where
  it stands in a longer text, before a seam.

  Key definitions include:
    * `Token.AreAlike`
-/

namespace Calculator

open Text (isDigit)

------------------------------------------------------------
-- Tokens at Other Places
------------------------------------------------------------

namespace Token

/- Tokens that are the same but for their places. -/
def AreAlike (tokens tokens' : List Token) : Prop :=
  tokens.map (·.movedTo 0) = tokens'.map (·.movedTo 0)

/- The first of tokens is like the first of others. -/
theorem AreAlike.exists_cons
    {tokens ts : List Token}
    {t : Token}
    (hAlike : AreAlike tokens (t :: ts)) :
    ∃ place tokens',
      tokens = t.movedTo place :: tokens' ∧
        AreAlike tokens' ts := by
  rcases List.map_eq_cons_iff.mp hAlike with
    ⟨⟨kind, text, place⟩, tokens', rfl, hFirst, hRest⟩
  cases t
  cases hFirst
  exact ⟨place, tokens', rfl, hRest⟩

/- The parts of tokens are like the parts of others. -/
theorem AreAlike.exists_append
    {tokens ts us : List Token}
    (hAlike : AreAlike tokens (ts ++ us)) :
    ∃ ts' us',
      tokens = ts' ++ us' ∧
        AreAlike ts' ts ∧
        AreAlike us' us := by
  unfold AreAlike at hAlike
  rw [List.map_append] at hAlike
  exact List.map_eq_append_iff.mp hAlike

end Token

namespace Lexer

------------------------------------------------------------
-- Where a Token Ends
------------------------------------------------------------

/- Where no token starts, nothing is drawn. -/
theorem draws_of_symbol?_eq_none
    {c : Char}
    {cs : List Char}
    (hGap : isGap c = false)
    (hDigit : isDigit c = false)
    (hSymbol : symbol? (c :: cs) = none)
    (position : Nat) :
    (Lexer.mk (c :: cs) position).draws =
      ⟨[], .error ⟨position, some c⟩⟩ := by
  have hNext :
      (Lexer.mk (c :: cs) position).next =
        (.error ⟨position, some c⟩, ⟨c :: cs, position⟩) := by
    rw [next_eq_tokenHere hGap]
    simp [tokenHere, hDigit, hSymbol, failAfter]
  exact draws_of_error hNext

/- Only a digit starts a token and continues a number. -/
theorem isDigit_of_continues
    {l : Lexer}
    {eof : Token}
    (hEnding : l.draws.ending = .ok eof)
    {c : Char}
    (hc : c ∈ l.rest.head?)
    (hContinues : Numeral.continues c = true) :
    isDigit c = true := by
  rcases l with ⟨_ | ⟨d, cs⟩, position⟩
  · cases hc
  · cases hc
    simp only [Numeral.continues, Numeral.isExponentMarker,
      Bool.or_eq_true, beq_iff_eq, or_assoc] at hContinues
    rcases hContinues with hDigit | rfl | rfl | rfl
    · exact hDigit
    all_goals
      rw [draws_of_symbol?_eq_none rfl rfl rfl] at hEnding
      cases hEnding

/- A symbol has not left what it joins. -/
theorem stopsAt_of_symbol?
    {cs chars rest : List Char}
    {kind : Token.Kind}
    (hSymbol : symbol? cs = some (kind, chars, rest)) :
    kind.StopsAt rest := by
  intro c hc
  unfold symbol? at hSymbol
  split at hSymbol <;> cases hSymbol
  case h_5 hStar =>
    cases rest with
    | nil => cases hc
    | cons d rest =>
        cases hc
        exact beq_eq_false_iff_ne.mpr fun hEq =>
          hStar rest (by rw [hEq])
  case h_6 hSlash =>
    cases rest with
    | nil => cases hc
    | cons d rest =>
        cases hc
        exact beq_eq_false_iff_ne.mpr fun hEq =>
          hSlash rest (by rw [hEq])
  all_goals rfl

/-
  A token has not left what it joins, if what it has left
  can be drawn to the end.
-/
theorem stopsAt_of_next
    {l l' : Lexer}
    {t eof : Token}
    (hNext : l.next = (.ok t, l'))
    (hEnding : l'.draws.ending = .ok eof) :
    t.kind.StopsAt l'.rest := by
  unfold next tokenHere at hNext
  split at hNext
  · cases hNext
    exact fun _ _ => rfl
  · split at hNext
    · unfold number at hNext
      split at hNext
      · rename_i n rest hScan
        cases hNext
        intro c hc
        have hJoins :
            (numeralKind n).joins c =
              Numeral.continues c := by
          unfold numeralKind
          split <;> rfl
        rw [hJoins, Bool.eq_false_iff]
        intro hContinues
        have hDigit :=
          isDigit_of_continues hEnding hc hContinues
        rw [Numeral.not_digit_of_scan hScan c hc] at hDigit
        cases hDigit
      · cases hNext
    · split at hNext
      · rename_i hSymbol
        cases hNext
        exact stopsAt_of_symbol? hSymbol
      · cases hNext

/- Before a seam a token joins nothing either. -/
theorem stopsAt_append
    {kind : Token.Kind}
    {rest after : List Char}
    (hStop : kind.StopsAt rest)
    (hSeam : IsSeam after) :
    kind.StopsAt (rest ++ after) := by
  cases rest with
  | nil => exact hSeam kind
  | cons c cs => exact hStop

------------------------------------------------------------
-- Texts in Longer Texts
------------------------------------------------------------

/- A gap of any length changes nothing but positions. -/
theorem draws_gaps
    {gap : List Char}
    (hGap : ∀ c ∈ gap, isGap c = true)
    (cs : List Char)
    (position : Nat) :
    (Lexer.mk (gap ++ cs) position).draws =
      (Lexer.mk cs (position + gap.length)).draws := by
  induction gap generalizing position with
  | nil => rfl
  | cons c gap ih =>
      simp only [List.forall_mem_cons] at hGap
      rw [List.cons_append, draws_gap hGap.1, ih hGap.2,
        List.length_cons]
      congr 2
      omega

/-
  What is taken stands after a gap. The end token has no
  characters, and nothing stands after it.
-/
theorem exists_gap_of_next
    {l l' : Lexer}
    {t : Token}
    (hNext : l.next = (.ok t, l')) :
    ∃ gap,
      (∀ c ∈ gap, isGap c = true) ∧
        l.rest = gap ++ (t.text.toList ++ l'.rest) ∧
        (t.kind = .eof → t.text.toList ++ l'.rest = []) := by
  have hGap : ∀ c ∈ l.rest.takeWhile isGap, isGap c = true :=
    List.all_eq_true.mp List.all_takeWhile
  have hText :
      l.rest = l.rest.takeWhile isGap ++ l.skipGap.rest :=
    List.takeWhile_append_dropWhile.symm
  suffices hHere :
      l.skipGap.rest = t.text.toList ++ l'.rest ∧
        (t.kind = .eof →
          t.text.toList ++ l'.rest = []) by
    rw [hHere.1] at hText
    exact ⟨_, hGap, hText, hHere.2⟩
  have hTakes := tokenHere_takes l.skipGap
  generalize hResult : l.skipGap.tokenHere = result at hTakes
  have hTaken : result = (.ok t, l') := by
    rw [← hResult]
    exact hNext
  cases hTakes with
  | finished hRest =>
      cases hTaken
      exact ⟨by simp, fun _ => by simp [hRest]⟩
  | token hRest hLongest hClosed =>
      cases hTaken
      rw [String.toList_ofList]
      refine ⟨hRest, fun hKind => ?_⟩
      simp only at hKind
      subst hKind
      cases hLongest.matched
  | stuck hRest hNone => cases hTaken
  | broken hRest hLongest hNumber hPlain hMarker =>
      cases hTaken

/-
  A text that can be drawn to its end is drawn in the same
  way before a seam. The induction is on the tokens.
-/
theorem draws_append
    {l : Lexer}
    {tokens : List Token}
    {eof : Token}
    (hDraws : l.draws = ⟨tokens, .ok eof⟩)
    {after : List Char}
    (hSeam : IsSeam after)
    (position : Nat) :
    ∃ tokens' position',
      (Lexer.mk (l.rest ++ after) position).draws =
          (Lexer.mk after position').draws.prepend
            tokens' ∧
        Token.AreAlike tokens' tokens := by
  fun_induction draws l generalizing tokens position with
  | case1 l e l' hNext => cases hDraws
  | case2 l t l' hNext hKind =>
      cases hDraws
      rcases exists_gap_of_next hNext with
        ⟨gap, hGap, hRest, hNil⟩
      rw [hNil hKind, List.append_nil] at hRest
      refine ⟨[], position + gap.length, ?_, rfl⟩
      rw [hRest, draws_gaps hGap]
      rfl
  | case3 l t l' hNext hKind ih =>
      simp only [Draws.cons, Draws.mk.injEq] at hDraws
      rcases hDraws with ⟨rfl, hEnding⟩
      have hLater :
          l'.draws = ⟨l'.draws.tokens, .ok eof⟩ := by
        rw [← hEnding]
      rcases exists_gap_of_next hNext with
        ⟨gap, hGap, hRest, _⟩
      have hSpelled := isSpelled_of_tokenHere hNext hKind
      have hStop : t.kind.StopsAt (l'.rest ++ after) :=
        stopsAt_append (stopsAt_of_next hNext hEnding) hSeam
      rcases ih hLater
          (position + gap.length + t.text.toList.length) with
        ⟨tokens', position', hDraws', hAlike⟩
      refine ⟨t.movedTo (position + gap.length) :: tokens',
        position', ?_, ?_⟩
      · rw [hRest, List.append_assoc, List.append_assoc,
          draws_gaps hGap, draws_of_isSpelled hSpelled hStop,
          hDraws']
        rfl
      · exact congrArg (t.movedTo 0 :: ·) hAlike

end Lexer

end Calculator
