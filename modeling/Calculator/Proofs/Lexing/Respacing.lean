import Calculator.Proofs.Lexing.Progress

/-
  This file shows that the gaps between tokens make no
  difference: a text that is put together from the tokens of
  another one, with other gaps, has tokens like them. Only
  between tokens that stand apart a gap must be left.

  Key definitions include:
    * `respaced`
    * `Token.KeepsApart`
-/

namespace Calculator

/-
  A text of tokens, with a gap before each of them and a last
  one behind them all.
-/
def respaced (gaps : Nat → String) : List Token → String
| [] => gaps 0
| t :: ts =>
    gaps 0 ++ (t.text ++ respaced (fun i => gaps (i + 1)) ts)

/-
  Gaps that hold nothing but gap characters, and at least one
  between tokens that stand apart.
-/
structure Token.KeepsApart
    (tokens : List Token)
    (gaps : Nat → String) : Prop where
  hGaps : ∀ i, ∀ c ∈ (gaps i).toList, Lexer.isGap c = true
  hApart :
    ∀ i t u,
      tokens[i]? = some t →
        tokens[i + 1]? = some u →
          t.stop < u.position → gaps (i + 1) ≠ ""

/- Gaps after the first token keep the others apart. -/
theorem Token.KeepsApart.tail
    {t : Token}
    {ts : List Token}
    {gaps : Nat → String}
    (hKeeps : KeepsApart (t :: ts) gaps) :
    KeepsApart ts fun i => gaps (i + 1) :=
  ⟨fun i => hKeeps.hGaps (i + 1),
    fun i => hKeeps.hApart (i + 1)⟩

namespace Lexer

------------------------------------------------------------
-- Gaps and Seams
------------------------------------------------------------

/- A gap character is a seam. -/
theorem isSeam_of_isGap
    {c : Char}
    (hGap : isGap c = true)
    (cs : List Char) :
    IsSeam (c :: cs) := by
  simp only [isGap, Bool.or_eq_true, beq_iff_eq] at hGap
  intro kind d hd
  cases hd
  rcases hGap with (((rfl | rfl) | rfl) | rfl) | rfl <;>
    cases kind <;> rfl

/- Whether a token stops shows in the next character. -/
theorem stopsAt_congr
    {kind : Token.Kind}
    {chars after after' : List Char}
    (hChars : chars ≠ [])
    (hStop : kind.StopsAt (chars ++ after)) :
    kind.StopsAt (chars ++ after') := by
  cases chars with
  | nil => exact absurd rfl hChars
  | cons c cs => exact hStop

/-
  Where the next token stands directly behind a token, it
  starts with what is left there.
-/
theorem rest_of_next
    {l l' : Lexer}
    {t : Token}
    (hNext : l.next = (.ok t, l'))
    (hPosition : t.position ≤ l.position) :
    l.rest = t.text.toList ++ l'.rest := by
  rcases gap_of_next hNext with ⟨gap, _, hRest, hPlace⟩
  have hGap : gap = [] := by
    rw [← List.length_eq_zero_iff]
    omega
  rw [hRest, hGap, List.nil_append]

/-
  A token joins nothing that comes after it in a respaced
  text: a gap, the end, or a token that came there before.
-/
theorem stopsAt_respaced
    {l l' : Lexer}
    {t eof : Token}
    {gaps : Nat → String}
    (hNext : l.next = (.ok t, l'))
    (hEnding : l'.draws.ending = .ok eof)
    (hKeeps :
      Token.KeepsApart (t :: l'.draws.tokens) gaps) :
    t.kind.StopsAt
      (respaced (fun i => gaps (i + 1))
        l'.draws.tokens).toList := by
  cases hGap : (gaps 1).toList with
  | cons c cs =>
      have hc := hKeeps.hGaps 1 c (by simp [hGap])
      cases l'.draws.tokens with
      | nil =>
          rw [respaced, hGap]
          exact isSeam_of_isGap hc _ _
      | cons u us =>
          rw [respaced, String.toList_append, hGap]
          exact isSeam_of_isGap hc _ _
  | nil =>
      have hEmpty : gaps 1 = "" :=
        String.toList_eq_nil_iff.mp hGap
      cases hTokens : l'.draws.tokens with
      | nil =>
          rw [respaced, hGap]
          exact isSeam_nil _
      | cons u us =>
          rcases exists_next_of_draws hTokens with
            ⟨l'', hNext'⟩
          have hClose : u.position ≤ t.stop := by
            rw [hTokens] at hKeeps
            have hApart := hKeeps.hApart 0 t u rfl rfl
            exact Nat.not_lt.mp fun hLess =>
              hApart hLess hEmpty
          rw [(place_of_next hNext).2.1] at hClose
          have hStop := stopsAt_of_next hNext hEnding
          rw [rest_of_next hNext' hClose] at hStop
          rw [respaced, String.toList_append, hGap,
            List.nil_append, String.toList_append]
          refine stopsAt_congr ?_ hStop
          have hKind : u.kind ≠ .eof := by
            apply kind_ne_eof_of_mem_draws (l := l')
            rw [hTokens]
            exact List.mem_cons_self ..
          have hLess := (place_of_next hNext').2.2 hKind
          rw [Token.stop] at hLess
          intro hNil
          have hLength := congrArg List.length hNil
          rw [String.length_toList, List.length_nil]
            at hLength
          omega

/-
  A respaced text has tokens like those of the text. The
  induction is on the tokens.
-/
theorem draws_respaced
    {l : Lexer}
    {tokens : List Token}
    {eof : Token}
    (hDraws : l.draws = ⟨tokens, .ok eof⟩)
    {gaps : Nat → String}
    (hKeeps : Token.KeepsApart tokens gaps)
    (position : Nat) :
    ∃ tokens' eof',
      (Lexer.mk (respaced gaps tokens).toList
            position).draws =
          ⟨tokens', .ok eof'⟩ ∧
        Token.AreAlike tokens' tokens ∧
        eof'.movedTo 0 = eof.movedTo 0 := by
  fun_induction draws l generalizing tokens gaps position with
  | case1 l e l' hNext => cases hDraws
  | case2 l t l' hNext hKind =>
      cases hDraws
      have hDraws' :=
        draws_gaps (hKeeps.hGaps 0) [] position
      rw [List.append_nil, draws_nil] at hDraws'
      refine ⟨[], _, hDraws', rfl, ?_⟩
      rcases exists_gap_of_next hNext with ⟨_, _, _, hNil⟩
      have hText : eof.text = "" :=
        String.toList_eq_nil_iff.mp
          (List.append_eq_nil_iff.mp (hNil hKind)).1
      simp only [Token.movedTo, hKind, hText]
  | case3 l t l' hNext hKind ih =>
      simp only [Draws.cons, Draws.mk.injEq] at hDraws
      rcases hDraws with ⟨rfl, hEnding⟩
      have hLater :
          l'.draws = ⟨l'.draws.tokens, .ok eof⟩ := by
        rw [← hEnding]
      have hSpelled := isSpelled_of_tokenHere hNext hKind
      have hStop := stopsAt_respaced hNext hEnding hKeeps
      rcases ih hLater hKeeps.tail
          (position + (gaps 0).toList.length +
            t.text.toList.length) with
        ⟨tokens', eof', hDraws', hAlike, hEof⟩
      refine ⟨t.movedTo (position + (gaps 0).toList.length) ::
          tokens', eof', ?_, ?_, hEof⟩
      · rw [respaced, String.toList_append,
          String.toList_append, draws_gaps (hKeeps.hGaps 0),
          draws_of_isSpelled hSpelled hStop, hDraws']
        rfl
      · exact congrArg (t.movedTo 0 :: ·) hAlike

/- A spelled token is drawn by itself. -/
theorem draws_alone
    {t : Token}
    (hSpelled : t.IsSpelled) :
    (Lexer.start t.text).draws =
      ⟨[t.movedTo 0], .ok ⟨.eof, "", t.text.length⟩⟩ := by
  have hDraws :=
    draws_of_isSpelled hSpelled (isSeam_nil t.kind) 0
  rw [List.append_nil, draws_nil, Nat.zero_add,
    String.length_toList] at hDraws
  exact hDraws

end Lexer

end Calculator
