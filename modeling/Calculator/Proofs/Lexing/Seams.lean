import Calculator.Proofs.Lexing.Draws

/-
  This file shows how a lexer draws the tokens of a text
  that is put together from spelled tokens and gaps: a token
  is drawn as it is spelled, unless it joins what is put
  after it.

  Key definitions include:
    * `Token.movedTo`
    * `Draws.prepend`
    * `Lexer.IsSeam`
-/

namespace Calculator

open Text (isDigit)

/- A token at another place. -/
def Token.movedTo (t : Token) (position : Nat) : Token :=
  { t with position := position }

/- Draws with tokens before them. -/
def Draws.prepend
    (tokens : List Token)
    (draws : Draws) : Draws :=
  ⟨tokens ++ draws.tokens, draws.ending⟩

namespace Lexer

------------------------------------------------------------
-- Gaps
------------------------------------------------------------

/- Lexers that take the same next token go on alike. -/
theorem draws_congr
    {l m : Lexer}
    (hNext : l.next = m.next) :
    l.draws = m.draws := by
  cases hl : l.next with
  | mk result l' =>
      have hm : m.next = (result, l') := by rw [← hNext, hl]
      cases result with
      | error e =>
          rw [draws_of_error hl, draws_of_error hm]
      | ok t =>
          by_cases hKind : t.kind = .eof
          · rw [draws_of_eof hl hKind, draws_of_eof hm hKind]
          · rw [draws_of_token hl hKind,
              draws_of_token hm hKind]

/- A gap before a token changes nothing but positions. -/
theorem draws_gap
    {c : Char}
    (hGap : isGap c = true)
    (cs : List Char)
    (position : Nat) :
    (Lexer.mk (c :: cs) position).draws =
      (Lexer.mk cs (position + 1)).draws := by
  apply draws_congr
  simp only [next, skipGap, List.dropWhile_cons,
    List.takeWhile_cons, hGap, if_true, List.length_cons]
  congr 2
  omega

/- At the end of the text the end token is drawn. -/
@[simp]
theorem draws_nil (position : Nat) :
    (Lexer.mk [] position).draws =
      ⟨[], .ok ⟨.eof, "", position⟩⟩ :=
  draws_of_eof rfl rfl

/- A lexer that stands at no gap skips none. -/
theorem next_eq_tokenHere
    {c : Char}
    (hGap : isGap c = false)
    (cs : List Char)
    (position : Nat) :
    (Lexer.mk (c :: cs) position).next =
      (Lexer.mk (c :: cs) position).tokenHere := by
  simp [next, skipGap, hGap]

------------------------------------------------------------
-- Seams
------------------------------------------------------------

/- Characters that no token takes in after its own. -/
def IsSeam (after : List Char) : Prop :=
  ∀ kind : Token.Kind, kind.StopsAt after

/- The end of a text is a seam. -/
theorem isSeam_nil : IsSeam [] := by
  intro kind c hc
  cases hc

/- A space is a seam. -/
theorem isSeam_space (cs : List Char) :
    IsSeam (' ' :: cs) := by
  intro kind c hc
  cases hc
  cases kind <;> rfl

/- An opening bracket is a seam. -/
theorem isSeam_opening (cs : List Char) :
    IsSeam ('(' :: cs) := by
  intro kind c hc
  cases hc
  cases kind <;> rfl

/- A closing bracket is a seam. -/
theorem isSeam_closing (cs : List Char) :
    IsSeam (')' :: cs) := by
  intro kind c hc
  cases hc
  cases kind <;> rfl

/- A plus and a minus are seams. -/
theorem isSeam_sign
    {c : Char}
    (hSign : c = '+' ∨ c = '-')
    (cs : List Char) :
    IsSeam (c :: cs) := by
  intro kind d hd
  cases hd
  rcases hSign with rfl | rfl <;> cases kind <;> rfl

/- A sign joins nothing. -/
theorem stopsAt_of_isSign
    {kind : Token.Kind}
    (hSign : kind.isSign = true)
    (after : List Char) :
    kind.StopsAt after := by
  intro c _
  cases kind <;> first | rfl | cases hSign

------------------------------------------------------------
-- Spelled Tokens
------------------------------------------------------------

/- No digit is a gap. -/
theorem isGap_of_isDigit
    {c : Char}
    (hDigit : isDigit c = true) :
    isGap c = false := by
  simp only [isGap, Bool.or_eq_false_iff,
    beq_eq_false_iff_ne]
  refine ⟨⟨⟨⟨?_, ?_⟩, ?_⟩, ?_⟩, ?_⟩ <;>
    rintro rfl <;> cases hDigit

/- A symbol starts with neither a digit nor a gap. -/
theorem symbol?_head
    {chars : List Char}
    {kind : Token.Kind}
    (hSymbol : symbol? chars = some (kind, chars, [])) :
    ∃ c cs, chars = c :: cs ∧ isDigit c = false ∧
      isGap c = false := by
  unfold symbol? at hSymbol
  split at hSymbol <;> cases hSymbol <;>
    exact ⟨_, _, rfl, rfl, rfl⟩

/- A numeral starts with a digit. -/
theorem numeral_head
    {n : Numeral}
    (hn : n.IsWellFormed) :
    ∃ c cs, n.chars = c :: cs ∧ isDigit c = true := by
  cases hWhole : n.whole with
  | nil => exact absurd hWhole hn.whole_ne_nil
  | cons c cs =>
      refine ⟨c,
        cs ++ Numeral.fractionChars n.fraction ++
          Numeral.exponentChars n.exponent, ?_,
        hn.whole c (by simp [hWhole])⟩
      simp only [Numeral.chars, hWhole, List.cons_append]

/- A number goes on as its numeral does. -/
theorem stopsAt_numeral
    {n : Numeral}
    {after : List Char}
    (hStop : (numeralKind n).StopsAt after) :
    Numeral.StopsAt after := by
  intro c hc
  have hJoins := hStop c hc
  unfold numeralKind at hJoins
  split at hJoins <;> exact hJoins

/- A token is taken as it is spelled. -/
theorem next_of_isSpelled
    {t : Token}
    {after : List Char}
    (hSpelled : t.IsSpelled)
    (hStop : t.kind.StopsAt after)
    (position : Nat) :
    (Lexer.mk (t.text.toList ++ after) position).next =
      (.ok (t.movedTo position),
        ⟨after, position + t.text.toList.length⟩) := by
  rcases t with ⟨kind, text, place⟩
  cases hSpelled with
  | numeral n hNumeral hKind hText =>
      simp only at hKind hText hStop
      subst hKind hText
      have hScan := Numeral.scan_chars_append hNumeral
        (stopsAt_numeral hStop)
      rcases numeral_head hNumeral with
        ⟨c, cs, hChars, hDigit⟩
      simp only [String.toList_ofList]
      rw [hChars, List.cons_append] at hScan ⊢
      rw [next_eq_tokenHere (isGap_of_isDigit hDigit)]
      simp only [tokenHere, hDigit, if_true, number, hScan,
        emit, hChars, Token.movedTo]
  | symbol chars hSymbol hText =>
      simp only at hSymbol hText hStop
      subst hText
      have hFound := symbol?_chars_append hSymbol hStop
      rcases symbol?_head hSymbol with
        ⟨c, cs, hChars, hDigit, hGap⟩
      simp only [String.toList_ofList]
      rw [hChars, List.cons_append] at hFound ⊢
      rw [next_eq_tokenHere hGap]
      simp [tokenHere, hDigit, hFound, emit, Token.movedTo]

/- A spelled token is not the end token. -/
theorem kind_ne_eof_of_isSpelled
    {t : Token}
    (hSpelled : t.IsSpelled) :
    t.kind ≠ .eof := by
  cases hSpelled with
  | numeral n hNumeral hKind hText =>
      rw [hKind]
      exact numeralKind_ne_eof n
  | symbol chars hSymbol hText =>
      exact (symbol?_append hSymbol).2.2

/- The end token is not drawn before the end. -/
theorem kind_ne_eof_of_mem_draws
    {l : Lexer}
    {t : Token}
    (ht : t ∈ l.draws.tokens) :
    t.kind ≠ .eof :=
  kind_ne_eof_of_isSpelled (isSpelled_of_mem_draws l t ht)

/- A token is drawn as it is spelled. -/
theorem draws_of_isSpelled
    {t : Token}
    {after : List Char}
    (hSpelled : t.IsSpelled)
    (hStop : t.kind.StopsAt after)
    (position : Nat) :
    (Lexer.mk (t.text.toList ++ after) position).draws =
      (Lexer.mk after
        (position + t.text.toList.length)).draws.cons
          (t.movedTo position) := by
  have hKind : (t.movedTo position).kind ≠ .eof :=
    kind_ne_eof_of_isSpelled (t := t) hSpelled
  exact draws_of_token
    (next_of_isSpelled hSpelled hStop position) hKind

/- A symbol is drawn. -/
theorem draws_symbol
    {chars : List Char}
    {kind : Token.Kind}
    {after : List Char}
    (hSymbol : symbol? chars = some (kind, chars, []))
    (hStop : kind.StopsAt after)
    (position : Nat) :
    (Lexer.mk (chars ++ after) position).draws =
      (Lexer.mk after
        (position + chars.length)).draws.cons
          ⟨kind, String.ofList chars, position⟩ := by
  have hSpelled :
      Token.IsSpelled ⟨kind, String.ofList chars, 0⟩ :=
    .symbol chars hSymbol rfl
  have hDraws := draws_of_isSpelled hSpelled hStop position
  simp only [String.toList_ofList] at hDraws
  exact hDraws

/- A bracket that opens is drawn. -/
theorem draws_opening
    (after : List Char)
    (position : Nat) :
    (Lexer.mk ('(' :: after) position).draws =
      (Lexer.mk after (position + 1)).draws.cons
        ⟨.bracketOpen, "(", position⟩ := by
  have hSymbol :
      symbol? ['('] = some (.bracketOpen, ['('], []) := rfl
  exact draws_symbol hSymbol (fun _ _ => rfl) position

/- A bracket that closes is drawn. -/
theorem draws_closing
    (after : List Char)
    (position : Nat) :
    (Lexer.mk (')' :: after) position).draws =
      (Lexer.mk after (position + 1)).draws.cons
        ⟨.bracketClose, ")", position⟩ := by
  have hSymbol :
      symbol? [')'] = some (.bracketClose, [')'], []) := rfl
  exact draws_symbol hSymbol (fun _ _ => rfl) position

end Lexer

end Calculator
