import Calculator.Proofs.Lexing.Locality

/-
  This file shows how a lexer moves over a text. Every draw
  reads on, whether it gives a token or fails, and a token
  ends where the lexer stands after it.

  Key definitions include:
    * `Token.stop`
    * `Draws.given`
    * `Lexer.ReadsOn`
    * `Lexer.results`
    * `Lexer.afterDraws`
-/

namespace Calculator

/- The position behind a token. -/
def Token.stop (t : Token) : Nat :=
  t.position + t.text.length

/- The tokens that draws give, with the end token. -/
def Draws.given (draws : Draws) : List Token :=
  draws.tokens ++ draws.ending.toOption.toList

namespace Lexer

------------------------------------------------------------
-- Reading On
------------------------------------------------------------

/-
  A lexer reads on to another: it reads characters off the
  front of those that are left.
-/
def ReadsOn (l l' : Lexer) : Prop :=
  ∃ chars,
    l.rest = chars ++ l'.rest ∧
      l'.position = l.position + chars.length

namespace ReadsOn

variable {l l' l'' : Lexer}

/- Nothing need be read. -/
theorem refl (l : Lexer) : l.ReadsOn l :=
  ⟨[], rfl, rfl⟩

/- What is read later is read on. -/
theorem trans
    (hFirst : l.ReadsOn l')
    (hSecond : l'.ReadsOn l'') :
    l.ReadsOn l'' := by
  rcases hFirst with ⟨chars, hRest, hPosition⟩
  rcases hSecond with ⟨chars', hRest', hPosition'⟩
  refine ⟨chars ++ chars', ?_, ?_⟩
  · rw [hRest, hRest', List.append_assoc]
  · rw [hPosition', hPosition, List.length_append,
      Nat.add_assoc]

/- A lexer that reads on does not go back. -/
theorem position_le (hReads : l.ReadsOn l') :
    l.position ≤ l'.position := by
  rcases hReads with ⟨chars, _, hPosition⟩
  rw [hPosition]
  exact Nat.le_add_right _ _

/- What is read and what is left are as long as before. -/
theorem position_add_length (hReads : l.ReadsOn l') :
    l'.position + l'.rest.length =
      l.position + l.rest.length := by
  rcases hReads with ⟨chars, hRest, hPosition⟩
  rw [hPosition, hRest, List.length_append, Nat.add_assoc]

end ReadsOn

------------------------------------------------------------
-- One Draw
------------------------------------------------------------

/- A gap is read. -/
theorem readsOn_skipGap (l : Lexer) :
    l.ReadsOn l.skipGap :=
  ⟨l.rest.takeWhile isGap,
    List.takeWhile_append_dropWhile.symm, rfl⟩

/- What is taken is read, and so is what is failed after. -/
theorem Takes.readsOn
    {l : Lexer}
    {result : Except LexError Token × Lexer}
    (hTakes : l.Takes result) :
    l.ReadsOn result.2 := by
  cases hTakes with
  | finished hRest => exact .refl l
  | token hRest hLongest hClosed =>
      exact ⟨_, hRest, rfl⟩
  | stuck hRest hNone => exact .refl l
  | @broken kind chars after c hRest hLongest hNumber hPlain
      hMarker =>
      refine ⟨_, ?_, rfl⟩
      simp only [failAfter, hRest, List.append_assoc,
        List.cons_append, Numeral.scanSign_append]

/- A token is taken where the lexer stands, up to its end. -/
theorem Takes.place
    {l l' : Lexer}
    {t : Token}
    (hTakes : l.Takes (.ok t, l')) :
    t.position = l.position ∧
      t.stop = l'.position ∧
      (t.kind ≠ .eof → t.position < t.stop) := by
  cases hTakes with
  | finished hRest => exact ⟨rfl, rfl, absurd rfl⟩
  | @token kind chars rest hRest hLongest hClosed =>
      have hChars : 0 < chars.length :=
        List.length_pos_iff.mpr hLongest.matched.ne_nil
      refine ⟨rfl, ?_, fun _ => ?_⟩
      · simp only [Token.stop, String.length_ofList]
      · simp only [Token.stop, String.length_ofList]
        omega

/- Every draw reads on. -/
theorem readsOn_next (l : Lexer) :
    l.ReadsOn l.next.2 :=
  (readsOn_skipGap l).trans (tokenHere_takes _).readsOn

/-
  A token that is drawn starts no earlier than the lexer
  stood, and the lexer stands at its end. Only the end token
  may be empty.
-/
theorem place_of_next
    {l l' : Lexer}
    {t : Token}
    (hNext : l.next = (.ok t, l')) :
    l.position ≤ t.position ∧
      t.stop = l'.position ∧
      (t.kind ≠ .eof → t.position < t.stop) := by
  have hTakes := l.skipGap.tokenHere_takes
  rw [show l.skipGap.tokenHere = (.ok t, l') from hNext]
    at hTakes
  rcases hTakes.place with ⟨hStart, hStop, hShort⟩
  refine ⟨?_, hStop, hShort⟩
  rw [hStart]
  exact (readsOn_skipGap l).position_le

/-
  A token that is drawn stands behind a gap, and that gap
  alone lies between the lexer and the token.
-/
theorem gap_of_next
    {l l' : Lexer}
    {t : Token}
    (hNext : l.next = (.ok t, l')) :
    ∃ gap,
      (∀ c ∈ gap, isGap c = true) ∧
        l.rest = gap ++ (t.text.toList ++ l'.rest) ∧
        t.position = l.position + gap.length := by
  rcases exists_gap_of_next hNext with ⟨gap, hGap, hRest, _⟩
  have hStop := (place_of_next hNext).2.1
  have hLength := (readsOn_next l).position_add_length
  simp only [hNext, hRest, List.length_append,
    String.length_toList] at hLength
  rw [Token.stop] at hStop
  exact ⟨gap, hGap, hRest, by omega⟩

------------------------------------------------------------
-- Draws up to the End
------------------------------------------------------------

/-
  The tokens of draws stand one behind the other, from where
  the lexer stands on.
-/
theorem ascending_draws (l : Lexer) :
    l.draws.given.Pairwise
        (fun t u => t.position < u.position) ∧
      ∀ t ∈ l.draws.given, l.position ≤ t.position := by
  fun_induction draws l with
  | case1 l e l' hNext =>
      refine ⟨.nil, ?_⟩
      intro u hu
      cases hu
  | case2 l t l' hNext hKind =>
      refine ⟨List.pairwise_singleton _ _, ?_⟩
      intro u hu
      cases List.mem_singleton.mp hu
      exact (place_of_next hNext).1
  | case3 l t l' hNext hKind ih =>
      rcases place_of_next hNext with
        ⟨hStart, hStop, hShort⟩
      have hLess : t.position < l'.position :=
        hStop ▸ hShort hKind
      rcases ih with ⟨hAscending, hFrom⟩
      refine ⟨List.pairwise_cons.mpr ⟨?_, hAscending⟩, ?_⟩
      · intro u hu
        exact Nat.lt_of_lt_of_le hLess (hFrom u hu)
      · intro u hu
        rcases List.mem_cons.mp hu with rfl | hu
        · exact hStart
        · have hLater := hFrom u hu
          omega

------------------------------------------------------------
-- Draws That Go On after Failures
------------------------------------------------------------

/- What successive draws give, failures among them. -/
def results :
    Lexer → Nat → List (Except LexError Token)
| _, 0 => []
| l, n + 1 => l.next.1 :: results l.next.2 n

/- A lexer after a number of draws. -/
def afterDraws : Lexer → Nat → Lexer
| l, 0 => l
| l, n + 1 => afterDraws l.next.2 n

/- Draws read on, whatever they give. -/
theorem readsOn_afterDraws (l : Lexer) (n : Nat) :
    l.ReadsOn (l.afterDraws n) := by
  induction n generalizing l with
  | zero => exact .refl l
  | succ n ih => exact (readsOn_next l).trans (ih _)

end Lexer

end Calculator
