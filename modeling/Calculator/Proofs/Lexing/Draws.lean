import Calculator.Proofs.Lexing.Numeral
import Calculator.Token.Lexer

/-
  This file describes what a lexer gives when tokens are
  drawn from it one after another, and how the tokens are
  spelled that it gives.

  Key definitions include:
    * `Draws`
    * `Draws.token?`
    * `Lexer.draws`
    * `Token.IsSpelled`
    * `Token.Kind.joins`
-/

namespace Calculator

open Text (isDigit)

------------------------------------------------------------
-- Draws
------------------------------------------------------------

/-
  What successive draws give: tokens, and then the end token
  or the first failure.
-/
structure Draws where
  tokens : List Token
  ending : Except LexError Token

namespace Draws

/- Draws with one token before them. -/
def cons (token : Token) (draws : Draws) : Draws :=
  ⟨token :: draws.tokens, draws.ending⟩

/- All tokens with the end token, unless a draw fails. -/
def all (draws : Draws) : Except LexError (List Token) :=
  draws.ending.map fun eof => draws.tokens ++ [eof]

/- The token of one draw, counted from zero. -/
def token? (draws : Draws) (k : Nat) : Option Token :=
  (draws.tokens ++ draws.ending.toOption.toList)[k]?

/- The failure of one draw, counted from zero. -/
def failure? (draws : Draws) (k : Nat) : Option LexError :=
  match draws.ending with
  | .ok _ => none
  | .error e =>
      if k = draws.tokens.length then some e else none

/- A draw that fails is the one that ends the draws. -/
theorem failure?_eq_some
    {draws : Draws}
    {k : Nat}
    {e : LexError} :
    draws.failure? k = some e ↔
      draws.ending = .error e ∧ k = draws.tokens.length := by
  rcases draws with ⟨tokens, ending⟩
  cases ending with
  | ok eof => simp [failure?]
  | error x => simp [failure?, and_comm]

/- Where draws end in a failure, all of them are tokens. -/
theorem token?_of_ending
    {draws : Draws}
    {e : LexError}
    (hEnding : draws.ending = .error e)
    (k : Nat) :
    draws.token? k = draws.tokens[k]? := by
  rw [token?, hEnding, Except.toOption, Option.toList,
    List.append_nil]

/- All tokens are those before the end token, and it. -/
theorem all_eq_ok
    {draws : Draws}
    {tokens : List Token}
    {eof : Token} :
    draws.all = .ok (tokens ++ [eof]) ↔
      draws = ⟨tokens, .ok eof⟩ := by
  rcases draws with ⟨drawn, ending⟩
  cases ending with
  | error e => simp [all, Except.map]
  | ok t => simp [all, Except.map]

/- The end token is the last that is drawn. -/
theorem eq_of_token?_eof
    {draws : Draws}
    {k : Nat}
    {eof : Token}
    (hDrawn : ∀ t ∈ draws.tokens, t.kind ≠ .eof)
    (hToken : draws.token? k = some eof)
    (hKind : eof.kind = .eof) :
    draws = ⟨draws.tokens.take k, .ok eof⟩ := by
  rcases draws with ⟨drawn, ending⟩
  simp only [token?] at hToken
  by_cases hk : k < drawn.length
  · rw [List.getElem?_append_left hk] at hToken
    have hMem := List.mem_of_getElem? hToken
    exact absurd hKind (hDrawn eof hMem)
  · rw [List.getElem?_append_right (Nat.not_lt.mp hk)]
      at hToken
    have hMem := List.mem_of_getElem? hToken
    cases ending with
    | error e => cases hMem
    | ok t =>
        simp only [Except.toOption, Option.toList,
          List.mem_singleton] at hMem
        rw [List.take_of_length_le (Nat.not_lt.mp hk), hMem]

end Draws

namespace Lexer

/- Draw tokens up to the end token or the first failure. -/
def draws (l : Lexer) : Draws :=
  match _hNext : l.next with
  | (.error e, _) => ⟨[], .error e⟩
  | (.ok t, l') =>
      if _hKind : t.kind = .eof then
        ⟨[], .ok t⟩
      else
        (draws l').cons t
termination_by l.rest.length
decreasing_by exact length_next_lt _hNext _hKind

/- A failure ends the draws. -/
theorem draws_of_error
    {l l' : Lexer}
    {e : LexError}
    (hNext : l.next = (.error e, l')) :
    l.draws = ⟨[], .error e⟩ := by
  rw [draws]
  split
  · rename_i hEq
    rw [hNext] at hEq
    cases hEq
    rfl
  · rename_i hEq
    rw [hNext] at hEq
    cases hEq

/- The end token ends the draws. -/
theorem draws_of_eof
    {l l' : Lexer}
    {t : Token}
    (hNext : l.next = (.ok t, l'))
    (hKind : t.kind = .eof) :
    l.draws = ⟨[], .ok t⟩ := by
  rw [draws]
  split
  · rename_i hEq
    rw [hNext] at hEq
    cases hEq
  · rename_i hEq
    rw [hNext] at hEq
    cases hEq
    simp only [hKind, dite_true]

/- Any other token is followed by what is drawn later. -/
theorem draws_of_token
    {l l' : Lexer}
    {t : Token}
    (hNext : l.next = (.ok t, l'))
    (hKind : t.kind ≠ .eof) :
    l.draws = l'.draws.cons t := by
  rw [draws]
  split
  · rename_i hEq
    rw [hNext] at hEq
    cases hEq
  · rename_i hEq
    rw [hNext] at hEq
    cases hEq
    simp only [hKind, dite_false]

/- The first of the tokens that are drawn is drawn next. -/
theorem exists_next_of_draws
    {l : Lexer}
    {t : Token}
    {ts : List Token}
    (hDraws : l.draws.tokens = t :: ts) :
    ∃ l', l.next = (.ok t, l') := by
  cases hNext : l.next with
  | mk result l' =>
      cases result with
      | error e =>
          rw [draws_of_error hNext] at hDraws
          cases hDraws
      | ok u =>
          by_cases hKind : u.kind = .eof
          · rw [draws_of_eof hNext hKind] at hDraws
            cases hDraws
          · rw [draws_of_token hNext hKind] at hDraws
            cases hDraws
            exact ⟨l', rfl⟩

/- All tokens of a lexer are those that are drawn. -/
theorem drain_eq_all (l : Lexer) :
    l.drain = l.draws.all := by
  fun_induction drain l with
  | case1 l e l' hNext =>
      rw [draws_of_error hNext]
      rfl
  | case2 l t l' hNext hKind =>
      rw [draws_of_eof hNext hKind]
      rfl
  | case3 l t l' hNext hKind ih =>
      rw [draws_of_token hNext hKind, ih]
      unfold Draws.all Draws.cons
      cases l'.draws.ending <;> rfl

end Lexer

/- The tokens of a text are those that are drawn. -/
theorem tokenize_eq_ok
    {text : String}
    {tokens : List Token}
    {eof : Token} :
    tokenize text = .ok (tokens ++ [eof]) ↔
      (Lexer.start text).draws = ⟨tokens, .ok eof⟩ := by
  unfold tokenize
  rw [Lexer.drain_eq_all]
  exact Draws.all_eq_ok

/- No tokens are listed if the draws end in a failure. -/
theorem tokenize_eq_error
    {text : String}
    {e : LexError} :
    tokenize text = .error e ↔
      (Lexer.start text).draws.ending = .error e := by
  unfold tokenize
  rw [Lexer.drain_eq_all, Draws.all]
  cases (Lexer.start text).draws.ending with
  | ok eof => simp [Except.map]
  | error x => simp [Except.map]

------------------------------------------------------------
-- Spelling
------------------------------------------------------------

/-
  A token is spelled as its kind is: a number as a numeral,
  and every other token as the symbol of its kind.
-/
inductive Token.IsSpelled (t : Token) : Prop where
| numeral
    (n : Numeral)
    (hNumeral : n.IsWellFormed)
    (hKind : t.kind = Lexer.numeralKind n)
    (hText : t.text = String.ofList n.chars) :
    Token.IsSpelled t
| symbol
    (chars : List Char)
    (hSymbol :
      Lexer.symbol? chars = some (t.kind, chars, []))
    (hText : t.text = String.ofList chars) :
    Token.IsSpelled t

/-
  A character that a token would take in as well if it came
  after the others.
-/
def Token.Kind.joins : Token.Kind → Char → Bool
| .integer, c => Numeral.continues c
| .float, c => Numeral.continues c
| .star, c => c == '*'
| .slash, c => c == '/'
| _, _ => false

/- Characters after a token that are no part of it. -/
def Token.Kind.StopsAt
    (kind : Token.Kind)
    (after : List Char) : Prop :=
  ∀ c ∈ after.head?, kind.joins c = false

namespace Lexer

/- A symbol that starts a text is a symbol by itself. -/
theorem symbol?_chars
    {cs chars rest : List Char}
    {kind : Token.Kind}
    (hSymbol : symbol? cs = some (kind, chars, rest)) :
    symbol? chars = some (kind, chars, []) := by
  unfold symbol? at hSymbol
  split at hSymbol <;> cases hSymbol <;> rfl

/- One star before another character is a symbol. -/
theorem symbol?_star
    {after : List Char}
    (hStop : Token.Kind.star.StopsAt after) :
    symbol? ('*' :: after) = some (.star, ['*'], after) := by
  cases after with
  | nil => rfl
  | cons c cs =>
      have hNot : c ≠ '*' := by
        simpa [Token.Kind.joins] using hStop c rfl
      unfold symbol?
      split <;> simp_all

/- One slash before another character is a symbol. -/
theorem symbol?_slash
    {after : List Char}
    (hStop : Token.Kind.slash.StopsAt after) :
    symbol? ('/' :: after) = some (.slash, ['/'], after) := by
  cases after with
  | nil => rfl
  | cons c cs =>
      have hNot : c ≠ '/' := by
        simpa [Token.Kind.joins] using hStop c rfl
      unfold symbol?
      split <;> simp_all

/- A symbol is found unless it joins what follows. -/
theorem symbol?_chars_append
    {chars after : List Char}
    {kind : Token.Kind}
    (hSymbol : symbol? chars = some (kind, chars, []))
    (hStop : kind.StopsAt after) :
    symbol? (chars ++ after) =
      some (kind, chars, after) := by
  unfold symbol? at hSymbol
  split at hSymbol <;> cases hSymbol
  case h_5 => exact symbol?_star hStop
  case h_6 => exact symbol?_slash hStop
  all_goals rfl

/- The kind of a numeral is that of a number. -/
theorem isNumber_numeralKind (n : Numeral) :
    (numeralKind n).isNumber = true := by
  unfold numeralKind
  split <;> rfl

/- A token is spelled as its kind, or the text ends. -/
theorem isSpelled_of_tokenHere
    {l l' : Lexer}
    {t : Token}
    (hToken : l.tokenHere = (.ok t, l'))
    (hKind : t.kind ≠ .eof) :
    t.IsSpelled := by
  unfold tokenHere at hToken
  split at hToken
  · cases hToken
    exact absurd rfl hKind
  · rename_i c cs hRest
    split at hToken
    · rename_i hDigit
      unfold number at hToken
      rw [hRest] at hToken
      cases hScan : Numeral.scan (c :: cs) with
      | complete n rest =>
          rw [hScan] at hToken
          cases hToken
          exact .numeral n
            (Numeral.isWellFormed_of_scan hDigit hScan)
            rfl rfl
      | broken read rest =>
          rw [hScan] at hToken
          cases hToken
    · split at hToken
      · rename_i kind chars rest hSymbol
        cases hToken
        exact .symbol chars (symbol?_chars hSymbol) rfl
      · cases hToken

/- Every token that is drawn is spelled as its kind. -/
theorem isSpelled_of_mem_draws (l : Lexer) :
    ∀ t ∈ l.draws.tokens, t.IsSpelled := by
  fun_induction draws l with
  | case1 l e l' hNext =>
      intro t ht
      cases ht
  | case2 l t l' hNext hKind =>
      intro t ht
      cases ht
  | case3 l t l' hNext hKind ih =>
      intro u hu
      rcases List.mem_cons.mp hu with rfl | hu
      · exact isSpelled_of_tokenHere hNext hKind
      · exact ih u hu

/- The token that ends the draws is the end token. -/
theorem kind_eq_eof_of_ending
    {l : Lexer}
    {eof : Token}
    (hEnding : l.draws.ending = .ok eof) :
    eof.kind = .eof := by
  fun_induction draws l with
  | case1 l e l' hNext => cases hEnding
  | case2 l t l' hNext hKind =>
      cases hEnding
      exact hKind
  | case3 l t l' hNext hKind ih => exact ih hEnding

end Lexer

end Calculator
