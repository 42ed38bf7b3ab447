import Calculator.Decimal.Numeral
import Calculator.Excerpt
import Calculator.Text.Quoted
import Calculator.Token.Basic

/-
  This file defines the lexer, which takes one token after
  another off the front of a text, and can go on after a
  failure from where it stands.

  Key definitions include:
    * `LexError`
    * `LexError.message`
    * `LexError.report`
    * `Lexer`
    * `Lexer.next`
    * `Lexer.drain`
    * `tokenize`
-/

namespace Calculator

open Text (isDigit)

------------------------------------------------------------
-- Failures
------------------------------------------------------------

/-
  No token starts or goes on at a position, because of the
  character found there or because the text ends.
-/
structure LexError where
  position : Nat
  found : Option Char
deriving DecidableEq, Repr

namespace LexError

/- What went wrong, on one line. -/
def message (e : LexError) : String :=
  match e.found with
  | none => s!"Unexpected end of input at {e.position}"
  | some c =>
      "Unexpected character " ++
        Text.quoted (String.singleton c) ++
        s!" at {e.position}"

/- The message with the place in the text under it. -/
def report (e : LexError) (text : String) : String :=
  "[Lexer error] " ++ e.message ++ "\n" ++
    Excerpt.pointAt text e.position Excerpt.defaultReach

end LexError

------------------------------------------------------------
-- The Lexer
------------------------------------------------------------

/-
  A lexer: the characters that are left of the text, and the
  index of the first of them.
-/
structure Lexer where
  rest : List Char
  position : Nat
deriving DecidableEq, Repr

namespace Lexer

/- The lexer at the start of a text. -/
def start (text : String) : Lexer :=
  ⟨text.toList, 0⟩

/- The characters that may stand between tokens. -/
def isGap (c : Char) : Bool :=
  c == ' ' || c == '\t' || c == '\n' || c == '\r' ||
    c == '\x0C'

/- The lexer after the gap that it stands at. -/
def skipGap (l : Lexer) : Lexer :=
  { rest := l.rest.dropWhile isGap
    position :=
      l.position + (l.rest.takeWhile isGap).length }

/-
  The operator or bracket at the start of a text, with its
  characters and what follows them. Two characters that form
  one operator are taken together.
-/
def symbol? :
    List Char → Option (Token.Kind × List Char × List Char)
| '*' :: '*' :: cs => some (.doubleStar, ['*', '*'], cs)
| '/' :: '/' :: cs => some (.doubleSlash, ['/', '/'], cs)
| '+' :: cs => some (.plus, ['+'], cs)
| '-' :: cs => some (.minus, ['-'], cs)
| '*' :: cs => some (.star, ['*'], cs)
| '/' :: cs => some (.slash, ['/'], cs)
| '%' :: cs => some (.percent, ['%'], cs)
| '(' :: cs => some (.bracketOpen, ['('], cs)
| ')' :: cs => some (.bracketClose, [')'], cs)
| _ => none

/- Give a token of the characters that the lexer stands at. -/
def emit
    (l : Lexer)
    (kind : Token.Kind)
    (chars rest : List Char) :
    Except LexError Token × Lexer :=
  (.ok ⟨kind, String.ofList chars, l.position⟩,
    ⟨rest, l.position + chars.length⟩)

/- Fail after the characters that were read. -/
def failAfter
    (l : Lexer)
    (read rest : List Char) :
    Except LexError Token × Lexer :=
  let position := l.position + read.length
  (.error ⟨position, rest.head?⟩, ⟨rest, position⟩)

/- The kind of the token that a numeral makes. -/
def numeralKind (n : Numeral) : Token.Kind :=
  if n.isWhole then .integer else .float

/- Take the number that the lexer stands at. -/
def number (l : Lexer) : Except LexError Token × Lexer :=
  match Numeral.scan l.rest with
  | .complete n rest => l.emit (numeralKind n) n.chars rest
  | .broken read rest => l.failAfter read rest

/- Take the token that the lexer stands at, after a gap. -/
def tokenHere (l : Lexer) : Except LexError Token × Lexer :=
  match l.rest with
  | [] => l.emit .eof [] []
  | c :: cs =>
      if isDigit c then
        l.number
      else
        match symbol? (c :: cs) with
        | some (kind, chars, rest) => l.emit kind chars rest
        | none => l.failAfter [] (c :: cs)

/-
  Take the next token. At the end of the text this is the
  end token, however often it is taken. A failure leaves the
  lexer at the position that it reports.
-/
def next (l : Lexer) : Except LexError Token × Lexer :=
  l.skipGap.tokenHere

------------------------------------------------------------
-- Progress
------------------------------------------------------------

/- Skipping a gap adds no characters. -/
theorem length_skipGap_le (l : Lexer) :
    l.skipGap.rest.length ≤ l.rest.length :=
  (List.dropWhile_sublist isGap).length_le

/- An operator or bracket starts the text that it is in. -/
theorem symbol?_append
    {cs chars rest : List Char}
    {kind : Token.Kind}
    (hSymbol : symbol? cs = some (kind, chars, rest)) :
    chars ++ rest = cs ∧ chars ≠ [] ∧ kind ≠ .eof := by
  unfold symbol? at hSymbol
  split at hSymbol <;> cases hSymbol <;> simp

/- The kind of a number is not that of the end. -/
theorem numeralKind_ne_eof (n : Numeral) :
    numeralKind n ≠ .eof := by
  unfold numeralKind
  split <;> simp

/-
  A token other than the end takes at least one character
  off the text.
-/
theorem length_tokenHere_lt
    {l l' : Lexer}
    {t : Token}
    (hToken : l.tokenHere = (.ok t, l'))
    (hKind : t.kind ≠ .eof) :
    l'.rest.length < l.rest.length := by
  unfold tokenHere at hToken
  split at hToken
  · simp only [emit, Prod.mk.injEq, Except.ok.injEq] at hToken
    rcases hToken with ⟨hT, _⟩
    subst hT
    exact absurd rfl hKind
  · rename_i c cs hRest
    split at hToken
    · rename_i hDigit
      unfold number at hToken
      cases hScan : Numeral.scan l.rest with
      | complete n rest =>
          rw [hScan] at hToken
          simp only [emit, Prod.mk.injEq] at hToken
          rcases hToken with ⟨_, hL⟩
          subst hL
          have hSplits := Numeral.scan_splits l.rest
          rw [hScan] at hSplits
          rw [hRest] at hScan
          have hChars :=
            Numeral.chars_ne_nil_of_scan hDigit hScan
          have hLength := congrArg List.length hSplits
          have hPos := List.length_pos_iff.mpr hChars
          simp only [List.length_append] at hLength
          simp only
          omega
      | broken read rest =>
          rw [hScan] at hToken
          simp [failAfter] at hToken
    · split at hToken
      · rename_i kind chars rest hSymbol
        simp only [emit, Prod.mk.injEq] at hToken
        rcases hToken with ⟨_, hL⟩
        subst hL
        rcases symbol?_append hSymbol with
          ⟨hAppend, hChars, _⟩
        have hLength := congrArg List.length hAppend
        have hPos := List.length_pos_iff.mpr hChars
        simp only [List.length_append] at hLength
        rw [hRest]
        simp only
        omega
      · simp [failAfter] at hToken

/-
  Taking a token other than the end leaves fewer characters.
-/
theorem length_next_lt
    {l l' : Lexer}
    {t : Token}
    (hNext : l.next = (.ok t, l'))
    (hKind : t.kind ≠ .eof) :
    l'.rest.length < l.rest.length :=
  Nat.lt_of_lt_of_le
    (length_tokenHere_lt hNext hKind)
    (length_skipGap_le l)

/- The end token leaves no characters. -/
theorem rest_eq_nil_of_tokenHere
    {l l' : Lexer}
    {t : Token}
    (hToken : l.tokenHere = (.ok t, l'))
    (hKind : t.kind = .eof) :
    l'.rest = [] := by
  unfold tokenHere at hToken
  split at hToken
  · simp only [emit, Prod.mk.injEq] at hToken
    rcases hToken with ⟨_, hL⟩
    subst hL
    rfl
  · split at hToken
    · unfold number at hToken
      split at hToken
      · simp only [emit, Prod.mk.injEq,
          Except.ok.injEq] at hToken
        rcases hToken with ⟨hT, _⟩
        subst hT
        exact absurd hKind (numeralKind_ne_eof _)
      · simp [failAfter] at hToken
    · split at hToken
      · rename_i hSymbol
        simp only [emit, Prod.mk.injEq,
          Except.ok.injEq] at hToken
        rcases hToken with ⟨hT, _⟩
        subst hT
        exact absurd hKind (symbol?_append hSymbol).2.2
      · simp [failAfter] at hToken

------------------------------------------------------------
-- All Tokens
------------------------------------------------------------

/-
  Take tokens up to and including the end token, or up to
  the first failure.
-/
def drain (l : Lexer) : Except LexError (List Token) :=
  match _hNext : l.next with
  | (.error e, _) => .error e
  | (.ok t, l') =>
      if _hKind : t.kind = .eof then
        .ok [t]
      else
        (drain l').map fun tokens => t :: tokens
termination_by l.rest.length
decreasing_by exact length_next_lt _hNext _hKind

end Lexer

/- The tokens of a text, the end token last. -/
def tokenize (text : String) :
    Except LexError (List Token) :=
  (Lexer.start text).drain

end Calculator
