import Calculator.Proofs.Lexing.LongestNumeral
import Calculator.Proofs.Lexing.Seams

/-
  This file defines what the tokens of each kind look like,
  and shows that the lexer takes the longest match that a
  text starts with, wherever one does.

  Key definitions include:
    * `Token.Kind.Matches`
    * `IsLongestMatch`
    * `Lexer.Takes`
-/

namespace Calculator

open Text (isDigit AllDigits)

------------------------------------------------------------
-- Matches
------------------------------------------------------------

/-
  The characters of the tokens of each kind. A number with a
  fraction, an exponent or both is not whole.
-/
inductive Token.Kind.Matches :
    Token.Kind → List Char → Prop where
| integer
    (digits : List Char)
    (hDigits : AllDigits digits)
    (hNe : digits ≠ []) :
    Matches .integer digits
| float
    (n : Numeral)
    (hn : n.IsWellFormed)
    (hParts : n.fraction ≠ none ∨ n.exponent ≠ none) :
    Matches .float n.chars
| doubleStar : Matches .doubleStar ['*', '*']
| doubleSlash : Matches .doubleSlash ['/', '/']
| plus : Matches .plus ['+']
| minus : Matches .minus ['-']
| star : Matches .star ['*']
| slash : Matches .slash ['/']
| percent : Matches .percent ['%']
| bracketOpen : Matches .bracketOpen ['(']
| bracketClose : Matches .bracketClose [')']

/- The longest match that a text starts with, and the rest. -/
structure IsLongestMatch
    (kind : Token.Kind)
    (chars rest : List Char) : Prop where
  matched : kind.Matches chars
  longest :
    ∀ (kind' : Token.Kind) (chars' : List Char),
      kind'.Matches chars' →
        chars' <+: chars ++ rest →
          chars'.length ≤ chars.length

namespace Token.Kind

/- A numeral matches the kind of its token. -/
theorem matches_numeral
    {n : Numeral}
    (hn : n.IsWellFormed) :
    (Lexer.numeralKind n).Matches n.chars := by
  rcases n with ⟨whole, _ | digits, _ | e⟩
  · have hChars :
        Numeral.chars ⟨whole, none, none⟩ = whole := by
      simp [Numeral.chars, Numeral.fractionChars,
        Numeral.exponentChars]
    rw [hChars]
    exact .integer whole hn.whole hn.whole_ne_nil
  · exact .float _ hn (Or.inr (Option.some_ne_none e))
  · exact .float _ hn (Or.inl (Option.some_ne_none digits))
  · exact .float _ hn (Or.inl (Option.some_ne_none digits))

/- What matches a kind is a numeral or the symbol of it. -/
theorem Matches.numeral_or_symbol
    {kind : Token.Kind}
    {chars : List Char}
    (hMatches : kind.Matches chars) :
    (∃ n : Numeral,
      n.IsWellFormed ∧
        kind = Lexer.numeralKind n ∧
        chars = n.chars) ∨
      Lexer.symbol? chars = some (kind, chars, []) := by
  cases hMatches with
  | integer digits hDigits hNe =>
      refine Or.inl ⟨⟨chars, none, none⟩, ?_, rfl, ?_⟩
      · exact ⟨hDigits, hNe, nofun, nofun⟩
      · simp [Numeral.chars, Numeral.fractionChars,
          Numeral.exponentChars]
  | float n hn hParts =>
      refine Or.inl ⟨n, hn, ?_, rfl⟩
      rcases n with ⟨whole, _ | digits, _ | e⟩
      · simp at hParts
      all_goals rfl
  | doubleStar => exact Or.inr rfl
  | doubleSlash => exact Or.inr rfl
  | plus => exact Or.inr rfl
  | minus => exact Or.inr rfl
  | star => exact Or.inr rfl
  | slash => exact Or.inr rfl
  | percent => exact Or.inr rfl
  | bracketOpen => exact Or.inr rfl
  | bracketClose => exact Or.inr rfl

/- A symbol matches its kind. -/
theorem matches_symbol
    {kind : Token.Kind}
    {cs chars rest : List Char}
    (hSymbol :
      Lexer.symbol? cs = some (kind, chars, rest)) :
    kind.Matches chars := by
  unfold Lexer.symbol? at hSymbol
  split at hSymbol <;> cases hSymbol <;> constructor

/- What matches a kind is the text of a token of it. -/
theorem Matches.isSpelled
    {kind : Token.Kind}
    {chars : List Char}
    (hMatches : kind.Matches chars) :
    Token.IsSpelled ⟨kind, String.ofList chars, 0⟩ := by
  rcases hMatches.numeral_or_symbol with
    ⟨n, hn, hKind, hChars⟩ | hSymbol
  · exact .numeral n hn hKind (congrArg String.ofList hChars)
  · exact .symbol chars hSymbol rfl

/- Characters match at most one kind. -/
theorem Matches.kind_unique
    {kind kind' : Token.Kind}
    {chars : List Char}
    (hMatches : kind.Matches chars)
    (hMatches' : kind'.Matches chars) :
    kind = kind' := by
  have hNext := Lexer.next_of_isSpelled hMatches.isSpelled
    (Lexer.isSeam_nil kind) 0
  have hNext' := Lexer.next_of_isSpelled hMatches'.isSpelled
    (Lexer.isSeam_nil kind') 0
  rw [hNext] at hNext'
  simp only [Token.movedTo, Prod.mk.injEq, Except.ok.injEq,
    Token.mk.injEq] at hNext'
  exact hNext'.1.1

/- No empty text matches a kind. -/
theorem Matches.ne_nil
    {kind : Token.Kind}
    {chars : List Char}
    (hMatches : kind.Matches chars) :
    chars ≠ [] := by
  rcases hMatches.numeral_or_symbol with
    ⟨n, hn, _, rfl⟩ | hSymbol
  · rcases Lexer.numeral_head hn with ⟨c, cs, hChars, _⟩
    simp [hChars]
  · exact (Lexer.symbol?_append hSymbol).2.1

/- What matches at a digit is a numeral. -/
theorem Matches.exists_numeral
    {kind : Token.Kind}
    {c : Char}
    {chars cs : List Char}
    (hMatches : kind.Matches chars)
    (hPrefix : chars <+: c :: cs)
    (hDigit : isDigit c = true) :
    ∃ n : Numeral, n.IsWellFormed ∧ chars = n.chars := by
  rcases hMatches.numeral_or_symbol with
    ⟨n, hn, _, hChars⟩ | hSymbol
  · exact ⟨n, hn, hChars⟩
  · rcases Lexer.symbol?_head hSymbol with
      ⟨d, ds, rfl, hNot, _⟩
    rcases List.cons_prefix_cons.mp hPrefix with ⟨rfl, _⟩
    rw [hDigit] at hNot
    cases hNot

/- What matches at another character is a symbol. -/
theorem Matches.symbol_of_not_digit
    {kind : Token.Kind}
    {c : Char}
    {chars cs : List Char}
    (hMatches : kind.Matches chars)
    (hPrefix : chars <+: c :: cs)
    (hDigit : isDigit c = false) :
    Lexer.symbol? chars = some (kind, chars, []) := by
  rcases hMatches.numeral_or_symbol with
    ⟨n, hn, _, rfl⟩ | hSymbol
  · rcases Lexer.numeral_head hn with
      ⟨d, ds, hChars, hIs⟩
    rw [hChars] at hPrefix
    rcases List.cons_prefix_cons.mp hPrefix with ⟨rfl, _⟩
    rw [hDigit] at hIs
    cases hIs
  · exact hSymbol

end Token.Kind

/- A text starts with at most one longest match. -/
theorem IsLongestMatch.unique
    {kind kind' : Token.Kind}
    {chars rest chars' rest' : List Char}
    (hLongest : IsLongestMatch kind chars rest)
    (hLongest' : IsLongestMatch kind' chars' rest')
    (hText : chars ++ rest = chars' ++ rest') :
    kind = kind' ∧ chars = chars' ∧ rest = rest' := by
  have hLe := hLongest'.longest _ _ hLongest.matched
    ⟨rest, hText⟩
  have hGe := hLongest.longest _ _ hLongest'.matched
    ⟨rest', hText.symm⟩
  rcases List.append_inj hText (Nat.le_antisymm hLe hGe) with
    ⟨rfl, rfl⟩
  exact ⟨hLongest.matched.kind_unique hLongest'.matched,
    rfl, rfl⟩

------------------------------------------------------------
-- The Lexer at a Symbol
------------------------------------------------------------

namespace Lexer

/- A symbol at the start of a text is one of at least it. -/
theorem length_le_of_symbol?
    {kind : Token.Kind}
    {chars : List Char}
    (hSymbol : symbol? chars = some (kind, chars, []))
    (rest : List Char) :
    ∃ kind' chars' rest',
      symbol? (chars ++ rest) =
          some (kind', chars', rest') ∧
        chars.length ≤ chars'.length := by
  unfold symbol? at hSymbol
  split at hSymbol <;> cases hSymbol
  case h_5 =>
    by_cases hStop : Token.Kind.star.StopsAt rest
    · exact ⟨_, _, _, symbol?_star hStop, Nat.le_refl _⟩
    · cases rest with
      | nil => exact absurd (isSeam_nil _) hStop
      | cons c cs =>
          have hStar : c = '*' := by
            simpa [Token.Kind.StopsAt, Token.Kind.joins]
              using hStop
          subst hStar
          exact ⟨_, _, _, rfl, by decide⟩
  case h_6 =>
    by_cases hStop : Token.Kind.slash.StopsAt rest
    · exact ⟨_, _, _, symbol?_slash hStop, Nat.le_refl _⟩
    · cases rest with
      | nil => exact absurd (isSeam_nil _) hStop
      | cons c cs =>
          have hSlash : c = '/' := by
            simpa [Token.Kind.StopsAt, Token.Kind.joins]
              using hStop
          subst hSlash
          exact ⟨_, _, _, rfl, by decide⟩
  all_goals exact ⟨_, _, _, rfl, Nat.le_refl _⟩

/- The symbol that is found is the longest match. -/
theorem isLongestMatch_symbol
    {c : Char}
    {cs chars rest : List Char}
    {kind : Token.Kind}
    (hDigit : isDigit c = false)
    (hSymbol :
      symbol? (c :: cs) = some (kind, chars, rest)) :
    IsLongestMatch kind chars rest := by
  refine ⟨Token.Kind.matches_symbol hSymbol, ?_⟩
  intro kind' chars' hMatches hPrefix
  rw [(symbol?_append hSymbol).1] at hPrefix
  have hSymbol' :=
    hMatches.symbol_of_not_digit hPrefix hDigit
  rcases hPrefix with ⟨after, hAfter⟩
  rcases length_le_of_symbol? hSymbol' after with
    ⟨_, _, _, hFound, hLength⟩
  rw [hAfter, hSymbol] at hFound
  cases hFound
  exact hLength

/- Where no symbol is found and no digit, nothing matches. -/
theorem not_prefix_of_symbol?_eq_none
    {c : Char}
    {cs : List Char}
    (hDigit : isDigit c = false)
    (hSymbol : symbol? (c :: cs) = none)
    {kind : Token.Kind}
    {chars : List Char}
    (hMatches : kind.Matches chars) :
    ¬ chars <+: c :: cs := by
  intro hPrefix
  have hSymbol' :=
    hMatches.symbol_of_not_digit hPrefix hDigit
  rcases hPrefix with ⟨after, hAfter⟩
  rcases length_le_of_symbol? hSymbol' after with
    ⟨_, _, _, hFound, _⟩
  rw [hAfter, hSymbol] at hFound
  cases hFound

------------------------------------------------------------
-- The Lexer at a Number
------------------------------------------------------------

/- A numeral is the longest match if no numeral is longer. -/
theorem isLongestMatch_numeral
    {n : Numeral}
    {c : Char}
    {cs rest : List Char}
    (hn : n.IsWellFormed)
    (hDigit : isDigit c = true)
    (hText : n.chars ++ rest = c :: cs)
    (hLongest :
      ∀ m : Numeral,
        m.IsWellFormed →
          m.chars <+: c :: cs →
            m.chars.length ≤ n.chars.length) :
    IsLongestMatch (numeralKind n) n.chars rest := by
  refine ⟨Token.Kind.matches_numeral hn, ?_⟩
  intro kind chars hMatches hPrefix
  rw [hText] at hPrefix
  rcases hMatches.exists_numeral hPrefix hDigit with
    ⟨m, hm, rfl⟩
  exact hLongest m hm hPrefix

/- A numeral without an exponent has no letter. -/
theorem any_isExponentMarker_chars
    {n : Numeral}
    (hn : n.IsWellFormed) :
    n.chars.any Numeral.isExponentMarker =
      n.exponent.isSome := by
  have hDigits :
      ∀ digits : List Char,
        AllDigits digits →
          digits.any Numeral.isExponentMarker = false := by
    intro digits hDigits
    rw [List.any_eq_false]
    intro c hc hMarker
    have hNot := (Numeral.not_digit_of_marker hMarker).1
    rw [hDigits c hc] at hNot
    cases hNot
  have hFraction :
      (Numeral.fractionChars n.fraction).any
        Numeral.isExponentMarker = false := by
    cases hf : n.fraction with
    | none => rfl
    | some digits =>
        have hPoint :
            Numeral.isExponentMarker '.' = false := rfl
        rw [Numeral.fractionChars, List.any_cons, hPoint,
          Bool.false_or]
        exact hDigits digits (hn.fraction digits hf)
  rw [Numeral.chars, List.any_append, List.any_append,
    hDigits n.whole hn.whole, hFraction]
  cases he : n.exponent with
  | none => rfl
  | some e =>
      simp [Numeral.exponentChars, ExponentPart.chars,
        (hn.exponent e he).marker]

------------------------------------------------------------
-- One Token
------------------------------------------------------------

/-
  What a lexer does at the character that it stands at. It
  takes the longest match, and an exponent is announced after
  no number that it takes. Where nothing matches, it stays. A
  number with a broken exponent is the longest match, and the
  lexer fails behind it.
-/
inductive Takes (l : Lexer) :
    Except LexError Token × Lexer → Prop where
| finished
    (hRest : l.rest = []) :
    Takes l (.ok ⟨.eof, "", l.position⟩, l)
| token
    {kind : Token.Kind}
    {chars rest : List Char}
    (hRest : l.rest = chars ++ rest)
    (hLongest : IsLongestMatch kind chars rest)
    (hClosed :
      kind.isNumber = true →
        chars.any Numeral.isExponentMarker = false →
          rest.head?.any Numeral.isExponentMarker = false) :
    Takes l
      (.ok ⟨kind, String.ofList chars, l.position⟩,
        ⟨rest, l.position + chars.length⟩)
| stuck
    {c : Char}
    {cs : List Char}
    (hRest : l.rest = c :: cs)
    (hNone :
      ∀ (kind : Token.Kind) (chars : List Char),
        kind.Matches chars → ¬ chars <+: c :: cs) :
    Takes l (.error ⟨l.position, some c⟩, l)
| broken
    {kind : Token.Kind}
    {chars after : List Char}
    {c : Char}
    (hRest : l.rest = chars ++ c :: after)
    (hLongest : IsLongestMatch kind chars (c :: after))
    (hNumber : kind.isNumber = true)
    (hPlain : chars.any Numeral.isExponentMarker = false)
    (hMarker : Numeral.isExponentMarker c = true) :
    Takes l
      (l.failAfter
        (chars ++ c :: (Numeral.scanSign after).1.toList)
        (Numeral.scanSign after).2)

/- A symbol is not the kind of a number. -/
theorem isNumber_of_symbol?
    {cs chars rest : List Char}
    {kind : Token.Kind}
    (hSymbol : symbol? cs = some (kind, chars, rest)) :
    kind.isNumber = false := by
  unfold symbol? at hSymbol
  split at hSymbol <;> cases hSymbol <;> rfl

/- At a digit the lexer takes the longest numeral. -/
theorem number_takes
    {l : Lexer}
    {c : Char}
    {cs : List Char}
    (hRest : l.rest = c :: cs)
    (hDigit : isDigit c = true) :
    l.Takes l.number := by
  unfold number
  rw [hRest]
  cases hScan : Numeral.scan (c :: cs) with
  | complete n rest =>
      have hn := Numeral.isWellFormed_of_scan hDigit hScan
      have hText : n.chars ++ rest = c :: cs := by
        have hSplits := Numeral.scan_splits (c :: cs)
        rwa [hScan] at hSplits
      refine .token (hRest.trans hText.symm)
        (isLongestMatch_numeral hn hDigit hText ?_) ?_
      · intro m hm hPrefix
        exact Numeral.length_le_of_scan hm hPrefix hScan
      · intro _ hPlain
        rw [any_isExponentMarker_chars hn] at hPlain
        have hNone : n.exponent = none := by
          simpa using hPlain
        have hNot := Numeral.not_marker_of_scan hScan hNone
        cases rest with
        | nil => rfl
        | cons d rest => exact hNot d rfl
  | broken read rest =>
      have hn := Numeral.isWellFormed_plain hDigit cs
      have hText := Numeral.chars_plain_append (c :: cs)
      rcases Numeral.exists_of_scan_broken hScan with
        ⟨d, after, hAfter, hMarker, rfl, rfl⟩
      rw [hAfter] at hText
      refine .broken (hRest.trans hText.symm)
        (isLongestMatch_numeral hn hDigit hText ?_)
        (isNumber_numeralKind _) ?_ hMarker
      · intro m hm hPrefix
        exact Numeral.length_le_of_scan_broken hm hPrefix
          hScan
      · rw [any_isExponentMarker_chars hn]
        rfl

/- A lexer takes the longest match after a gap. -/
theorem tokenHere_takes (l : Lexer) :
    l.Takes l.tokenHere := by
  unfold tokenHere
  split
  · rename_i hRest
    rcases l with ⟨rest, position⟩
    simp only at hRest
    subst hRest
    exact .finished rfl
  · rename_i c cs hRest
    split
    · rename_i hDigit
      exact number_takes hRest hDigit
    · rename_i hDigit
      rw [Bool.not_eq_true] at hDigit
      split
      · rename_i kind chars rest hSymbol
        refine .token
          (hRest.trans (symbol?_append hSymbol).1.symm)
          (isLongestMatch_symbol hDigit hSymbol) ?_
        intro hNumber
        rw [isNumber_of_symbol? hSymbol] at hNumber
        cases hNumber
      · rename_i hSymbol
        rcases l with ⟨rest, position⟩
        simp only at hRest
        subst hRest
        exact .stuck rfl fun kind chars hMatches =>
          not_prefix_of_symbol?_eq_none hDigit hSymbol
            hMatches

end Lexer

end Calculator
