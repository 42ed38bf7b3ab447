import Calculator.Proofs.Grammar.TreeTokens
import Calculator.Proofs.Lexing.Seams
import Calculator.Proofs.Reading.Runs
import Calculator.Proofs.Reading.Simulation

/-
  This file shows which texts are read: those whose tokens
  are a sentence that the bounds of the nesting allow. The
  tree is the one of the sentence.

  Key definitions include:
    * `nested`
-/

namespace Calculator

open Grammar

------------------------------------------------------------
-- Texts of Sentences
------------------------------------------------------------

variable {text : String}

/-
  A text whose tokens are a sentence is read as its tree, if
  the bounds allow what it needs, and nested too deeply if
  they do not.
-/
theorem parse_of_draws
    {d : Derivation .expr}
    {eof : Token}
    (hDraws :
      (Lexer.start text).draws = ⟨d.tokens, .ok eof⟩)
    (hKind : eof.kind = .eof)
    (bounds : Bounds) :
    if bounds.Allow d.size then
      parse text bounds = .ok d.tree
    else
      ∃ t ∈ d.tokens,
        ∃ fault : ParseFault,
          fault.IsOfDepth ∧
            parse text bounds =
              .error ⟨fault, t.position⟩ := by
  rw [parse_eq_outcome, hDraws]
  exact d.outcome_tokens bounds hKind

/- An operand alone is a sentence. -/
def Grammar.Derivation.ofOperand
    (d : Derivation .operand) : Derivation .expr :=
  .expr (.term d .noFactor) .noAddend

/- It has the tokens of the operand. -/
@[simp]
theorem Grammar.Derivation.tokens_ofOperand
    (d : Derivation .operand) :
    d.ofOperand.tokens = d.tokens := by
  simp [ofOperand, tokens]

/- And it is as deep, after the calls of two more rules. -/
@[simp]
theorem Grammar.Derivation.size_ofOperand
    (d : Derivation .operand) :
    d.ofOperand.size = ⟨d.depth, d.calls + 2⟩ := by
  ext <;> simp only [size, ofOperand, depth, calls] <;> omega

/-
  A text whose tokens are an operand is read as its tree, if
  the bounds allow what it needs, and nested too deeply if
  they do not.
-/
theorem parse_of_operand
    {d : Derivation .operand}
    {eof : Token}
    (hDraws :
      (Lexer.start text).draws = ⟨d.tokens, .ok eof⟩)
    (hKind : eof.kind = .eof)
    (bounds : Bounds) :
    if bounds.Allow ⟨d.depth, d.calls + 2⟩ then
      parse text bounds = .ok d.tree
    else
      ∃ t ∈ d.tokens,
        ∃ fault : ParseFault,
          fault.IsOfDepth ∧
            parse text bounds =
              .error ⟨fault, t.position⟩ := by
  rw [← d.tokens_ofOperand] at hDraws
  have hRead := parse_of_draws hDraws hKind bounds
  rw [d.size_ofOperand, d.tokens_ofOperand] at hRead
  exact hRead

/- A text that is read has the tokens of a sentence. -/
theorem exists_derivation_of_parse
    {bounds : Bounds}
    {tree : Tree}
    (hParse : parse text bounds = .ok tree) :
    ∃ (d : Derivation .expr) (eof : Token),
      (Lexer.start text).draws = ⟨d.tokens, .ok eof⟩ ∧
        eof.kind = .eof ∧
        bounds.Allow d.size ∧
        d.tree = tree := by
  have hOutcome := hParse
  rw [parse_eq_outcome] at hOutcome
  rcases Reading.exists_takes bounds
      (fun eof hEnding =>
        Lexer.kind_eq_eof_of_ending hEnding)
      (Lexer.start text).draws.tokens Reading.initial with
    ⟨k, s, _, hTakes, hHalts⟩
  have hHas := hTakes.has [] Reading.initial_has
  rw [hOutcome] at hHalts
  cases hHalts with
  | stop eof hToken hDeep hNext hStop =>
      rcases hHas.stop_ok hStop with ⟨hKind, d, hTokens, hTree⟩
      have hDraws := Draws.eq_of_token?_eof
        (fun t ht => Lexer.kind_ne_eof_of_mem_draws ht)
        hToken hKind
      rw [List.nil_append] at hTokens
      simp only [← hTokens] at hDraws
      have hRead := parse_of_draws hDraws hKind bounds
      refine ⟨d, eof, hDraws, hKind, ?_, hTree⟩
      by_cases hAllow : bounds.Allow d.size
      · exact hAllow
      · rw [if_neg hAllow, hParse] at hRead
        rcases hRead with ⟨t, _, _, _, hError⟩
        cases hError

------------------------------------------------------------
-- The Language
------------------------------------------------------------

/-
  A text is read as a tree exactly if its tokens before the
  end are a sentence, nested no deeper than the limit and
  read by no more calls than the stack has room for, whose
  tree it is. There is room for three calls for each level
  of nesting on any stack that suffices. A sentence has one
  derivation, so one tree. Each number of the text is a node
  of its own, and the tree holds the tokens of the text from
  left to right, all but the brackets and the end token.
-/
theorem parse_reads_sentences
    (text : String)
    (bounds : Bounds) :
    (∀ tree,
      parse text bounds = .ok tree ↔
        ∃ (d : Derivation .expr) (eof : Token),
          tokenize text = .ok (d.tokens ++ [eof]) ∧
            eof.kind = .eof ∧
            (d.depth : Int) ≤ bounds.limit ∧
            d.calls ≤ bounds.stack.room ∧
            d.tree = tree) ∧
      (∀ d : Derivation .expr, d.calls ≤ 3 * d.depth) ∧
      (∀ d d' : Derivation .expr,
        d.tokens = d'.tokens → d = d') ∧
      (∀ tokens eof,
        tokenize text = .ok (tokens ++ [eof]) →
          ∀ t ∈ tokens,
            t.kind.isNumber = true →
              Tree.ofNumber? t = some (Tree.ofNumber t)) ∧
      (∀ tree tokens eof,
        parse text bounds = .ok tree →
          tokenize text = .ok (tokens ++ [eof]) →
            tree.tokens = Token.withoutBrackets tokens) := by
  refine ⟨?_, Derivation.calls_le, ?_, ?_, ?_⟩
  · intro tree
    constructor
    · intro hParse
      rcases exists_derivation_of_parse hParse with
        ⟨d, eof, hDraws, hKind, hAllow, hTree⟩
      exact ⟨d, eof, tokenize_eq_ok.mpr hDraws, hKind,
        hAllow.depth, hAllow.calls, hTree⟩
    · intro hSentence
      rcases hSentence with
        ⟨d, eof, hTokens, hKind, hDepth, hCalls, rfl⟩
      have hAllow : bounds.Allow d.size := ⟨hDepth, hCalls⟩
      have hRead := parse_of_draws
        (tokenize_eq_ok.mp hTokens) hKind bounds
      rwa [if_pos hAllow] at hRead
  · intro d d' hTokens
    exact Derivation.eq_of_tokens_eq hTokens
  · intro tokens eof hTokens t ht hNumber
    have hDraws := tokenize_eq_ok.mp hTokens
    have hSpelled :=
      Lexer.isSpelled_of_mem_draws (Lexer.start text) t
    rw [hDraws] at hSpelled
    exact Tree.ofNumber?_of_isSpelled (hSpelled ht) hNumber
  · intro tree tokens eof hParse hTokens
    rcases exists_derivation_of_parse hParse with
      ⟨d, eof', hDraws, _, _, rfl⟩
    rw [tokenize_eq_ok.mp hTokens] at hDraws
    cases hDraws
    exact d.keeps_tokens

------------------------------------------------------------
-- Numbers in Brackets
------------------------------------------------------------

/- The number one inside pairs of brackets. -/
def nested : Nat → String
| 0 => "1"
| n + 1 => "(" ++ nested n ++ ")"

/- The token of the number one. -/
def Token.one (position : Nat) : Token :=
  ⟨.integer, "1", position⟩

/- The number one is spelled as a numeral. -/
theorem Token.isSpelled_one (position : Nat) :
    (Token.one position).IsSpelled :=
  .numeral ⟨['1'], none, none⟩
    ⟨by simp [Text.AllDigits, Text.isDigit], nofun, nofun,
      nofun⟩
    rfl rfl

/- The number one is drawn as its token. -/
theorem Lexer.draws_one
    {after : List Char}
    (hStop : Token.Kind.integer.StopsAt after)
    (position : Nat) :
    (Lexer.mk ('1' :: after) position).draws =
      (Lexer.mk after (position + 1)).draws.cons
        (.one position) :=
  draws_of_isSpelled (Token.isSpelled_one 0) hStop position

/-
  A number in brackets is drawn as an operand, a level deeper
  and read by three more calls for each pair.
-/
theorem exists_operand_of_nested
    (n : Nat)
    {after : List Char}
    (hSeam : Lexer.IsSeam after)
    (position : Nat) :
    ∃ (d : Derivation .operand) (place position' : Nat),
      (Lexer.mk ((nested n).toList ++ after)
          position).draws =
        (Lexer.mk after position').draws.prepend d.tokens ∧
        d.tokens.length = 2 * n + 1 ∧
        d.depth = n + 1 ∧
        d.calls = 3 * n + 1 ∧
        d.tree = Tree.ofNumber (.one place) := by
  induction n generalizing after position with
  | zero =>
      exact ⟨.number (.one position) rfl, position,
        position + 1, Lexer.draws_one (hSeam _) position, rfl,
        rfl, rfl, rfl⟩
  | succ n ih =>
      rcases ih (Lexer.isSeam_closing after) (position + 1) with
        ⟨d, place, position', hDraws, hLength, hDepth, hCalls,
          hTree⟩
      have hText :
          (nested (n + 1)).toList ++ after =
            '(' :: ((nested n).toList ++ ')' :: after) := by
        simp [nested]
      refine ⟨.bracketed ⟨.bracketOpen, "(", position⟩ rfl
        d.ofOperand ⟨.bracketClose, ")", position'⟩ rfl,
        place, position' + 1, ?_, ?_, ?_, ?_, hTree⟩
      · rw [hText, Lexer.draws_opening, hDraws,
          Lexer.draws_closing]
        simp [Derivation.tokens, Draws.cons, Draws.prepend]
      · simp only [Derivation.tokens, List.length_cons,
          List.length_append, Derivation.tokens_ofOperand,
          hLength, List.length_nil]
        omega
      · simp only [Derivation.depth, Derivation.ofOperand,
          hDepth]
        omega
      · simp only [Derivation.calls, Derivation.ofOperand,
          hCalls]
        omega

/-
  A number in brackets is a sentence of one level more than
  there are pairs, and of three calls for each level.
-/
theorem exists_sentence_of_nested (n : Nat) :
    ∃ (d : Derivation .expr) (eof : Token) (place : Nat),
      (Lexer.start (nested n)).draws = ⟨d.tokens, .ok eof⟩ ∧
        eof.kind = .eof ∧
        d.tokens.length = 2 * n + 1 ∧
        d.depth = n + 1 ∧
        d.calls = 3 * n + 3 ∧
        d.tree = Tree.ofNumber (.one place) := by
  rcases exists_operand_of_nested n Lexer.isSeam_nil 0 with
    ⟨d, place, position, hDraws, hLength, hDepth, hCalls,
      hTree⟩
  rw [List.append_nil, Lexer.draws_nil] at hDraws
  refine ⟨d.ofOperand, ⟨.eof, "", position⟩, place, ?_, rfl,
    ?_, ?_, ?_, hTree⟩
  · rw [Lexer.start, hDraws]
    simp [Draws.prepend]
  · rw [d.tokens_ofOperand, hLength]
  · exact (congrArg Need.depth d.size_ofOperand).trans hDepth
  · have hSize := congrArg Need.calls d.size_ofOperand
    exact hSize.trans (congrArg (· + 2) hCalls)

/-
  More pairs than a stack has room for are too deep for it,
  whatever the limit is.
-/
theorem parse_nested_of_room_lt
    {n : Nat}
    {bounds : Bounds}
    (hRoom : bounds.stack.room < 3 * n + 3) :
    ∃ e,
      parse (nested n) bounds = .error e ∧
        e.fault.IsOfDepth := by
  rcases exists_sentence_of_nested n with
    ⟨d, eof, _, hDraws, hKind, _, _, hCalls, _⟩
  have hRead := parse_of_draws hDraws hKind bounds
  have hAllow : ¬ bounds.Allow d.size := by
    intro hAllow
    have hEnough : d.calls ≤ bounds.stack.room := hAllow.calls
    omega
  rw [if_neg hAllow] at hRead
  rcases hRead with ⟨t, _, fault, hFault, hError⟩
  exact ⟨_, hError, hFault⟩

/-
  So the depth alone does not tell which sentences are read:
  three thousand pairs are too many for the usual stack,
  though not for a limit of a hundred thousand.
-/
theorem nested_sentence_unread :
    ¬ ∀ (text : String) (limit : Int),
      (∃ tree, parse text { limit := limit } = .ok tree) ↔
        ∃ (d : Derivation .expr) (eof : Token),
          tokenize text = .ok (d.tokens ++ [eof]) ∧
            eof.kind = .eof ∧
            (d.depth : Int) ≤ limit := by
  intro hAll
  rcases exists_sentence_of_nested 3000 with
    ⟨d, eof, _, hDraws, hKind, _, hDepth, _⟩
  have hRead := (hAll (nested 3000) 100000).mpr
    ⟨d, eof, tokenize_eq_ok.mpr hDraws, hKind, by omega⟩
  have hRoom :
      ({ limit := 100000 } : Bounds).stack.room <
        3 * 3000 + 3 := by
    decide
  rcases parse_nested_of_room_lt hRoom with ⟨e, hError, _⟩
  rcases hRead with ⟨tree, hTree⟩
  rw [hError] at hTree
  cases hTree

end Calculator
