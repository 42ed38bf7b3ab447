import Calculator.Proofs.Reading.Sentences
import Calculator.Proofs.Trees.Fold

/-
  This file shows that the text that a tree is written as is
  read as the same tree. The brackets that are written take
  the place of the grouping, so the written tree is nested as
  deeply as its brackets and signs, and needs as much room.

  Key definitions include:
    * `Expr.unplaced`
    * `Expr.writtenDepth`
    * `Expr.writtenCalls`
    * `Tree.IsReadable`
    * `ones`
-/

namespace Calculator

open Grammar

------------------------------------------------------------
-- Trees
------------------------------------------------------------

namespace Expr

variable {α : Type}

/- A tree with all tokens moved to one place. -/
def unplaced : Expr α → Expr α
| .integer token value => .integer (token.movedTo 0) value
| .float token value => .float (token.movedTo 0) value
| .unary operator operand =>
    .unary (operator.movedTo 0) operand.unplaced
| .binary left operator right =>
    .binary left.unplaced (operator.movedTo 0)
      right.unplaced
| .foreign value => .foreign value

/- How deeply a tree is nested when it is written. -/
def writtenDepth : Expr α → Nat
| .integer _ _ => 1
| .float _ _ => 1
| .unary _ operand => 2 + operand.writtenDepth
| .binary left _ right =>
    1 + max left.writtenDepth right.writtenDepth
| .foreign _ => 1

/-
  How many calls of rules are needed at a time to read a tree
  as it is written.
-/
def writtenCalls : Expr α → Nat
| .integer _ _ => 3
| .float _ _ => 3
| .unary _ operand => 4 + operand.writtenCalls
| .binary left _ right =>
    3 + max left.writtenCalls right.writtenCalls
| .foreign _ => 3

/- They are three for each level of nesting at most. -/
theorem writtenCalls_le (tree : Expr α) :
    tree.writtenCalls ≤ 3 * tree.writtenDepth := by
  induction tree with
  | integer token value => exact Nat.le_refl 3
  | float token value => exact Nat.le_refl 3
  | unary operator operand ih =>
      simp only [writtenCalls, writtenDepth]
      omega
  | binary left operator right ihLeft ihRight =>
      simp only [writtenCalls, writtenDepth]
      omega
  | foreign value => exact Nat.le_refl 3

/- Every tree is a level of nesting. -/
theorem one_le_writtenDepth (tree : Expr α) :
    1 ≤ tree.writtenDepth := by
  cases tree <;> simp only [writtenDepth] <;> omega

/- And needs the three calls of a number. -/
theorem three_le_writtenCalls (tree : Expr α) :
    3 ≤ tree.writtenCalls := by
  cases tree <;> simp only [writtenCalls] <;> omega

/- What a tree needs to be read as it is written. -/
def writtenNeed (tree : Expr α) : Need :=
  ⟨tree.writtenDepth, tree.writtenCalls⟩

end Expr

namespace Tree

/-
  The trees that a text can be read as: each token is spelled
  as a token of its place in the tree.
-/
inductive IsReadable : Tree → Prop where
| number
    (token : Token)
    (hSpelled : token.IsSpelled)
    (hNumber : token.kind.isNumber = true) :
    IsReadable (Tree.ofNumber token)
| signed
    {operand : Tree}
    (sign : Token)
    (hSpelled : sign.IsSpelled)
    (hSign : sign.kind.isSign = true)
    (hOperand : IsReadable operand) :
    IsReadable (.unary sign operand)
| addend
    {left right : Tree}
    (operator : Token)
    (hSpelled : operator.IsSpelled)
    (hOperator : operator.kind.isSign = true)
    (hLeft : IsReadable left)
    (hRight : IsReadable right) :
    IsReadable (.binary left operator right)
| factor
    {left right : Tree}
    (operator : Token)
    (hSpelled : operator.IsSpelled)
    (hOperator : operator.kind.isFactorOperator = true)
    (hLeft : IsReadable left)
    (hRight : IsReadable right) :
    IsReadable (.binary left operator right)

/- A number is made of a token in one of two ways. -/
theorem ofNumber_cases (token : Token) :
    (∃ value, ofNumber token = .integer token value) ∨
      ∃ value, ofNumber token = .float token value := by
  unfold ofNumber ofNumber?
  cases Numeral.ofText? token.text with
  | none => exact Or.inr ⟨_, rfl⟩
  | some numeral =>
      simp only [Option.map_some, Option.getD_some]
      split
      · exact Or.inl ⟨_, rfl⟩
      · exact Or.inr ⟨_, rfl⟩

/- A number is written as its token. -/
@[simp]
theorem written_ofNumber (token : Token) :
    (ofNumber token).written = token.text := by
  rcases ofNumber_cases token with ⟨v, hv⟩ | ⟨v, hv⟩
  · rw [hv, written_integer]
  · rw [hv, written_float]

/- A number is not nested. -/
@[simp]
theorem writtenDepth_ofNumber (token : Token) :
    (ofNumber token).writtenDepth = 1 := by
  rcases ofNumber_cases token with ⟨v, hv⟩ | ⟨v, hv⟩ <;>
    rw [hv, Expr.writtenDepth]

/- It needs the calls of an operand in an expression. -/
@[simp]
theorem writtenCalls_ofNumber (token : Token) :
    (ofNumber token).writtenCalls = 3 := by
  rcases ofNumber_cases token with ⟨v, hv⟩ | ⟨v, hv⟩ <;>
    rw [hv, Expr.writtenCalls]

/- The node of a number that is moved is the node moved. -/
theorem ofNumber_movedTo (token : Token) :
    ofNumber (token.movedTo 0) =
      (ofNumber token).unplaced := by
  unfold ofNumber ofNumber? Token.movedTo
  cases Numeral.ofText? token.text with
  | none => rfl
  | some numeral =>
      simp only [Option.map_some, Option.getD_some]
      split <;> rfl

/- A number has the same value at another place. -/
theorem unplaced_ofNumber_movedTo
    (token : Token)
    (position : Nat) :
    (ofNumber (token.movedTo position)).unplaced =
      (ofNumber token).unplaced := by
  rw [← ofNumber_movedTo, ← ofNumber_movedTo]
  rfl

end Tree

namespace Grammar

/-
  The meaning of a part is readable: its tree is, or that of
  a run is if the tree before it is.
-/
def Part.IsReadable :
    (part : Part) → part.Meaning → Prop
| .expr, tree => tree.IsReadable
| .addends, run =>
    ∀ left : Tree, left.IsReadable → (run left).IsReadable
| .term, tree => tree.IsReadable
| .factors, run =>
    ∀ left : Tree, left.IsReadable → (run left).IsReadable
| .operand, tree => tree.IsReadable

/- The tree of spelled tokens is readable. -/
theorem Derivation.isReadable
    {part : Part}
    (d : Derivation part)
    (hSpelled : ∀ t ∈ d.tokens, t.IsSpelled) :
    part.IsReadable d.tree := by
  induction d with
  | number token hNumber =>
      exact .number token (hSpelled token (by simp [tokens]))
        hNumber
  | signed sign hSign operand ih =>
      simp only [tokens, List.forall_mem_cons] at hSpelled
      exact .signed sign hSpelled.1 hSign (ih hSpelled.2)
  | bracketed opening hOpening inner closing hClosing ih =>
      simp only [tokens, List.forall_mem_cons,
        List.forall_mem_append] at hSpelled
      exact ih hSpelled.2.1
  | term first rest ihFirst ihRest =>
      simp only [tokens, List.forall_mem_append] at hSpelled
      exact ihRest hSpelled.2 _ (ihFirst hSpelled.1)
  | noFactor =>
      intro left hLeft
      exact hLeft
  | factor operator hOperator right rest ihRight ihRest =>
      simp only [tokens, List.forall_mem_cons,
        List.forall_mem_append] at hSpelled
      rcases hSpelled with ⟨hOwn, hRight, hRest⟩
      intro left hLeft
      exact ihRest hRest _
        (.factor operator hOwn hOperator hLeft
          (ihRight hRight))
  | expr first rest ihFirst ihRest =>
      simp only [tokens, List.forall_mem_append] at hSpelled
      exact ihRest hSpelled.2 _ (ihFirst hSpelled.1)
  | noAddend =>
      intro left hLeft
      exact hLeft
  | addend operator hOperator right rest ihRight ihRest =>
      simp only [tokens, List.forall_mem_cons,
        List.forall_mem_append] at hSpelled
      rcases hSpelled with ⟨hOwn, hRight, hRest⟩
      intro left hLeft
      exact ihRest hRest _
        (.addend operator hOwn hOperator hLeft
          (ihRight hRight))

end Grammar

------------------------------------------------------------
-- The Tokens of Written Trees
------------------------------------------------------------

namespace Lexer

/- An operator between spaces is drawn. -/
theorem draws_spaced
    {operator : Token}
    (hSpelled : operator.IsSpelled)
    (after : List Char)
    (position : Nat) :
    ∃ place position',
      (Lexer.mk
          (' ' :: operator.text.toList ++ ' ' :: after)
          position).draws =
        (Lexer.mk after position').draws.cons
          (operator.movedTo place) := by
  refine ⟨position + 1,
    position + 1 + operator.text.toList.length + 1, ?_⟩
  rw [List.cons_append, draws_gap rfl,
    draws_of_isSpelled hSpelled (isSeam_space after _),
    draws_gap rfl]

end Lexer

namespace Tree

open Lexer (IsSeam)

/- An operand that a tree is written as. -/
structure IsWrittenAs
    (tree : Tree)
    (d : Derivation .operand) : Prop where
  unplaced : d.tree.unplaced = tree.unplaced
  depth : d.depth = tree.writtenDepth
  calls : d.calls + 2 = tree.writtenCalls

/-
  The text of a tree is drawn as the tokens of an operand
  with the same tree, at any place before a seam.
-/
def IsDrawn (tree : Tree) : Prop :=
  ∀ after position,
    IsSeam after →
      ∃ (d : Derivation .operand) (position' : Nat),
        (Lexer.mk (tree.written.toList ++ after)
            position).draws =
          (Lexer.mk after position').draws.prepend
            d.tokens ∧
          tree.IsWrittenAs d

/- A number is drawn as its token. -/
theorem isDrawn_number
    {token : Token}
    (hSpelled : token.IsSpelled)
    (hNumber : token.kind.isNumber = true) :
    IsDrawn (ofNumber token) := by
  intro after position hSeam
  refine ⟨.number (token.movedTo position) hNumber,
    position + token.text.toList.length, ?_, ?_⟩
  · rw [written_ofNumber]
    exact Lexer.draws_of_isSpelled hSpelled (hSeam _)
      position
  · constructor
    · exact unplaced_ofNumber_movedTo token position
    · exact (writtenDepth_ofNumber token).symm
    · exact (writtenCalls_ofNumber token).symm

/- A sign and its operand are drawn in brackets. -/
theorem isDrawn_unary
    {sign : Token}
    {operand : Tree}
    (hSpelled : sign.IsSpelled)
    (hSign : sign.kind.isSign = true)
    (hOperand : operand.IsDrawn) :
    IsDrawn (.unary sign operand) := by
  intro after position hSeam
  rcases hOperand (')' :: after)
      (position + 1 + sign.text.toList.length)
      (Lexer.isSeam_closing after) with
    ⟨d, position', hDraws, hWritten⟩
  let signed : Derivation .operand :=
    .signed (sign.movedTo (position + 1)) hSign d
  let bracketed : Derivation .operand :=
    .bracketed ⟨.bracketOpen, "(", position⟩ rfl
      (.expr (.term signed .noFactor) .noAddend)
      ⟨.bracketClose, ")", position'⟩ rfl
  refine ⟨bracketed, position' + 1, ?_, ?_⟩
  · have hText :
        (written (.unary sign operand)).toList ++ after =
          '(' :: (sign.text.toList ++
            (operand.written.toList ++ ')' :: after)) := by
      simp [written_unary]
    rw [hText, Lexer.draws_opening,
      Lexer.draws_of_isSpelled hSpelled
        (Lexer.stopsAt_of_isSign hSign _),
      hDraws, Lexer.draws_closing]
    simp [bracketed, signed, Derivation.tokens,
      Draws.cons, Draws.prepend]
  · constructor
    · simp only [bracketed, signed, Derivation.tree,
        Expr.unplaced, hWritten.unplaced]
      rfl
    · simp only [bracketed, signed, Derivation.depth,
        Expr.writtenDepth, hWritten.depth]
      omega
    · simp only [bracketed, signed, Derivation.calls,
        Expr.writtenCalls, ← hWritten.calls]
      omega

/-
  An operation is drawn in brackets, if its operator joins
  its operands to an expression.
-/
theorem isDrawn_binary
    {left right : Tree}
    {operator : Token}
    (hSpelled : operator.IsSpelled)
    (hJoins :
      ∀ (x y : Derivation .operand) (place : Nat),
        ∃ e : Derivation .expr,
          e.tokens =
              x.tokens ++
                operator.movedTo place :: y.tokens ∧
            e.tree =
              .binary x.tree (operator.movedTo place)
                y.tree ∧
            e.depth = max x.depth y.depth ∧
            e.calls = 2 + max x.calls y.calls)
    (hLeft : left.IsDrawn)
    (hRight : right.IsDrawn) :
    IsDrawn (.binary left operator right) := by
  intro after position hSeam
  have hText :
      (written (.binary left operator right)).toList ++
          after =
        '(' :: (left.written.toList ++
          (' ' :: operator.text.toList ++
            ' ' :: (right.written.toList ++
              ')' :: after))) := by
    simp [written_binary]
  rcases hLeft
      (' ' :: operator.text.toList ++
        ' ' :: (right.written.toList ++ ')' :: after))
      (position + 1) (Lexer.isSeam_space _) with
    ⟨x, positionX, hDrawsX, hWrittenX⟩
  rcases Lexer.draws_spaced hSpelled
      (right.written.toList ++ ')' :: after) positionX with
    ⟨place, positionO, hDrawsO⟩
  rcases hRight (')' :: after) positionO
      (Lexer.isSeam_closing after) with
    ⟨y, positionY, hDrawsY, hWrittenY⟩
  rcases hJoins x y place with
    ⟨e, hTokens, hTree, hDepth, hCalls⟩
  refine ⟨.bracketed ⟨.bracketOpen, "(", position⟩ rfl e
    ⟨.bracketClose, ")", positionY⟩ rfl,
    positionY + 1, ?_, ?_⟩
  · rw [hText, Lexer.draws_opening, hDrawsX, hDrawsO,
      hDrawsY, Lexer.draws_closing]
    simp [Derivation.tokens, hTokens, Draws.cons,
      Draws.prepend]
  · constructor
    · simp only [Derivation.tree, hTree, Expr.unplaced,
        hWrittenX.unplaced, hWrittenY.unplaced]
      rfl
    · simp only [Derivation.depth, hDepth, hWrittenX.depth,
        hWrittenY.depth, Expr.writtenDepth]
    · simp only [Derivation.calls, hCalls,
        Expr.writtenCalls, ← hWrittenX.calls,
        ← hWrittenY.calls]
      omega

/- Every readable tree is drawn. -/
theorem IsReadable.isDrawn
    {tree : Tree}
    (hReadable : tree.IsReadable) :
    tree.IsDrawn := by
  induction hReadable with
  | number token hSpelled hNumber =>
      exact isDrawn_number hSpelled hNumber
  | signed sign hSpelled hSign hOperand ih =>
      exact isDrawn_unary hSpelled hSign ih
  | addend operator hSpelled hOperator hLeft hRight
      ihLeft ihRight =>
      apply isDrawn_binary hSpelled _ ihLeft ihRight
      intro x y place
      refine ⟨.expr (.term x .noFactor)
        (.addend (operator.movedTo place) hOperator
          (.term y .noFactor) .noAddend), ?_, rfl, ?_, ?_⟩
      · simp [Derivation.tokens]
      · simp [Derivation.depth]
      · simp only [Derivation.calls]
        omega
  | factor operator hSpelled hOperator hLeft hRight
      ihLeft ihRight =>
      apply isDrawn_binary hSpelled _ ihLeft ihRight
      intro x y place
      refine ⟨.expr
        (.term x
          (.factor (operator.movedTo place) hOperator y
            .noFactor))
        .noAddend, ?_, rfl, ?_, ?_⟩
      · simp [Derivation.tokens]
      · simp [Derivation.depth]
      · simp only [Derivation.calls]
        omega

end Tree

------------------------------------------------------------
-- Reading What Is Written
------------------------------------------------------------

/- A tree that is read is readable. -/
theorem isReadable_of_parse
    {text : String}
    {bounds : Bounds}
    {tree : Tree}
    (hParse : parse text bounds = .ok tree) :
    tree.IsReadable := by
  rcases exists_derivation_of_parse hParse with
    ⟨d, eof, hDraws, _, _, rfl⟩
  apply d.isReadable
  have hSpelled :=
    Lexer.isSpelled_of_mem_draws (Lexer.start text)
  rwa [hDraws] at hSpelled

/-
  A readable tree is read from the text that it is written
  as, but for the places of its tokens, if the bounds allow
  what it needs, and nested too deeply if they do not.
-/
theorem Tree.IsReadable.parse_written_cases
    {tree : Tree}
    (hReadable : tree.IsReadable)
    (bounds : Bounds) :
    if bounds.Allow tree.writtenNeed then
      ∃ tree',
        parse tree.written bounds = .ok tree' ∧
          tree'.unplaced = tree.unplaced
    else
      ∃ e,
        parse tree.written bounds = .error e ∧
          e.fault.IsOfDepth := by
  rcases hReadable.isDrawn [] 0 Lexer.isSeam_nil with
    ⟨d, position, hDraws, hWritten⟩
  have hStart :
      (Lexer.start tree.written).draws =
        ⟨d.tokens, .ok ⟨.eof, "", position⟩⟩ := by
    rw [List.append_nil, Lexer.draws_nil] at hDraws
    rw [Lexer.start, hDraws]
    simp [Draws.prepend]
  have hNeed :
      (⟨d.depth, d.calls + 2⟩ : Need) = tree.writtenNeed :=
    Need.ext hWritten.depth hWritten.calls
  have hRead := parse_of_operand hStart rfl bounds
  rw [hNeed] at hRead
  by_cases hAllow : bounds.Allow tree.writtenNeed
  · rw [if_pos hAllow] at hRead ⊢
    exact ⟨d.tree, hRead, hWritten.unplaced⟩
  · rw [if_neg hAllow] at hRead ⊢
    rcases hRead with ⟨t, _, fault, hFault, hError⟩
    exact ⟨_, hError, hFault⟩

/-
  A tree that is read from a text is read again from the text
  that it is written as, but for the places of its tokens, if
  the limit is at least the depth of the written tree and the
  stack has room for the calls. Otherwise, the written tree
  is nested too deeply. There is room for as deep a tree as
  the limit allows if there is for three calls a level.
-/
theorem parse_written
    {text : String}
    {bounds : Bounds}
    {tree : Tree}
    (hParse : parse text bounds = .ok tree)
    (bounds' : Bounds) :
    ((tree.writtenDepth : Int) ≤ bounds'.limit →
      tree.writtenCalls ≤ bounds'.stack.room →
      ∃ tree',
        parse tree.written bounds' = .ok tree' ∧
          tree'.unplaced = tree.unplaced) ∧
      (bounds'.limit < tree.writtenDepth ∨
          bounds'.stack.room < tree.writtenCalls →
        ∃ e,
          parse tree.written bounds' = .error e ∧
            e.fault.message =
              "Expression is nested too deeply") ∧
      tree.writtenCalls ≤ 3 * tree.writtenDepth := by
  have hReadable := isReadable_of_parse hParse
  have hCases := hReadable.parse_written_cases bounds'
  refine ⟨?_, ?_, tree.writtenCalls_le⟩
  · intro hLimit hRoom
    rwa [if_pos ⟨hLimit, hRoom⟩] at hCases
  · intro hLess
    have hAllow : ¬ bounds'.Allow tree.writtenNeed := by
      rintro ⟨hLimit, hRoom⟩
      rcases hLess with hLess | hLess
      · exact Int.not_le.mpr hLess hLimit
      · exact Nat.not_le.mpr hLess hRoom
    rw [if_neg hAllow] at hCases
    rcases hCases with ⟨e, hError, hFault⟩
    exact ⟨e, hError,
      ParseFault.isOfDepth_iff_message.mp hFault⟩

/- A difference of three, the last with a sign. -/
def Tree.chain : Tree :=
  .binary
    (.binary
      (.integer ⟨.integer, "1", 0⟩ 1)
      ⟨.minus, "-", 2⟩
      (.integer ⟨.integer, "2", 4⟩ 2))
    ⟨.minus, "-", 6⟩
    (.unary ⟨.minus, "-", 8⟩
      (.integer ⟨.integer, "3", 9⟩ 3))

/- A chain is nested more deeply when it is written. -/
theorem parse_written_chain :
    parse "1 - 2 - -3" { limit := 2 } = .ok Tree.chain ∧
      (∃ tree,
        parse Tree.chain.written { limit := 4 } = .ok tree ∧
          tree.unplaced = Tree.chain.unplaced) ∧
      ∃ e,
        parse Tree.chain.written { limit := 3 } =
            .error e ∧
          e.fault.message =
            "Expression is nested too deeply" := by
  have hParse :
      parse "1 - 2 - -3" { limit := 2 } =
        .ok Tree.chain := by
    cbv
  have hDeep := (parse_written hParse { limit := 3 }).2.1
  refine ⟨hParse, ?_, hDeep (Or.inl (by decide))⟩
  exact (parse_written hParse { limit := 4 }).1 (by decide)
    (by decide)

------------------------------------------------------------
-- Sums of Ones
------------------------------------------------------------

/- One more one, as often as told. -/
def moreOnes : Nat → String
| 0 => ""
| n + 1 => " + 1" ++ moreOnes n

/- The number one and as many ones more. -/
def ones (n : Nat) : String :=
  "1" ++ moreOnes n

/- More ones stand at a seam. -/
theorem isSeam_moreOnes (n : Nat) :
    Lexer.IsSeam (moreOnes n).toList := by
  cases n with
  | zero => exact Lexer.isSeam_nil
  | succ n =>
      rw [moreOnes, String.toList_append]
      exact Lexer.isSeam_space _

/- One more one is drawn as an operator and a number. -/
theorem draws_moreOnes (n : Nat) (position : Nat) :
    ∃ place position',
      (Lexer.mk (moreOnes (n + 1)).toList position).draws =
        (Lexer.mk (moreOnes n).toList
            (position' + 1)).draws.prepend
          [⟨.plus, "+", place⟩, .one position'] := by
  have hSpelled : Token.IsSpelled ⟨.plus, "+", 0⟩ :=
    .symbol ['+'] rfl rfl
  rcases Lexer.draws_spaced hSpelled
      ('1' :: (moreOnes n).toList) position with
    ⟨place, position', hOperator⟩
  refine ⟨place, position', ?_⟩
  have hText :
      (moreOnes (n + 1)).toList =
        ' ' :: "+".toList ++
          ' ' :: '1' :: (moreOnes n).toList := by
    simp [moreOnes]
  rw [hText, hOperator,
    Lexer.draws_one (isSeam_moreOnes n _)]
  rfl

/-
  More ones are a run of addends that nests nothing. The tree
  that it makes is written with a pair of brackets for each
  of them.
-/
theorem exists_addends_of_moreOnes
    (n : Nat)
    (position : Nat) :
    ∃ (d : Derivation .addends) (position' : Nat),
      (Lexer.mk (moreOnes n).toList position).draws =
          ⟨d.tokens, .ok ⟨.eof, "", position'⟩⟩ ∧
        d.depth ≤ 1 ∧
        d.calls ≤ 2 ∧
        ∀ left : Tree,
          (d.tree left).writtenDepth =
              left.writtenDepth + n ∧
            (d.tree left).writtenCalls =
              left.writtenCalls + 3 * n := by
  induction n generalizing position with
  | zero =>
      refine ⟨.noAddend, position, Lexer.draws_nil position,
        Nat.zero_le _, Nat.zero_le _, ?_⟩
      intro left
      exact ⟨rfl, rfl⟩
  | succ n ih =>
      rcases draws_moreOnes n position with
        ⟨place, positionOne, hDrawsOne⟩
      rcases ih (positionOne + 1) with
        ⟨d, position', hDraws, hDepth, hCalls, hTree⟩
      refine ⟨.addend ⟨.plus, "+", place⟩ rfl
        (.term (.number (.one positionOne) rfl) .noFactor) d,
        position', ?_, ?_, ?_, ?_⟩
      · rw [hDrawsOne, hDraws]
        rfl
      · simp only [Derivation.depth]
        omega
      · simp only [Derivation.calls]
        omega
      · intro left
        have hDepthLeft := left.one_le_writtenDepth
        have hCallsLeft := left.three_le_writtenCalls
        have hNext := hTree
          (.binary left ⟨.plus, "+", place⟩
            (Tree.ofNumber (.one positionOne)))
        simp only [Expr.writtenDepth, Expr.writtenCalls,
          Tree.writtenDepth_ofNumber,
          Tree.writtenCalls_ofNumber] at hNext
        simp only [Derivation.tree]
        omega

/-
  A sum of ones is read at any limit from one on, and written
  with a pair of brackets for each addition.
-/
theorem exists_tree_of_ones
    (n : Nat)
    {bounds : Bounds}
    (hLimit : 1 ≤ bounds.limit) :
    ∃ tree,
      parse (ones n) bounds = .ok tree ∧
        tree.writtenDepth = n + 1 ∧
        tree.writtenCalls = 3 * n + 3 := by
  rcases exists_addends_of_moreOnes n 1 with
    ⟨d, position, hDraws, hDepth, hCalls, hTree⟩
  let sum : Derivation .expr :=
    .expr (.term (.number (.one 0) rfl) .noFactor) d
  have hStart :
      (Lexer.start (ones n)).draws =
        ⟨sum.tokens, .ok ⟨.eof, "", position⟩⟩ := by
    have hText :
        (ones n).toList = '1' :: (moreOnes n).toList := by
      simp [ones]
    rw [Lexer.start, hText,
      Lexer.draws_one (isSeam_moreOnes n _), hDraws]
    rfl
  have hAllow : bounds.Allow sum.size := by
    apply (bounds.allow_number hLimit).mono
    · simp only [sum, Derivation.size, Derivation.depth]
      omega
    · simp only [sum, Derivation.size, Derivation.calls]
      omega
  have hGrown := hTree (Tree.ofNumber (.one 0))
  rw [Tree.writtenDepth_ofNumber,
    Tree.writtenCalls_ofNumber] at hGrown
  have hRead := parse_of_draws hStart rfl bounds
  rw [if_pos hAllow] at hRead
  refine ⟨sum.tree, hRead, ?_, ?_⟩
  · exact hGrown.1.trans (Nat.add_comm 1 n)
  · exact hGrown.2.trans (Nat.add_comm 3 (3 * n))

/-
  So the limit alone does not decide whether a written tree
  is read again: a sum of ones takes next to no room itself,
  but more than the usual stack has once it is written.
-/
theorem written_sum_unread :
    ¬ ∀ (text : String) (limit : Int) (tree : Tree),
      parse text { limit := limit } = .ok tree →
        ∀ limit' : Int,
          (tree.writtenDepth : Int) ≤ limit' →
            ∃ tree',
              parse tree.written { limit := limit' } =
                  .ok tree' ∧
                tree'.unplaced = tree.unplaced := by
  intro hAll
  have hLimit :
      1 ≤ ({ limit := 100000 } : Bounds).limit := by
    decide
  rcases exists_tree_of_ones 3000 hLimit with
    ⟨tree, hParse, hDepth, hCalls⟩
  rcases hAll (ones 3000) 100000 tree hParse 100000
      (by omega) with
    ⟨tree', hAgain, _⟩
  have hAllow :
      ¬ ({ limit := 100000 } : Bounds).Allow
        tree.writtenNeed := by
    rintro ⟨_, hRoom⟩
    simp only [Expr.writtenNeed, hCalls] at hRoom
    exact absurd hRoom (by decide)
  have hCases :=
    (isReadable_of_parse hParse).parse_written_cases
      { limit := 100000 }
  rw [if_neg hAllow, hAgain] at hCases
  rcases hCases with ⟨e, hError, _⟩
  cases hError

end Calculator
