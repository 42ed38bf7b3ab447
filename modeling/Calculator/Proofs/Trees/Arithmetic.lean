import Calculator.Proofs.Decimal.Nearest
import Calculator.Proofs.Trees.Written

/-
  This file shows that the trees that are read hold nothing
  but arithmetic: numbers without a sign, signs, and the
  seven operators. All of them have a value.

  Key definitions include:
    * `Double.IsUnsigned`
    * `Tree.IsArithmetic`
-/

namespace Calculator

------------------------------------------------------------
-- Numbers
------------------------------------------------------------

/- A value that is a number and has no sign. -/
inductive Double.IsUnsigned : Double → Prop where
| infinite : IsUnsigned (.infinite false)
| finite (m : Magnitude) : IsUnsigned (.finite false m)

/- A quotient without a sign has none when it is rounded. -/
theorem Double.isUnsigned_ofRatio (num den : Nat) :
    (ofRatio false num den).IsUnsigned := by
  unfold ofRatio
  split
  · exact .finite _
  · exact .infinite

/- The number nearest to a decimal has no sign. -/
theorem Decimal.isUnsigned_toDouble (d : Decimal) :
    d.toDouble.IsUnsigned := by
  rw [toDouble_eq_ofRatio]
  exact Double.isUnsigned_ofRatio _ _

------------------------------------------------------------
-- Arithmetic Trees
------------------------------------------------------------

namespace Tree

/-
  The trees of arithmetic: numbers that are not negative,
  made of number tokens, with plus or minus before a tree and
  one of the seven operators between two of them.
-/
inductive IsArithmetic : Tree → Prop where
| integer
    (token : Token)
    (value : Int)
    (hKind : token.kind ∈ [.integer, .float])
    (hValue : 0 ≤ value) :
    IsArithmetic (.integer token value)
| float
    (token : Token)
    (value : Double)
    (hKind : token.kind ∈ [.integer, .float])
    (hValue : value.IsUnsigned) :
    IsArithmetic (.float token value)
| unary
    {operand : Tree}
    (operator : Token)
    (hOperator : operator.kind ∈ [.plus, .minus])
    (hOperand : IsArithmetic operand) :
    IsArithmetic (.unary operator operand)
| binary
    {left right : Tree}
    (operator : Token)
    (hOperator :
      operator.kind ∈
        [.plus, .minus, .star, .slash, .doubleSlash,
          .doubleStar, .percent])
    (hLeft : IsArithmetic left)
    (hRight : IsArithmetic right) :
    IsArithmetic (.binary left operator right)

/- The node of a number token is arithmetic. -/
theorem isArithmetic_ofNumber
    {token : Token}
    (hSpelled : token.IsSpelled)
    (hNumber : token.kind.isNumber = true) :
    IsArithmetic (ofNumber token) := by
  have hKind : token.kind ∈ [.integer, .float] := by
    revert hNumber
    cases token.kind <;> simp [Token.Kind.isNumber]
  have hNode := ofNumber?_of_isSpelled hSpelled hNumber
  rw [ofNumber?, Option.map_eq_some_iff] at hNode
  rcases hNode with ⟨numeral, _, hNode⟩
  rw [← hNode]
  split
  · exact .integer token _ hKind (Int.natCast_nonneg _)
  · exact .float token _ hKind
      (Decimal.isUnsigned_toDouble _)

/- A tree that can be read is arithmetic. -/
theorem IsReadable.isArithmetic
    {tree : Tree}
    (hReadable : tree.IsReadable) :
    tree.IsArithmetic := by
  induction hReadable with
  | number token hSpelled hNumber =>
      exact isArithmetic_ofNumber hSpelled hNumber
  | signed sign hSpelled hSign hOperand ih =>
      refine .unary sign ?_ ih
      revert hSign
      cases sign.kind <;> simp [Token.Kind.isSign]
  | addend operator hSpelled hOperator hLeft hRight
      ihLeft ihRight =>
      refine .binary operator ?_ ihLeft ihRight
      revert hOperator
      cases operator.kind <;> simp [Token.Kind.isSign]
  | factor operator hSpelled hOperator hLeft hRight
      ihLeft ihRight =>
      refine .binary operator ?_ ihLeft ihRight
      revert hOperator
      cases operator.kind <;>
        simp [Token.Kind.isFactorOperator]

/- A sign has an operation. -/
theorem exists_unaryOperation
    {kind : Token.Kind}
    (hKind : kind ∈ [.plus, .minus]) :
    ∃ operation, unaryOperation? kind = some operation := by
  revert hKind
  cases kind <;> simp [unaryOperation?]

/- An operator has an operation. -/
theorem exists_binaryOperation
    {kind : Token.Kind}
    (hKind :
      kind ∈
        [.plus, .minus, .star, .slash, .doubleSlash,
          .doubleStar, .percent]) :
    ∃ operation, binaryOperation? kind = some operation := by
  revert hKind
  cases kind <;> simp [binaryOperation?]

/- Every arithmetic tree has a value. -/
theorem IsArithmetic.exists_value
    {tree : Tree}
    (hArithmetic : tree.IsArithmetic) :
    ∃ x, tree.evaluate = .ok x := by
  induction hArithmetic with
  | integer token value hKind hValue =>
      exact ⟨_, Expr.evaluate_integer token value⟩
  | float token value hKind hValue =>
      exact ⟨_, Expr.evaluate_float token value⟩
  | unary operator hOperator hOperand ih =>
      rcases ih with ⟨x, hx⟩
      rcases exists_unaryOperation hOperator with
        ⟨operation, hOperation⟩
      refine ⟨operation x, ?_⟩
      rw [Expr.evaluate_unary hOperation, hx]
      rfl
  | binary operator hOperator hLeft hRight ihLeft ihRight =>
      rcases ihLeft with ⟨x, hx⟩
      rcases ihRight with ⟨y, hy⟩
      rcases exists_binaryOperation hOperator with
        ⟨operation, hOperation⟩
      refine ⟨operation x y, ?_⟩
      rw [Expr.evaluate_binary hOperation, hx, hy]
      rfl

end Tree

end Calculator
