import Calculator.Decimal.Notation
import Calculator.Expr.Evaluation
import Calculator.Expr.Notation
import Calculator.Expr.Parser

/-
  This file defines the calculation of a text: its tree is
  read and then evaluated. What is found on the way is kept
  as notes, in the order in which it is found.

  Key definitions include:
    * `Note`
    * `Note.message`
    * `Failure`
    * `Failure.report`
    * `calculation`
    * `calculate`
    * `valueOrReport`
    * `examination`
-/

namespace Calculator

------------------------------------------------------------
-- Notes
------------------------------------------------------------

/- What is found while a text or a line is worked on. -/
inductive Note where
| tokenized (text : String) (tokens : List Token) : Note
| parsed (text : String) (tree : Tree) : Note
| evaluated (value : Double) : Note
| quitDirective (line : String) : Note
deriving DecidableEq

/- A note in words. -/
def Note.message : Note → String
| .tokenized text tokens =>
    "Tokenized " ++ Text.quoted text ++ ": " ++
      Token.listing tokens
| .parsed text tree =>
    "Parsed " ++ Text.quoted text ++ " into " ++ tree.written
| .evaluated value => "Evaluated to " ++ value.written
| .quitDirective line =>
    "Quit directive " ++ Text.quoted line

------------------------------------------------------------
-- Failures
------------------------------------------------------------

/- The ways in which a calculation fails. -/
inductive Failure where
| lexical (error : LexError) : Failure
| syntactic (error : ParseError) : Failure
| evaluation (error : EvaluationError Empty) : Failure
deriving DecidableEq

/- A failure as it is reported, for the text that failed. -/
def Failure.report (text : String) : Failure → String
| .lexical e => e.report text
| .syntactic e => e.report text
| .evaluation e => e.report nofun

------------------------------------------------------------
-- Calculations
------------------------------------------------------------

/-
  The notes of the calculation of a text, and the value or
  the failure that it ends with.
-/
def calculation (text : String) (bounds : Bounds) :
    List Note × Except Failure Double :=
  match parse text bounds with
  | .error e => ([], .error (.syntactic e))
  | .ok tree =>
      match tree.evaluate with
      | .error e =>
          ([.parsed text tree], .error (.evaluation e))
      | .ok value =>
          ([.parsed text tree, .evaluated value], .ok value)

/- The value of a text. -/
def calculate (text : String) (bounds : Bounds) :
    Except Failure Double :=
  (calculation text bounds).2

/-
  The value of a text, or the report of what keeps it from
  being an expression. Any other failure is passed on.
-/
def valueOrReport (text : String) :
    Except Failure (String ⊕ Double) :=
  match calculate text {} with
  | .ok value => .ok (.inr value)
  | .error (.syntactic e) => .ok (.inl (e.report text))
  | .error failure => .error failure

/-
  The calculation of a text after all of its tokens are
  listed. A text with a character that is part of no token
  fails there.
-/
def examination (text : String) (bounds : Bounds) :
    List Note × Except Failure Double :=
  match tokenize text with
  | .error e => ([], .error (.lexical e))
  | .ok tokens =>
      let (notes, outcome) := calculation text bounds
      (.tokenized text tokens :: notes, outcome)

end Calculator
