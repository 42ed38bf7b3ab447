import Calculator.Token.Lexer

/-
  This file defines what can be wrong with the text of an
  expression.

  Key definitions include:
    * `ParseFault`
    * `ParseFault.message`
    * `ParseError`
    * `ParseError.report`
-/

namespace Calculator

/-
  The ways in which a text fails to be an expression. One may
  be nested more deeply than a limit that is chosen, or than
  a stack has room for, which is told in the same words.
-/
inductive ParseFault where
| lexical (error : LexError) : ParseFault
| tooDeep : ParseFault
| overflow : ParseFault
| trailing (kind : Token.Kind) : ParseFault
| expected (wanted found : Token.Kind) : ParseFault
| expectedOperand (found : Token.Kind) : ParseFault
| malformedNumber (text : String) : ParseFault
deriving DecidableEq, Repr

namespace ParseFault

/- What went wrong, on one line. -/
def message : ParseFault → String
| .lexical e => "Syntax error: " ++ e.message
| .tooDeep => "Expression is nested too deeply"
| .overflow => "Expression is nested too deeply"
| .trailing kind =>
    "Unexpected " ++ kind.name ++
      " after the end of expression"
| .expected wanted found =>
    "Expected " ++ wanted.name ++ " but received " ++
      found.name
| .expectedOperand found =>
    "Expected a number or '(' but received " ++ found.name
| .malformedNumber text =>
    "Internal error, malformed numeric literal " ++
      Text.quoted text

end ParseFault

/- A fault and its place in the text. -/
structure ParseError where
  fault : ParseFault
  position : Nat
deriving DecidableEq, Repr

namespace ParseError

/- The failure of the lexer to give a token. -/
def ofLexError (e : LexError) : ParseError :=
  ⟨.lexical e, e.position⟩

/- The message with the place in the text under it. -/
def report (e : ParseError) (text : String) : String :=
  "[Parser error] " ++ e.fault.message ++ "\n" ++
    Excerpt.pointAt text e.position Excerpt.defaultReach

end ParseError

end Calculator
