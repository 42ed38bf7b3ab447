/-
  This file defines the tokens of an expression.

  Key definitions include:
    * `Token.Kind`
    * `Token`
    * `Token.written`
    * `Token.listing`
-/

namespace Calculator

------------------------------------------------------------
-- Kinds
------------------------------------------------------------

/- The kinds of token. The end of the text is one of them. -/
inductive Token.Kind where
| eof : Token.Kind
| integer : Token.Kind
| float : Token.Kind
| plus : Token.Kind
| minus : Token.Kind
| star : Token.Kind
| slash : Token.Kind
| doubleSlash : Token.Kind
| doubleStar : Token.Kind
| percent : Token.Kind
| bracketOpen : Token.Kind
| bracketClose : Token.Kind
deriving DecidableEq, Repr

namespace Token.Kind

/- The name of a kind in messages. -/
def name : Token.Kind → String
| .eof => "EOF"
| .integer => "INTEGER"
| .float => "FLOAT"
| .plus => "PLUS"
| .minus => "MINUS"
| .star => "STAR"
| .slash => "SLASH"
| .doubleSlash => "DOUBLE_SLASH"
| .doubleStar => "DOUBLE_STAR"
| .percent => "PERCENT"
| .bracketOpen => "BRACKET_OPEN"
| .bracketClose => "BRACKET_CLOSE"

/- The kinds of a number. -/
def isNumber : Token.Kind → Bool
| .integer => true
| .float => true
| _ => false

/-
  The kinds of the operators that join terms, which are also
  the signs.
-/
def isSign : Token.Kind → Bool
| .plus => true
| .minus => true
| _ => false

/- The kinds of the operators that join factors. -/
def isFactorOperator : Token.Kind → Bool
| .star => true
| .slash => true
| .doubleSlash => true
| .doubleStar => true
| .percent => true
| _ => false

end Token.Kind

------------------------------------------------------------
-- Tokens
------------------------------------------------------------

/-
  A token: its kind, its characters in the text, and the
  index of the first of them.
-/
structure Token where
  kind : Token.Kind
  text : String
  position : Nat
deriving DecidableEq, Repr

namespace Token

/- A token as listings show it. -/
def written (t : Token) : String :=
  "<" ++ t.kind.name ++ ">" ++ t.text

/- Tokens on one line. -/
def listing (tokens : List Token) : String :=
  String.intercalate " " (tokens.map written)

end Token

end Calculator
