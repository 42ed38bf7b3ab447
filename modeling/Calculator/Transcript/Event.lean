import Calculator.Calculation

/-
  This file defines what happens while a calculator answers
  lines, as a list of events in the order of time, and what
  ends it.

  Key definitions include:
    * `Output`
    * `Output.channel`
    * `Output.text`
    * `Event`
    * `Ending`
    * `Ending.exitCode`
    * `Transcript`
    * `Transcript.printed`
-/

namespace Calculator

------------------------------------------------------------
-- Outputs
------------------------------------------------------------

/- Where an output goes: to the answers or to the errors. -/
inductive Channel where
| answers : Channel
| errors : Channel
deriving DecidableEq, Repr

/- What is printed for a line. -/
inductive Output where
| tokens (listed : List Token) : Output
| tree (shown : Tree) : Output
| value (found : Double) : Output
| failure (line : String) (cause : Failure) : Output
deriving DecidableEq

namespace Output

/- Failures go to the errors, and all else to the answers. -/
def channel : Output → Channel
| .failure _ _ => .errors
| _ => .answers

/- An output as it is printed, without the line end. -/
def text : Output → String
| .tokens listed => "tokens: " ++ Token.listing listed
| .tree shown => "ast: " ++ shown.written
| .value found => found.result
| .failure line cause => cause.report line

end Output

------------------------------------------------------------
-- Events
------------------------------------------------------------

/-
  An event: a prompt is shown, a line is taken, something is
  noted, or something is printed.
-/
inductive Event where
| prompted (prompt : String) : Event
| taken (line : String) : Event
| noted (note : Note) : Event
| printed (output : Output) : Event
deriving DecidableEq

namespace Event

/- The prompt that an event shows. -/
def prompt? : Event → Option String
| .prompted prompt => some prompt
| _ => none

/- The line that an event takes. -/
def line? : Event → Option String
| .taken line => some line
| _ => none

/- The output that an event prints. -/
def output? : Event → Option Output
| .printed output => some output
| _ => none

end Event

------------------------------------------------------------
-- Transcripts
------------------------------------------------------------

/-
  What ends a transcript: a quit directive, a line that
  fails, or the end of the lines.
-/
inductive Ending where
| quit : Ending
| failed : Ending
| exhausted : Ending
deriving DecidableEq, Repr

/- The exit code after an ending. -/
def Ending.exitCode : Ending → Nat
| .quit => 0
| .failed => 1
| .exhausted => 0

/- A transcript: its events and its ending. -/
structure Transcript where
  events : List Event
  ending : Ending
deriving DecidableEq

namespace Transcript

/- The prompts that are shown. -/
def prompts (t : Transcript) : List String :=
  t.events.filterMap Event.prompt?

/- The lines that are taken. -/
def taken (t : Transcript) : List String :=
  t.events.filterMap Event.line?

/- The outputs that are printed. -/
def outputs (t : Transcript) : List Output :=
  t.events.filterMap Event.output?

/- The texts that are printed to a channel. -/
def printed (t : Transcript) (channel : Channel) :
    List String :=
  (t.outputs.filter fun o => o.channel = channel).map
    Output.text

end Transcript

end Calculator
