import Calculator.Command.Request

/-
  This file defines what a command prints, and the exit code
  that it leaves.

  Key definitions include:
    * `Event.display?`
    * `displayed`
    * `Outcome`
    * `Command.outcome`
-/

namespace Calculator

/-
  What an event prints, and where. Notes go to the errors,
  and are printed by a verbose command only.
-/
def Event.display? (verbose : Bool) :
    Event → Option (Channel × String)
| .prompted _ => none
| .taken _ => none
| .noted note =>
    if verbose then some (.errors, note.message) else none
| .printed output => some (output.channel, output.text)

/- The exit code of a command, and all that it prints. -/
structure Outcome where
  exitCode : Nat
  answers : String
  errors : String
deriving DecidableEq, Repr

/- The texts of a channel, with a line end after each. -/
def displayed
    (verbose : Bool)
    (channel : Channel)
    (events : List Event) : String :=
  String.join
    ((events.filterMap (Event.display? verbose)).filterMap
      fun (channel', text) =>
        if channel' = channel then
          some (text ++ "\n")
        else
          none)

/- The outcome of a command when its input is no terminal. -/
def Command.outcome (command : Command) (input : String) :
    Outcome :=
  let t :=
    Transcript.piped command.settings (Text.lines input)
  { exitCode := t.ending.exitCode
    answers := displayed command.verbose .answers t.events
    errors := displayed command.verbose .errors t.events }

end Calculator
