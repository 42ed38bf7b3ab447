import Calculator.Command.Arguments
import Calculator.Text.WholeNumber
import Calculator.Transcript.Run

/-
  This file defines what the arguments of the command line
  ask for, together with the environment.

  Key definitions include:
    * `Command`
    * `depthLimit`
    * `Command.ofChoices`
    * `Request`
    * `readRequest`
-/

namespace Calculator

------------------------------------------------------------
-- Commands
------------------------------------------------------------

/-
  A command: the settings, the prompt at a terminal, and
  whether notes are printed.
-/
structure Command where
  settings : Settings := {}
  prompt : String := "> "
  verbose : Bool := false
deriving DecidableEq, Repr

/- The environment variable that limits the depth. -/
def depthVariable : String := "CALCPY_MAX_DEPTH"

/- The text of the depth limit that is chosen last. -/
def chosenDepth? (choices : List Choice) : Option String :=
  choices.reverse.findSome? fun
    | .depthLimit text => some text
    | _ => none

/- The depth limit that a text asks for, which is not 0. -/
def depthOf (text : String) : Except UsageError Int :=
  match Text.wholeNumber? text with
  | some limit =>
      if 1 ≤ limit then
        .ok limit
      else
        .error (.depthLimit text)
  | none => .error (.depthLimit text)

/-
  The depth limit: an option comes before the environment,
  and a variable without text counts as not set.
-/
def depthLimit
    (choices : List Choice)
    (inherited : Option String) :
    Except UsageError Int :=
  match chosenDepth? choices with
  | some text => depthOf text
  | none =>
      match inherited.filter (· != "") with
      | some text => depthOf text
      | none => .ok defaultDepthLimit

namespace Command

/- A command with one more choice. -/
def choose (command : Command) : Choice → Command
| .stopOnFailure stop =>
    { command with settings.stopOnFailure := stop }
| .showTokens =>
    { command with settings.showTokens := true }
| .showTree => { command with settings.showTree := true }
| .depthLimit _ => command
| .prompt text => { command with prompt := text }
| .verbose => { command with verbose := true }
| .help => command

/-
  The command of choices, where of choices that contradict
  each other the last one counts.
-/
def ofChoices
    (choices : List Choice)
    (limit : Int) : Command :=
  choices.foldl choose { settings.bounds.limit := limit }

end Command

/- What the arguments ask for: help, or a command. -/
inductive Request where
| help : Request
| run (command : Command) : Request
deriving DecidableEq, Repr

/-
  The request of arguments, with the depth limit that is
  inherited from the environment. Asking for help comes
  before everything but an option that cannot be read.
-/
def readRequest
    (arguments : List String)
    (inherited : Option String) :
    Except UsageError Request := do
  let (choices, extra) ← readArguments arguments
  if choices.contains .help then
    return .help
  let limit ← depthLimit choices inherited
  match extra with
  | [] => return .run (.ofChoices choices limit)
  | argument :: _ => throw (.unexpectedArgument argument)

end Calculator
