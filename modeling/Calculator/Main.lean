import Calculator.Command.Outcome

/-
  This file defines the program: it reads its arguments, and
  answers the lines of its input until they end or one of
  them ends the program. At a terminal each line is asked
  for with a prompt.

  Key definitions include:
    * `Calculator.answerLines`
    * `Calculator.converse`
    * `Calculator.answerPiped`
    * `main`
-/

namespace Calculator

/- What the program says about itself. -/
def helpText : String :=
  String.intercalate "\n"
    [ "Evaluate arithmetic expressions, one per line",
      "",
      "  --exit-on-error      Stop at the first bad line",
      "  --continue-on-error  Go on after a bad line",
      "  --show-tokens        Print the tokens of every line",
      "  --show-ast           Print the tree of every line",
      "  --max-depth N        Limit the nesting (default 200)",
      "  --prompt TEXT        Ask for lines with this text",
      "  --verbose, -v        Print notes to the errors",
      "  --help               Show this text" ]

/- Print what an event prints. -/
def showEvent (verbose : Bool) (event : Event) : IO Unit := do
  match event.display? verbose with
  | some (.answers, text) => IO.println text
  | some (.errors, text) => IO.eprintln text
  | none => return ()

/- Answer lines, until one of them ends the program. -/
def answerLines (command : Command) :
    List String → IO (Option Ending)
| [] => return none
| line :: rest => do
    let (events, ending) := answer command.settings line
    for event in events do
      showEvent command.verbose event
    match ending with
    | some ending => return some ending
    | none => answerLines command rest

/-
  Ask for a line at a terminal. No text stands for the end
  of the input, which an interrupt is too.
-/
def askLine (prompt : String) : IO String := do
  IO.print prompt
  (← IO.getStdout).flush
  try
    (← IO.getStdin).getLine
  catch e =>
    match e with
    | .interrupted .. => return ""
    | _ => throw e

/- Ask for lines at a terminal and answer each of them. -/
partial def converse (command : Command) : IO Ending := do
  let line ← askLine command.prompt
  if line.isEmpty then
    return .exhausted
  match ← answerLines command [line] with
  | some ending => return ending
  | none => converse command

/-
  Answer the lines that are piped in, each before more of the
  input is read. What is read at a time ends with a line
  feed, so that it is cut between two lines.
-/
partial def answerPiped (command : Command) : IO Ending := do
  let chunk ← (← IO.getStdin).getLine
  if chunk.isEmpty then
    return .exhausted
  match ← answerLines command (Text.lines chunk) with
  | some ending => return ending
  | none => answerPiped command

/- Run a command on the input, and give its exit code. -/
def Command.execute (command : Command) : IO Nat := do
  let ending ←
    if ← (← IO.getStdin).isTty then
      converse command
    else
      answerPiped command
  return ending.exitCode

end Calculator

open Calculator in
/- Run the program on its arguments. -/
def main (arguments : List String) : IO UInt32 := do
  let inherited ← IO.getEnv depthVariable
  match readRequest arguments inherited with
  | .error e =>
      IO.eprintln e.message
      return UsageError.exitCode.toUInt32
  | .ok .help =>
      IO.println helpText
      return 0
  | .ok (.run command) =>
      return (← command.execute).toUInt32
