/-
  This file defines how the arguments of the command line are
  read: as choices, each made by one option, and as what is
  left over.

  Key definitions include:
    * `UsageError`
    * `Choice`
    * `switch?`
    * `readArguments`
-/

namespace Calculator

------------------------------------------------------------
-- Usage Errors
------------------------------------------------------------

/- The ways in which arguments ask for no command. -/
inductive UsageError where
| unknownOption (option : String) : UsageError
| missingValue (option : String) : UsageError
| unexpectedValue (option : String) : UsageError
| unexpectedArgument (argument : String) : UsageError
| depthLimit (text : String) : UsageError
deriving DecidableEq, Repr

namespace UsageError

/- What is wrong with the arguments, on one line. -/
def message : UsageError → String
| .unknownOption option => "No such option: " ++ option
| .missingValue option =>
    "Option " ++ option ++ " requires a value"
| .unexpectedValue option =>
    "Option " ++ option ++ " does not take a value"
| .unexpectedArgument argument =>
    "Unexpected argument: " ++ argument
| .depthLimit text =>
    "The depth limit is no whole number above 0: " ++ text

/- The exit code after a usage error. -/
def exitCode : Nat := 2

end UsageError

------------------------------------------------------------
-- Options
------------------------------------------------------------

/- What one option asks for. -/
inductive Choice where
| stopOnFailure (stop : Bool) : Choice
| showTokens : Choice
| showTree : Choice
| depthLimit (text : String) : Choice
| prompt (text : String) : Choice
| verbose : Choice
| help : Choice
deriving DecidableEq, Repr

/- An option stands alone or takes a value. -/
inductive Switch where
| plain (choice : Choice) : Switch
| valued (choice : String → Choice) : Switch

/- The option of a long name. -/
def switch? : String → Option Switch
| "--exit-on-error" => some (.plain (.stopOnFailure true))
| "--continue-on-error" =>
    some (.plain (.stopOnFailure false))
| "--show-tokens" => some (.plain .showTokens)
| "--show-ast" => some (.plain .showTree)
| "--max-depth" => some (.valued .depthLimit)
| "--prompt" => some (.valued .prompt)
| "--verbose" => some (.plain .verbose)
| "--help" => some (.plain .help)
| _ => none

/-
  A long option is split at its first equals sign into its
  name and the value that is attached to it.
-/
def attachedValue (argument : String) :
    String × Option String :=
  let (name, rest) := argument.toList.span (· != '=')
  (String.ofList name, rest.tail?.map String.ofList)

/- The choices of short options that are written together. -/
def shortChoices (letters : List Char) :
    Except UsageError (List Choice) :=
  letters.mapM fun c =>
    if c = 'v' then
      .ok .verbose
    else
      .error (.unknownOption (String.ofList ['-', c]))

/-
  Read arguments as choices and as what is left over. Two
  dashes alone end the options, and one dash alone is no
  option. An option that takes a value takes the argument
  after it, whatever that is, unless a value is attached.
-/
def readArguments :
    List String →
    Except UsageError (List Choice × List String)
| [] => .ok ([], [])
| argument :: rest =>
    match argument.toList with
    | ['-', '-'] => .ok ([], rest)
    | '-' :: '-' :: _ =>
        let (name, attached) := attachedValue argument
        match switch? name, attached with
        | none, _ => .error (.unknownOption name)
        | some (.plain choice), none => do
            let (choices, extra) ← readArguments rest
            return (choice :: choices, extra)
        | some (.plain _), some _ =>
            .error (.unexpectedValue name)
        | some (.valued choice), some value => do
            let (choices, extra) ← readArguments rest
            return (choice value :: choices, extra)
        | some (.valued choice), none =>
            match rest with
            | [] => .error (.missingValue name)
            | value :: rest' => do
                let (choices, extra) ← readArguments rest'
                return (choice value :: choices, extra)
    | '-' :: letter :: letters => do
        let short ← shortChoices (letter :: letters)
        let (choices, extra) ← readArguments rest
        return (short ++ choices, extra)
    | _ => do
        let (choices, extra) ← readArguments rest
        return (choices, argument :: extra)

end Calculator
