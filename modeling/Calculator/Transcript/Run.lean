import Calculator.Text.Blank
import Calculator.Text.Lines
import Calculator.Transcript.Event

/-
  This file defines how a calculator answers lines, one after
  another, until a line ends the transcript or there are no
  more lines.

  Key definitions include:
    * `Settings`
    * `isQuitDirective`
    * `reaction`
    * `answer`
    * `Transcript.run`
    * `Transcript.piped`
    * `Transcript.atTerminal`
-/

namespace Calculator

------------------------------------------------------------
-- Settings
------------------------------------------------------------

/-
  What may be chosen: whether a line that fails ends the
  transcript, whether the tokens and the tree of a line are
  shown, and how deep an expression may be nested. What the
  stack holds is not chosen but given.
-/
structure Settings where
  stopOnFailure : Bool := false
  showTokens : Bool := false
  showTree : Bool := false
  bounds : Bounds := {}
deriving DecidableEq, Repr

------------------------------------------------------------
-- One Line
------------------------------------------------------------

/- The words that end a transcript at the start of a line. -/
def quitDirectives : List String := ["/quit", "/exit"]

/- Whether a line starts with a quit directive. -/
def isQuitDirective (line : String) : Bool :=
  quitDirectives.any fun directive =>
    directive.toList.isPrefixOf line.toList

/- What happens when something is noted about a line. -/
def reaction (settings : Settings) (note : Note) :
    List Event :=
  .noted note ::
    match note with
    | .tokenized _ tokens => [.printed (.tokens tokens)]
    | .parsed _ tree =>
        if settings.showTree then
          [.printed (.tree tree)]
        else
          []
    | .evaluated value => [.printed (.value value)]
    | .quitDirective _ => []

/-
  The note of the tokens of a line, when they are shown.
  There is none for a line with a character that is part of
  no token.
-/
def tokenNotes (settings : Settings) (line : String) :
    List Note :=
  if settings.showTokens then
    match tokenize line with
    | .ok tokens => [.tokenized line tokens]
    | .error _ => []
  else
    []

/- What a failure ends, if it ends anything. -/
def endingAfter (settings : Settings) :
    Failure → Option Ending
| .evaluation _ => some .failed
| _ => if settings.stopOnFailure then some .failed else none

/- Calculate a line that is an expression. -/
def answerExpression (settings : Settings) (line : String) :
    List Event × Option Ending :=
  let (notes, outcome) := calculation line settings.bounds
  let events :=
    (tokenNotes settings line ++ notes).flatMap
      (reaction settings)
  match outcome with
  | .ok _ => (events, none)
  | .error failure =>
      (events ++ [.printed (.failure line failure)],
        endingAfter settings failure)

/-
  What happens after a line is taken, and the ending if it
  is the last line. A blank line is passed over.
-/
def answer (settings : Settings) (taken : String) :
    List Event × Option Ending :=
  let line := Text.dropLineEnd taken
  if isQuitDirective line then
    (reaction settings (.quitDirective line), some .quit)
  else if Text.isBlankLine line then
    ([], none)
  else
    answerExpression settings line

------------------------------------------------------------
-- All Lines
------------------------------------------------------------

namespace Transcript

/- A transcript with more events before it. -/
def after (events : List Event) (t : Transcript) :
    Transcript :=
  { t with events := events ++ t.events }

/-
  Answer lines until one of them ends the transcript. The
  announcement is made each time before a line is asked for,
  and so once more when there are no more lines.
-/
def run (settings : Settings) (announcement : List Event) :
    List String → Transcript
| [] => ⟨announcement, .exhausted⟩
| line :: rest =>
    match answer settings line with
    | (events, some ending) =>
        ⟨announcement ++ .taken line :: events, ending⟩
    | (events, none) =>
        after (announcement ++ .taken line :: events)
          (run settings announcement rest)

/- The transcript of lines that are piped in. -/
def piped (settings : Settings) (lines : List String) :
    Transcript :=
  run settings [] lines

/- The transcript of lines that are typed at a terminal. -/
def atTerminal
    (settings : Settings)
    (prompt : String)
    (lines : List String) :
    Transcript :=
  run settings [.prompted prompt] lines

end Transcript

end Calculator
