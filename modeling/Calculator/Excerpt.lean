/-
  This file defines the excerpt of a text that a message
  shows: a window around one place and a caret under it.

  Key definitions include:
    * `Excerpt.Window`
    * `Excerpt.Window.around`
    * `Excerpt.pointAt`
-/

namespace Calculator.Excerpt

/- How far a window reaches to each side by default. -/
def defaultReach : Nat := 10

/- What stands where a window leaves characters out. -/
def ellipsis : List Char := ['.', '.', '.']

/-
  A window of a text: the characters shown, whether some are
  left out before and after them, and the column of the
  place that it was opened for.
-/
structure Window where
  cutBefore : Bool
  shown : List Char
  cutAfter : Bool
  column : Nat
deriving DecidableEq, Repr

namespace Window

/-
  The window that reaches `reach` characters to each side of
  an index. The index may lie past the end of the text.
-/
def around
    (text : List Char)
    (index reach : Nat) : Window :=
  let start := index - reach
  let stop := min text.length (index + reach)
  { cutBefore := decide (0 < start)
    shown := (text.drop start).take (stop - start)
    cutAfter := decide (stop < text.length)
    column := index - start }

/- The line of text that a window shows. -/
def line (w : Window) : List Char :=
  (if w.cutBefore then ellipsis else []) ++ w.shown ++
    (if w.cutAfter then ellipsis else [])

/- The column of the place in the line that is shown. -/
def caretColumn (w : Window) : Nat :=
  w.column + (if w.cutBefore then ellipsis.length else 0)

/- The line with a caret under the place. -/
def caretLine (w : Window) : List Char :=
  List.replicate w.caretColumn ' ' ++ ['^']

end Window

/- Two lines: a window of the text and a caret under it. -/
def pointAt
    (text : String)
    (index reach : Nat) : String :=
  let w := Window.around text.toList index reach
  String.ofList (w.line ++ '\n' :: w.caretLine)

end Calculator.Excerpt
