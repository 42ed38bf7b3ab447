/-
  This file defines the lines of a text, whatever mark ends
  them: a line feed, a carriage return, or the two together.

  Key definitions include:
    * `isLineEnd`
    * `lines`
    * `dropLineEnd`
-/

namespace Calculator.Text

/- The characters that end a line. -/
def isLineEnd (c : Char) : Bool :=
  c == '\n' || c == '\r'

/-
  The lines of the rest of a text, where `line` holds the
  characters of the current line, the last one first. A
  carriage return and a line feed right after it are one
  line end. Nothing after the last line end is no line.
-/
def linesFrom : List Char → List Char → List (List Char)
| [], [] => []
| line, [] => [line.reverse]
| line, '\r' :: '\n' :: rest =>
    line.reverse :: linesFrom [] rest
| line, c :: rest =>
    if isLineEnd c then
      line.reverse :: linesFrom [] rest
    else
      linesFrom (c :: line) rest

/- The lines of a text, without their line ends. -/
def lines (text : String) : List String :=
  (linesFrom [] text.toList).map String.ofList

/- A line without the line ends at its end. -/
def dropLineEnd (line : String) : String :=
  String.ofList
    (line.toList.reverse.dropWhile isLineEnd).reverse

end Calculator.Text
