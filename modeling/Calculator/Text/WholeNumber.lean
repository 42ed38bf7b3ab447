import Calculator.Text.Blank
import Calculator.Text.DecimalDigit

/-
  This file defines how a whole number is read from the text
  of an argument. The text may be laid out freely: white
  space around the number, a plus sign, zeros before it, a
  fraction of zeros, and underscores between digits do not
  change the number. Nothing below zero is read.

  Key definitions include:
    * `digitLimit`
    * `dropLeadingZeros`
    * `dropZeroFraction`
    * `ungrouped?`
    * `wholeNumber?`
-/

namespace Calculator.Text

/-
  Numbers of more digits than this are not read as whole
  numbers.
-/
def digitLimit : Nat := 4300

/- A text without the plus sign in front of it. -/
def dropPlus : List Char → List Char
| '+' :: cs => cs
| cs => cs

/- The characters that may follow a leading zero. -/
def isZeroOrUnderscore (c : Char) : Bool :=
  c == '0' || c == '_'

/-
  A text without its leading zeros and all underscores that
  follow them. One zero stays when no digit comes after.
-/
def dropLeadingZeros : List Char → List Char
| '0' :: cs =>
    match cs.dropWhile isZeroOrUnderscore with
    | [] => ['0']
    | c :: rest =>
        if isDigit c then c :: rest else '0' :: c :: rest
| cs => cs

/-
  A text without the point and the fraction at its end when
  the fraction is made of zeros, of which there is at least
  one.
-/
def dropZeroFraction (cs : List Char) : List Char :=
  match cs.dropWhile (· != '.') with
  | '.' :: '0' :: zeros =>
      if zeros.all (· == '0') then
        cs.takeWhile (· != '.')
      else
        cs
  | _ => cs

/-
  The digits of a text of digits in which a single underscore
  may stand between two digits.
-/
def ungrouped? : List Char → Option (List Char)
| [] => none
| [c] => if isDigit c then some [c] else none
| c :: '_' :: rest =>
    if isDigit c then
      (ungrouped? rest).map fun digits => c :: digits
    else
      none
| c :: rest =>
    if isDigit c then
      (ungrouped? rest).map fun digits => c :: digits
    else
      none

/-
  The whole number that a text stands for. Leading zeros and
  a fraction of zeros do not count among its digits.
-/
def wholeNumber? (text : String) : Option Nat := do
  let number := dropPlus (trimmed text.toList)
  let digits ←
    ungrouped? (dropZeroFraction (dropLeadingZeros number))
  if digits.length ≤ digitLimit then
    return naturalValue digits
  else
    none

end Calculator.Text
