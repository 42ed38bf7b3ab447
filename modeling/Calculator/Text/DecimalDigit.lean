/-
  This file defines the decimal digits 0 to 9 and the numbers
  that they stand for. Digits of other scripts are none.

  Key definitions include:
    * `isDigit`
    * `digitValue`
    * `naturalValue`
-/

namespace Calculator.Text

/- Whether a character is one of the digits 0 to 9. -/
def isDigit (c : Char) : Bool :=
  '0' ≤ c && c ≤ '9'

/- The value of one of the digits 0 to 9. -/
def digitValue (c : Char) : Nat :=
  c.toNat - '0'.toNat

/- The number that a run of digits 0 to 9 stands for. -/
def naturalValue (digits : List Char) : Nat :=
  digits.foldl (fun n c => 10 * n + digitValue c) 0

end Calculator.Text
