import Calculator.Decimal.Shortest
import Calculator.Text.DecimalDigit

/-
  This file defines how numbers are written: in full, which
  tells all numbers apart, and as the result of a
  calculation, where whole numbers have no point.

  Key definitions include:
    * `naturalChars`
    * `Decimal.chars`
    * `Double.written`
    * `Double.result`
-/

namespace Calculator

-- Powers of natural numbers are those of the core library.
attribute [local
instance 20000] instPowNat

------------------------------------------------------------
-- Natural Numbers
------------------------------------------------------------

/- The character of a digit below ten. -/
def digitChar (d : Nat) : Char :=
  Char.ofNat ('0'.toNat + d)

/- The digits of a natural number, without leading zeros. -/
def naturalChars (n : Nat) : List Char :=
  if n < 10 then
    [digitChar n]
  else
    naturalChars (n / 10) ++ [digitChar (n % 10)]

/- A run of zeros. -/
def zeros (n : Nat) : List Char :=
  List.replicate n '0'

------------------------------------------------------------
-- Decimals
------------------------------------------------------------

/-
  The least power of ten of a leading digit that is written
  without an exponent.
-/
def leastPlainPower : Int := -4

/-
  The least power of ten from which on an exponent is
  written.
-/
def leastMarkedPower : Int := 16

namespace Decimal

/-
  Digits with the point after the first `places` of them,
  and at least one digit on each side of it.
-/
def plainChars (digits : List Char) (places : Int) :
    List Char :=
  if places ≤ 0 then
    '0' :: '.' :: (zeros (-places).toNat ++ digits)
  else if places < digits.length then
    digits.take places.toNat ++
      '.' :: digits.drop places.toNat
  else
    digits ++ zeros (places.toNat - digits.length) ++
      ['.', '0']

/-
  An exponent has a sign and at least two digits.
-/
def exponentChars (power : Int) : List Char :=
  let digits := naturalChars power.natAbs
  'e' :: (if power < 0 then '-' else '+') ::
    (zeros (2 - digits.length) ++ digits)

/-
  Digits with the point after the first of them, or no point
  if there is only one, and an exponent.
-/
def markedChars (digits : List Char) (power : Int) :
    List Char :=
  digits.take 1 ++
    (if digits.length ≤ 1 then [] else '.' :: digits.drop 1) ++
    exponentChars power

/-
  A positive decimal as it is written. The power of ten of
  its leading digit decides on the notation.
-/
def chars (d : Decimal) : List Char :=
  let digits := naturalChars d.coefficient
  let places := d.exponent + digits.length
  let power := places - 1
  if leastPlainPower ≤ power ∧ power < leastMarkedPower then
    plainChars digits places
  else
    markedChars digits power

end Decimal

------------------------------------------------------------
-- Numbers
------------------------------------------------------------

namespace Double

/- A minus in front of a negative number. -/
def signChars (negative : Bool) : List Char :=
  if negative then ['-'] else []

/- A number written in full. -/
def written : Double → String
| .nan => "nan"
| .infinite negative =>
    String.ofList (signChars negative ++ ['i', 'n', 'f'])
| .finite negative m =>
    String.ofList
      (signChars negative ++
        if m.units = 0 then
          ['0', '.', '0']
        else
          m.shortest.chars)

/- Whole numbers below this are results without a point. -/
def wholeResultLimit : Nat := 10 ^ (16 : Nat)

/-
  A number written as the result of a calculation: a whole
  number below the limit by its digits, and all else in
  full.
-/
def result : Double → String
| .nan => "NaN"
| .infinite negative => written (.infinite negative)
| .finite negative m =>
    if m.units % unitsPerOne = 0 ∧
        m.units < wholeResultLimit * unitsPerOne then
      String.ofList
        (signChars negative ++
          naturalChars (m.units / unitsPerOne))
    else
      written (.finite negative m)

end Double

end Calculator
