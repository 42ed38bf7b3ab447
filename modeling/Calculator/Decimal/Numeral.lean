import Calculator.Decimal.Basic
import Calculator.Text.DecimalDigit

/-
  This file defines numerals: how a number is written in the
  input, how the longest numeral at the start of a text is
  found, and which decimal number it stands for.

  Key definitions include:
    * `ExponentPart`
    * `Numeral`
    * `Numeral.chars`
    * `Numeral.value`
    * `Numeral.scan`
    * `Numeral.ofText?`
-/

namespace Calculator

open Text (isDigit naturalValue)

------------------------------------------------------------
-- Numerals
------------------------------------------------------------

/-
  The exponent of a numeral: the letter that marks it, an
  optional sign, and digits.
-/
structure ExponentPart where
  marker : Char
  sign : Option Char
  digits : List Char
deriving DecidableEq, Repr

/-
  A numeral: digits, an optional point with the digits after
  it, which may be none, and an optional exponent.
-/
structure Numeral where
  whole : List Char
  fraction : Option (List Char)
  exponent : Option ExponentPart
deriving DecidableEq, Repr

namespace ExponentPart

/- The characters of an exponent. -/
def chars (e : ExponentPart) : List Char :=
  e.marker :: (e.sign.toList ++ e.digits)

/- The power of ten that an exponent stands for. -/
def value (e : ExponentPart) : Int :=
  if e.sign = some '-' then
    -(naturalValue e.digits : Int)
  else
    naturalValue e.digits

end ExponentPart

namespace Numeral

/- The characters of the point and the digits after it. -/
def fractionChars : Option (List Char) → List Char
| none => []
| some digits => '.' :: digits

/- The characters of an optional exponent. -/
def exponentChars : Option ExponentPart → List Char
| none => []
| some e => e.chars

/- The characters of a numeral. -/
def chars (n : Numeral) : List Char :=
  n.whole ++ fractionChars n.fraction ++
    exponentChars n.exponent

/- Whether a numeral is made of digits only. -/
def isWhole (n : Numeral) : Bool :=
  match n.fraction, n.exponent with
  | none, none => true
  | _, _ => false

/- The decimal number that a numeral stands for. -/
def value (n : Numeral) : Decimal :=
  let places := n.fraction.getD []
  { coefficient := naturalValue (n.whole ++ places)
    exponent :=
      (n.exponent.map ExponentPart.value).getD 0 -
        places.length }

------------------------------------------------------------
-- Scanning
------------------------------------------------------------

/-
  The outcome of scanning for a numeral. A scan breaks when
  an exponent is announced and no digit follows.
-/
inductive Scan where
| complete (numeral : Numeral) (rest : List Char) : Scan
| broken (read : List Char) (rest : List Char) : Scan
deriving DecidableEq, Repr

/- The point and the digits after it, if there is a point. -/
def scanFraction :
    List Char → Option (List Char) × List Char
| '.' :: cs =>
    (some (cs.takeWhile isDigit), cs.dropWhile isDigit)
| cs => (none, cs)

/- The sign of an exponent, if there is one. -/
def scanSign : List Char → Option Char × List Char
| '+' :: cs => (some '+', cs)
| '-' :: cs => (some '-', cs)
| cs => (none, cs)

/- The letters that announce an exponent. -/
def isExponentMarker (c : Char) : Bool :=
  c == 'e' || c == 'E'

/-
  The rest of a scan after the digits and the fraction. The
  letter that announces an exponent is never given back.
-/
def scanExponent
    (whole : List Char)
    (fraction : Option (List Char)) :
    List Char → Scan
| [] => .complete ⟨whole, fraction, none⟩ []
| c :: cs =>
    if isExponentMarker c then
      let (sign, after) := scanSign cs
      let digits := after.takeWhile isDigit
      if digits = [] then
        .broken
          (whole ++ fractionChars fraction ++
            c :: sign.toList)
          after
      else
        .complete
          ⟨whole, fraction, some ⟨c, sign, digits⟩⟩
          (after.dropWhile isDigit)
    else
      .complete ⟨whole, fraction, none⟩ (c :: cs)

/- Scan for a numeral at the start of a text. -/
def scan (cs : List Char) : Scan :=
  let (fraction, rest) := scanFraction (cs.dropWhile isDigit)
  scanExponent (cs.takeWhile isDigit) fraction rest

/- The numeral that a whole text is, if it is one. -/
def ofText? (text : String) : Option Numeral :=
  match scan text.toList with
  | .complete n [] => if n.whole = [] then none else some n
  | _ => none

------------------------------------------------------------
-- Nothing Is Lost
------------------------------------------------------------

/- The fraction and the rest make up the text. -/
theorem scanFraction_append (cs : List Char) :
    fractionChars (scanFraction cs).1 ++
      (scanFraction cs).2 = cs := by
  unfold scanFraction
  split
  · simp [fractionChars, List.takeWhile_append_dropWhile]
  · simp [fractionChars]

/- The sign and the rest make up the text. -/
theorem scanSign_append (cs : List Char) :
    (scanSign cs).1.toList ++ (scanSign cs).2 = cs := by
  unfold scanSign
  split <;> simp

/- What a scan has read, and what it has left. -/
def Scan.Splits (s : Scan) (cs : List Char) : Prop :=
  match s with
  | .complete n rest => n.chars ++ rest = cs
  | .broken read rest => read ++ rest = cs

/- The exponent and the rest make up the text. -/
theorem scanExponent_splits
    (whole : List Char)
    (fraction : Option (List Char))
    (cs : List Char) :
    (scanExponent whole fraction cs).Splits
      (whole ++ fractionChars fraction ++ cs) := by
  cases cs with
  | nil =>
      simp [scanExponent, Scan.Splits, chars, exponentChars]
  | cons c cs =>
      have hSign := scanSign_append cs
      simp only [scanExponent]
      split
      · split
        · simp only [Scan.Splits, List.append_assoc,
            List.cons_append]
          rw [hSign]
        · simp only [Scan.Splits, chars, exponentChars,
            ExponentPart.chars, List.append_assoc,
            List.cons_append,
            List.takeWhile_append_dropWhile]
          rw [hSign]
      · simp [Scan.Splits, chars, exponentChars]

/- A scan splits the text that it is given. -/
theorem scan_splits (cs : List Char) :
    (scan cs).Splits cs := by
  have hFraction :=
    scanFraction_append (cs.dropWhile isDigit)
  have hSplits := scanExponent_splits
    (cs.takeWhile isDigit)
    (scanFraction (cs.dropWhile isDigit)).1
    (scanFraction (cs.dropWhile isDigit)).2
  rw [List.append_assoc, hFraction,
    List.takeWhile_append_dropWhile] at hSplits
  exact hSplits

/- A complete scan starts with the digits of the text. -/
theorem whole_of_scan
    {cs rest : List Char}
    {n : Numeral}
    (hScan : scan cs = .complete n rest) :
    n.whole = cs.takeWhile isDigit := by
  simp only [scan, scanExponent] at hScan
  split at hScan
  · cases hScan
    rfl
  · split at hScan
    · split at hScan
      · cases hScan
      · cases hScan
        rfl
    · cases hScan
      rfl

/- A numeral that starts with a digit has characters. -/
theorem chars_ne_nil_of_scan
    {c : Char}
    {cs rest : List Char}
    {n : Numeral}
    (hDigit : isDigit c = true)
    (hScan : scan (c :: cs) = .complete n rest) :
    n.chars ≠ [] := by
  have hWhole := whole_of_scan hScan
  simp [hDigit] at hWhole
  simp [chars, hWhole]

end Numeral

end Calculator
