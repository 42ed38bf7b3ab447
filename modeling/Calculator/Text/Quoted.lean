import Calculator.Text.Printable

/-
  This file defines the quoted form of a text, which shows a
  piece of input inside a message on one line.

  Key definitions include:
    * `quoteMark`
    * `escapeCode`
    * `quotedChar`
    * `quoted`
-/

namespace Calculator.Text

/- The mark that quotes a text by default. -/
def apostrophe : Char := '\x27'

/- The mark that quotes a text with an apostrophe in it. -/
def quotation : Char := '\x22'

/- The mark that starts an escape. -/
def backslash : Char := '\x5C'

/-
  A text stands between apostrophes, unless it holds an
  apostrophe and no quotation mark.
-/
def quoteMark (cs : List Char) : Char :=
  if cs.contains apostrophe && !cs.contains quotation then
    quotation
  else
    apostrophe

/- A number in base sixteen, with at least `width` digits. -/
def hexadecimal (width n : Nat) : List Char :=
  (Nat.toDigits 16 n).leftpad width '0'

/-
  The escape that names a character by its code point, in
  the shortest of the three widths that holds it.
-/
def escapeCode (c : Char) : List Char :=
  if c.toNat ≤ 0xFF then
    backslash :: 'x' :: hexadecimal 2 c.toNat
  else if c.toNat ≤ 0xFFFF then
    backslash :: 'u' :: hexadecimal 4 c.toNat
  else
    backslash :: 'U' :: hexadecimal 8 c.toNat

/-
  How one character is shown inside quotes: the mark and the
  backslash behind a backslash, line breaks and tabs by
  their letter, other characters without a shape by their
  code point, and the rest as they are.
-/
def quotedChar (mark c : Char) : List Char :=
  if c = mark ∨ c = backslash then
    [backslash, c]
  else if c = '\n' then
    [backslash, 'n']
  else if c = '\r' then
    [backslash, 'r']
  else if c = '\t' then
    [backslash, 't']
  else if isPrintable c then
    [c]
  else
    escapeCode c

/- The quoted form of a text. -/
def quoted (text : String) : String :=
  let cs := text.toList
  let mark := quoteMark cs
  String.ofList
    (mark :: cs.flatMap (quotedChar mark) ++ [mark])

end Calculator.Text
