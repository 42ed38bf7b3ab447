import Calculator.Text.Ranges

/-
  This file defines the characters that only make space, in
  every script.

  Key definitions include:
    * `whiteSpaceRanges`
    * `isWhiteSpace`
    * `isBlank`
    * `isBlankLine`
    * `trimmed`
-/

namespace Calculator.Text

/- The white space of the character standard. -/
def whiteSpaceRanges : List Range :=
  [⟨0x09, 0x0D⟩, ⟨0x20, 0x20⟩, ⟨0x85, 0x85⟩, ⟨0xA0, 0xA0⟩,
   ⟨0x1680, 0x1680⟩, ⟨0x2000, 0x200A⟩, ⟨0x2028, 0x2029⟩,
   ⟨0x202F, 0x202F⟩, ⟨0x205F, 0x205F⟩, ⟨0x3000, 0x3000⟩]

/- Whether a character is white space. -/
def isWhiteSpace (c : Char) : Bool :=
  Range.covers whiteSpaceRanges c.toNat

/- Whether a character is one of the information separators. -/
def isSeparator (c : Char) : Bool :=
  '\x1C' ≤ c && c ≤ '\x1F'

/-
  Whether a character counts as blank in a line: white space
  and the information separators do.
-/
def isBlank (c : Char) : Bool :=
  isWhiteSpace c || isSeparator c

/- Whether a line holds nothing but blanks. -/
def isBlankLine (line : String) : Bool :=
  line.toList.all isBlank

/- A text without the white space at its two ends. -/
def trimmed (cs : List Char) : List Char :=
  ((cs.dropWhile isWhiteSpace).reverse.dropWhile
    isWhiteSpace).reverse

end Calculator.Text
