/-
  This file defines sets of characters given by ascending
  ranges of code points.

  Key definitions include:
    * `Range`
    * `Range.covers`
-/

namespace Calculator.Text

/-
  A closed range of code points, from `first` to `last`.
-/
structure Range where
  first : Nat
  last : Nat
deriving DecidableEq, Repr

/-
  Whether a code point lies in one of the ranges. The ranges
  are ascending, so the search ends at the first range that
  starts above the code point.
-/
def Range.covers : List Range → Nat → Bool
| [], _ => false
| r :: rs, n =>
    if n < r.first then
      false
    else if n ≤ r.last then
      true
    else
      covers rs n

end Calculator.Text
