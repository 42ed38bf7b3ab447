import Calculator.Calculation

/-
  This file defines a showcase of the calculator: texts of
  every kind, and for each of them its tokens, its tree and
  its value, as far as it has them.

  Key definitions include:
    * `Showcase.texts`
    * `Showcase.case`
    * `Showcase.page`
-/

namespace Calculator.Showcase

/- The texts that are shown. -/
def texts : List String :=
  [ "5",
    "-1",
    "1 + 1",
    "-1 + 1",
    "1 + -1",
    "4 + 6 * 3",
    "(4 + 6)",
    "(4+6) * 3",
    "80225/+2",
    "7/6/2000",
    "5**2",
    "-2 ** 2",
    "2 ** 3 ** 2",
    "-7 // 2",
    "-7 % 2",
    "1.5e3 / 0",
    "8 - 3 - 2",
    "(1 + 14 * (54**2))",
    "2 $ 3",
    "2 + ",
    "1e+" ]

/- The line that is shown for a note. -/
def entry : Note → String
| .tokenized _ tokens => "tokens: " ++ Token.listing tokens
| .parsed _ tree => "ast: " ++ tree.written
| .evaluated value => "result: " ++ value.result
| note => note.message

/- The lines that are shown for a text. -/
def case (text : String) : List String :=
  let (notes, outcome) := examination text {}
  let failures :=
    match outcome with
    | .ok _ => []
    | .error failure => [failure.report text]
  ("code: " ++ Text.quoted text) ::
    (notes.map entry ++ failures)

/- The line before each text. -/
def ruler : String := "==========\n"

/- All texts that are shown, with a ruler before each. -/
def page : String :=
  String.join
    (texts.map fun text =>
      ruler ++ String.join ((case text).map (· ++ "\n")))

end Calculator.Showcase
