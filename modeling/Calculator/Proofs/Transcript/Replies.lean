import Calculator.Proofs.Calculation.Failures
import Calculator.Proofs.Reading.Openings

/-
  This file shows what is printed for one line. A line is a
  quit directive, blank, an expression or faulty, and nothing
  that is read as an expression is one of the first two.

  Key definitions include:
    * `IsDirective`
    * `IsBlank`
    * `LineCases`
    * `Seen`
    * `Transcript.seen`
    * `Settings.reply`
    * `Settings.exchange`
-/

namespace Calculator

------------------------------------------------------------
-- Kinds of Lines
------------------------------------------------------------

/- A line starts with a directive to quit. -/
def IsDirective (line : String) : Prop :=
  "/quit".toList <+: line.toList ∨
    "/exit".toList <+: line.toList

/- A line has no characters but blanks. -/
def IsBlank (line : String) : Prop :=
  ∀ c ∈ line.toList, Text.isBlank c = true

/- Directives are found where they are. -/
theorem isQuitDirective_iff (line : String) :
    isQuitDirective line = true ↔ IsDirective line := by
  simp [isQuitDirective, quitDirectives, IsDirective]

/- Blank lines are found where they are. -/
theorem isBlankLine_iff (line : String) :
    Text.isBlankLine line = true ↔ IsBlank line :=
  List.all_eq_true

/- No digit is a blank. -/
theorem Text.isBlank_of_isDigit
    {c : Char}
    (hDigit : isDigit c = true) :
    isBlank c = false := by
  simp only [isDigit, Bool.and_eq_true, decide_eq_true_eq,
    Char.le_def, UInt32.le_iff_toNat_le] at hDigit
  have hLow : 48 ≤ c.toNat := hDigit.1
  have hHigh : c.toNat ≤ 57 := hDigit.2
  have hSpace : isWhiteSpace c = false := by
    simp only [isWhiteSpace, whiteSpaceRanges, Range.covers]
    grind
  have hSeparator : isSeparator c = false := by
    simp only [isSeparator, Bool.and_eq_false_iff,
      decide_eq_false_iff_not, Char.le_def,
      UInt32.le_iff_toNat_le]
    refine Or.inr fun hLess => ?_
    have hLast : c.toNat ≤ 31 := hLess
    omega
  rw [isBlank, hSpace, hSeparator, Bool.or_false]

/- What opens an operand is no blank. -/
theorem Text.isBlank_of_opensOperand
    {c : Char}
    (hc : opensOperand c = true) :
    isBlank c = false := by
  simp only [opensOperand, Bool.or_eq_true,
    beq_iff_eq] at hc
  rcases hc with ((hDigit | rfl) | rfl) | rfl
  · exact isBlank_of_isDigit hDigit
  · decide
  · decide
  · decide

/- An expression is no directive, which starts with a slash. -/
theorem not_isDirective_of_parse
    {line : String}
    {bounds : Bounds}
    {tree : Tree}
    (hParse : parse line bounds = .ok tree) :
    ¬ IsDirective line := by
  rcases exists_opening_of_parse hParse with
    ⟨gap, c, rest, hLine, hGap, hc⟩
  have hSlash : ∀ cs, line.toList ≠ '/' :: cs := by
    intro cs hCs
    rw [hLine] at hCs
    cases gap with
    | nil =>
        cases hCs
        cases hc
    | cons d gap =>
        cases hCs
        cases hGap '/' (List.mem_cons_self ..)
  rintro (⟨cs, hCs⟩ | ⟨cs, hCs⟩)
  · exact hSlash _ hCs.symm
  · exact hSlash _ hCs.symm

/- An expression is not blank. -/
theorem not_isBlank_of_parse
    {line : String}
    {bounds : Bounds}
    {tree : Tree}
    (hParse : parse line bounds = .ok tree) :
    ¬ IsBlank line := by
  rcases exists_opening_of_parse hParse with
    ⟨gap, c, rest, hLine, _, hc⟩
  intro hBlank
  have hMem : c ∈ line.toList := by
    rw [hLine]
    exact List.mem_append_right _ (List.mem_cons_self ..)
  have hNot := Text.isBlank_of_opensOperand hc
  rw [hBlank c hMem] at hNot
  cases hNot

/-
  The kinds of lines: directives, blank lines, expressions
  and lines with a fault.
-/
inductive LineCases
    (bounds : Bounds)
    (line : String) : Prop where
| directive (hDirective : IsDirective line)
| blank
    (hDirective : ¬ IsDirective line)
    (hBlank : IsBlank line)
| expression
    {tree : Tree}
    {x : Double}
    (hDirective : ¬ IsDirective line)
    (hBlank : ¬ IsBlank line)
    (hParse : parse line bounds = .ok tree)
    (hValue : tree.evaluate = .ok x)
| faulty
    {e : ParseError}
    (hDirective : ¬ IsDirective line)
    (hBlank : ¬ IsBlank line)
    (hParse : parse line bounds = .error e)

/- Every line is of one of these kinds. -/
theorem lineCases (bounds : Bounds) (line : String) :
    LineCases bounds line := by
  by_cases hDirective : IsDirective line
  · exact .directive hDirective
  · by_cases hBlank : IsBlank line
    · exact .blank hDirective hBlank
    · cases hParse : parse line bounds with
      | error e => exact .faulty hDirective hBlank hParse
      | ok tree =>
          rcases exists_value_of_parse hParse with ⟨x, hx⟩
          exact .expression hDirective hBlank hParse hx

------------------------------------------------------------
-- What Is Seen
------------------------------------------------------------

/-
  What is seen of a transcript from outside: the lines that
  it takes, and the texts that it prints.
-/
inductive Seen where
| taken (line : String) : Seen
| printed (channel : Channel) (text : String) : Seen
deriving DecidableEq

/- What is seen of an event, if it is seen. -/
def Event.seen? : Event → Option Seen
| .taken line => some (.taken line)
| .printed output => some (.printed output.channel output.text)
| .prompted _ => none
| .noted _ => none

/- What is seen of a transcript, in the order of time. -/
def Transcript.seen (t : Transcript) : List Seen :=
  t.events.filterMap Event.seen?

namespace Settings

/- What is seen after a line is taken, and what that ends. -/
def reply (settings : Settings) (taken : String) :
    List Seen × Option Ending :=
  ((answer settings taken).1.filterMap Event.seen?,
    (answer settings taken).2)

/- The text that shows the tokens of a line, if it is shown. -/
def shownTokens (settings : Settings) (line : String) :
    Option Seen :=
  if settings.showTokens then
    (tokenize line).toOption.map fun tokens =>
      .printed .answers ("tokens: " ++ Token.listing tokens)
  else
    none

/- The text that shows the tree of a line, if it is shown. -/
def shownTree (settings : Settings) (tree : Tree) :
    Option Seen :=
  if settings.showTree then
    some (.printed .answers ("ast: " ++ tree.written))
  else
    none

------------------------------------------------------------
-- Replies
------------------------------------------------------------

variable (settings : Settings)
variable {taken : String}

/- Nothing is printed for a directive, which is the last. -/
theorem reply_directive
    (hDirective : IsDirective (Text.dropLineEnd taken)) :
    settings.reply taken = ([], some .quit) := by
  rw [← isQuitDirective_iff] at hDirective
  simp [reply, answer, hDirective, reaction, Event.seen?]

/- Nothing is printed for a blank line. -/
theorem reply_blank
    (hDirective : ¬ IsDirective (Text.dropLineEnd taken))
    (hBlank : IsBlank (Text.dropLineEnd taken)) :
    settings.reply taken = ([], none) := by
  rw [← isQuitDirective_iff] at hDirective
  rw [← isBlankLine_iff] at hBlank
  simp [reply, answer, hDirective, hBlank]

/- The notes of the tokens print the text that shows them. -/
theorem seen_tokenNotes (line : String) :
    ((tokenNotes settings line).flatMap
        (reaction settings)).filterMap Event.seen? =
      (settings.shownTokens line).toList := by
  unfold tokenNotes shownTokens
  split
  · cases tokenize line with
    | error e => rfl
    | ok tokens => rfl
  · rfl

/- The tree is shown, if at all, and then the value. -/
theorem seen_notes
    (line : String)
    (tree : Tree)
    (x : Double) :
    (([.parsed line tree, .evaluated x] : List Note).flatMap
        (reaction settings)).filterMap Event.seen? =
      (settings.shownTree tree).toList ++
        [.printed .answers x.result] := by
  unfold shownTree
  simp only [List.flatMap_cons, reaction]
  split <;> rfl

/- The value of an expression is printed. -/
theorem reply_expression
    {tree : Tree}
    {x : Double}
    (hDirective : ¬ IsDirective (Text.dropLineEnd taken))
    (hBlank : ¬ IsBlank (Text.dropLineEnd taken))
    (hParse :
      parse (Text.dropLineEnd taken) settings.bounds =
        .ok tree)
    (hValue : tree.evaluate = .ok x) :
    settings.reply taken =
      ((settings.shownTokens
            (Text.dropLineEnd taken)).toList ++
          ((settings.shownTree tree).toList ++
            [.printed .answers x.result]), none) := by
  rw [← isQuitDirective_iff] at hDirective
  rw [← isBlankLine_iff] at hBlank
  simp only [reply, answer, hDirective, hBlank,
    Bool.false_eq_true, if_false, answerExpression,
    calculation, hParse, hValue, List.flatMap_append,
    List.filterMap_append, seen_tokenNotes, seen_notes]

/- The fault of a faulty line is printed. -/
theorem reply_faulty
    {e : ParseError}
    (hDirective : ¬ IsDirective (Text.dropLineEnd taken))
    (hBlank : ¬ IsBlank (Text.dropLineEnd taken))
    (hParse :
      parse (Text.dropLineEnd taken) settings.bounds =
        .error e) :
    settings.reply taken =
      ((settings.shownTokens
            (Text.dropLineEnd taken)).toList ++
          [.printed .errors
            (e.report (Text.dropLineEnd taken))],
        if settings.stopOnFailure then
          some .failed
        else
          none) := by
  rw [← isQuitDirective_iff] at hDirective
  rw [← isBlankLine_iff] at hBlank
  simp only [reply, answer, hDirective, hBlank,
    Bool.false_eq_true, if_false, answerExpression,
    calculation, hParse, List.append_nil,
    List.filterMap_append, seen_tokenNotes, endingAfter]
  rfl

/- What is seen of a line: that it is taken, and the reply. -/
def exchange (taken : String) : List Seen :=
  .taken taken :: (settings.reply taken).1

end Settings

------------------------------------------------------------
-- Lines in a Transcript
------------------------------------------------------------

namespace Transcript

variable {settings : Settings}
variable {line : String}

/- A line that ends a transcript is the last that is taken. -/
theorem piped_of_last
    {ending : Ending}
    (hLast : (settings.reply line).2 = some ending)
    (rest : List String) :
    (piped settings (line :: rest)).seen =
        settings.exchange line ∧
      (piped settings (line :: rest)).ending = ending := by
  simp only [Settings.reply] at hLast
  unfold piped run
  cases hAnswer : answer settings line with
  | mk events last =>
      rw [hAnswer] at hLast
      cases hLast
      simp [seen, Event.seen?, Settings.exchange,
        Settings.reply, hAnswer]

/- After any other line the transcript goes on. -/
theorem piped_of_more
    (hMore : (settings.reply line).2 = none)
    (rest : List String) :
    (piped settings (line :: rest)).seen =
        settings.exchange line ++
          (piped settings rest).seen ∧
      (piped settings (line :: rest)).ending =
        (piped settings rest).ending := by
  simp only [Settings.reply] at hMore
  unfold piped
  rw [run]
  cases hAnswer : answer settings line with
  | mk events last =>
      rw [hAnswer] at hMore
      cases hMore
      simp [seen, Event.seen?, Settings.exchange,
        Settings.reply, hAnswer, after]

end Transcript

end Calculator
