import Calculator.Decimal.Numeral

/-
  This file shows that the scan for a numeral finds the
  well-formed numerals: every numeral that it completes is
  one, and it completes every one of them, whatever stands
  after it that does not continue it.

  Key definitions include:
    * `ExponentPart.IsWellFormed`
    * `Numeral.IsWellFormed`
    * `Numeral.continues`
-/

namespace Calculator

open Text (isDigit)

------------------------------------------------------------
-- Well-Formed Numerals
------------------------------------------------------------

/- Characters that are all digits. -/
def Text.AllDigits (cs : List Char) : Prop :=
  ∀ c ∈ cs, isDigit c = true

open Text (AllDigits)

/-
  The parts of an exponent are what they are called, and it
  has a digit.
-/
structure ExponentPart.IsWellFormed (e : ExponentPart) :
    Prop where
  marker : Numeral.isExponentMarker e.marker = true
  sign : ∀ c ∈ e.sign, c = '+' ∨ c = '-'
  digits : AllDigits e.digits
  digits_ne_nil : e.digits ≠ []

namespace Numeral

/-
  The parts of a numeral are what they are called, and it
  starts with a digit.
-/
structure IsWellFormed (n : Numeral) : Prop where
  whole : AllDigits n.whole
  whole_ne_nil : n.whole ≠ []
  fraction : ∀ digits ∈ n.fraction, AllDigits digits
  exponent : ∀ e ∈ n.exponent, e.IsWellFormed

/- The characters that may continue a numeral. -/
def continues (c : Char) : Bool :=
  isDigit c || c == '.' || isExponentMarker c

/- Characters after a numeral that do not continue it. -/
def StopsAt (after : List Char) : Prop :=
  ∀ c ∈ after.head?, continues c = false

------------------------------------------------------------
-- Runs of Digits
------------------------------------------------------------

/- The digits that a text starts with are digits. -/
theorem allDigits_takeWhile (cs : List Char) :
    AllDigits (cs.takeWhile isDigit) :=
  fun c hc => List.all_eq_true.mp List.all_takeWhile c hc

/- A run of digits ends where another character stands. -/
theorem takeWhile_digits_append
    {digits after : List Char}
    (hDigits : AllDigits digits)
    (hAfter : ∀ c ∈ after.head?, isDigit c = false) :
    (digits ++ after).takeWhile isDigit = digits := by
  rw [List.takeWhile_append_of_pos hDigits]
  cases after with
  | nil => simp
  | cons c cs =>
      have hc := hAfter c rfl
      simp [hc]

/- What follows a run of digits is left. -/
theorem dropWhile_digits_append
    {digits after : List Char}
    (hDigits : AllDigits digits)
    (hAfter : ∀ c ∈ after.head?, isDigit c = false) :
    (digits ++ after).dropWhile isDigit = after := by
  rw [List.dropWhile_append_of_pos hDigits]
  cases after with
  | nil => rfl
  | cons c cs =>
      have hc := hAfter c rfl
      simp [hc]

------------------------------------------------------------
-- Completed Scans
------------------------------------------------------------

/- What is found of a fraction are digits. -/
theorem allDigits_scanFraction (cs : List Char) :
    ∀ digits ∈ (scanFraction cs).1, AllDigits digits := by
  intro digits hDigits
  unfold scanFraction at hDigits
  split at hDigits
  · rename_i rest
    simp only [Option.mem_some_iff] at hDigits
    subst hDigits
    exact allDigits_takeWhile rest
  · cases hDigits

/- What is found of a sign is a sign. -/
theorem scanSign_isSign (cs : List Char) :
    ∀ c ∈ (scanSign cs).1, c = '+' ∨ c = '-' := by
  intro c hc
  unfold scanSign at hc
  split at hc
  · left
    exact (Option.mem_some_iff.mp hc).symm
  · right
    exact (Option.mem_some_iff.mp hc).symm
  · cases hc

/- A completed scan has found a well-formed numeral. -/
theorem isWellFormed_of_scanExponent
    {whole cs rest : List Char}
    {fraction : Option (List Char)}
    {n : Numeral}
    (hWhole : AllDigits whole)
    (hNe : whole ≠ [])
    (hFraction : ∀ digits ∈ fraction, AllDigits digits)
    (hScan :
      scanExponent whole fraction cs = .complete n rest) :
    n.IsWellFormed := by
  have hPlain :
      IsWellFormed ⟨whole, fraction, none⟩ :=
    ⟨hWhole, hNe, hFraction, fun _ he => nomatch he⟩
  cases cs with
  | nil =>
      cases hScan
      exact hPlain
  | cons c cs =>
      simp only [scanExponent] at hScan
      split at hScan
      · rename_i hMarker
        split at hScan
        · cases hScan
        · rename_i hDigits
          cases hScan
          refine ⟨hWhole, hNe, hFraction, ?_⟩
          intro e he
          cases he
          exact ⟨hMarker, scanSign_isSign cs,
            allDigits_takeWhile _, hDigits⟩
      · cases hScan
        exact hPlain

/- A scan that starts at a digit finds no other numerals. -/
theorem isWellFormed_of_scan
    {c : Char}
    {cs rest : List Char}
    {n : Numeral}
    (hDigit : isDigit c = true)
    (hScan : scan (c :: cs) = .complete n rest) :
    n.IsWellFormed := by
  refine isWellFormed_of_scanExponent
    (allDigits_takeWhile (c :: cs)) ?_
    (allDigits_scanFraction _) hScan
  simp [hDigit]

------------------------------------------------------------
-- Completeness of the Scan
------------------------------------------------------------

/- The characters that announce the later parts. -/
theorem not_digit_of_marker
    {c : Char}
    (hMarker : isExponentMarker c = true) :
    isDigit c = false ∧ c ≠ '.' := by
  simp only [isExponentMarker, Bool.or_eq_true,
    beq_iff_eq] at hMarker
  rcases hMarker with rfl | rfl
  · exact ⟨rfl, by decide⟩
  · exact ⟨rfl, by decide⟩

/- Nothing that continues a numeral stands after it. -/
theorem StopsAt.not_continues
    {after : List Char}
    (hStop : StopsAt after)
    {c : Char}
    (hc : c ∈ after.head?) :
    isDigit c = false ∧ c ≠ '.' ∧
      isExponentMarker c = false := by
  have hContinues := hStop c hc
  simpa [continues, Bool.or_eq_false_iff, and_assoc]
    using hContinues

/- The sign of an exponent is found before its digits. -/
theorem scanSign_append_digits
    {e : ExponentPart}
    (he : e.IsWellFormed)
    (after : List Char) :
    scanSign (e.sign.toList ++ (e.digits ++ after)) =
      (e.sign, e.digits ++ after) := by
  cases hSign : e.sign with
  | none =>
      cases hDigits : e.digits with
      | nil => exact absurd hDigits he.digits_ne_nil
      | cons d digits =>
          have hDigit : isDigit d = true :=
            he.digits d (by simp [hDigits])
          simp only [Option.toList_none, List.nil_append,
            List.cons_append]
          unfold scanSign
          split
          · rename_i heq
            cases heq
            cases hDigit
          · rename_i heq
            cases heq
            cases hDigit
          · rfl
  | some c =>
      rcases he.sign c hSign with rfl | rfl <;> rfl

/- An exponent that follows is found. -/
theorem scanExponent_chars
    (whole : List Char)
    (fraction : Option (List Char))
    {exponent : Option ExponentPart}
    {after : List Char}
    (hExponent : ∀ e ∈ exponent, e.IsWellFormed)
    (hStop : StopsAt after) :
    scanExponent whole fraction
        (exponentChars exponent ++ after) =
      .complete ⟨whole, fraction, exponent⟩ after := by
  cases exponent with
  | none =>
      cases after with
      | nil => rfl
      | cons c cs =>
          have hc := (hStop.not_continues rfl).2.2
          simp [exponentChars, scanExponent, hc]
  | some e =>
      have he := hExponent e rfl
      have hAfter :
          ∀ c ∈ after.head?, isDigit c = false :=
        fun c hc => (hStop.not_continues hc).1
      have hTake :=
        takeWhile_digits_append he.digits hAfter
      have hDrop :=
        dropWhile_digits_append he.digits hAfter
      simp only [exponentChars, ExponentPart.chars,
        List.cons_append, List.append_assoc, scanExponent,
        he.marker, if_true, scanSign_append_digits he, hTake,
        hDrop, he.digits_ne_nil, if_false]

/- A fraction that follows is found. -/
theorem scanFraction_chars
    {fraction : Option (List Char)}
    {after : List Char}
    (hFraction : ∀ digits ∈ fraction, AllDigits digits)
    (hAfter :
      ∀ c ∈ after.head?, isDigit c = false ∧ c ≠ '.') :
    scanFraction (fractionChars fraction ++ after) =
      (fraction, after) := by
  cases fraction with
  | none =>
      simp only [fractionChars, List.nil_append]
      unfold scanFraction
      split
      · exact absurd rfl (hAfter '.' rfl).2
      · rfl
  | some digits =>
      have hDigits := hFraction digits rfl
      have hNot :
          ∀ c ∈ after.head?, isDigit c = false :=
        fun c hc => (hAfter c hc).1
      simp only [fractionChars, List.cons_append,
        scanFraction,
        takeWhile_digits_append hDigits hNot,
        dropWhile_digits_append hDigits hNot]

/-
  A well-formed numeral is found whole, unless what stands
  after it continues it.
-/
theorem scan_chars_append
    {n : Numeral}
    {after : List Char}
    (hn : n.IsWellFormed)
    (hStop : StopsAt after) :
    scan (n.chars ++ after) = .complete n after := by
  have hExponent :
      ∀ c ∈ (exponentChars n.exponent ++ after).head?,
        isDigit c = false ∧ c ≠ '.' := by
    intro c hc
    cases he : n.exponent with
    | none =>
        rw [he] at hc
        have hNot := hStop.not_continues hc
        exact ⟨hNot.1, hNot.2.1⟩
    | some e =>
        rw [he] at hc
        cases hc
        exact not_digit_of_marker (hn.exponent e he).marker
  have hFraction :
      ∀ c ∈ (fractionChars n.fraction ++
          (exponentChars n.exponent ++ after)).head?,
        isDigit c = false := by
    intro c hc
    cases hf : n.fraction with
    | none =>
        rw [hf] at hc
        exact (hExponent c hc).1
    | some digits =>
        rw [hf] at hc
        cases hc
        rfl
  simp only [scan, chars, List.append_assoc,
    takeWhile_digits_append hn.whole hFraction,
    dropWhile_digits_append hn.whole hFraction,
    scanFraction_chars hn.fraction hExponent,
    scanExponent_chars n.whole n.fraction hn.exponent hStop]

/- A well-formed numeral is read from its own characters. -/
theorem ofText?_chars
    {n : Numeral}
    (hn : n.IsWellFormed) :
    ofText? (String.ofList n.chars) = some n := by
  have hStop : StopsAt [] := fun c hc => nomatch hc
  have hScan := scan_chars_append hn hStop
  rw [List.append_nil] at hScan
  simp only [ofText?, String.toList_ofList, hScan,
    hn.whole_ne_nil, if_false]

end Numeral

end Calculator
