import Calculator.Proofs.Lexing.Numeral

/-
  This file shows that the scan for a numeral never has to
  give anything back: what it completes is the longest
  numeral that the text starts with, and where it breaks, the
  longest one is what it has read before the exponent.

  Key definitions include:
    * `Numeral.plain`
    * `Numeral.afterPlain`
-/

namespace Calculator

open Text (isDigit AllDigits)

namespace Numeral

------------------------------------------------------------
-- Numerals without an Exponent
------------------------------------------------------------

/- The digits and the fraction that a text starts with. -/
def plain (cs : List Char) : Numeral :=
  ⟨cs.takeWhile isDigit,
    (scanFraction (cs.dropWhile isDigit)).1, none⟩

/- What follows the digits and the fraction. -/
def afterPlain (cs : List Char) : List Char :=
  (scanFraction (cs.dropWhile isDigit)).2

/- A scan looks for an exponent after the plain numeral. -/
theorem scan_eq_scanExponent (cs : List Char) :
    scan cs =
      scanExponent (plain cs).whole (plain cs).fraction
        (afterPlain cs) :=
  rfl

/- The plain numeral and what follows it are the text. -/
theorem chars_plain_append (cs : List Char) :
    (plain cs).chars ++ afterPlain cs = cs := by
  have hFraction :=
    scanFraction_append (cs.dropWhile isDigit)
  simp only [plain, afterPlain, chars, exponentChars,
    List.append_nil, List.append_assoc, hFraction,
    List.takeWhile_append_dropWhile]

/- The plain numeral at a digit is well formed. -/
theorem isWellFormed_plain
    {c : Char}
    (hDigit : isDigit c = true)
    (cs : List Char) :
    (plain (c :: cs)).IsWellFormed := by
  constructor
  · exact allDigits_takeWhile (c :: cs)
  · simp [plain, hDigit]
  · exact allDigits_scanFraction _
  · intro e he
    cases he

/- The length of a numeral is that of its parts. -/
theorem length_chars (n : Numeral) :
    n.chars.length =
      n.whole.length + (fractionChars n.fraction).length +
        (exponentChars n.exponent).length := by
  simp only [chars, List.length_append]

/- No numeral without an exponent is longer than the plain. -/
theorem length_le_plain
    {n : Numeral}
    (hn : n.IsWellFormed)
    (hExponent : n.exponent = none)
    (rest : List Char) :
    n.chars.length ≤
      (plain (n.chars ++ rest)).chars.length := by
  rcases n with ⟨whole, fraction, exponent⟩
  simp only at hExponent
  subst hExponent
  have hWhole : AllDigits whole := hn.whole
  cases fraction with
  | none =>
      simp only [plain, chars, fractionChars, exponentChars,
        List.append_nil,
        List.takeWhile_append_of_pos hWhole,
        List.length_append]
      omega
  | some digits =>
      have hDigits : AllDigits digits :=
        hn.fraction digits rfl
      have hPoint : isDigit '.' = false := rfl
      simp only [plain, chars, fractionChars, exponentChars,
        List.append_nil, List.append_assoc,
        List.cons_append,
        List.takeWhile_append_of_pos hWhole,
        List.dropWhile_append_of_pos hWhole,
        List.takeWhile_cons, List.dropWhile_cons, hPoint,
        Bool.false_eq_true, if_false, scanFraction,
        List.takeWhile_append_of_pos hDigits,
        List.length_append, List.length_cons]
      omega

------------------------------------------------------------
-- Numerals with an Exponent
------------------------------------------------------------

/-
  A scan completes every exponent with a digit that follows
  the plain numeral, and takes in all digits after it.
-/
theorem scan_chars_append_of_exponent
    {n : Numeral}
    {e : ExponentPart}
    {rest : List Char}
    (hn : n.IsWellFormed)
    (hExponent : n.exponent = some e) :
    scan (n.chars ++ rest) =
      .complete
        ⟨n.whole, n.fraction,
          some ⟨e.marker, e.sign,
            e.digits ++ rest.takeWhile isDigit⟩⟩
        (rest.dropWhile isDigit) := by
  have he : e.IsWellFormed := hn.exponent e hExponent
  have hMarker := not_digit_of_marker he.marker
  have hAfter :
      ∀ c ∈ (e.chars ++ rest).head?,
        isDigit c = false ∧ c ≠ '.' := by
    intro c hc
    cases hc
    exact hMarker
  have hWhole :
      ∀ c ∈ (fractionChars n.fraction ++
          (e.chars ++ rest)).head?,
        isDigit c = false := by
    intro c hc
    cases hFraction : n.fraction with
    | none =>
        rw [hFraction] at hc
        exact (hAfter c hc).1
    | some digits =>
        rw [hFraction] at hc
        cases hc
        rfl
  have hSome :
      e.digits ++ rest.takeWhile isDigit ≠ [] := by
    simp [he.digits_ne_nil]
  have hScan :
      scan (n.chars ++ rest) =
        scanExponent n.whole n.fraction
          (e.chars ++ rest) := by
    simp only [scan, chars, hExponent, exponentChars,
      List.append_assoc,
      takeWhile_digits_append hn.whole hWhole,
      dropWhile_digits_append hn.whole hWhole,
      scanFraction_chars hn.fraction hAfter]
  rw [hScan]
  simp only [ExponentPart.chars, List.cons_append,
    List.append_assoc, scanExponent, he.marker, if_true,
    scanSign_append_digits he,
    List.takeWhile_append_of_pos he.digits,
    List.dropWhile_append_of_pos he.digits, hSome, if_false]

------------------------------------------------------------
-- Longest Numerals
------------------------------------------------------------

/- A completed scan has taken in the plain numeral. -/
theorem plain_of_scan
    {cs rest : List Char}
    {n : Numeral}
    (hScan : scan cs = .complete n rest) :
    n.whole = (plain cs).whole ∧
      n.fraction = (plain cs).fraction := by
  rw [scan_eq_scanExponent] at hScan
  cases hAfter : afterPlain cs with
  | nil =>
      rw [hAfter] at hScan
      cases hScan
      exact ⟨rfl, rfl⟩
  | cons c after =>
      rw [hAfter] at hScan
      simp only [scanExponent] at hScan
      split at hScan
      · split at hScan
        · cases hScan
        · cases hScan
          exact ⟨rfl, rfl⟩
      · cases hScan
        exact ⟨rfl, rfl⟩

/-
  A completed scan without an exponent stands at no letter
  that announces one.
-/
theorem not_marker_of_scan
    {cs rest : List Char}
    {n : Numeral}
    (hScan : scan cs = .complete n rest)
    (hExponent : n.exponent = none) :
    ∀ c ∈ rest.head?, isExponentMarker c = false := by
  rw [scan_eq_scanExponent] at hScan
  cases hAfter : afterPlain cs with
  | nil =>
      rw [hAfter] at hScan
      cases hScan
      intro c hc
      cases hc
  | cons c after =>
      rw [hAfter] at hScan
      simp only [scanExponent] at hScan
      split at hScan
      · split at hScan
        · cases hScan
        · cases hScan
          cases hExponent
      · rename_i hMarker
        cases hScan
        intro d hd
        cases hd
        exact Bool.not_eq_true _ ▸ hMarker

/- Where a run of digits ends, no digit stands. -/
theorem not_digit_of_dropWhile (cs : List Char) :
    ∀ c ∈ (cs.dropWhile isDigit).head?,
      isDigit c = false := by
  intro c hc
  have hHead := List.head?_dropWhile_not isDigit cs
  rw [Option.mem_def.mp hc] at hHead
  exact hHead

/- No digit stands after the plain numeral. -/
theorem not_digit_of_afterPlain (cs : List Char) :
    ∀ c ∈ (afterPlain cs).head?, isDigit c = false := by
  unfold afterPlain scanFraction
  split
  · exact not_digit_of_dropWhile _
  · exact not_digit_of_dropWhile cs

/- A completed scan has taken in all digits it came to. -/
theorem not_digit_of_scan
    {cs rest : List Char}
    {n : Numeral}
    (hScan : scan cs = .complete n rest) :
    ∀ c ∈ rest.head?, isDigit c = false := by
  have hPlain := not_digit_of_afterPlain cs
  rw [scan_eq_scanExponent] at hScan
  cases hAfter : afterPlain cs with
  | nil =>
      rw [hAfter] at hScan
      cases hScan
      exact nofun
  | cons c after =>
      rw [hAfter] at hScan hPlain
      simp only [scanExponent] at hScan
      split at hScan
      · split at hScan
        · cases hScan
        · cases hScan
          exact not_digit_of_dropWhile _
      · cases hScan
        exact hPlain

/-
  A scan breaks after a letter that announces an exponent
  and an optional sign, where no digit stands.
-/
theorem exists_of_scan_broken
    {cs read rest : List Char}
    (hScan : scan cs = .broken read rest) :
    ∃ c after,
      afterPlain cs = c :: after ∧
        isExponentMarker c = true ∧
        (scanSign after).2 = rest ∧
        read =
          (plain cs).chars ++
            c :: (scanSign after).1.toList := by
  rw [scan_eq_scanExponent] at hScan
  cases hAfter : afterPlain cs with
  | nil =>
      rw [hAfter] at hScan
      cases hScan
  | cons c after =>
      rw [hAfter] at hScan
      simp only [scanExponent] at hScan
      split at hScan
      · rename_i hMarker
        split at hScan
        · cases hScan
          refine ⟨c, after, rfl, hMarker, rfl, ?_⟩
          simp [chars, plain, exponentChars]
        · cases hScan
      · cases hScan

/- No numeral is longer than the one that is completed. -/
theorem length_le_of_scan
    {n m : Numeral}
    {cs rest : List Char}
    (hm : m.IsWellFormed)
    (hPrefix : m.chars <+: cs)
    (hScan : scan cs = .complete n rest) :
    m.chars.length ≤ n.chars.length := by
  rcases hPrefix with ⟨after, rfl⟩
  cases hExponent : m.exponent with
  | none =>
      have hLength := length_le_plain hm hExponent after
      rcases plain_of_scan hScan with ⟨hWhole, hFraction⟩
      rw [length_chars (plain _), ← hWhole, ← hFraction,
        show (plain (m.chars ++ after)).exponent = none
          from rfl] at hLength
      rw [length_chars n]
      simp only [exponentChars, List.length_nil] at hLength
      omega
  | some e =>
      rw [scan_chars_append_of_exponent hm hExponent]
        at hScan
      cases hScan
      simp only [length_chars, hExponent, exponentChars,
        ExponentPart.chars, List.length_cons,
        List.length_append]
      omega

/- Where a scan breaks, the plain numeral is the longest. -/
theorem length_le_of_scan_broken
    {m : Numeral}
    {cs read rest : List Char}
    (hm : m.IsWellFormed)
    (hPrefix : m.chars <+: cs)
    (hScan : scan cs = .broken read rest) :
    m.chars.length ≤ (plain cs).chars.length := by
  rcases hPrefix with ⟨after, rfl⟩
  cases hExponent : m.exponent with
  | none => exact length_le_plain hm hExponent after
  | some e =>
      rw [scan_chars_append_of_exponent hm hExponent]
        at hScan
      cases hScan

end Numeral

end Calculator
