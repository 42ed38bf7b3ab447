import Calculator.Excerpt

/-
  This file shows what an excerpt of a text is: the part of
  the text around a place, a mark on each side where the text
  goes on, and a caret under that place.

  Key definitions include:
    * `Excerpt.markFor`
    * `Excerpt.marked`
    * `Excerpt.IsWindow`
    * `Excerpt.IsColumn`
-/

namespace Calculator.Excerpt

variable {text : List Char}
variable {index reach : Nat}

------------------------------------------------------------
-- Windows
------------------------------------------------------------

/- The mark in the place of characters that are left out. -/
def markFor (leftOut : List Char) : List Char :=
  if leftOut = [] then [] else ellipsis

/- What is shown, with a mark where the text goes on. -/
def marked (before shown after : List Char) : List Char :=
  markFor before ++ shown ++ markFor after

/-
  A window cuts a text in three. What is shown reaches a
  number of characters to each side of an index, as far as
  there are so many.
-/
structure IsWindow
    (text : List Char)
    (index reach : Nat)
    (before shown after : List Char) : Prop where
  whole : before ++ shown ++ after = text
  start : (before.length : Int) = max 0 ((index : Int) - reach)
  stop :
    before.length + shown.length =
      min text.length (index + reach)

/-
  A column of the marked window points at an index of the
  text: at the character there, as one of those that are
  shown, or behind all else if the text ends there.
-/
structure IsColumn
    (text : List Char)
    (index : Nat)
    (before shown after : List Char)
    (column : Nat) : Prop where
  inside :
    ∀ c,
      text[index]? = some c →
        (marked before shown after)[column]? = some c ∧
          ∃ k,
            shown[k]? = some c ∧
              column = (markFor before).length + k
  atEnd :
    index = text.length →
      column = (marked before shown after).length

/- Marks are short. -/
theorem length_markFor_le (leftOut : List Char) :
    (markFor leftOut).length ≤ 3 := by
  unfold markFor
  split
  · exact Nat.zero_le 3
  · exact Nat.le_refl 3

/- A mark is put where there is something to leave out. -/
theorem if_eq_markFor
    {leftOut : List Char}
    {cut : Prop}
    [Decidable cut]
    (hCut : cut ↔ 0 < leftOut.length) :
    (if decide cut = true then ellipsis else []) =
      markFor leftOut := by
  simp only [decide_eq_true_eq, hCut, markFor]
  cases leftOut <;> rfl

/- What is shown reaches no further than to both sides. -/
theorem IsWindow.length_marked_le
    {before shown after : List Char}
    (hWindow : IsWindow text index reach before shown after) :
    (marked before shown after).length ≤ 2 * reach + 6 := by
  have hStart := hWindow.start
  have hStop := hWindow.stop
  have hBefore := length_markFor_le before
  have hAfter := length_markFor_le after
  simp only [marked, List.length_append]
  omega

/-
  The column of an index is as far behind the mark as the
  index is behind the start of the window.
-/
theorem IsWindow.isColumn
    {before shown after : List Char}
    (hWindow : IsWindow text index reach before shown after)
    (hReach : 1 ≤ reach) :
    IsColumn text index before shown after
      (index - before.length + (markFor before).length) := by
  have hStart := hWindow.start
  have hStop := hWindow.stop
  have hWhole := hWindow.whole
  constructor
  · intro c hc
    have hInside := (List.getElem?_eq_some_iff.mp hc).1
    have hShown : shown[index - before.length]? = some c := by
      rw [← hc, ← hWhole, List.append_assoc,
        List.getElem?_append_right (by omega),
        List.getElem?_append_left (by omega)]
    refine ⟨?_, _, hShown, Nat.add_comm _ _⟩
    rw [marked, List.append_assoc, Nat.add_comm,
      List.getElem?_append_right (Nat.le_add_right _ _),
      Nat.add_sub_cancel_left,
      List.getElem?_append_left (by omega)]
    exact hShown
  · intro hEnd
    have hLength := congrArg List.length hWhole
    simp only [List.length_append] at hLength
    have hAfter : after = [] :=
      List.eq_nil_of_length_eq_zero (by omega)
    have hMark : markFor after = [] := if_pos hAfter
    rw [marked, hMark, List.append_nil, List.length_append]
    omega

------------------------------------------------------------
-- Excerpts
------------------------------------------------------------

/-
  The excerpt of a text at an index that is not past its end
  is a window, one line feed, and a caret line.
-/
theorem exists_isWindow_pointAt
    (text : String)
    (index reach : Nat)
    (hIndex : index ≤ text.length) :
    ∃ before shown after,
      IsWindow text.toList index reach before shown after ∧
        (pointAt text index reach).toList =
          marked before shown after ++
            '\n' ::
              (List.replicate
                  (index - before.length +
                    (markFor before).length) ' ' ++
                ['^']) := by
  rw [← String.length_toList] at hIndex
  generalize hChars : text.toList = chars at hIndex
  generalize hStart : index - reach = start
  generalize hStop : min chars.length (index + reach) = stop
  have hOrder : start + (stop - start) = stop := by omega
  have hBefore : (chars.take start).length = start := by
    rw [List.length_take]
    omega
  have hAfter :
      (chars.drop stop).length = chars.length - stop :=
    List.length_drop
  refine ⟨chars.take start,
    (chars.drop start).take (stop - start),
    chars.drop stop, ?_, ?_⟩
  · constructor
    case whole =>
        rw [← List.take_add, hOrder, List.take_append_drop]
    case start => omega
    case stop =>
        rw [hBefore, List.length_take, List.length_drop]
        omega
  · have hCutBefore :
        0 < start ↔ 0 < (chars.take start).length := by
      rw [hBefore]
    have hCutAfter :
        stop < chars.length ↔
          0 < (chars.drop stop).length := by
      omega
    have hIndent :
        (if decide (0 < start) = true then ellipsis.length
          else 0) =
          (markFor (chars.take start)).length := by
      rw [← if_eq_markFor hCutBefore, apply_ite List.length]
      rfl
    rw [pointAt, String.toList_ofList, hChars]
    simp only [Window.around, Window.line, Window.caretLine,
      Window.caretColumn, hStart, hStop,
      if_eq_markFor hCutBefore, if_eq_markFor hCutAfter,
      hIndent, hBefore]
    rfl

end Calculator.Excerpt
