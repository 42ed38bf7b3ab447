import Mathlib.Data.List.DropRight
import Calculator.Text.Lines

/-
  This file shows that it does not matter which marks end the
  lines of a text, nor whether lines keep them. A carriage
  return takes the line feed of an empty line after it for
  its own, so lines can be lost, but all of them are empty.

  Key definitions include:
    * `LineEnd`
    * `IsLine`
    * `assembled`
    * `fileLines`
    * `filled`
-/

namespace Calculator.Text

------------------------------------------------------------
-- Lines and Line Ends
------------------------------------------------------------

/- The marks that end a line. -/
inductive LineEnd where
| lineFeed : LineEnd
| carriageReturn : LineEnd
| both : LineEnd
deriving DecidableEq, Repr

/- The characters of a mark. -/
def LineEnd.chars : LineEnd → List Char
| .lineFeed => ['\n']
| .carriageReturn => ['\r']
| .both => ['\r', '\n']

/- Characters among which no line ends. -/
def IsUnbroken (cs : List Char) : Prop :=
  ∀ c ∈ cs, isLineEnd c = false

instance (cs : List Char) : Decidable (IsUnbroken cs) :=
  List.decidableBAll (fun c => isLineEnd c = false) cs

/- A line, in which no line ends. -/
def IsLine (line : String) : Prop :=
  IsUnbroken line.toList

instance (line : String) : Decidable (IsLine line) :=
  inferInstanceAs (Decidable (IsUnbroken line.toList))

/- Lines one after another, each with its mark. -/
def endedChars
    (ended : List (String × LineEnd)) : List Char :=
  ended.flatMap fun (line, mark) =>
    line.toList ++ mark.chars

/-
  The text of lines, each with the mark that ends it, and of
  a last line without a mark, if there is one.
-/
def assembled
    (ended : List (String × LineEnd))
    (last : Option String) : String :=
  String.ofList
    (endedChars ended ++ last.elim [] String.toList)

/-
  The lines of the rest of a text as a file gives them: each
  one keeps its line end, which is a line feed, whatever the
  mark is.
-/
def fileLinesFrom :
    List Char → List Char → List (List Char)
| [], [] => []
| line, [] => [line.reverse]
| line, '\r' :: '\n' :: rest =>
    (line.reverse ++ ['\n']) :: fileLinesFrom [] rest
| line, c :: rest =>
    if isLineEnd c then
      (line.reverse ++ ['\n']) :: fileLinesFrom [] rest
    else
      fileLinesFrom (c :: line) rest

/- The lines of a text, with their line ends. -/
def fileLines (text : String) : List String :=
  (fileLinesFrom [] text.toList).map String.ofList

/- What lines hold besides line ends, if it is not empty. -/
def filled (lines : List String) : List String :=
  (lines.map dropLineEnd).filter (· ≠ "")

------------------------------------------------------------
-- Line Ends That Are Dropped
------------------------------------------------------------

variable {line : List Char}

/- Unbroken characters stay so with one more. -/
theorem IsUnbroken.cons
    {c : Char}
    (hLine : IsUnbroken line)
    (hc : ¬ isLineEnd c = true) :
    IsUnbroken (c :: line) :=
  List.forall_mem_cons.mpr
    ⟨eq_false_of_ne_true hc, hLine⟩

/- The order of the characters does not matter. -/
theorem isUnbroken_reverse :
    IsUnbroken line.reverse ↔ IsUnbroken line := by
  simp only [IsUnbroken, List.mem_reverse]

/- What is dropped from a line is dropped from its right. -/
theorem dropLineEnd_eq (line : String) :
    dropLineEnd line =
      String.ofList (line.toList.rdropWhile isLineEnd) :=
  rfl

/- A line is left as it is. -/
theorem dropLineEnd_of_isUnbroken
    (hLine : IsUnbroken line) :
    dropLineEnd (String.ofList line) =
      String.ofList line := by
  rw [dropLineEnd_eq, String.toList_ofList,
    List.rdropWhile_eq_self_iff.mpr]
  intro hSome
  rw [hLine _ (List.getLast_mem hSome)]
  exact Bool.false_ne_true

/- A line feed at the end is dropped. -/
theorem dropLineEnd_lineFeed
    (hLine : IsUnbroken line) :
    dropLineEnd (String.ofList (line ++ ['\n'])) =
      String.ofList line := by
  rw [dropLineEnd_eq, String.toList_ofList,
    List.rdropWhile_concat_pos _ _ _ rfl]
  rw [← dropLineEnd_of_isUnbroken hLine, dropLineEnd_eq,
    String.toList_ofList]

/- What is left has no line end to be dropped. -/
theorem dropLineEnd_dropLineEnd (line : String) :
    dropLineEnd (dropLineEnd line) = dropLineEnd line := by
  rw [dropLineEnd_eq, dropLineEnd_eq, String.toList_ofList,
    List.rdropWhile_idempotent]

------------------------------------------------------------
-- Lines That Keep Their Line Ends
------------------------------------------------------------

/-
  Without the line ends that they keep, the lines are those
  of the text. The induction follows the reading.
-/
theorem map_fileLinesFrom
    (rest : List Char)
    (hLine : IsUnbroken line) :
    (fileLinesFrom line rest).map
        (fun cs => dropLineEnd (String.ofList cs)) =
      (linesFrom line rest).map String.ofList := by
  have hReverse := isUnbroken_reverse.mpr hLine
  have hNil : IsUnbroken [] := by decide
  induction line, rest using linesFrom.induct with
  | case1 => rfl
  | case2 line hSome =>
      rw [linesFrom.eq_2 _ hSome, fileLinesFrom.eq_2 _ hSome,
        List.map_singleton, List.map_singleton,
        dropLineEnd_of_isUnbroken hReverse]
  | case3 line rest ih =>
      rw [linesFrom, fileLinesFrom, List.map_cons,
        List.map_cons, dropLineEnd_lineFeed hReverse,
        ih hNil hNil]
  | case4 line c rest hAlone hEnd ih =>
      rw [linesFrom.eq_4 _ _ _ hAlone,
        fileLinesFrom.eq_4 _ _ _ hAlone, if_pos hEnd,
        if_pos hEnd, List.map_cons, List.map_cons,
        dropLineEnd_lineFeed hReverse, ih hNil hNil]
  | case5 line c rest hAlone hEnd ih =>
      have hCons := hLine.cons hEnd
      rw [linesFrom.eq_4 _ _ _ hAlone,
        fileLinesFrom.eq_4 _ _ _ hAlone, if_neg hEnd,
        if_neg hEnd,
        ih hCons (isUnbroken_reverse.mpr hCons)]

/- No line ends within a line of a text. -/
theorem isUnbroken_of_mem_linesFrom
    {cs : List Char}
    (rest : List Char)
    (hLine : IsUnbroken line)
    (hMem : cs ∈ linesFrom line rest) :
    IsUnbroken cs := by
  have hNil : IsUnbroken [] := by decide
  induction line, rest using linesFrom.induct with
  | case1 => cases hMem
  | case2 line hSome =>
      rw [linesFrom.eq_2 _ hSome, List.mem_singleton] at hMem
      rw [hMem]
      exact isUnbroken_reverse.mpr hLine
  | case3 line rest ih =>
      rw [linesFrom, List.mem_cons] at hMem
      rcases hMem with rfl | hMem
      · exact isUnbroken_reverse.mpr hLine
      · exact ih hNil hMem
  | case4 line c rest hAlone hEnd ih =>
      rw [linesFrom.eq_4 _ _ _ hAlone, if_pos hEnd,
        List.mem_cons] at hMem
      rcases hMem with rfl | hMem
      · exact isUnbroken_reverse.mpr hLine
      · exact ih hNil hMem
  | case5 line c rest hAlone hEnd ih =>
      rw [linesFrom.eq_4 _ _ _ hAlone, if_neg hEnd] at hMem
      exact ih (hLine.cons hEnd) hMem

/- So nothing is dropped from the lines of a text. -/
theorem map_dropLineEnd_lines (text : String) :
    (lines text).map dropLineEnd = lines text := by
  rw [lines, List.map_map]
  refine List.map_congr_left fun cs hMem => ?_
  exact dropLineEnd_of_isUnbroken
    (isUnbroken_of_mem_linesFrom _ (by decide) hMem)

/- It does not matter whether lines keep their line ends. -/
theorem filled_fileLines (text : String) :
    filled (fileLines text) = filled (lines text) := by
  rw [filled, filled, map_dropLineEnd_lines, fileLines,
    List.map_map]
  congr 1
  exact map_fileLinesFrom _ (by decide)

------------------------------------------------------------
-- Lines That Are Put Together
------------------------------------------------------------

/- Where no line ends, all characters join the line. -/
theorem linesFrom_append
    (hLine : IsUnbroken line)
    (start rest : List Char) :
    linesFrom start (line ++ rest) =
      linesFrom (line.reverse ++ start) rest := by
  induction line generalizing start with
  | nil => rfl
  | cons c line ih =>
      rcases List.forall_mem_cons.mp hLine with ⟨hc, hLine⟩
      have hAlone :
          ∀ rest', c = '\r' → line ++ rest = '\n' :: rest' →
            False := by
        rintro _ rfl
        cases hc
      rw [List.cons_append, linesFrom.eq_4 _ _ _ hAlone, hc,
        if_neg Bool.false_ne_true, ih hLine,
        List.reverse_cons, List.append_assoc,
        List.singleton_append]

/- A line end ends a line, unless it is a part of one. -/
theorem linesFrom_lineEnd
    {c : Char}
    {rest : List Char}
    (hEnd : isLineEnd c = true)
    (hAlone :
      ∀ rest', c = '\r' → rest = '\n' :: rest' → False)
    (line : List Char) :
    linesFrom line (c :: rest) =
      line.reverse :: linesFrom [] rest := by
  rw [linesFrom.eq_4 _ _ _ hAlone, if_pos hEnd]

/- A line feed always ends a line. -/
theorem linesFrom_lineFeed (line rest : List Char) :
    linesFrom line ('\n' :: rest) =
      line.reverse :: linesFrom [] rest :=
  linesFrom_lineEnd rfl (fun _ hc => absurd hc (by decide)) _

/- The lines that are not empty. -/
def nonempty (lines : List (List Char)) :
    List (List Char) :=
  lines.filter (· ≠ [])

/- Lines are empty or not whatever is around them. -/
theorem nonempty_append (front back : List (List Char)) :
    nonempty (front ++ back) =
      nonempty front ++ nonempty back :=
  List.filter_append ..

/- So it is with the first line. -/
theorem nonempty_cons
    (line : List Char)
    (back : List (List Char)) :
    nonempty (line :: back) =
      nonempty [line] ++ nonempty back :=
  nonempty_append [line] back

/-
  A mark ends a line. Only a carriage return can miss the
  line after it, which is empty then.
-/
theorem nonempty_linesFrom_mark
    (mark : LineEnd)
    (line rest : List Char) :
    nonempty (linesFrom line (mark.chars ++ rest)) =
      nonempty (line.reverse :: linesFrom [] rest) := by
  cases mark with
  | lineFeed =>
      rw [LineEnd.chars, List.singleton_append,
        linesFrom_lineFeed]
  | both =>
      rw [LineEnd.chars, List.cons_append,
        List.singleton_append, linesFrom]
  | carriageReturn =>
      rw [LineEnd.chars, List.singleton_append]
      by_cases hFeed : ∃ rest', rest = '\n' :: rest'
      · rcases hFeed with ⟨rest', rfl⟩
        rw [linesFrom, linesFrom_lineFeed, nonempty_cons,
          nonempty_cons _ (_ :: _)]
        rfl
      · rw [linesFrom_lineEnd rfl]
        intro rest' _ hRest
        exact hFeed ⟨rest', hRest⟩

/-
  The lines of a text are those that it is put together from,
  but for empty ones. The induction is on the lines that have
  a mark.
-/
theorem nonempty_linesFrom_endedChars
    {ended : List (String × LineEnd)}
    (hEnded : ∀ line ∈ ended.map Prod.fst, IsLine line)
    (rest : List Char) :
    nonempty (linesFrom [] (endedChars ended ++ rest)) =
      nonempty
        ((ended.map Prod.fst).map String.toList ++
          linesFrom [] rest) := by
  induction ended with
  | nil => rfl
  | cons first ended ih =>
      rcases first with ⟨line, mark⟩
      rw [List.map_cons, List.forall_mem_cons] at hEnded
      rw [endedChars, List.flatMap_cons, ← endedChars,
        List.append_assoc, List.append_assoc,
        linesFrom_append hEnded.1, nonempty_linesFrom_mark,
        List.append_nil, List.reverse_reverse,
        nonempty_cons, ih hEnded.2, ← nonempty_append]
      rfl

/- A last line without a mark is a line too. -/
theorem nonempty_linesFrom_last
    {last : Option String}
    (hLast : ∀ line ∈ last.toList, IsLine line) :
    nonempty
        (linesFrom [] (last.elim [] String.toList)) =
      nonempty (last.toList.map String.toList) := by
  cases last with
  | none => rfl
  | some line =>
      have hLine : IsUnbroken line.toList :=
        hLast line (List.mem_singleton_self line)
      have hFrom := linesFrom_append hLine [] []
      rw [List.append_nil, List.append_nil] at hFrom
      rw [Option.elim_some, hFrom, Option.toList_some,
        List.map_singleton]
      by_cases hEmpty : line.toList = []
      · rw [hEmpty]
        rfl
      · rw [linesFrom.eq_2 _ (by simpa using hEmpty),
          List.reverse_reverse]

/- Lines that are not empty have characters. -/
theorem filter_map_ofList (lines : List (List Char)) :
    (lines.map String.ofList).filter (· ≠ "") =
      (nonempty lines).map String.ofList := by
  rw [nonempty, List.filter_map]
  congr 1
  refine List.filter_congr fun cs _ => ?_
  exact decide_eq_decide.mpr
    (not_congr String.ofList_eq_empty_iff)

/- From lines, which have no line ends, nothing is dropped. -/
theorem filled_of_isLine
    {lines : List String}
    (hLines : ∀ line ∈ lines, IsLine line) :
    filled lines = lines.filter (· ≠ "") := by
  rw [filled, List.map_congr_left, List.map_id]
  intro line hMem
  have hDrop := dropLineEnd_of_isUnbroken (hLines line hMem)
  rwa [String.ofList_toList] at hDrop

/- The marks do not matter to the lines that are filled. -/
theorem filled_lines_assembled
    {ended : List (String × LineEnd)}
    {last : Option String}
    (hLines :
      ∀ line ∈ ended.map Prod.fst ++ last.toList,
        IsLine line) :
    filled (lines (assembled ended last)) =
      filled (ended.map Prod.fst ++ last.toList) := by
  rw [filled_of_isLine hLines, filled, map_dropLineEnd_lines]
  rw [List.forall_mem_append] at hLines
  have hSame : String.ofList ∘ String.toList = id :=
    funext fun line => String.ofList_toList
  rw [lines, assembled, String.toList_ofList,
    filter_map_ofList,
    nonempty_linesFrom_endedChars hLines.1,
    nonempty_append, nonempty_linesFrom_last hLines.2,
    ← nonempty_append, ← List.map_append,
    ← filter_map_ofList, List.map_map, hSame, List.map_id]

end Calculator.Text
