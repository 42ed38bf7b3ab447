import Calculator.Proofs.Calculation.Results
import Calculator.Proofs.Transcript.Replies

/-
  This file shows that the settings of a transcript do not
  interfere. Tokens and trees that are shown add their texts
  and change nothing else, and to stop at a failure only cuts
  the transcript off after it.

  Key definitions include:
    * `Seen.shows`
    * `Seen.isShown`
    * `Seen.isError`
    * `Seen.upToError`
    * `Settings.plain`
    * `Settings.stopping`
-/

namespace Calculator

------------------------------------------------------------
-- Texts That Show Something
------------------------------------------------------------

namespace Seen

/- A text among the answers starts with a label. -/
def shows (label : String) : Seen → Bool
| .printed .answers text =>
    label.toList.isPrefixOf text.toList
| _ => false

/- A text that shows tokens or a tree. -/
def isShown (s : Seen) : Bool :=
  s.shows "tokens: " || s.shows "ast: "

/- A text among the errors. -/
def isError : Seen → Bool
| .printed .errors _ => true
| _ => false

/- What is seen up to the first error, and that error. -/
def upToError : List Seen → List Seen
| [] => []
| s :: rest =>
    if s.isError then [s] else s :: upToError rest

/- Where there is no error, all that is seen is kept. -/
theorem upToError_append
    {before : List Seen}
    (hBefore : ∀ s ∈ before, s.isError = false)
    (rest : List Seen) :
    upToError (before ++ rest) =
      before ++ upToError rest := by
  induction before with
  | nil => rfl
  | cons s before ih =>
      simp only [List.forall_mem_cons] at hBefore
      rw [List.cons_append, upToError, hBefore.1,
        if_neg Bool.false_ne_true, ih hBefore.2,
        List.cons_append]

/- Without errors nothing is cut off. -/
theorem upToError_eq_self
    {texts : List Seen}
    (hTexts : ∀ s ∈ texts, s.isError = false) :
    upToError texts = texts := by
  have hAppend := upToError_append hTexts []
  rwa [List.append_nil, upToError, List.append_nil] at hAppend

/- Nor is there an error to be found. -/
theorem any_isError
    {texts : List Seen}
    (hTexts : ∀ s ∈ texts, s.isError = false) :
    texts.any isError = false := by
  rw [List.any_eq_false]
  intro s hs
  rw [hTexts s hs]
  exact Bool.false_ne_true

/- A text starts with the label that is put before it. -/
theorem shows_append (label text : String) :
    (printed .answers (label ++ text)).shows label = true := by
  rw [shows, List.isPrefixOf_iff_prefix, String.toList_append]
  exact List.prefix_append ..

/- A text that starts in another way shows nothing. -/
theorem shows_of_head
    {label text : String}
    {a c : Char}
    {as cs : List Char}
    (hLabel : label.toList = a :: as)
    (hText : text.toList = c :: cs)
    (hHead : c ≠ a) :
    (printed .answers text).shows label = false := by
  rw [shows, hLabel, hText, List.isPrefixOf_cons_cons,
    beq_false_of_ne hHead.symm, Bool.false_and]

/- The texts of tokens are not those of trees. -/
theorem shows_tokens_append (text : String) :
    (printed .answers ("tokens: " ++ text)).shows "ast: " =
      false :=
  shows_of_head rfl String.toList_append (by decide)

/- The texts of trees are not those of tokens. -/
theorem shows_ast_append (text : String) :
    (printed .answers ("ast: " ++ text)).shows "tokens: " =
      false :=
  shows_of_head rfl String.toList_append (by decide)

/- Of a text that shows something nothing is left. -/
theorem filter_isShown
    {shown : Option Seen}
    (hShown : ∀ s ∈ shown, s.isShown = true) :
    (shown.toList.filter fun s => !s.isShown) = [] := by
  rw [List.filter_eq_nil_iff]
  intro s hs
  simp [hShown s (Option.mem_toList.mp hs)]

end Seen

/- A result starts like a number, or is one of a few words. -/
theorem Double.result_head (x : Double) :
    ∃ c cs,
      x.result.toList = c :: cs ∧ c ≠ 't' ∧ c ≠ 'a' := by
  cases x with
  | nan => exact ⟨'N', _, rfl, by decide, by decide⟩
  | infinite negative =>
      cases negative with
      | false => exact ⟨'i', _, rfl, by decide, by decide⟩
      | true => exact ⟨'-', _, rfl, by decide, by decide⟩
  | finite negative m =>
      rcases m.exists_numeral_of_result negative with
        ⟨n, hn, hResult, _⟩
      rw [hResult, String.toList_ofList]
      cases negative with
      | true => exact ⟨'-', _, rfl, by decide, by decide⟩
      | false =>
          rcases Lexer.numeral_head hn with
            ⟨c, cs, hChars, hDigit⟩
          refine ⟨c, cs, ?_, ?_, ?_⟩
          · rw [signChars, if_neg Bool.false_ne_true,
              List.nil_append, hChars]
          · rintro rfl
            cases hDigit
          · rintro rfl
            cases hDigit

/- A result shows neither tokens nor a tree. -/
theorem Seen.shows_result (x : Double) :
    (printed .answers x.result).shows "tokens: " = false ∧
      (printed .answers x.result).shows "ast: " = false := by
  rcases x.result_head with ⟨c, cs, hResult, hTokens, hTree⟩
  exact ⟨shows_of_head rfl hResult hTokens,
    shows_of_head rfl hResult hTree⟩

/- Results are not left out where shown texts are. -/
theorem Seen.isShown_result (x : Double) :
    (printed .answers x.result).isShown = false := by
  rcases shows_result x with ⟨hTokens, hTree⟩
  rw [isShown, hTokens, hTree, Bool.or_false]

------------------------------------------------------------
-- Shown Tokens and Trees
------------------------------------------------------------

namespace Settings

/- The settings that show neither tokens nor trees. -/
def plain (settings : Settings) : Settings :=
  { settings with showTokens := false, showTree := false }

/- Settings that do or do not stop at a failure. -/
def stopping (settings : Settings) (stop : Bool) : Settings :=
  { settings with stopOnFailure := stop }

variable (settings : Settings)

/- What shows the tokens of a line is a text that does so. -/
theorem shows_of_mem_shownTokens
    {line : String}
    {s : Seen}
    (hs : s ∈ settings.shownTokens line) :
    s.shows "tokens: " = true ∧
      s.shows "ast: " = false ∧
      s.isError = false := by
  unfold shownTokens at hs
  split at hs
  · rcases Option.map_eq_some_iff.mp hs with ⟨tokens, _, rfl⟩
    exact ⟨Seen.shows_append .., Seen.shows_tokens_append _,
      rfl⟩
  · cases hs

/- What shows the tree of a line is a text that does so. -/
theorem shows_of_mem_shownTree
    {tree : Tree}
    {s : Seen}
    (hs : s ∈ settings.shownTree tree) :
    s.shows "tokens: " = false ∧
      s.shows "ast: " = true ∧
      s.isError = false := by
  unfold shownTree at hs
  split at hs
  · cases hs
    exact ⟨Seen.shows_ast_append _, Seen.shows_append ..,
      rfl⟩
  · cases hs

/- The tokens are shown just if they can be. -/
theorem isSome_shownTokens
    (line : String) :
    (settings.shownTokens line).isSome = true ↔
      settings.showTokens = true ∧
        ∃ tokens, tokenize line = .ok tokens := by
  unfold shownTokens
  split
  · rename_i hShow
    cases tokenize line with
    | error e => simp [Except.toOption]
    | ok tokens => simp [Except.toOption, hShow]
  · rename_i hShow
    simp [hShow]

/- The tree is shown just if it is to be. -/
theorem isSome_shownTree
    (tree : Tree) :
    (settings.shownTree tree).isSome = true ↔
      settings.showTree = true := by
  unfold shownTree
  split
  · rename_i hShow
    simp [hShow]
  · rename_i hShow
    simp [hShow]

/- Plain settings show no tokens. -/
theorem shownTokens_plain (line : String) :
    settings.plain.shownTokens line = none :=
  if_neg Bool.false_ne_true

/- Plain settings show no tree. -/
theorem shownTree_plain (tree : Tree) :
    settings.plain.shownTree tree = none :=
  if_neg Bool.false_ne_true

/- The text that shows tokens is left out. -/
theorem filter_shownTokens (line : String) :
    ((settings.shownTokens line).toList.filter
      fun s => !s.isShown) = [] := by
  apply Seen.filter_isShown
  intro s hs
  rw [Seen.isShown, (settings.shows_of_mem_shownTokens hs).1,
    Bool.true_or]

/- The text that shows a tree is left out. -/
theorem filter_shownTree (tree : Tree) :
    ((settings.shownTree tree).toList.filter
      fun s => !s.isShown) = [] := by
  apply Seen.filter_isShown
  intro s hs
  rw [Seen.isShown, (settings.shows_of_mem_shownTree hs).2.1,
    Bool.or_true]

/-
  Without the texts that show tokens and trees, an exchange
  is the one with plain settings, and it ends no more and no
  less.
-/
theorem filter_exchange (taken : String) :
    ((settings.exchange taken).filter fun s => !s.isShown) =
        settings.plain.exchange taken ∧
      (settings.reply taken).2 =
        (settings.plain.reply taken).2 := by
  unfold exchange
  cases lineCases settings.bounds
      (Text.dropLineEnd taken) with
  | directive hDirective =>
      rw [settings.reply_directive hDirective,
        settings.plain.reply_directive hDirective]
      exact ⟨rfl, rfl⟩
  | blank hDirective hBlank =>
      rw [settings.reply_blank hDirective hBlank,
        settings.plain.reply_blank hDirective hBlank]
      exact ⟨rfl, rfl⟩
  | @expression tree x hDirective hBlank hParse hValue =>
      rw [settings.reply_expression hDirective hBlank hParse
          hValue,
        settings.plain.reply_expression hDirective hBlank
          hParse hValue,
        shownTokens_plain, shownTree_plain]
      refine ⟨?_, rfl⟩
      simp only [List.filter_cons, List.filter_append,
        filter_shownTokens, filter_shownTree,
        Seen.isShown_result]
      rfl
  | @faulty e hDirective hBlank hParse =>
      rw [settings.reply_faulty hDirective hBlank hParse,
        settings.plain.reply_faulty hDirective hBlank hParse,
        shownTokens_plain]
      refine ⟨?_, rfl⟩
      simp only [List.filter_cons, List.filter_append,
        filter_shownTokens]
      rfl

/-
  The transcripts with and without shown tokens and trees
  take the same lines and end in the same way.
-/
theorem piped_plain (lines : List String) :
    (∃ taken rest,
      lines = taken ++ rest ∧
        (Transcript.piped settings lines).seen =
          taken.flatMap settings.exchange ∧
        (Transcript.piped settings.plain lines).seen =
          taken.flatMap settings.plain.exchange) ∧
      (Transcript.piped settings lines).ending =
        (Transcript.piped settings.plain lines).ending := by
  induction lines with
  | nil => exact ⟨⟨[], [], rfl, rfl, rfl⟩, rfl⟩
  | cons line lines ih =>
      have hSame := (settings.filter_exchange line).2
      cases hEnding : (settings.reply line).2 with
      | some ending =>
          have hPlain := hSame.symm.trans hEnding
          rcases Transcript.piped_of_last hEnding lines with
            ⟨hSeen, hLast⟩
          rcases Transcript.piped_of_last hPlain lines with
            ⟨hSeen', hLast'⟩
          refine ⟨⟨[line], lines, rfl, ?_, ?_⟩, ?_⟩
          · rw [hSeen, List.flatMap_singleton]
          · rw [hSeen', List.flatMap_singleton]
          · rw [hLast, hLast']
      | none =>
          have hPlain := hSame.symm.trans hEnding
          rcases Transcript.piped_of_more hEnding lines with
            ⟨hSeen, hLast⟩
          rcases Transcript.piped_of_more hPlain lines with
            ⟨hSeen', hLast'⟩
          rcases ih with
            ⟨⟨taken, rest, hLines, hTaken, hTaken'⟩, hEnd⟩
          refine ⟨⟨line :: taken, rest, ?_, ?_, ?_⟩, ?_⟩
          · rw [hLines, List.cons_append]
          · rw [hSeen, hTaken, List.flatMap_cons]
          · rw [hSeen', hTaken', List.flatMap_cons]
          · rw [hLast, hLast', hEnd]

/- What is shown for a line that is worked on is printed. -/
theorem mem_exchange
    {taken : String}
    (hDirective : ¬ IsDirective (Text.dropLineEnd taken))
    (hBlank : ¬ IsBlank (Text.dropLineEnd taken))
    {s : Seen} :
    (s ∈ settings.shownTokens (Text.dropLineEnd taken) →
        s ∈ settings.exchange taken) ∧
      ∀ tree,
        parse (Text.dropLineEnd taken) settings.bounds =
            .ok tree →
          s ∈ settings.shownTree tree →
            s ∈ settings.exchange taken := by
  unfold exchange
  cases lineCases settings.bounds
      (Text.dropLineEnd taken) with
  | directive hQuit => exact absurd hQuit hDirective
  | blank hOther hNothing => exact absurd hNothing hBlank
  | expression hDirective hBlank hParse hValue =>
      rw [settings.reply_expression hDirective hBlank hParse
        hValue]
      constructor
      · intro hs
        rw [Option.mem_def] at hs
        simp [hs]
      · intro tree hTree hs
        rw [hParse] at hTree
        cases hTree
        rw [Option.mem_def] at hs
        simp [hs]
  | faulty hDirective hBlank hParse =>
      rw [settings.reply_faulty hDirective hBlank hParse]
      constructor
      · intro hs
        rw [Option.mem_def] at hs
        simp [hs]
      · intro tree hTree
        rw [hParse] at hTree
        cases hTree

/- What is printed with a label is what shows such a thing. -/
theorem shows_of_mem_exchange
    {taken : String}
    {s : Seen}
    (hs : s ∈ settings.exchange taken) :
    (s.shows "tokens: " = true →
        s ∈ settings.shownTokens (Text.dropLineEnd taken)) ∧
      (s.shows "ast: " = true →
        ∃ tree,
          parse (Text.dropLineEnd taken)
              settings.bounds = .ok tree ∧
            s ∈ settings.shownTree tree) := by
  unfold exchange at hs
  cases lineCases settings.bounds
      (Text.dropLineEnd taken) with
  | directive hDirective =>
      rw [settings.reply_directive hDirective] at hs
      cases List.mem_singleton.mp hs
      exact ⟨nofun, nofun⟩
  | blank hDirective hBlank =>
      rw [settings.reply_blank hDirective hBlank] at hs
      cases List.mem_singleton.mp hs
      exact ⟨nofun, nofun⟩
  | @expression tree x hDirective hBlank hParse hValue =>
      rw [settings.reply_expression hDirective hBlank hParse
        hValue] at hs
      simp only [List.mem_cons, List.mem_append,
        Option.mem_toList, List.not_mem_nil, or_false] at hs
      rcases hs with rfl | hs | hs | rfl
      · exact ⟨nofun, nofun⟩
      · have hShows := settings.shows_of_mem_shownTokens hs
        simp [hShows.2.1, hs]
      · have hShows := settings.shows_of_mem_shownTree hs
        simp [hShows.1, hParse, hs]
      · rcases Seen.shows_result x with ⟨hTokens, hTree⟩
        simp [hTokens, hTree]
  | @faulty e hDirective hBlank hParse =>
      rw [settings.reply_faulty hDirective hBlank hParse] at hs
      simp only [List.mem_cons, List.mem_append,
        Option.mem_toList, List.not_mem_nil, or_false] at hs
      rcases hs with rfl | hs | rfl
      · exact ⟨nofun, nofun⟩
      · have hShows := settings.shows_of_mem_shownTokens hs
        simp [hShows.2.1, hs]
      · exact ⟨nofun, nofun⟩

/-
  The tokens of a line that is worked on are printed just if
  they are to be shown and the line has nothing but tokens.
-/
theorem exists_shows_tokens
    {taken : String}
    (hDirective : ¬ IsDirective (Text.dropLineEnd taken))
    (hBlank : ¬ IsBlank (Text.dropLineEnd taken)) :
    (∃ s ∈ settings.exchange taken,
        s.shows "tokens: " = true) ↔
      settings.showTokens = true ∧
        ∃ tokens,
          tokenize (Text.dropLineEnd taken) =
            .ok tokens := by
  rw [← isSome_shownTokens, Option.isSome_iff_exists]
  constructor
  · rintro ⟨s, hs, hShows⟩
    exact ⟨s, (settings.shows_of_mem_exchange hs).1 hShows⟩
  · rintro ⟨s, hs⟩
    exact ⟨s, (settings.mem_exchange hDirective hBlank).1 hs,
      (settings.shows_of_mem_shownTokens hs).1⟩

/-
  The tree of a line that is worked on is printed just if it
  is to be shown and the line is read.
-/
theorem exists_shows_tree
    {taken : String}
    (hDirective : ¬ IsDirective (Text.dropLineEnd taken))
    (hBlank : ¬ IsBlank (Text.dropLineEnd taken)) :
    (∃ s ∈ settings.exchange taken,
        s.shows "ast: " = true) ↔
      settings.showTree = true ∧
        ∃ tree,
          parse (Text.dropLineEnd taken)
              settings.bounds = .ok tree := by
  constructor
  · rintro ⟨s, hs, hShows⟩
    rcases (settings.shows_of_mem_exchange hs).2 hShows with
      ⟨tree, hParse, hTree⟩
    refine ⟨?_, tree, hParse⟩
    rw [← settings.isSome_shownTree tree]
    exact Option.isSome_of_mem hTree
  · rintro ⟨hShow, tree, hParse⟩
    rw [← settings.isSome_shownTree tree,
      Option.isSome_iff_exists] at hShow
    rcases hShow with ⟨s, hs⟩
    exact ⟨s,
      (settings.mem_exchange hDirective hBlank).2 tree hParse
        hs,
      (settings.shows_of_mem_shownTree hs).2.1⟩

------------------------------------------------------------
-- Stopping at a Failure
------------------------------------------------------------

/-
  A line prints an error last, or none at all. Only in the
  first case does it matter whether failures end the
  transcript.
-/
theorem exchange_stopping (taken : String) :
    (∃ before text,
        (∀ s ∈ before, s.isError = false) ∧
          ∀ stop,
            (settings.stopping stop).exchange taken =
                before ++ [.printed .errors text] ∧
              ((settings.stopping stop).reply taken).2 =
                if stop then some .failed else none) ∨
      ∃ texts ending?,
        (∀ s ∈ texts, s.isError = false) ∧
          (∀ ending ∈ ending?,
            Ending.exitCode ending = 0) ∧
          ∀ stop,
            (settings.stopping stop).exchange taken = texts ∧
              ((settings.stopping stop).reply taken).2 =
                ending? := by
  unfold exchange
  cases lineCases settings.bounds
      (Text.dropLineEnd taken) with
  | directive hDirective =>
      refine Or.inr ⟨[.taken taken], some .quit, ?_, ?_, ?_⟩
      · simp [Seen.isError]
      · simp [Ending.exitCode]
      · intro stop
        rw [(settings.stopping stop).reply_directive hDirective]
        exact ⟨rfl, rfl⟩
  | blank hDirective hBlank =>
      refine Or.inr ⟨[.taken taken], none, ?_, ?_, ?_⟩
      · simp [Seen.isError]
      · simp
      · intro stop
        rw [(settings.stopping stop).reply_blank hDirective
          hBlank]
        exact ⟨rfl, rfl⟩
  | @expression tree x hDirective hBlank hParse hValue =>
      refine Or.inr ⟨.taken taken ::
        ((settings.shownTokens
            (Text.dropLineEnd taken)).toList ++
          ((settings.shownTree tree).toList ++
            [.printed .answers x.result])), none, ?_, ?_, ?_⟩
      · simp only [List.forall_mem_cons,
          List.forall_mem_append, Option.mem_toList]
        refine ⟨rfl, ?_, ?_, rfl, ?_⟩
        · intro s hs
          exact (settings.shows_of_mem_shownTokens hs).2.2
        · intro s hs
          exact (settings.shows_of_mem_shownTree hs).2.2
        · intro s hs
          cases hs
      · simp
      · intro stop
        rw [(settings.stopping stop).reply_expression
          hDirective hBlank hParse hValue]
        exact ⟨rfl, rfl⟩
  | @faulty e hDirective hBlank hParse =>
      refine Or.inl ⟨.taken taken ::
        (settings.shownTokens
          (Text.dropLineEnd taken)).toList,
        e.report (Text.dropLineEnd taken), ?_, ?_⟩
      · simp only [List.forall_mem_cons, Option.mem_toList]
        refine ⟨rfl, ?_⟩
        intro s hs
        exact (settings.shows_of_mem_shownTokens hs).2.2
      · intro stop
        rw [(settings.stopping stop).reply_faulty
          hDirective hBlank hParse]
        exact ⟨rfl, rfl⟩

/-
  To stop at a failure cuts a transcript off right after the
  first error, and changes nothing if there is none. The
  induction is on the lines, of which the first that prints
  an error is where the transcript is cut off.
-/
theorem piped_stopping (lines : List String) :
    (Transcript.piped (settings.stopping true) lines).seen =
        Seen.upToError
          (Transcript.piped (settings.stopping false)
            lines).seen ∧
      (Transcript.piped (settings.stopping true)
          lines).ending.exitCode =
        if (Transcript.piped (settings.stopping false)
            lines).seen.any Seen.isError then 1 else 0 := by
  induction lines with
  | nil => exact ⟨rfl, rfl⟩
  | cons line lines ih =>
      rcases settings.exchange_stopping line with
        ⟨texts, text, hTexts, hReply⟩ |
          ⟨texts, ending?, hTexts, hCode, hReply⟩
      · rcases Transcript.piped_of_last
            (hReply true).2 lines with ⟨hSeen, hEnding⟩
        rcases Transcript.piped_of_more
            (hReply false).2 lines with ⟨hSeen', _⟩
        rw [hSeen, hSeen', hEnding, (hReply true).1,
          (hReply false).1, List.append_assoc,
          Seen.upToError_append hTexts]
        refine ⟨rfl, ?_⟩
        simp [Seen.isError, Ending.exitCode]
      · cases ending? with
        | some ending =>
            rcases Transcript.piped_of_last
                (hReply true).2 lines with ⟨hSeen, hEnding⟩
            rcases Transcript.piped_of_last
                (hReply false).2 lines with ⟨hSeen', _⟩
            rw [hSeen, hSeen', hEnding, (hReply true).1,
              (hReply false).1, Seen.upToError_eq_self hTexts,
              Seen.any_isError hTexts]
            exact ⟨rfl, hCode ending rfl⟩
        | none =>
            rcases Transcript.piped_of_more
                (hReply true).2 lines with ⟨hSeen, hEnding⟩
            rcases Transcript.piped_of_more
                (hReply false).2 lines with ⟨hSeen', _⟩
            rw [hSeen, hSeen', hEnding, (hReply true).1,
              (hReply false).1, ih.1, ih.2,
              Seen.upToError_append hTexts, List.any_append,
              Seen.any_isError hTexts, Bool.false_or]
            exact ⟨rfl, rfl⟩

end Settings

------------------------------------------------------------
-- All Settings
------------------------------------------------------------

/-
  Without the texts that show tokens and trees, a transcript
  is the one in which none are shown. They are shown just for
  the lines that have tokens only, and for those that are
  read. To stop at a failure cuts a transcript off after the
  first error.
-/
theorem settings_do_not_interfere
    (settings : Settings)
    (lines : List String) :
    ((Transcript.piped settings lines).seen.filter
          fun s => !s.isShown) =
        (Transcript.piped settings.plain lines).seen ∧
      (Transcript.piped settings lines).ending.exitCode =
        (Transcript.piped settings.plain
          lines).ending.exitCode ∧
      (∃ taken rest,
        lines = taken ++ rest ∧
          (Transcript.piped settings lines).seen =
            taken.flatMap settings.exchange) ∧
      (∀ taken line,
        line = Text.dropLineEnd taken →
          ¬ IsDirective line →
            ¬ IsBlank line →
              ((∃ s ∈ settings.exchange taken,
                  s.shows "tokens: " = true) ↔
                settings.showTokens = true ∧
                  ∃ tokens, tokenize line = .ok tokens) ∧
              ((∃ s ∈ settings.exchange taken,
                  s.shows "ast: " = true) ↔
                settings.showTree = true ∧
                  ∃ tree,
                    parse line settings.bounds =
                      .ok tree)) ∧
      (Transcript.piped (settings.stopping true) lines).seen =
        Seen.upToError
          (Transcript.piped (settings.stopping false)
            lines).seen ∧
      (Transcript.piped (settings.stopping true)
          lines).ending.exitCode =
        if (Transcript.piped (settings.stopping false)
            lines).seen.any Seen.isError then 1 else 0 := by
  rcases settings.piped_plain lines with
    ⟨⟨taken, rest, hLines, hSeen, hPlain⟩, hEnding⟩
  refine ⟨?_, congrArg Ending.exitCode hEnding,
    ⟨taken, rest, hLines, hSeen⟩, ?_,
    settings.piped_stopping lines⟩
  · calc
      ((Transcript.piped settings lines).seen.filter
            fun s => !s.isShown)
        = (taken.flatMap settings.exchange).filter
            fun s => !s.isShown :=
          congrArg _ hSeen
      _ = taken.flatMap fun line =>
            (settings.exchange line).filter
              fun s => !s.isShown :=
          List.filter_flatMap ..
      _ = taken.flatMap settings.plain.exchange :=
          congrArg taken.flatMap
            (funext fun line =>
              (settings.filter_exchange line).1)
      _ = (Transcript.piped settings.plain lines).seen :=
          hPlain.symm
  · rintro taken line rfl hDirective hBlank
    exact ⟨settings.exists_shows_tokens hDirective hBlank,
      settings.exists_shows_tree hDirective hBlank⟩

end Calculator
