import Calculator.Command.Outcome
import Calculator.Proofs.Text.LineEnds
import Calculator.Proofs.Transcript.Lines

/-
  This file shows that it makes no difference whether lines
  are typed at a terminal or piped in, whatever marks end the
  piped lines. It also shows how often a terminal is asked.

  Key definitions include:
    * `Event.isReply`
    * `Transcript.replies`
    * `Command.outcomeOf`
    * `Asked`
    * `Transcript.Asks`
-/

namespace Calculator

------------------------------------------------------------
-- Replies
------------------------------------------------------------

/-
  Whether an event replies to a line: it does not ask for
  one or take one.
-/
def Event.isReply : Event → Bool
| .prompted _ => false
| .taken _ => false
| .noted _ => true
| .printed _ => true

/- All reactions are replies. -/
theorem isReply_reaction
    (settings : Settings)
    (note : Note) :
    ∀ event ∈ reaction settings note,
      event.isReply = true := by
  intro event hMem
  rcases List.mem_cons.mp hMem with rfl | hMem
  · rfl
  · cases note with
    | tokenized line tokens =>
        rw [List.mem_singleton.mp hMem]
        rfl
    | parsed line tree =>
        dsimp only at hMem
        split at hMem
        · rw [List.mem_singleton.mp hMem]
          rfl
        · cases hMem
    | evaluated value =>
        rw [List.mem_singleton.mp hMem]
        rfl
    | quitDirective line => cases hMem

/- So an expression is answered with replies only. -/
theorem isReply_answerExpression
    (settings : Settings)
    (line : String) :
    ∀ event ∈ (answerExpression settings line).1,
      event.isReply = true := by
  have hNotes :
      ∀ notes : List Note,
        ∀ event ∈ notes.flatMap (reaction settings),
          event.isReply = true := by
    intro notes event hMem
    rcases List.mem_flatMap.mp hMem with ⟨note, _, hMem⟩
    exact isReply_reaction settings note event hMem
  unfold answerExpression
  rcases calculation line settings.bounds with
    ⟨notes, failure | value⟩
  · intro event hMem
    rcases List.mem_append.mp hMem with hMem | hMem
    · exact hNotes _ event hMem
    · rw [List.mem_singleton.mp hMem]
      rfl
  · exact hNotes _

/- Every line is answered with replies only. -/
theorem isReply_answer
    (settings : Settings)
    (line : String) :
    ∀ event ∈ (answer settings line).1,
      event.isReply = true := by
  unfold answer
  dsimp only
  split
  · exact isReply_reaction settings _
  · split
    · intro event hMem
      cases hMem
    · exact isReply_answerExpression settings _

/- The line ends of a line do not matter to its answer. -/
theorem answer_dropLineEnd
    (settings : Settings)
    (line : String) :
    answer settings (Text.dropLineEnd line) =
      answer settings line := by
  rw [answer, answer, Text.dropLineEnd_dropLineEnd]

/- A line of line ends alone is passed over. -/
theorem answer_of_dropLineEnd
    (settings : Settings)
    {line : String}
    (hEmpty : Text.dropLineEnd line = "") :
    answer settings line = ([], none) := by
  rw [← answer_dropLineEnd, hEmpty]
  rfl

------------------------------------------------------------
-- What Depends on Replies
------------------------------------------------------------

/- A transcript of which only the replies are kept. -/
def Transcript.replies (t : Transcript) : Transcript :=
  { t with events := t.events.filter Event.isReply }

/-
  What is found in events is found among some of them, if
  there is nothing to be found in the others.
-/
theorem filterMap_filter_of_none
    {γ : Type}
    {p : Event → Bool}
    {find? : Event → Option γ}
    (hNone : ∀ event, p event = false → find? event = none)
    (events : List Event) :
    (events.filter p).filterMap find? =
      events.filterMap find? := by
  rw [List.filterMap_filter]
  refine List.filterMap_congr fun event _ => ?_
  cases hp : p event with
  | true => exact if_pos rfl
  | false => exact (hNone event hp).symm

/- What is displayed depends on the replies only. -/
theorem displayed_replies
    (verbose : Bool)
    (channel : Channel)
    (t : Transcript) :
    displayed verbose channel t.replies.events =
      displayed verbose channel t.events := by
  rw [displayed, Transcript.replies,
    filterMap_filter_of_none]
  · rfl
  · intro event hReply
    cases event <;> first | rfl | cases hReply

/- So do the outputs. -/
theorem Transcript.outputs_replies (t : Transcript) :
    t.replies.outputs = t.outputs := by
  apply filterMap_filter_of_none
  intro event hReply
  cases event <;> first | rfl | cases hReply

/- The outcome of a command after a transcript. -/
def Command.outcomeOf
    (command : Command)
    (t : Transcript) : Outcome :=
  { exitCode := t.ending.exitCode
    answers := displayed command.verbose .answers t.events
    errors := displayed command.verbose .errors t.events }

/-
  Two transcripts agree: they end alike and print the same
  texts in the same order, so that every command comes to the
  same outcome after them.
-/
structure Transcript.AgreesWith
    (t u : Transcript) : Prop where
  hEnding : t.ending = u.ending
  hOutputs : t.outputs = u.outputs
  hPrinted : ∀ channel, t.printed channel = u.printed channel
  hOutcome :
    ∀ command : Command,
      command.outcomeOf t = command.outcomeOf u

/- Transcripts agree that have the same replies. -/
theorem agreesWith_of_replies
    {t u : Transcript}
    (hReplies : t.replies = u.replies) :
    t.AgreesWith u := by
  have hEnding : t.ending = u.ending := by
    change t.replies.ending = u.replies.ending
    rw [hReplies]
  have hOutputs : t.outputs = u.outputs := by
    rw [← t.outputs_replies, hReplies, u.outputs_replies]
  have hDisplayed :
      ∀ verbose channel,
        displayed verbose channel t.events =
          displayed verbose channel u.events := by
    intro verbose channel
    rw [← displayed_replies, hReplies, displayed_replies]
  refine ⟨hEnding, hOutputs, ?_, ?_⟩
  · intro channel
    rw [Transcript.printed, hOutputs, Transcript.printed]
  · intro command
    rw [Command.outcomeOf, Command.outcomeOf, hEnding,
      hDisplayed, hDisplayed]

------------------------------------------------------------
-- Replies to All Lines
------------------------------------------------------------

namespace Transcript

variable {settings : Settings}
variable {announcement : List Event}

/- Replies to one more line come before the others. -/
theorem replies_after
    (events : List Event)
    (t : Transcript) :
    (after events t).replies =
      after (events.filter Event.isReply) t.replies := by
  rw [replies, after, List.filter_append]
  rfl

/- Before no events a transcript is as it was. -/
theorem after_nil (t : Transcript) : after [] t = t :=
  rfl

/- An announcement that is no reply is left out. -/
theorem filter_announced
    (hSilent : announcement.filter Event.isReply = [])
    (line : String)
    (events : List Event) :
    (announcement ++ .taken line :: events).filter
        Event.isReply =
      events.filter Event.isReply := by
  rw [List.filter_append, hSilent, List.nil_append]
  rfl

/-
  The replies depend on nothing but what the lines hold,
  where they are not empty. The induction is on the lines.
-/
theorem replies_run
    (hSilent : announcement.filter Event.isReply = [])
    (lines : List String) :
    (run settings announcement lines).replies =
      (run settings [] (Text.filled lines)).replies := by
  induction lines with
  | nil => rw [run, replies, hSilent]; rfl
  | cons line lines ih =>
      by_cases hEmpty : Text.dropLineEnd line = ""
      · have hFilled :
            Text.filled (line :: lines) =
              Text.filled lines := by
          rw [Text.filled, List.map_cons,
            List.filter_cons_of_neg (by simpa using hEmpty)]
          rfl
        rw [hFilled, run,
          answer_of_dropLineEnd settings hEmpty,
          replies_after, filter_announced hSilent,
          List.filter_nil, after_nil, ih]
      · have hFilled :
            Text.filled (line :: lines) =
              Text.dropLineEnd line :: Text.filled lines := by
          rw [Text.filled, List.map_cons,
            List.filter_cons_of_pos (by simpa using hEmpty)]
          rfl
        rw [hFilled, run, run, answer_dropLineEnd]
        rcases answer settings line with ⟨events, _ | ending⟩
        · rw [replies_after, replies_after,
            filter_announced hSilent, filter_announced rfl,
            ih]
        · rw [replies, replies, filter_announced hSilent,
            filter_announced rfl]

/- So lines agree that hold the same. -/
theorem replies_piped
    (prompt : String)
    {lines lines' : List String}
    (hFilled : Text.filled lines = Text.filled lines') :
    (piped settings lines).replies =
      (atTerminal settings prompt lines').replies := by
  have hSilent :
      [Event.prompted prompt].filter Event.isReply = [] :=
    rfl
  rw [atTerminal, replies_run hSilent, ← hFilled,
    ← replies_run List.filter_nil, piped]

end Transcript

------------------------------------------------------------
-- Asking for Lines
------------------------------------------------------------

/- What comes of asking for a line at a terminal. -/
inductive Asked where
| typed (line : String) : Asked
| endOfFile : Asked
| interrupt : Asked
deriving DecidableEq, Repr

/-
  The lines that are typed, up to the end of the input or an
  interrupt.
-/
def Asked.lines : List Asked → List String
| [] => []
| .typed line :: later => line :: lines later
| .endOfFile :: _ => []
| .interrupt :: _ => []

/- No line is taken for the end of the lines. -/
theorem answer_ne_exhausted
    (settings : Settings)
    (line : String) :
    (answer settings line).2 ≠ some .exhausted := by
  unfold answer
  dsimp only
  split
  · simp
  · split
    · simp
    · unfold answerExpression
      rcases calculation (Text.dropLineEnd line)
          settings.bounds with ⟨notes, failure | _⟩
      · unfold endingAfter
        dsimp only
        split
        · simp
        · split <;> simp
      · simp

/- A reply ends what the answer ends. -/
theorem Settings.reply_snd
    (settings : Settings)
    (line : String) :
    (settings.reply line).2 = (answer settings line).2 := by
  simp only [reply]

/- An answer ends nothing just if the line does not stop. -/
theorem answer_eq_none_iff
    (settings : Settings)
    (line : String) :
    (answer settings line).2 = none ↔
      ¬ settings.StopsAt line := by
  rw [← settings.reply_snd]
  rcases ending_of_reply settings line with
    ⟨hStop, ending, hSome, _⟩ | ⟨hMore, hNone⟩
  · rw [hSome]
    exact iff_of_false (Option.some_ne_none ending)
      (not_not_intro hStop)
  · exact iff_of_true hNone hMore

namespace Transcript

/- The events that ask for lines and take them. -/
def askings (t : Transcript) : List Event :=
  t.events.filter fun event => !event.isReply

/- The lines that are taken are among these events. -/
theorem filterMap_askings_line (t : Transcript) :
    t.askings.filterMap Event.line? = t.taken := by
  apply filterMap_filter_of_none
  intro event hReply
  cases event <;> first | rfl | cases hReply

/- So are the prompts. -/
theorem filterMap_askings_prompt (t : Transcript) :
    t.askings.filterMap Event.prompt? = t.prompts := by
  apply filterMap_filter_of_none
  intro event hReply
  cases event <;> first | rfl | cases hReply

/- How lines are asked for and taken, each after a prompt. -/
def exchanges
    (prompt : String)
    (lines : List String) : List Event :=
  lines.flatMap fun line => [.prompted prompt, .taken line]

/- There is one prompt for each of the lines. -/
theorem filterMap_prompt?_exchanges
    (prompt : String)
    (lines : List String) :
    (exchanges prompt lines).filterMap Event.prompt? =
      List.replicate lines.length prompt := by
  induction lines with
  | nil => rfl
  | cons line lines ih =>
      rw [exchanges, List.flatMap_cons, ← exchanges,
        List.filterMap_append, ih]
      rfl

/-
  How often a terminal is asked after the last line that is
  taken: once if it has no more lines, and else never.
-/
def vainPrompts (t : Transcript) : Nat :=
  if t.ending = .exhausted then 1 else 0

/-
  How a terminal is asked for lines in a transcript: once
  before each line that is taken, and in vain once more just
  if none of the lines stops the transcript.
-/
structure Asks
    (settings : Settings)
    (prompt : String)
    (lines : List String)
    (t : Transcript) : Prop where
  hTaken : t.taken <+: lines
  hExhausted :
    t.ending = .exhausted ↔
      ∀ line ∈ lines, ¬ settings.StopsAt line
  hAll : t.ending = .exhausted → t.taken = lines
  hAskings :
    t.askings =
      exchanges prompt t.taken ++
        List.replicate t.vainPrompts (.prompted prompt)

/- So the number of prompts is known. -/
theorem Asks.prompts_eq_replicate
    {settings : Settings}
    {prompt : String}
    {lines : List String}
    {t : Transcript}
    (hAsks : t.Asks settings prompt lines) :
    t.prompts =
      List.replicate (t.taken.length + t.vainPrompts)
        prompt := by
  rw [← filterMap_askings_prompt, hAsks.hAskings,
    List.filterMap_append, filterMap_prompt?_exchanges,
    List.filterMap_replicate, List.replicate_add]
  rfl

/- An answer does not ask for lines or take them. -/
theorem filter_answer
    (settings : Settings)
    (line : String) :
    (answer settings line).1.filter
        (fun event => !event.isReply) = [] := by
  rw [List.filter_eq_nil_iff]
  intro event hMem
  rw [isReply_answer settings line event hMem]
  exact Bool.false_ne_true

/- Where a line stops a transcript, no more are asked for. -/
theorem asks_of_last
    {settings : Settings}
    {line : String}
    {events : List Event}
    {ending : Ending}
    (hAnswer : answer settings line = (events, some ending))
    (prompt : String)
    (lines : List String) :
    (atTerminal settings prompt (line :: lines)).Asks
      settings prompt (line :: lines) := by
  have hEvents := filter_answer settings line
  have hEnding := answer_ne_exhausted settings line
  have hStop := answer_eq_none_iff settings line
  rw [hAnswer] at hEvents hEnding hStop
  have hNot : ending ≠ .exhausted := by
    rintro rfl
    exact hEnding rfl
  have hRun :
      atTerminal settings prompt (line :: lines) =
        ⟨.prompted prompt :: .taken line :: events,
          ending⟩ := by
    rw [atTerminal, run, hAnswer]
    rfl
  have hAskings :
      (atTerminal settings prompt (line :: lines)).askings =
        [.prompted prompt, .taken line] := by
    rw [hRun, askings]
    exact congrArg
      (.prompted prompt :: .taken line :: ·) hEvents
  have hTaken :
      (atTerminal settings prompt (line :: lines)).taken =
        [line] := by
    rw [← filterMap_askings_line, hAskings]
    rfl
  refine ⟨?_, ?_, ?_, ?_⟩
  · rw [hTaken]
    exact ⟨lines, rfl⟩
  · rw [hRun, List.forall_mem_cons, ← hStop]
    exact iff_of_false hNot
      fun hNone => Option.some_ne_none ending hNone.1
  · rw [hRun]
    exact fun hExhausted => absurd hExhausted hNot
  · rw [hAskings, hTaken, vainPrompts, hRun, if_neg hNot]
    rfl

/- Otherwise the lines after it are asked for. -/
theorem asks_of_more
    {settings : Settings}
    {line : String}
    {events : List Event}
    {prompt : String}
    {lines : List String}
    (hAnswer : answer settings line = (events, none))
    (hAsks :
      (atTerminal settings prompt lines).Asks settings prompt
        lines) :
    (atTerminal settings prompt (line :: lines)).Asks
      settings prompt (line :: lines) := by
  have hEvents := filter_answer settings line
  have hStop := answer_eq_none_iff settings line
  rw [hAnswer] at hEvents hStop
  have hRun :
      atTerminal settings prompt (line :: lines) =
        after (.prompted prompt :: .taken line :: events)
          (atTerminal settings prompt lines) := by
    rw [atTerminal, run, hAnswer]
    rfl
  have hEnding :
      (atTerminal settings prompt (line :: lines)).ending =
        (atTerminal settings prompt lines).ending := by
    rw [hRun, after]
  have hAskings :
      (atTerminal settings prompt (line :: lines)).askings =
        .prompted prompt :: .taken line ::
          (atTerminal settings prompt lines).askings := by
    rw [hRun, askings, after, List.filter_append]
    exact congrArg
      (.prompted prompt :: .taken line :: · ++ _) hEvents
  have hTaken :
      (atTerminal settings prompt (line :: lines)).taken =
        line :: (atTerminal settings prompt lines).taken := by
    rw [← filterMap_askings_line, hAskings,
      ← filterMap_askings_line]
    rfl
  refine ⟨?_, ?_, ?_, ?_⟩
  · rw [hTaken]
    exact List.cons_prefix_cons.mpr ⟨rfl, hAsks.hTaken⟩
  · rw [hEnding, hAsks.hExhausted, List.forall_mem_cons]
    exact (and_iff_right (hStop.mp rfl)).symm
  · rw [hEnding, hTaken]
    exact fun hExhausted =>
      congrArg (line :: ·) (hAsks.hAll hExhausted)
  · rw [hAskings, hTaken, hAsks.hAskings, vainPrompts,
      vainPrompts, hEnding]
    rfl

/-
  A terminal is asked in this way, whatever lines are typed.
  The induction is on the lines.
-/
theorem asks_atTerminal
    (settings : Settings)
    (prompt : String)
    (lines : List String) :
    (atTerminal settings prompt lines).Asks settings prompt
      lines := by
  induction lines with
  | nil =>
      refine ⟨List.nil_prefix, ?_, fun _ => rfl, rfl⟩
      exact iff_of_true rfl (List.forall_mem_nil _)
  | cons line lines ih =>
      cases hAnswer : answer settings line with
      | mk events last =>
          cases last with
          | some ending =>
              exact asks_of_last hAnswer prompt lines
          | none => exact asks_of_more hAnswer ih

end Transcript

------------------------------------------------------------
-- Typed and Piped Lines
------------------------------------------------------------

/-
  Whether lines are typed at a terminal, until the input ends
  or is interrupted, or piped in, with any marks to end them,
  makes no difference: neither when the lines of the input
  keep their line ends nor when they do not. So it is for
  every command, with the usual settings or with others. A
  terminal is asked with the prompt for each line that is
  taken, and once more if no line stops the transcript.
-/
theorem terminal_agrees_with_pipe
    (command : Command)
    (prompt : String)
    (asked : List Asked)
    (ended : List (String × Text.LineEnd))
    (last : Option String)
    (hTyped :
      Asked.lines asked = ended.map Prod.fst ++ last.toList)
    (hLines : ∀ line ∈ Asked.lines asked, Text.IsLine line) :
    ∀ input t,
      input = Text.assembled ended last →
        t =
            Transcript.atTerminal command.settings prompt
              (Asked.lines asked) →
          command.outcome input = command.outcomeOf t ∧
            (Transcript.piped command.settings
              (Text.fileLines input)).AgreesWith t ∧
            (Transcript.piped command.settings
              (Text.lines input)).AgreesWith t ∧
            t.Asks command.settings prompt
              (Asked.lines asked) ∧
            t.prompts =
              List.replicate
                (t.taken.length + t.vainPrompts)
                prompt := by
  rintro input t rfl rfl
  have hFilled :
      Text.filled (Text.lines (Text.assembled ended last)) =
        Text.filled (Asked.lines asked) := by
    rw [hTyped] at hLines ⊢
    exact Text.filled_lines_assembled hLines
  have hKept :
      Text.filled
          (Text.fileLines (Text.assembled ended last)) =
        Text.filled (Asked.lines asked) := by
    rw [Text.filled_fileLines, hFilled]
  have hAgrees :
      (Transcript.piped command.settings
        (Text.lines (Text.assembled ended last))).AgreesWith
        (Transcript.atTerminal command.settings prompt
          (Asked.lines asked)) :=
    agreesWith_of_replies
      (Transcript.replies_piped prompt hFilled)
  have hAsks :=
    Transcript.asks_atTerminal command.settings prompt
      (Asked.lines asked)
  refine ⟨hAgrees.hOutcome command, ?_, hAgrees, hAsks,
    hAsks.prompts_eq_replicate⟩
  exact agreesWith_of_replies
    (Transcript.replies_piped prompt hKept)

/-
  A line that a carriage return ends, an empty line after it,
  and a directive before an interrupt.
-/
theorem terminal_agrees_with_pipe_quit :
    ∃ t,
      t =
          Transcript.atTerminal {} "? "
            ["1 +", "", "(2)", "/quit"] ∧
        ({} : Command).outcome "1 +\r\n(2)\r\n/quit" =
          ({} : Command).outcomeOf t ∧
        t.prompts =
          List.replicate (t.taken.length + t.vainPrompts)
            "? " := by
  have hAgrees :=
    terminal_agrees_with_pipe {} "? "
      [.typed "1 +", .typed "", .typed "(2)", .typed "/quit",
        .interrupt]
      [("1 +", .carriageReturn), ("", .lineFeed),
        ("(2)", .both)]
      (some "/quit") rfl (by decide) _ _ rfl rfl
  exact ⟨_, rfl, hAgrees.1, hAgrees.2.2.2.2⟩

end Calculator
