import Calculator.Proofs.Lexing.Progress
import Calculator.Proofs.Reading.Sentences

/-
  This file shows what the limit of the nesting does to the
  outcome of a parse, on a stack that stays the same. From
  some limit on the outcome is the same, and below it the
  parse finds an operand too deep, one further to the right
  for each higher limit.

  Key definitions include:
    * `Reading.IsOverfull`
    * `Reading.need`
    * `Reading.leastLimit`
-/

namespace Calculator

------------------------------------------------------------
-- Depths along a Run
------------------------------------------------------------

namespace Reading

variable {limit : Int}
variable {machine : Stack}
variable {ending : Except LexError Token}

/- Where an operand is due, a token adds one level at most. -/
theorem depth_next_due_le
    {frames : List Frame}
    {s : Reading}
    {t : Token}
    (hNext : next? ⟨.due, frames⟩ t = some s) :
    Frame.depth s.frames ≤ Frame.depth frames + 1 := by
  simp only [next?] at hNext
  split at hNext
  · cases hNext
    simp only [Frame.depth, Frame.nesting]
    omega
  · split at hNext
    · cases hNext
      simp only [Frame.depth, Frame.nesting]
      omega
    · split at hNext
      · cases hNext
        exact Nat.le_succ _
      · cases hNext

/- After an operand no token adds a level. -/
theorem depth_next_read_le
    {tree : Tree}
    {frames : List Frame}
    {s : Reading}
    {t : Token}
    (hNext : next? ⟨.read tree, frames⟩ t = some s) :
    Frame.depth s.frames ≤ Frame.depth frames := by
  have hTerm := Frame.depth_closeTerm_le tree frames
  simp only [next?] at hNext
  split at hNext
  · cases hNext
    simp only [Frame.depth, Frame.nesting]
    omega
  · split at hNext
    · split at hNext
      · cases hNext
        simp only [Frame.depth, Frame.nesting]
        omega
      · cases hNext
    · rename_i hClose
      have hLess := Frame.depth_closeExpr_lt hClose
      split at hNext
      · cases hNext
        simp only [Frame.depth, Frame.nesting]
        omega
      · split at hNext
        · cases hNext
          exact Nat.le_trans (Nat.le_of_lt hLess) hTerm
        · cases hNext

/-
  The depth does not go past the limit, since a level is
  added only by an operand that is not too deep.
-/
theorem depth_next_le
    {s s' : Reading}
    {t : Token}
    (hDepth : Frame.depth s.frames ≤ limit)
    (hDeep : ¬ s.IsTooDeep ⟨limit, machine⟩)
    (hNext : s.next? t = some s') :
    Frame.depth s'.frames ≤ limit := by
  rcases s with ⟨_ | tree, frames⟩
  · have hAllow := Decidable.not_not.mp hDeep
    have hNeed := hAllow.depth
    simp only [Frame.need] at hNeed
    have hLevel := depth_next_due_le hNext
    omega
  · have hLevel := depth_next_read_le hNext
    exact Int.le_trans (Int.ofNat_le.mpr hLevel) hDepth

------------------------------------------------------------
-- States Beyond the Stack
------------------------------------------------------------

/- An operand is due that the stack has no room for. -/
def IsOverfull (machine : Stack) : Reading → Prop
| ⟨.due, frames⟩ =>
    machine.room < (Frame.need frames).calls
| ⟨.read _, _⟩ => False

instance (machine : Stack) (s : Reading) :
    Decidable (s.IsOverfull machine) := by
  rcases s with ⟨_ | _, _⟩ <;>
    unfold IsOverfull <;> infer_instance

/- Such an operand is too deep for every limit. -/
theorem IsOverfull.isTooDeep
    {s : Reading}
    (hFull : s.IsOverfull machine)
    (limit : Int) :
    s.IsTooDeep ⟨limit, machine⟩ := by
  rcases s with ⟨_ | tree, frames⟩
  · exact fun hAllow => Nat.not_le.mpr hFull hAllow.calls
  · exact hFull

/- That the stack is too small for it is its fault. -/
theorem IsOverfull.depthFault_eq
    {s : Reading}
    (hFull : s.IsOverfull machine)
    (limit : Int) :
    s.depthFault ⟨limit, machine⟩ = .overflow := by
  rcases s with ⟨_ | tree, frames⟩
  · exact if_neg (Nat.not_le.mpr hFull)
  · cases hFull

/- Any other operand is too deep for the limit only. -/
theorem depthFault_eq_tooDeep
    {s : Reading}
    (hFull : ¬ s.IsOverfull machine)
    (hDeep : s.IsTooDeep ⟨limit, machine⟩) :
    s.depthFault ⟨limit, machine⟩ = .tooDeep := by
  rcases s with ⟨_ | tree, frames⟩
  · exact if_pos (Nat.not_lt.mp hFull)
  · cases hDeep

------------------------------------------------------------
-- The Least Limit
------------------------------------------------------------

/-
  The least limit for which a state is not too deep, where
  the stack has room. After an operand every limit will do.
-/
def need : Reading → Nat
| ⟨.due, frames⟩ => (Frame.need frames).depth
| ⟨.read _, _⟩ => 0

/- With the limit that a state needs it is not too deep. -/
theorem not_isTooDeep_of_need_le
    {s : Reading}
    (hFull : ¬ s.IsOverfull machine)
    (hNeed : s.need ≤ limit) :
    ¬ s.IsTooDeep ⟨limit, machine⟩ := by
  rcases s with ⟨_ | tree, frames⟩
  · exact not_not_intro ⟨hNeed, Nat.not_lt.mp hFull⟩
  · exact not_isTooDeep_read _ tree frames

/- A state that needs a higher limit is too deep. -/
theorem isTooDeep_of_lt_need
    {s : Reading}
    (hLimit : 0 ≤ limit)
    (hLess : limit < s.need) :
    s.IsTooDeep ⟨limit, machine⟩ := by
  rcases s with ⟨_ | tree, frames⟩
  · exact fun hAllow => Int.not_le.mpr hLess hAllow.depth
  · simp only [need] at hLess
    omega

/-
  The least limit with which reading finds nothing too deep
  for the limit. A failed draw comes before the depth is
  looked at, and the depth before the token; nothing is read
  past an operand that the stack has no room for.
-/
def leastLimit
    (machine : Stack)
    (ending : Except LexError Token) :
    List Token → Reading → Nat
| [], s =>
    match ending with
    | .error _ => 0
    | .ok _ => if s.IsOverfull machine then 0 else s.need
| t :: ts, s =>
    if s.IsOverfull machine then
      0
    else
      match s.next? t with
      | some s' =>
          max s.need (leastLimit machine ending ts s')
      | none => s.need

section

variable {s s' : Reading}
variable {t : Token}
variable (hFull : ¬ s.IsOverfull machine)

include hFull

/- The limit must suffice for the state before a token. -/
theorem need_le_leastLimit
    (ending : Except LexError Token)
    (t : Token)
    (ts : List Token) :
    s.need ≤ s.leastLimit machine ending (t :: ts) := by
  simp only [leastLimit, hFull, if_false]
  split
  · exact Nat.le_max_left _ _
  · exact Nat.le_refl _

/- And it must suffice for what is read after the token. -/
theorem leastLimit_next_le
    (ending : Except LexError Token)
    (hNext : s.next? t = some s')
    (ts : List Token) :
    s'.leastLimit machine ending ts ≤
      s.leastLimit machine ending (t :: ts) := by
  simp only [leastLimit, hFull, if_false, hNext]
  exact Nat.le_max_right _ _

end

/- Reading ends where the stack has no room. -/
theorem IsOverfull.outcome_cons
    {s : Reading}
    (hFull : s.IsOverfull machine)
    (limit : Int)
    (t : Token)
    (ts : List Token) :
    s.outcome ⟨limit, machine⟩ ending (t :: ts) =
      .error ⟨.overflow, t.position⟩ := by
  simp only [outcome, hFull.isTooDeep limit, if_true,
    hFull.depthFault_eq limit]

/- It does so at the end token as well. -/
theorem IsOverfull.outcome_nil
    {s : Reading}
    (hFull : s.IsOverfull machine)
    (limit : Int)
    (eof : Token) :
    s.outcome ⟨limit, machine⟩ (.ok eof) [] =
      .error ⟨.overflow, eof.position⟩ := by
  simp only [outcome, hFull.isTooDeep limit, if_true,
    hFull.depthFault_eq limit]

/- Reading comes to the same with all limits that suffice. -/
theorem outcome_congr_limit
    {limit' : Int}
    (ts : List Token)
    (s : Reading)
    (hLimit : s.leastLimit machine ending ts ≤ limit)
    (hLimit' : s.leastLimit machine ending ts ≤ limit') :
    s.outcome ⟨limit, machine⟩ ending ts =
      s.outcome ⟨limit', machine⟩ ending ts := by
  induction ts generalizing s with
  | nil =>
      cases ending with
      | error e => rfl
      | ok eof =>
          by_cases hFull : s.IsOverfull machine
          · rw [hFull.outcome_nil, hFull.outcome_nil]
          · simp only [leastLimit, hFull, if_false]
              at hLimit hLimit'
            simp only [outcome, if_false,
              not_isTooDeep_of_need_le hFull hLimit,
              not_isTooDeep_of_need_le hFull hLimit']
  | cons t ts ih =>
      by_cases hFull : s.IsOverfull machine
      · rw [hFull.outcome_cons, hFull.outcome_cons]
      · have hNeed := need_le_leastLimit hFull ending t ts
        have hDeep : ¬ s.IsTooDeep ⟨limit, machine⟩ :=
          not_isTooDeep_of_need_le hFull (by omega)
        have hDeep' : ¬ s.IsTooDeep ⟨limit', machine⟩ :=
          not_isTooDeep_of_need_le hFull (by omega)
        cases hNext : s.next? t with
        | none =>
            simp only [outcome, hDeep, hDeep', hNext, if_false]
        | some s' =>
            have hRest :=
              leastLimit_next_le hFull ending hNext ts
            rw [Reading.outcome_cons hDeep hNext,
              Reading.outcome_cons hDeep' hNext]
            exact ih s' (by omega) (by omega)

/- A token that does not fit is not too deep for a limit. -/
theorem stop_ne_tooDeep
    (s : Reading)
    (t : Token)
    (position : Nat) :
    s.stop t ≠ .error ⟨.tooDeep, position⟩ :=
  fun hStop => not_isOfDepth_of_stop hStop (Or.inl rfl)

/- With a limit that suffices nothing is too deep for it. -/
theorem outcome_ne_tooDeep
    (ts : List Token)
    (s : Reading)
    (hLimit : s.leastLimit machine ending ts ≤ limit)
    (position : Nat) :
    s.outcome ⟨limit, machine⟩ ending ts ≠
      .error ⟨.tooDeep, position⟩ := by
  intro hOutcome
  induction ts generalizing s with
  | nil =>
      cases ending with
      | error e => cases hOutcome
      | ok eof =>
          by_cases hFull : s.IsOverfull machine
          · rw [hFull.outcome_nil] at hOutcome
            cases hOutcome
          · simp only [leastLimit, hFull, if_false] at hLimit
            simp only [outcome, if_false,
              not_isTooDeep_of_need_le hFull hLimit]
              at hOutcome
            exact stop_ne_tooDeep s eof position hOutcome
  | cons t ts ih =>
      by_cases hFull : s.IsOverfull machine
      · rw [hFull.outcome_cons] at hOutcome
        cases hOutcome
      · have hNeed := need_le_leastLimit hFull ending t ts
        have hDeep : ¬ s.IsTooDeep ⟨limit, machine⟩ :=
          not_isTooDeep_of_need_le hFull (by omega)
        cases hNext : s.next? t with
        | none =>
            simp only [outcome, hDeep, hNext, if_false]
              at hOutcome
            exact stop_ne_tooDeep s t position hOutcome
        | some s' =>
            have hRest :=
              leastLimit_next_le hFull ending hNext ts
            rw [Reading.outcome_cons hDeep hNext] at hOutcome
            exact ih s' (by omega) hOutcome

/- With a lower limit something is too deep for it. -/
theorem exists_tooDeep_of_lt
    (hLimit : 0 ≤ limit)
    (ts : List Token)
    (s : Reading)
    (hLess : limit < s.leastLimit machine ending ts) :
    ∃ position,
      s.outcome ⟨limit, machine⟩ ending ts =
        .error ⟨.tooDeep, position⟩ := by
  induction ts generalizing s with
  | nil =>
      cases ending with
      | error e =>
          simp only [leastLimit] at hLess
          omega
      | ok eof =>
          by_cases hFull : s.IsOverfull machine
          · simp only [leastLimit, hFull, if_true] at hLess
            omega
          · simp only [leastLimit, hFull, if_false] at hLess
            have hDeep : s.IsTooDeep ⟨limit, machine⟩ :=
              isTooDeep_of_lt_need hLimit hLess
            exact ⟨eof.position, by
              simp only [outcome, hDeep, if_true,
                depthFault_eq_tooDeep hFull hDeep]⟩
  | cons t ts ih =>
      by_cases hFull : s.IsOverfull machine
      · simp only [leastLimit, hFull, if_true] at hLess
        omega
      · by_cases hDeep : s.IsTooDeep ⟨limit, machine⟩
        · exact ⟨t.position, by
            simp only [outcome, hDeep, if_true,
              depthFault_eq_tooDeep hFull hDeep]⟩
        · have hNeed : ¬ limit < s.need := fun h =>
            hDeep (isTooDeep_of_lt_need hLimit h)
          simp only [leastLimit, hFull, if_false] at hLess
          cases hNext : s.next? t with
          | none =>
              simp only [hNext] at hLess
              exact absurd hLess hNeed
          | some s' =>
              simp only [hNext] at hLess
              rw [Reading.outcome_cons hDeep hNext]
              exact ih s' (by omega)

------------------------------------------------------------
-- Places of Operands Too Deep
------------------------------------------------------------

/- What is too deep is so at one of the tokens. -/
theorem exists_mem_given_of_tooDeep
    {position : Nat}
    (ts : List Token)
    (s : Reading)
    (hOutcome :
      s.outcome ⟨limit, machine⟩ ending ts =
        .error ⟨.tooDeep, position⟩) :
    ∃ t ∈ Draws.given ⟨ts, ending⟩, t.position = position := by
  induction ts generalizing s with
  | nil =>
      cases ending with
      | error e => cases hOutcome
      | ok eof =>
          simp only [outcome] at hOutcome
          split at hOutcome
          · simp only [Except.error.injEq,
              ParseError.mk.injEq] at hOutcome
            exact ⟨eof, List.mem_cons_self, hOutcome.2⟩
          · exact absurd hOutcome
              (stop_ne_tooDeep s eof position)
  | cons t ts ih =>
      simp only [outcome] at hOutcome
      split at hOutcome
      · simp only [Except.error.injEq,
          ParseError.mk.injEq] at hOutcome
        exact ⟨t, List.mem_cons_self, hOutcome.2⟩
      · split at hOutcome
        · rename_i s' hNext
          rcases ih s' hOutcome with ⟨u, hu, hPosition⟩
          exact ⟨u, List.mem_cons_of_mem t hu, hPosition⟩
        · exact absurd hOutcome
            (stop_ne_tooDeep s t position)

/- A depth up to a limit is not too deep for a higher one. -/
theorem not_isTooDeep_of_lt
    {limit' : Int}
    {s : Reading}
    (hFull : ¬ s.IsOverfull machine)
    (hDepth : Frame.depth s.frames ≤ limit)
    (hLess : limit < limit') :
    ¬ s.IsTooDeep ⟨limit', machine⟩ := by
  apply not_isTooDeep_of_need_le hFull
  rcases s with ⟨_ | tree, frames⟩
  · simp only [need, Frame.need] at hDepth ⊢
    omega
  · simp only [need] at hDepth ⊢
    omega

/-
  A higher limit finds an operand too deep further to the
  right. As long as the lower one has found none, the depth
  is at most that limit, so both go on alike; where it finds
  one, the depth is the lower limit and the higher one goes
  on.
-/
theorem position_lt_of_limit_lt
    {limit' : Int}
    {position position' : Nat}
    (hLess : limit < limit')
    (ts : List Token)
    (s : Reading)
    (hDepth : Frame.depth s.frames ≤ limit)
    (hAscending :
      (Draws.given ⟨ts, ending⟩).Pairwise
        fun t u => t.position < u.position)
    (hOutcome :
      s.outcome ⟨limit, machine⟩ ending ts =
        .error ⟨.tooDeep, position⟩)
    (hOutcome' :
      s.outcome ⟨limit', machine⟩ ending ts =
        .error ⟨.tooDeep, position'⟩) :
    position < position' := by
  induction ts generalizing s with
  | nil =>
      cases ending with
      | error e => cases hOutcome
      | ok eof =>
          by_cases hFull : s.IsOverfull machine
          · rw [hFull.outcome_nil] at hOutcome
            cases hOutcome
          · simp only [outcome, if_false,
              not_isTooDeep_of_lt hFull hDepth hLess]
              at hOutcome'
            exact absurd hOutcome'
              (stop_ne_tooDeep s eof position')
  | cons t ts ih =>
      by_cases hFull : s.IsOverfull machine
      · rw [hFull.outcome_cons] at hOutcome
        cases hOutcome
      · have hHigher := not_isTooDeep_of_lt hFull hDepth hLess
        have hLater := (List.pairwise_cons.mp hAscending).1
        have hRest := (List.pairwise_cons.mp hAscending).2
        cases hNext : s.next? t with
        | none =>
            simp only [outcome, hHigher, hNext, if_false]
              at hOutcome'
            exact absurd hOutcome'
              (stop_ne_tooDeep s t position')
        | some s' =>
            rw [Reading.outcome_cons hHigher hNext] at hOutcome'
            by_cases hDeep : s.IsTooDeep ⟨limit, machine⟩
            · simp only [outcome, hDeep, if_true,
                Except.error.injEq, ParseError.mk.injEq]
                at hOutcome
              rcases exists_mem_given_of_tooDeep ts s'
                  hOutcome' with ⟨u, hu, rfl⟩
              rw [← hOutcome.2]
              exact hLater u hu
            · rw [Reading.outcome_cons hDeep hNext] at hOutcome
              exact ih s' (depth_next_le hDepth hDeep hNext)
                hRest hOutcome hOutcome'

------------------------------------------------------------
-- From the Start
------------------------------------------------------------

/- Every stack has room for a first operand. -/
theorem not_isOverfull_initial (machine : Stack) :
    ¬ initial.IsOverfull machine := by
  have hEnough := machine.enough
  unfold leastRoom at hEnough
  refine Nat.not_lt.mpr ?_
  simp only [Frame.need, Frame.calls]
  omega

/- The first operand is too deep for every limit below one. -/
theorem outcome_initial_of_nonpos
    (hLimit : limit ≤ 0)
    (ts : List Token) :
    initial.outcome ⟨limit, machine⟩ ending ts =
      initial.outcome ⟨0, machine⟩ ending ts := by
  have hTooDeep :
      ∀ limit : Int,
        limit ≤ 0 → initial.IsTooDeep ⟨limit, machine⟩ := by
    intro limit hLimit hAllow
    have hDepth : (1 : Int) ≤ limit := hAllow.depth
    omega
  have hDeep := hTooDeep limit hLimit
  have hDeep' := hTooDeep 0 (Int.le_refl 0)
  cases ts with
  | nil =>
      cases ending <;>
        simp only [outcome, hDeep, hDeep', if_true]
      rfl
  | cons t ts =>
      simp only [outcome, hDeep, hDeep', if_true]
      rfl

/- No limit is needed only where nothing is drawn. -/
theorem leastLimit_initial_eq_zero
    (machine : Stack)
    (ts : List Token) :
    initial.leastLimit machine ending ts = 0 ↔
      ts = [] ∧ ∃ e, ending = .error e := by
  have hNeed : initial.need = 1 := rfl
  have hFull := not_isOverfull_initial machine
  cases ts with
  | nil => cases ending <;> simp [leastLimit, hNeed, hFull]
  | cons t ts =>
      simp only [leastLimit, hNeed, hFull, if_false]
      split <;> simp

/-
  What is too deep with a limit that suffices is due beyond
  the stack.
-/
theorem isDueBeyond_of_isOfDepth
    {draws : Draws}
    {e : ParseError}
    (hEnding :
      ∀ eof, draws.ending = .ok eof → eof.kind = .eof)
    (hLimit :
      initial.leastLimit machine draws.ending draws.tokens ≤
        limit)
    (hOutcome :
      initial.outcome ⟨limit, machine⟩ draws.ending
          draws.tokens =
        .error e)
    (hFault : e.fault.IsOfDepth) :
    ∃ k t,
      draws.token? k = some t ∧
        e.position = t.position ∧
        Grammar.IsDueBeyond machine.room
          (draws.tokens.take k) := by
  rcases exists_takes ⟨limit, machine⟩ hEnding draws.tokens
      initial with ⟨k, s, _, hTakes, hHalts⟩
  have hHas := hTakes.has [] initial_has
  rw [hOutcome] at hHalts
  cases hHalts with
  | undrawn x hFailure => rcases hFault with h | h <;> cases h
  | stop t hToken hDeep hNext hStop =>
      exact absurd hFault (not_isOfDepth_of_stop hStop)
  | tooDeep t hToken hDeep =>
      refine ⟨k, t, hToken, rfl, ?_⟩
      have hFull : s.IsOverfull machine := by
        refine Decidable.byContradiction fun hFull => ?_
        rw [depthFault_eq_tooDeep hFull hDeep] at hOutcome
        exact outcome_ne_tooDeep _ _ hLimit _ hOutcome
      rcases s with ⟨_ | tree, frames⟩
      · exact ⟨_, _, ⟨frames, hHas, rfl, rfl⟩,
          Nat.le_of_lt_succ hFull⟩
      · cases hFull

end Reading

/- Nothing is drawn where the first draw fails. -/
theorem Lexer.draws_eq_error_iff (l : Lexer) :
    (l.draws.tokens = [] ∧ ∃ e, l.draws.ending = .error e) ↔
      ∃ e, l.next.1 = .error e := by
  cases hNext : l.next with
  | mk result l' =>
      cases result with
      | error e => simp [draws_of_error hNext]
      | ok t =>
          by_cases hKind : t.kind = .eof
          · simp [draws_of_eof hNext hKind]
          · simp [draws_of_token hNext hKind, Draws.cons]

------------------------------------------------------------
-- Texts
------------------------------------------------------------

/-
  A limit of the nesting does nothing but turn an outcome
  into the fault of being too deep. Every text needs some
  limit on a stack: with that one and all higher ones its
  outcome is the same, and is that fault only at an operand
  that the stack has no room for. With each lower one it is
  that fault, further to the right for a higher limit. A
  limit below zero does as zero does. None is needed only if
  not even the first token can be drawn.
-/
theorem parse_needs_limit (text : String) (machine : Stack) :
    ∃ needed : Nat,
      (∃ outcome,
        (∀ limit : Int,
          needed ≤ limit →
            parse text ⟨limit, machine⟩ = outcome) ∧
          ∀ e,
            outcome = .error e →
              e.fault.message =
                "Expression is nested too deeply" →
                ∃ k t,
                  (Lexer.start text).draws.token? k = some t ∧
                    e.position = t.position ∧
                    Grammar.IsDueBeyond machine.room
                      ((Lexer.start text).draws.tokens.take
                        k)) ∧
        (∀ limit : Nat,
          limit < needed →
            ∃ e,
              parse text ⟨limit, machine⟩ = .error e ∧
                e.fault.message =
                  "Expression is nested too deeply") ∧
        (∀ (limit limit' : Nat) (e e' : ParseError),
          limit < limit' →
            limit' < needed →
              parse text ⟨limit, machine⟩ = .error e →
                parse text ⟨limit', machine⟩ = .error e' →
                  e.position < e'.position) ∧
        (∀ limit : Int,
          limit < 0 →
            parse text ⟨limit, machine⟩ =
              parse text ⟨0, machine⟩) ∧
        (needed = 0 ↔
          ∃ e, (Lexer.start text).next.1 = .error e) := by
  let draws := (Lexer.start text).draws
  let needed :=
    Reading.initial.leastLimit machine draws.ending
      draws.tokens
  have hFinds :
      ∀ limit : Nat,
        limit < needed →
          ∃ position,
            parse text ⟨limit, machine⟩ =
              .error ⟨.tooDeep, position⟩ := by
    intro limit hLess
    rw [parse_eq_outcome]
    exact Reading.exists_tooDeep_of_lt
      (Int.natCast_nonneg _) draws.tokens Reading.initial
      (Int.ofNat_lt.mpr hLess)
  refine ⟨needed,
    ⟨parse text ⟨needed, machine⟩, ?_, ?_⟩, ?_, ?_, ?_, ?_⟩
  · intro limit hLimit
    rw [parse_eq_outcome, parse_eq_outcome]
    exact Reading.outcome_congr_limit _ _ hLimit
      (Int.le_refl _)
  · intro e hParse hMessage
    rw [parse_eq_outcome] at hParse
    exact Reading.isDueBeyond_of_isOfDepth
      (fun _ => Lexer.kind_eq_eof_of_ending)
      (Int.le_refl _) hParse
      (ParseFault.isOfDepth_iff_message.mpr hMessage)
  · intro limit hLess
    rcases hFinds limit hLess with ⟨position, hParse⟩
    exact ⟨_, hParse, rfl⟩
  · intro limit limit' e e' hLimits hLess hParse hParse'
    rcases hFinds limit (by omega) with ⟨position, hDeep⟩
    rcases hFinds limit' hLess with ⟨position', hDeep'⟩
    rw [hDeep] at hParse
    rw [hDeep'] at hParse'
    cases hParse
    cases hParse'
    rw [parse_eq_outcome] at hDeep hDeep'
    exact Reading.position_lt_of_limit_lt
      (Int.ofNat_lt.mpr hLimits) draws.tokens Reading.initial
      (Int.natCast_nonneg _)
      (Lexer.ascending_draws (Lexer.start text)).1
      hDeep hDeep'
  · intro limit hLimit
    rw [parse_eq_outcome, parse_eq_outcome]
    exact Reading.outcome_initial_of_nonpos
      (Int.le_of_lt hLimit) _
  · rw [← Lexer.draws_eq_error_iff]
    exact Reading.leastLimit_initial_eq_zero machine _

/- A text that needs a limit of three. -/
example :
    parse "(-" { limit := 1 } = .error ⟨.tooDeep, 1⟩ ∧
      parse "(-" { limit := 2 } = .error ⟨.tooDeep, 2⟩ ∧
      parse "(-" { limit := 3 } =
        .error ⟨.expectedOperand .eof, 2⟩ := by
  refine ⟨?_, ?_, ?_⟩ <;> cbv

/-
  No limit is high enough for three thousand pairs of
  brackets, which the usual stack has no room for.
-/
theorem nested_limit_insufficient :
    ¬ ∀ text : String,
      ∃ (needed : Nat) (outcome : Except ParseError Tree),
        (∀ limit : Int,
          needed ≤ limit →
            parse text { limit := limit } = outcome) ∧
          ∀ e,
            outcome = .error e →
              e.fault.message ≠
                "Expression is nested too deeply" := by
  intro hAll
  rcases hAll (nested 3000) with
    ⟨needed, outcome, hSame, hNotDeep⟩
  have hRoom :
      ({ limit := needed } : Bounds).stack.room <
        3 * 3000 + 3 := by
    change 960 < _
    decide
  rcases parse_nested_of_room_lt hRoom with
    ⟨e, hError, hFault⟩
  have hOutcome := hSame needed (Int.le_refl _)
  rw [hError] at hOutcome
  exact hNotDeep e hOutcome.symm
    (ParseFault.isOfDepth_iff_message.mp hFault)

end Calculator
