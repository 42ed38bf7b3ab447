import Calculator.Proofs.Reading.Machine
import Calculator.Proofs.Reading.Messages

/-
  This file shows how derivations are read. The machine goes
  over the tokens of a derivation to a state that holds its
  tree, unless the derivation is nested too deeply.

  Key definitions include:
    * `Reading.Passes`
    * `Grammar.Part.IsPassed`
-/

namespace Calculator

open Grammar

namespace Reading

variable {bounds : Bounds}
variable {ending : Except LexError Token}

------------------------------------------------------------
-- Passes
------------------------------------------------------------

/- An operand that is too deep has such a fault. -/
theorem isOfDepth_depthFault
    (bounds : Bounds)
    (s : Reading) :
    (s.depthFault bounds).IsOfDepth := by
  unfold depthFault
  split
  · exact Or.inl rfl
  · exact Or.inr rfl

/-
  Reading goes from one state over tokens to another, if the
  bounds allow what the tokens need, and finds one of the
  tokens too deep if they do not.
-/
def Passes
    (bounds : Bounds)
    (ending : Except LexError Token)
    (need : Need)
    (ts rest : List Token)
    (s s' : Reading) : Prop :=
  if bounds.Allow need then
    s.outcome bounds ending (ts ++ rest) =
      s'.outcome bounds ending rest
  else
    ∃ t ∈ ts,
      ∃ fault : ParseFault,
        fault.IsOfDepth ∧
          s.outcome bounds ending (ts ++ rest) =
            .error ⟨fault, t.position⟩

namespace Passes

variable {need : Need}
variable {ts us rest : List Token}
variable {s s' s'' : Reading}

/- There is enough for no tokens. -/
theorem nil
    (hNeed : bounds.Allow need)
    (s : Reading) :
    Passes bounds ending need [] rest s s := by
  simp only [Passes, hNeed, if_true, List.nil_append]

/- What is read after a pass is read after the tokens. -/
theorem congr_right
    (hPasses : Passes bounds ending need ts rest s s')
    (hOutcome :
      s'.outcome bounds ending rest =
        s''.outcome bounds ending rest) :
    Passes bounds ending need ts rest s s'' := by
  unfold Passes at hPasses ⊢
  rwa [hOutcome] at hPasses

/- A token before tokens that are passed. -/
theorem cons
    {t : Token}
    (hNext : s.next? t = some s')
    (hNeed : s.IsTooDeep bounds → ¬ bounds.Allow need)
    (hPasses :
      ¬ s.IsTooDeep bounds →
        Passes bounds ending need ts rest s' s'') :
    Passes bounds ending need (t :: ts) rest s s'' := by
  unfold Passes at hPasses ⊢
  by_cases hDeep : s.IsTooDeep bounds
  · rw [if_neg (hNeed hDeep)]
    refine ⟨t, List.mem_cons_self, _,
      isOfDepth_depthFault bounds s, ?_⟩
    simp only [List.cons_append, outcome, hDeep, if_true]
  · have hAfter := hPasses hDeep
    rw [List.cons_append, outcome_cons hDeep hNext]
    by_cases hAllow : bounds.Allow need
    · rw [if_pos hAllow] at hAfter ⊢
      exact hAfter
    · rw [if_neg hAllow] at hAfter ⊢
      rcases hAfter with ⟨u, hu, hOutcome⟩
      exact ⟨u, List.mem_cons_of_mem t hu, hOutcome⟩

/- A token before tokens that are passed, after an operand. -/
theorem cons_read
    {t : Token}
    {tree : Tree}
    {frames : List Frame}
    (hNext : next? ⟨.read tree, frames⟩ t = some s')
    (hPasses : Passes bounds ending need ts rest s' s'') :
    Passes bounds ending need (t :: ts) rest
      ⟨.read tree, frames⟩ s'' :=
  cons hNext
    (fun hDeep =>
      absurd hDeep (not_isTooDeep_read bounds tree frames))
    (fun _ => hPasses)

/- A token before tokens that are passed, in an operand. -/
theorem cons_due
    {t : Token}
    {frames : List Frame}
    (hNext : next? ⟨.due, frames⟩ t = some s')
    (hNeed :
      bounds.Allow need → bounds.Allow (Frame.need frames))
    (hPasses :
      bounds.Allow (Frame.need frames) →
        Passes bounds ending need ts rest s' s'') :
    Passes bounds ending need (t :: ts) rest
      ⟨.due, frames⟩ s'' := by
  refine cons hNext (fun hDeep hAllow => hDeep (hNeed hAllow))
    ?_
  intro hDeep
  exact hPasses (Decidable.not_not.mp hDeep)

/- Passes over tokens and over those that follow them. -/
theorem append
    {first second : Need}
    (hFirst :
      Passes bounds ending first ts (us ++ rest) s s')
    (hSecond :
      bounds.Allow first →
        Passes bounds ending second us rest s' s'') :
    Passes bounds ending (max first second) (ts ++ us) rest
      s s'' := by
  unfold Passes at hFirst hSecond ⊢
  rw [List.append_assoc]
  by_cases hAllow : bounds.Allow first
  · have hAfter := hSecond hAllow
    rw [if_pos hAllow] at hFirst
    rw [hFirst]
    by_cases hAllow' : bounds.Allow second
    · rw [if_pos hAllow'] at hAfter
      rw [if_pos (Bounds.allow_max.mpr ⟨hAllow, hAllow'⟩)]
      exact hAfter
    · rw [if_neg hAllow'] at hAfter
      rw [if_neg fun h => hAllow' (Bounds.allow_max.mp h).2]
      rcases hAfter with ⟨u, hu, hOutcome⟩
      exact ⟨u, List.mem_append_right ts hu, hOutcome⟩
  · rw [if_neg hAllow] at hFirst
    rw [if_neg fun h => hAllow (Bounds.allow_max.mp h).1]
    rcases hFirst with ⟨t, ht, hOutcome⟩
    exact ⟨t, List.mem_append_left us ht, hOutcome⟩

end Passes

end Reading

------------------------------------------------------------
-- Derivations
------------------------------------------------------------

namespace Grammar

open Reading

variable {bounds : Bounds}
variable {ending : Except LexError Token}

/-
  The derivations of a part are passed: from where an operand
  is due to where the part is read, or for a run of operators
  from the tree before the run to that of all. What stands
  after must not go on with a term that the part ends in.
-/
def Part.IsPassed
    (bounds : Bounds)
    (ending : Except LexError Token) :
    (part : Part) → Derivation part → Prop
| .expr, d =>
    ∀ frames rest,
      Frame.OpensExpr frames →
      Part.term.StopsAt rest →
        Passes bounds ending (d.need frames) d.tokens rest
          ⟨.due, frames⟩ ⟨.read d.tree, frames⟩
| .addends, d =>
    ∀ frames rest left,
      Frame.OpensExpr frames →
      Part.term.StopsAt rest →
      bounds.Allow (Part.addends.need frames) →
        Passes bounds ending (d.need frames) d.tokens rest
          ⟨.read left, frames⟩
          ⟨.read (d.tree left), frames⟩
| .term, d =>
    ∀ frames rest,
      Frame.OpensTerm frames →
        Passes bounds ending (d.need frames) d.tokens rest
          ⟨.due, frames⟩ ⟨.read d.tree, frames⟩
| .factors, d =>
    ∀ frames rest left,
      Frame.OpensTerm frames →
      bounds.Allow (Part.factors.need frames) →
        Passes bounds ending (d.need frames) d.tokens rest
          ⟨.read left, frames⟩
          ⟨.read (d.tree left), frames⟩
| .operand, d =>
    ∀ frames rest,
      Passes bounds ending (d.need frames) d.tokens rest
        ⟨.due, frames⟩ ⟨.read d.tree, frames⟩

namespace Derivation

/- What a part needs is needed to come to the part. -/
theorem allow_part
    {part : Part}
    {d : Derivation part}
    {frames : List Frame}
    (hNeed : bounds.Allow (d.need frames)) :
    bounds.Allow (part.need frames) :=
  hNeed.mono (Nat.le_add_right _ _) (Nat.le_add_right _ _)

/- An operand needs no less than to start it. -/
theorem allow_start
    {d : Derivation .operand}
    {frames : List Frame}
    (hNeed : bounds.Allow (d.need frames)) :
    bounds.Allow (Frame.need frames) := by
  refine hNeed.mono ?_ ?_ <;>
    cases d <;>
      simp only [Frame.need, need, depth, calls,
        Part.level] <;>
      omega

/- Every derivation is passed. -/
theorem isPassed
    {part : Part}
    (d : Derivation part)
    (bounds : Bounds)
    (ending : Except LexError Token) :
    part.IsPassed bounds ending d := by
  induction d with
  | number token hNumber =>
      intro frames rest
      refine Passes.cons_due (next?_number hNumber frames) id
        ?_
      intro hAllow
      exact Passes.nil hAllow _
  | signed sign hSign operand ih =>
      intro frames rest
      have hPasses := ih (.sign sign :: frames) rest
      refine Passes.cons_due (next?_sign hSign frames)
        allow_start ?_
      intro _
      rw [need_signed]
      exact hPasses.congr_right
        (outcome_read_sign sign operand.tree frames rest)
  | bracketed opening hOpening inner closing hClosing ih =>
      intro frames rest
      have hPasses := ih (.bracket :: frames)
        (closing :: rest) (Or.inr ⟨frames, rfl⟩)
        (stopsAt_closing hClosing)
      refine Passes.cons_due (next?_opening hOpening frames)
        allow_start ?_
      intro _
      rw [need_bracketed, ← Need.max_self (inner.need _)]
      refine Passes.append hPasses ?_
      intro hNeed
      exact Passes.cons_read
        (next?_closing hClosing inner.tree frames)
        (Passes.nil hNeed _)
  | term first rest ihFirst ihRest =>
      intro frames after hOpens
      have hFirst := ihFirst frames (rest.tokens ++ after)
      rw [need_term]
      refine hFirst.append fun hNeed => ?_
      have hOperand := allow_part hNeed
      exact ihRest frames after first.tree hOpens hOperand
  | noFactor =>
      intro frames rest left hOpens hNeed
      exact Passes.nil hNeed _
  | factor operator hOperator right rest ihRight ihRest =>
      intro frames after left hOpens hNeed
      have hRight := ihRight (.factor left operator :: frames)
        (rest.tokens ++ after)
      have hTree := hRight.congr_right
        (outcome_read_factor left right.tree operator frames
          (rest.tokens ++ after))
      rw [need_factor frames left]
      exact Passes.cons_read
        (next?_factor hOperator hOpens left)
        (hTree.append fun _ =>
          ihRest frames after
            (.binary left operator right.tree) hOpens hNeed)
  | expr first rest ihFirst ihRest =>
      intro frames after hOpens hStop
      have hFirst := ihFirst frames (rest.tokens ++ after)
        hOpens.opensTerm
      rw [need_expr]
      refine hFirst.append fun hNeed => ?_
      have hTerm := allow_part hNeed
      exact ihRest frames after first.tree hOpens hStop hTerm
  | noAddend =>
      intro frames rest left hOpens hStop hNeed
      exact Passes.nil hNeed _
  | addend operator hOperator right rest ihRight ihRest =>
      intro frames after left hOpens hStop hNeed
      have hRight := ihRight (.addend left operator :: frames)
        (rest.tokens ++ after)
        (Frame.opensTerm_addend left operator frames)
      have hTree := hRight.congr_right
        (outcome_read_addend hOpens
          (stopsAt_addends rest hStop))
      rw [need_addend frames left]
      exact Passes.cons_read
        (next?_addend hOperator hOpens left)
        (hTree.append fun _ =>
          ihRest frames after
            (.binary left operator right.tree) hOpens hStop
            hNeed)

end Derivation

end Grammar

end Calculator
