import Calculator.Proofs.Lexing.Respacing
import Calculator.Proofs.Reading.Simulation
import Calculator.Proofs.Trees.Places

/-
  This file shows that reading does not depend on the places
  of tokens: what it does at tokens that are alike is alike,
  and it stops at the same one of them. So the gaps between
  the tokens of a text make no difference.

  Key definitions include:
    * `Frame.unplaced`
    * `Reading.unplaced`
    * `ReadAlike`
-/

namespace Calculator

------------------------------------------------------------
-- Frames
------------------------------------------------------------

namespace Frame

/- A frame with all tokens moved to one place. -/
def unplaced : Frame → Frame
| .sign operator => .sign (operator.movedTo 0)
| .bracket => .bracket
| .factor left operator =>
    .factor left.unplaced (operator.movedTo 0)
| .addend left operator =>
    .addend left.unplaced (operator.movedTo 0)

/- The depth does not depend on places. -/
theorem depth_map_unplaced (frames : List Frame) :
    depth (frames.map unplaced) = depth frames := by
  induction frames with
  | nil => rfl
  | cons frame frames ih =>
      rw [List.map_cons, depth, depth, ih]
      cases frame <;> rfl

/- Nor do the calls. -/
theorem calls_map_unplaced (frames : List Frame) :
    calls (frames.map unplaced) = calls frames := by
  induction frames with
  | nil => rfl
  | cons frame frames ih =>
      rw [List.map_cons, calls, calls, ih]
      cases frame <;> rfl

/- Nor does what an operand in the frames needs. -/
theorem need_map_unplaced (frames : List Frame) :
    need (frames.map unplaced) = need frames := by
  rw [need, depth_map_unplaced, calls_map_unplaced, need]

/- Nor does it which term is completed. -/
theorem closeTerm_unplaced
    (tree : Tree)
    (frames : List Frame) :
    closeTerm tree.unplaced (frames.map unplaced) =
      ((closeTerm tree frames).1.unplaced,
        (closeTerm tree frames).2.map unplaced) := by
  fun_induction closeTerm tree frames with
  | case1 tree operator frames ih => exact ih
  | case2 tree left operator frames ih => exact ih
  | case3 tree frames hSign hFactor =>
      cases frames with
      | nil => rfl
      | cons frame frames =>
          cases frame with
          | sign operator => exact absurd rfl (hSign _ _)
          | factor left operator =>
              exact absurd rfl (hFactor _ _ _)
          | bracket => rfl
          | addend left operator => rfl

/- Nor does it which expression is. -/
theorem closeExpr_unplaced
    (tree : Tree)
    (frames : List Frame) :
    closeExpr tree.unplaced (frames.map unplaced) =
      ((closeExpr tree frames).1.unplaced,
        (closeExpr tree frames).2.map
          (List.map unplaced)) := by
  fun_induction closeExpr tree frames with
  | case1 tree => rfl
  | case2 tree frames => rfl
  | case3 tree operator frames ih => exact ih
  | case4 tree left operator frames ih => exact ih
  | case5 tree left operator frames ih => exact ih

/- To complete a term first completes the same expression. -/
theorem closeExpr_closeTerm
    (tree : Tree)
    (frames : List Frame) :
    closeExpr (closeTerm tree frames).1
        (closeTerm tree frames).2 =
      closeExpr tree frames := by
  fun_induction closeTerm tree frames with
  | case1 tree operator frames ih => exact ih
  | case2 tree left operator frames ih => exact ih
  | case3 tree frames => rfl

end Frame

------------------------------------------------------------
-- States
------------------------------------------------------------

/- A phase with all tokens moved to one place. -/
def Reading.Phase.unplaced : Reading.Phase → Reading.Phase
| .due => .due
| .read tree => .read tree.unplaced

namespace Reading

/- A state with all tokens moved to one place. -/
def unplaced (s : Reading) : Reading :=
  ⟨s.phase.unplaced, s.frames.map Frame.unplaced⟩

/- Whether it is too deep does not depend on places. -/
theorem isTooDeep_unplaced
    (bounds : Bounds)
    (s : Reading) :
    s.unplaced.IsTooDeep bounds ↔ s.IsTooDeep bounds := by
  rcases s with ⟨_ | tree, frames⟩
  · simp only [unplaced, Phase.unplaced, IsTooDeep,
      Frame.need_map_unplaced]
  · exact Iff.rfl

/- Nor does it what is wrong with it. -/
theorem depthFault_unplaced
    (bounds : Bounds)
    (s : Reading) :
    s.unplaced.depthFault bounds = s.depthFault bounds := by
  simp only [depthFault, unplaced, Frame.need_map_unplaced]

/- Nor does it where reading goes on. -/
theorem next?_unplaced
    (s : Reading)
    (t : Token) :
    s.unplaced.next? (t.movedTo 0) =
      (s.next? t).map unplaced := by
  have hKind : (t.movedTo 0).kind = t.kind := rfl
  rcases s with ⟨_ | tree, frames⟩
  · simp only [unplaced, Phase.unplaced, next?, hKind]
    split
    · rfl
    · split
      · rfl
      · split
        · rw [Tree.ofNumber_movedTo]
          rfl
        · rfl
  · simp only [unplaced, Phase.unplaced, next?, hKind,
      Frame.closeTerm_unplaced, Frame.closeExpr_unplaced]
    split
    · rfl
    · rw [Frame.closeExpr_closeTerm]
      cases Frame.closeExpr tree frames with
      | mk expr outer =>
          cases outer with
          | none =>
              dsimp only [Option.map_none]
              split <;> rfl
          | some outer =>
              dsimp only [Option.map_some]
              split
              · rfl
              · split <;> rfl

end Reading

------------------------------------------------------------
-- Results
------------------------------------------------------------

/-
  Results of reading tokens and of reading others that are
  alike: trees that are the same but for the places of their
  tokens, with the same value, or the same fault at the same
  one of the tokens.
-/
inductive ReadAlike (tokens tokens' : List Token) :
    Except ParseError Tree →
    Except ParseError Tree → Prop where
| tree
    {tree tree' : Tree}
    (hTree : tree.unplaced = tree'.unplaced)
    (hValue : tree.evaluate = tree'.evaluate) :
    ReadAlike tokens tokens' (.ok tree) (.ok tree')
| fault
    (k : Nat)
    {t t' : Token}
    {fault : ParseFault}
    (hToken : tokens[k]? = some t)
    (hToken' : tokens'[k]? = some t') :
    ReadAlike tokens tokens' (.error ⟨fault, t.position⟩)
      (.error ⟨fault, t'.position⟩)

namespace ReadAlike

variable {t t' : Token}
variable {ts ts' : List Token}

/- Trees that differ in places only have the same value. -/
theorem of_unplaced
    {tree tree' : Tree}
    (hTree : tree.unplaced = tree'.unplaced) :
    ReadAlike ts ts' (.ok tree) (.ok tree') := by
  refine .tree hTree ?_
  rw [← Expr.evaluate_unplaced tree, hTree,
    Expr.evaluate_unplaced]

/- A fault at the first token is at the first of others. -/
theorem fault_first (fault : ParseFault) :
    ReadAlike (t :: ts) (t' :: ts')
      (.error ⟨fault, t.position⟩)
      (.error ⟨fault, t'.position⟩) :=
  .fault 0 rfl rfl

/- One more token before the others changes no result. -/
theorem cons
    {result result' : Except ParseError Tree}
    (hAlike : ReadAlike ts ts' result result')
    (t t' : Token) :
    ReadAlike (t :: ts) (t' :: ts') result result' := by
  cases hAlike with
  | tree hTree hValue => exact .tree hTree hValue
  | fault k hToken hToken' =>
      exact .fault (k + 1) hToken hToken'

end ReadAlike

/- Tokens that are alike have the same kind. -/
theorem Token.kind_eq_of_movedTo
    {t t' : Token}
    (hToken : t.movedTo 0 = t'.movedTo 0) :
    t.kind = t'.kind := by
  cases t
  cases t'
  cases hToken
  rfl

namespace Reading

variable {s s' : Reading}
variable {t t' : Token}

/- Where reading stops, it stops in the same way. -/
theorem readAlike_stop
    (hState : s.unplaced = s'.unplaced)
    (hToken : t.movedTo 0 = t'.movedTo 0)
    (ts ts' : List Token) :
    ReadAlike (t :: ts) (t' :: ts') (s.stop t)
      (s'.stop t') := by
  have hKind := Token.kind_eq_of_movedTo hToken
  rcases s with ⟨_ | tree, frames⟩ <;>
    rcases s' with ⟨_ | tree', frames'⟩
  · rw [stop, stop, hKind]
    exact .fault_first _
  · cases hState
  · cases hState
  · simp only [unplaced, Phase.unplaced, mk.injEq,
      Phase.read.injEq] at hState
    have hClose := Frame.closeExpr_unplaced tree frames
    rw [hState.1, hState.2,
      Frame.closeExpr_unplaced] at hClose
    simp only [stop, Frame.closeExpr_closeTerm, hKind]
    revert hClose
    rcases Frame.closeExpr tree frames with
        ⟨expr, _ | outer⟩ <;>
      rcases Frame.closeExpr tree' frames' with
        ⟨expr', _ | outer'⟩ <;>
      intro hClose
    · have hExpr := congrArg Prod.fst hClose
      dsimp only
      by_cases hEof : t'.kind = .eof
      · rw [if_pos hEof, if_pos hEof]
        exact .of_unplaced hExpr.symm
      · rw [if_neg hEof, if_neg hEof]
        exact .fault_first _
    · cases congrArg Prod.snd hClose
    · cases congrArg Prod.snd hClose
    · exact .fault_first _

/- Where reading goes on, it goes on in the same way. -/
theorem next?_alike
    (hState : s.unplaced = s'.unplaced)
    (hToken : t.movedTo 0 = t'.movedTo 0) :
    (s.next? t).map unplaced =
      (s'.next? t').map unplaced := by
  rw [← next?_unplaced, hState, hToken, next?_unplaced]

/- And it is too deep in the same states. -/
theorem isTooDeep_alike
    (hState : s.unplaced = s'.unplaced)
    (bounds : Bounds) :
    s.IsTooDeep bounds ↔ s'.IsTooDeep bounds := by
  rw [← isTooDeep_unplaced, hState, isTooDeep_unplaced]

/- What is wrong with them is the same. -/
theorem depthFault_alike
    (hState : s.unplaced = s'.unplaced)
    (bounds : Bounds) :
    s.depthFault bounds = s'.depthFault bounds := by
  rw [← depthFault_unplaced, hState, depthFault_unplaced]

/-
  Tokens that are alike are read alike, from states that are
  alike. The induction is on the tokens.
-/
theorem readAlike_outcome
    (bounds : Bounds)
    {tokens tokens' : List Token}
    {eof eof' : Token}
    (hTokens : Token.AreAlike tokens tokens')
    (hEof : eof.movedTo 0 = eof'.movedTo 0)
    (hState : s.unplaced = s'.unplaced) :
    ReadAlike (tokens ++ [eof]) (tokens' ++ [eof'])
      (s.outcome bounds (.ok eof) tokens)
      (s'.outcome bounds (.ok eof') tokens') := by
  induction tokens' generalizing tokens s s' with
  | nil =>
      cases List.map_eq_nil_iff.mp hTokens
      have hDeep := isTooDeep_alike hState bounds
      have hFault := depthFault_alike hState bounds
      simp only [List.nil_append, outcome, hDeep, hFault]
      split
      · exact .fault_first _
      · exact readAlike_stop hState hEof [] []
  | cons t' tokens' ih =>
      rcases hTokens.exists_cons with
        ⟨place, tokens, rfl, hRest⟩
      have hToken :
          (t'.movedTo place).movedTo 0 = t'.movedTo 0 :=
        rfl
      have hNext := next?_alike hState hToken
      have hDeep := isTooDeep_alike hState bounds
      have hFault := depthFault_alike hState bounds
      simp only [List.cons_append, outcome, hDeep, hFault]
      split
      · exact .fault_first _
      · cases hs : s.next? (t'.movedTo place) with
        | none =>
            rw [hs] at hNext
            have hs' : s'.next? t' = none :=
              Option.map_eq_none_iff.mp hNext.symm
            rw [hs']
            exact readAlike_stop hState hToken _ _
        | some next =>
            rw [hs] at hNext
            rcases Option.map_eq_some_iff.mp hNext.symm with
              ⟨next', hs', hNext'⟩
            rw [hs']
            exact (ih hRest hNext'.symm).cons _ _

end Reading

------------------------------------------------------------
-- Respaced Texts
------------------------------------------------------------

/-
  Where the tokens of a text are put together again, with any
  gaps that keep apart what stands apart, the new text has
  the same tokens but for their places, and is read as the
  same tree but for their places, with the same value, or has
  the same fault at the same one of the tokens. By itself the
  text of each token is that token.
-/
theorem respaced_reads_alike
    {text : String}
    {tokens : List Token}
    {eof : Token}
    {gaps : Nat → String}
    (hTokens : tokenize text = .ok (tokens ++ [eof]))
    (hKeeps : Token.KeepsApart tokens gaps) :
    eof.kind = .eof ∧
      (∃ tokens' eof',
        tokenize (respaced gaps tokens) =
            .ok (tokens' ++ [eof']) ∧
          Token.AreAlike (tokens ++ [eof])
            (tokens' ++ [eof']) ∧
          ∀ bounds,
            ReadAlike (tokens ++ [eof]) (tokens' ++ [eof'])
              (parse text bounds)
              (parse (respaced gaps tokens) bounds)) ∧
      ∀ t ∈ tokens,
        tokenize t.text =
          .ok [t.movedTo 0, ⟨.eof, "", t.text.length⟩] := by
  have hDraws := tokenize_eq_ok.mp hTokens
  have hEnding :
      (Lexer.start text).draws.ending = .ok eof := by
    rw [hDraws]
  refine ⟨Lexer.kind_eq_eof_of_ending hEnding, ?_, ?_⟩
  · rcases Lexer.draws_respaced hDraws hKeeps 0 with
      ⟨tokens', eof', hDraws', hAlike, hEof⟩
    refine ⟨tokens', eof', tokenize_eq_ok.mpr hDraws', ?_,
      fun bounds => ?_⟩
    · have hSame :
          tokens'.map (·.movedTo 0) =
            tokens.map (·.movedTo 0) :=
        hAlike
      rw [Token.AreAlike, List.map_append, List.map_append,
        hSame, List.map_singleton, List.map_singleton, hEof]
    · rw [parse_eq_outcome, parse_eq_outcome, hDraws,
        Lexer.start, hDraws']
      exact Reading.readAlike_outcome bounds hAlike.symm
        hEof.symm rfl
  · intro t ht
    have hSpelled : t.IsSpelled := by
      apply Lexer.isSpelled_of_mem_draws (Lexer.start text)
      rw [hDraws]
      exact ht
    exact tokenize_eq_ok.mpr (Lexer.draws_alone hSpelled)

/-
  Two slashes that stand apart must be kept apart, and a
  slash and a number need not be.
-/
theorem respaced_reads_alike_slashes :
    ∃ tokens eof tokens' eof',
      tokenize "2 / /3" = .ok (tokens ++ [eof]) ∧
        tokenize "2\n/\t /3\x0C" = .ok (tokens' ++ [eof']) ∧
        ReadAlike (tokens ++ [eof]) (tokens' ++ [eof'])
          (parse "2 / /3" {})
          (parse "2\n/\t /3\x0C" {}) := by
  have hTokens :
      tokenize "2 / /3" =
        .ok ([⟨.integer, "2", 0⟩, ⟨.slash, "/", 2⟩,
          ⟨.slash, "/", 4⟩, ⟨.integer, "3", 5⟩] ++
            [⟨.eof, "", 6⟩]) := by
    cbv
  have hKeeps :
      Token.KeepsApart
        [⟨.integer, "2", 0⟩, ⟨.slash, "/", 2⟩,
          ⟨.slash, "/", 4⟩, ⟨.integer, "3", 5⟩]
        fun i => ["", "\n", "\t ", "", "\x0C"].getD i "" := by
    refine ⟨?_, ?_⟩
    · intro i
      apply List.all_eq_true.mp
      rcases i with _ | _ | _ | _ | _ | i <;> rfl
    · intro i t u ht hu hLess
      rcases i with _ | _ | _ | i
      · decide
      · decide
      · cases ht
        cases hu
        exact absurd hLess (by decide)
      · cases hu
  rcases (respaced_reads_alike hTokens hKeeps).2.1 with
    ⟨tokens', eof', hTokens', _, hAlike⟩
  exact ⟨_, _, tokens', eof', hTokens, hTokens', hAlike {}⟩

end Calculator
