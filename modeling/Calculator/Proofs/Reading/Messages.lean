import Calculator.Expr.ParseError

/-
  This file shows which faults are told apart by the start of
  their messages.

  Key definitions include:
    * `ParseFault.IsOfDepth`
-/

namespace Calculator

/- A text has the characters of its first part. -/
theorem getElem?_toList_append
    {s : String}
    {i : Nat}
    {c : Char}
    (hChar : s.toList[i]? = some c)
    (t : String) :
    (s ++ t).toList[i]? = some c := by
  rcases List.getElem?_eq_some_iff.mp hChar with ⟨hLess, _⟩
  rw [String.toList_append, List.getElem?_append_left hLess]
  exact hChar

namespace ParseFault

/- The faults of what is nested too deeply. -/
def IsOfDepth (fault : ParseFault) : Prop :=
  fault = .tooDeep ∨ fault = .overflow

/-
  The fifth character of a message tells whether something is
  too deep, and whether it is about an internal error.
-/
theorem fifth_message (fault : ParseFault) :
    ∃ c,
      fault.message.toList[4]? = some c ∧
        (c = 'e' → fault.IsOfDepth) ∧
        (c = 'r' → ∃ text, fault = .malformedNumber text) := by
  cases fault with
  | tooDeep =>
      exact ⟨'e', rfl, fun _ => Or.inl rfl, nofun⟩
  | overflow =>
      exact ⟨'e', rfl, fun _ => Or.inr rfl, nofun⟩
  | malformedNumber text =>
      exact ⟨'r', getElem?_toList_append rfl _, nofun,
        fun _ => ⟨text, rfl⟩⟩
  | lexical e =>
      exact ⟨'a', getElem?_toList_append rfl _, nofun,
        nofun⟩
  | trailing kind =>
      exact ⟨'p',
        getElem?_toList_append
          (getElem?_toList_append rfl _) _,
        nofun, nofun⟩
  | expected wanted found =>
      exact ⟨'c',
        getElem?_toList_append
          (getElem?_toList_append
            (getElem?_toList_append rfl _) _) _,
        nofun, nofun⟩
  | expectedOperand found =>
      exact ⟨'c', getElem?_toList_append rfl _, nofun,
        nofun⟩

variable {fault : ParseFault}

/- Only what is too deep is told to be so. -/
theorem isOfDepth_iff_message :
    fault.IsOfDepth ↔
      fault.message = "Expression is nested too deeply" := by
  constructor
  · rintro (rfl | rfl) <;> rfl
  · intro hMessage
    rcases fault.fifth_message with ⟨c, hFifth, hOnly, _⟩
    have hDeep : fault.message.toList[4]? = some 'e' := by
      rw [hMessage]
      rfl
    rw [hFifth] at hDeep
    exact hOnly (Option.some.inj hDeep)

/- Only a malformed number is told to be an internal error. -/
theorem exists_malformedNumber
    {text : String}
    (hMessage :
      fault.message = (malformedNumber text).message) :
    ∃ other, fault = .malformedNumber other := by
  rcases fault.fifth_message with ⟨c, hFifth, _, hOnly⟩
  have hInternal : fault.message.toList[4]? = some 'r' := by
    rw [hMessage]
    exact getElem?_toList_append rfl _
  rw [hFifth] at hInternal
  exact hOnly (Option.some.inj hInternal)

end ParseFault

end Calculator
