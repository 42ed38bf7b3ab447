import Calculator.Decimal.Notation
import Calculator.Proofs.Lexing.Numeral

/-
  This file shows that the digits that a natural number is
  written with stand for that number.
-/

namespace Calculator

-- Powers of natural numbers are those of the core library.
attribute [local
instance 20000] instPowNat

open Text (isDigit digitValue naturalValue AllDigits)

------------------------------------------------------------
-- Values of Digits
------------------------------------------------------------

/- Digits are read on from the value of those before them. -/
theorem foldl_digits
    (digits : List Char)
    (start : Nat) :
    digits.foldl (fun n c => 10 * n + digitValue c) start =
      start * 10 ^ digits.length + naturalValue digits := by
  induction digits generalizing start with
  | nil => simp [naturalValue]
  | cons c cs ih =>
      simp only [naturalValue, List.foldl_cons,
        List.length_cons]
      rw [ih, ih (10 * 0 + digitValue c), Nat.pow_succ,
        Nat.mul_zero, Nat.zero_add, Nat.add_mul,
        Nat.add_assoc]
      congr 1
      ac_rfl

/- The value of digits after others. -/
theorem naturalValue_append (first second : List Char) :
    naturalValue (first ++ second) =
      naturalValue first * 10 ^ second.length +
        naturalValue second := by
  rw [naturalValue, List.foldl_append, foldl_digits]
  rfl

/- The length of a run of zeros. -/
@[simp]
theorem length_zeros (n : Nat) :
    (zeros n).length = n :=
  List.length_replicate

/- Zeros have no value. -/
@[simp]
theorem naturalValue_zeros (n : Nat) :
    naturalValue (zeros n) = 0 := by
  induction n with
  | zero => rfl
  | succ n ih =>
      rw [zeros, List.replicate_succ', naturalValue_append]
      rw [zeros] at ih
      rw [ih, Nat.zero_mul]
      rfl

/- Zeros before digits do not change their value. -/
theorem naturalValue_zeros_append
    (n : Nat)
    (digits : List Char) :
    naturalValue (zeros n ++ digits) =
      naturalValue digits := by
  rw [naturalValue_append, naturalValue_zeros, Nat.zero_mul,
    Nat.zero_add]

/- Zeros after digits are powers of ten. -/
theorem naturalValue_append_zeros
    (digits : List Char)
    (n : Nat) :
    naturalValue (digits ++ zeros n) =
      naturalValue digits * 10 ^ n := by
  rw [naturalValue_append, naturalValue_zeros,
    length_zeros, Nat.add_zero]

------------------------------------------------------------
-- Natural Numbers
------------------------------------------------------------

/- The character of a digit is a digit. -/
theorem isDigit_digitChar :
    ∀ d < 10, isDigit (digitChar d) = true := by
  decide

/- The character of a digit has its value. -/
theorem digitValue_digitChar :
    ∀ d < 10, digitValue (digitChar d) = d := by
  decide

/- Zeros are digits. -/
theorem allDigits_zeros (n : Nat) : AllDigits (zeros n) := by
  intro c hc
  rw [List.eq_of_mem_replicate hc]
  rfl

/- A natural number is written with digits. -/
theorem allDigits_naturalChars (n : Nat) :
    AllDigits (naturalChars n) := by
  fun_induction naturalChars n with
  | case1 n hLess =>
      intro c hc
      rw [List.mem_singleton.mp hc]
      exact isDigit_digitChar n hLess
  | case2 n hLess ih =>
      intro c hc
      rcases List.mem_append.mp hc with hc | hc
      · exact ih c hc
      · rw [List.mem_singleton.mp hc]
        exact isDigit_digitChar _
          (Nat.mod_lt n (by decide))

/- A natural number has a digit. -/
theorem naturalChars_ne_nil (n : Nat) :
    naturalChars n ≠ [] := by
  unfold naturalChars
  split <;> simp

/- The digits of a natural number stand for it. -/
@[simp]
theorem naturalValue_naturalChars (n : Nat) :
    naturalValue (naturalChars n) = n := by
  fun_induction naturalChars n with
  | case1 n hLess =>
      simp [naturalValue, digitValue_digitChar n hLess]
  | case2 n hLess ih =>
      have hDigit := digitValue_digitChar (n % 10)
        (Nat.mod_lt n (by decide))
      rw [naturalValue_append, ih]
      simp only [naturalValue, List.foldl_cons,
        List.foldl_nil, List.length_singleton, hDigit]
      omega

/- A natural number below a power of ten has few digits. -/
theorem length_naturalChars_le
    {n k : Nat}
    (hPos : 0 < k)
    (hLess : n < 10 ^ k) :
    (naturalChars n).length ≤ k := by
  induction k generalizing n with
  | zero => cases hPos
  | succ k ih =>
      unfold naturalChars
      split
      · simp
      · rename_i hLarge
        have hk : 0 < k := by
          apply Nat.pos_of_ne_zero
          intro hZero
          simp [hZero] at hLess
          omega
        have hDiv : n / 10 < 10 ^ k := by
          rw [Nat.pow_succ] at hLess
          omega
        have hLength := ih hk hDiv
        simp only [List.length_append,
          List.length_singleton]
        omega

end Calculator
