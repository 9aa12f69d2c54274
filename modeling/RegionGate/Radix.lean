import Mathlib.Data.Nat.Digits.Lemmas
import Mathlib.Tactic.Ring

namespace radix

/-- The number that a list of digits denotes, most significant digit first. -/
def value (base : Nat) (digits : List Nat) : Nat := Nat.ofDigits base digits.reverse

section Value

variable {base : Nat} {digits : List Nat}

@[simp] theorem value_nil : value base [] = 0 := rfl

theorem value_cons (d : Nat) (digits : List Nat) :
    value base (d :: digits) = d * base ^ digits.length + value base digits := by
  rw [value, List.reverse_cons, Nat.ofDigits_append, Nat.ofDigits_singleton, List.length_reverse, value]
  ring

/-- Digits stand for less than the next power of the base. -/
theorem value_lt (hbase : 1 < base) (hdigits : ∀ d ∈ digits, d < base) :
    value base digits < base ^ digits.length := by
  rw [← List.length_reverse]
  exact Nat.ofDigits_lt_base_pow_length hbase fun d hd => hdigits d (List.mem_reverse.mp hd)

/-- The digits of a number are what is left of any digits that denote it once
the leading zeros are trimmed. -/
theorem reverse_digits_value (hbase : 1 < base) (hdigits : ∀ d ∈ digits, d < base) :
    (Nat.digits base (value base digits)).reverse = digits.dropWhile (· == 0) := by
  induction digits with
  | nil => simp
  | cons d digits ih =>
    obtain ⟨hd, hrest⟩ := List.forall_mem_cons.mp hdigits
    by_cases hzero : d = 0
    · subst hzero
      rw [value_cons, Nat.zero_mul, Nat.zero_add, ih hrest, List.dropWhile_cons_of_pos (by simp)]
    · have hcanonical : Nat.digits base (value base (d :: digits)) = (d :: digits).reverse := by
        refine Nat.digits_ofDigits base hbase _ (fun e he => hdigits e (List.mem_reverse.mp he)) fun _ => ?_
        rw [List.getLast_reverse]
        exact hzero
      rw [hcanonical, List.reverse_reverse, List.dropWhile_cons_of_neg (by simp [hzero])]

/-- Splitting every digit in two goes from the square of a base to the base. -/
theorem value_split (base : Nat) (digits : List Nat) :
    value (base * base) digits = value base (digits.flatMap fun d => [d / base, d % base]) := by
  induction digits with
  | nil => rfl
  | cons d digits ih =>
    have hlength : (digits.flatMap fun d => [d / base, d % base]).length = 2 * digits.length := by
      simp [List.length_flatMap, Nat.mul_comm]
    rw [List.flatMap_cons, List.cons_append, List.cons_append, List.nil_append, value_cons, value_cons, value_cons,
      List.length_cons, hlength, ← ih, ← pow_two, ← pow_mul]
    have hsplit := Nat.div_add_mod d base
    calc d * base ^ (2 * digits.length) + value (base ^ 2) digits
        = (base * (d / base) + d % base) * base ^ (2 * digits.length) + value (base ^ 2) digits := by rw [hsplit]
      _ = d / base * base ^ (2 * digits.length + 1) +
          (d % base * base ^ (2 * digits.length) + value (base ^ 2) digits) := by ring

end Value

end radix
