import Mathlib.Data.Nat.Size
import Mathlib.Tactic

set_option autoImplicit false

namespace Positional

def value (base : Nat) (digits : List Nat) : Nat := digits.foldl (fun number digit => number * base + digit) 0

variable (base : Nat)

theorem foldl_digits (digits : List Nat) (number : Nat) :
    digits.foldl (fun number digit => number * base + digit) number =
      number * base ^ digits.length + value base digits := by
  unfold value
  induction digits generalizing number with
  | nil => simp
  | cons digit rest ih =>
    rw [List.foldl_cons, ih, List.foldl_cons, ih (0 * base + digit), List.length_cons, Nat.pow_succ]
    ring

@[simp]
theorem value_nil : value base [] = 0 := rfl

theorem value_cons (digit : Nat) (rest : List Nat) :
    value base (digit :: rest) = digit * base ^ rest.length + value base rest := by
  rw [value, List.foldl_cons, foldl_digits, Nat.zero_mul, Nat.zero_add]

theorem value_lt (digits : List Nat) (small : ∀ digit ∈ digits, digit < base) :
    value base digits < base ^ digits.length := by
  induction digits with
  | nil => simp
  | cons digit rest ih =>
    have first : digit < base := small digit (List.mem_cons_self ..)
    have others := ih fun other member => small other (List.mem_cons_of_mem digit member)
    calc value base (digit :: rest)
        = digit * base ^ rest.length + value base rest := value_cons base digit rest
      _ < digit * base ^ rest.length + base ^ rest.length := Nat.add_lt_add_left others _
      _ = (digit + 1) * base ^ rest.length := by ring
      _ ≤ base * base ^ rest.length := Nat.mul_le_mul_right _ first
      _ = base ^ (digit :: rest).length := by rw [List.length_cons, Nat.pow_succ, Nat.mul_comm]

theorem size_eq_iff (number exponent : Nat) :
    number.size = exponent + 1 ↔ 2 ^ exponent ≤ number ∧ number < 2 ^ (exponent + 1) := by
  rw [← Nat.lt_size, ← Nat.size_le]
  omega

theorem size_mul_two_pow_add {number : Nat} (exponent : Nat) {rest : Nat} (positive : number ≠ 0)
    (small : rest < 2 ^ exponent) : (number * 2 ^ exponent + rest).size = number.size + exponent := by
  obtain ⟨top, isTop⟩ : ∃ top, number.size = top + 1 :=
    Nat.exists_eq_succ_of_ne_zero (mt Nat.size_eq_zero.mp positive)
  obtain ⟨lower, upper⟩ := (size_eq_iff number top).mp isTop
  rw [isTop, show top + 1 + exponent = top + exponent + 1 by omega, size_eq_iff]
  constructor
  · calc 2 ^ (top + exponent) = 2 ^ top * 2 ^ exponent := Nat.pow_add ..
      _ ≤ number * 2 ^ exponent := Nat.mul_le_mul_right _ lower
      _ ≤ number * 2 ^ exponent + rest := Nat.le_add_right ..
  · calc number * 2 ^ exponent + rest
        < number * 2 ^ exponent + 2 ^ exponent := Nat.add_lt_add_left small _
      _ = (number + 1) * 2 ^ exponent := by ring
      _ ≤ 2 ^ (top + 1) * 2 ^ exponent := Nat.mul_le_mul_right _ upper
      _ = 2 ^ (top + exponent + 1) := by ring

end Positional
