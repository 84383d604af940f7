import Nostream.Shared.Json
import Nostream.Shared.Numeric
import Mathlib.Data.List.TakeWhile

set_option autoImplicit false

namespace Json

open Utf16 Numeric

def isNumberUnit (u : UInt16) : Bool :=
  isDigit 10 u || u.toNat == 43 || u.toNat == 45 || u.toNat == 46 || u.toNat == 69 || u.toNat == 101

def isWholePart (digits : JsString) : Bool :=
  digits != [] && (digits.length == 1 || digits.head? != some 48)

-- An integer without leading zeros, then an optional fraction and an optional exponent.
def isNumberLiteral (s : JsString) : Bool :=
  let body := match s with
    | u :: rest => if u.toNat = 45 then rest else s
    | [] => []
  let afterWhole := body.dropWhile (isDigit 10)
  let tail := match afterWhole with
    | dot :: rest =>
      if dot.toNat = 46 ∧ rest.takeWhile (isDigit 10) ≠ [] then rest.dropWhile (isDigit 10)
      else afterWhole
    | [] => []
  s.all isNumberUnit && isWholePart (body.takeWhile (isDigit 10)) && (exponentPart tail).isSome

def decimalDigits (n : Nat) : JsString := encode (Nat.toDigits 10 n)

theorem integer_natCast (n : Nat) : integer n = decimalDigits n := rfl

theorem encodeChar_digit (c : Char) (digit : c.isDigit = true) :
    encodeChar c = [c.toNat.toUInt16] ∧ digitValue c.toNat.toUInt16 = some (c.toNat - 48) ∧
      48 ≤ c.toNat ∧ c.toNat ≤ 57 := by
  have bounds : 48 ≤ c.toNat ∧ c.toNat ≤ 57 := by
    simp only [Char.isDigit, Bool.and_eq_true, decide_eq_true_eq] at digit
    exact ⟨UInt32.le_iff_toNat_le.mp digit.1, UInt32.le_iff_toNat_le.mp digit.2⟩
  have value := toNat_toUInt16 c.toNat (by omega)
  refine ⟨by rw [encodeChar, if_pos (by omega)], ?_, bounds⟩
  simp only [digitValue, value]
  rw [if_pos bounds]

theorem encode_digits_all (chars : List Char) (digits : ∀ c ∈ chars, c.isDigit = true) :
    (encode chars).all (isDigit 10) = true := by
  induction chars with
  | nil => rfl
  | cons c rest ih =>
    obtain ⟨one, value, least, most⟩ := encodeChar_digit c (digits c (by simp))
    rw [encode_cons, one, List.singleton_append, List.all_cons,
      ih fun d member => digits d (List.mem_cons_of_mem c member), Bool.and_true]
    simp only [isDigit, value, decide_eq_true_eq]
    omega

theorem encode_digits_foldl (chars : List Char) (digits : ∀ c ∈ chars, c.isDigit = true) (total : Nat) :
    (encode chars).foldl (fun total u => 10 * total + (digitValue u).getD 0) total =
      Nat.ofDigitChars 10 chars total := by
  induction chars generalizing total with
  | nil => rfl
  | cons c rest ih =>
    obtain ⟨one, value, _⟩ := encodeChar_digit c (digits c (by simp))
    rw [encode_cons, one, List.singleton_append, List.foldl_cons, value,
      ih fun d member => digits d (List.mem_cons_of_mem c member)]
    rfl

theorem isDigit_toDigits (n : Nat) : ∀ c ∈ Nat.toDigits 10 n, c.isDigit = true :=
  fun _ member => Nat.isDigit_of_mem_toDigits (by decide) (by decide) member

theorem decimalDigits_all (n : Nat) : (decimalDigits n).all (isDigit 10) = true :=
  encode_digits_all _ (isDigit_toDigits n)

theorem decimalDigits_value (n : Nat) : digitsValue 10 (decimalDigits n) = n := by
  rw [digitsValue, decimalDigits, encode_digits_foldl _ (isDigit_toDigits n)]
  exact Nat.ofDigitChars_ten_toDigits

theorem decimalDigits_ne_nil (n : Nat) : decimalDigits n ≠ [] := by
  have long := length_le_encode (Nat.toDigits 10 n)
  have positive := Nat.length_toDigits_pos (b := 10) (n := n)
  intro empty
  rw [decimalDigits] at empty
  rw [empty, List.length_nil] at long
  omega

theorem decimalDigits_small (n : Nat) (small : n < 10) : decimalDigits n = [(48 + n).toUInt16] := by
  rw [decimalDigits, Nat.toDigits_of_lt_base small]
  interval_cases n <;> decide

theorem decimalDigits_head (n : Nat) (positive : 0 < n) : (decimalDigits n).head? ≠ some 48 := by
  induction n using Nat.strongRecOn with
  | ind n ih =>
    by_cases small : n < 10
    · rw [decimalDigits_small n small]
      interval_cases n <;> decide
    · have split : decimalDigits n = decimalDigits (n / 10) ++ encode [(n % 10).digitChar] := by
        rw [decimalDigits, Nat.toDigits_of_base_le (by decide) (by omega)]
        simp [decimalDigits, encode]
      rw [split, List.head?_append_of_ne_nil _ (decimalDigits_ne_nil _)]
      exact ih (n / 10) (by omega) (by omega)

theorem decimalDigits_wholePart (n : Nat) : isWholePart (decimalDigits n) = true := by
  have nonempty := decimalDigits_ne_nil n
  by_cases zero : n = 0
  · rw [zero]
    decide
  · have head := decimalDigits_head n (by omega)
    simp [isWholePart, nonempty, head]

theorem takeWhile_decimalDigits (n : Nat) : (decimalDigits n).takeWhile (isDigit 10) = decimalDigits n :=
  List.takeWhile_eq_self_iff.mpr (List.all_eq_true.mp (decimalDigits_all n))

theorem dropWhile_decimalDigits (n : Nat) : (decimalDigits n).dropWhile (isDigit 10) = [] :=
  List.dropWhile_eq_nil_iff.mpr (List.all_eq_true.mp (decimalDigits_all n))

theorem decimalDigits_notSign (n : Nat) (u : UInt16) (rest : JsString)
    (shape : decimalDigits n = u :: rest) : isDigit 10 u = true := by
  have all := decimalDigits_all n
  rw [shape, List.all_cons, Bool.and_eq_true] at all
  exact all.1

theorem isDigit_range (u : UInt16) (digit : isDigit 10 u = true) : 48 ≤ u.toNat ∧ u.toNat ≤ 57 := by
  unfold isDigit digitValue at digit
  split at digit
  next d value =>
    rw [decide_eq_true_eq] at digit
    dsimp only at value
    split_ifs at value with decimal lower upper
    · exact decimal
    · simp only [Option.some.injEq] at value
      omega
    · simp only [Option.some.injEq] at value
      omega
  next => cases digit

theorem integer_isNumberLiteral (n : Nat) : isNumberLiteral (integer n) = true := by
  rw [integer_natCast]
  have units : (decimalDigits n).all isNumberUnit = true := by
    apply List.all_eq_true.mpr
    intro u member
    simp [isNumberUnit, List.all_eq_true.mp (decimalDigits_all n) u member]
  cases shape : decimalDigits n with
  | nil => exact (decimalDigits_ne_nil n shape).elim
  | cons u rest =>
    have range := isDigit_range u (decimalDigits_notSign n u rest shape)
    have notMinus : u.toNat ≠ 45 := by omega
    have takes := takeWhile_decimalDigits n
    have drops := dropWhile_decimalDigits n
    have whole := decimalDigits_wholePart n
    rw [shape] at takes drops units whole
    simp [isNumberLiteral, notMinus, takes, drops, units, whole, exponentPart]

theorem trim_decimalDigits (n : Nat) : trim (decimalDigits n) = decimalDigits n := by
  have bare (s : JsString) (digits : ∀ u ∈ s, isDigit 10 u = true) : s.dropWhile isWhiteSpace = s := by
    cases s with
    | nil => rfl
    | cons u rest =>
      have range := isDigit_range u (digits u (by simp))
      have visible : isWhiteSpace u = false := by
        simp only [isWhiteSpace, Bool.or_eq_false_iff, Bool.and_eq_false_iff, decide_eq_false_iff_not,
          beq_eq_false_iff_ne]
        omega
      rw [List.dropWhile_cons_of_neg (by simp [visible])]
  have digits := List.all_eq_true.mp (decimalDigits_all n)
  rw [trim, bare _ digits, bare _ fun u member => digits u (List.mem_reverse.mp member), List.reverse_reverse]

theorem radixLiteral_decimalDigits (n : Nat) : radixLiteral (decimalDigits n) = none := by
  have digits := List.all_eq_true.mp (decimalDigits_all n)
  match shape : decimalDigits n with
  | [] => rfl
  | [_] => rfl
  | zero :: letter :: rest =>
    have range := isDigit_range letter (digits letter (by simp [shape]))
    have notX : ¬ (letter.toNat = 120 ∨ letter.toNat = 88) := by omega
    have notO : ¬ (letter.toNat = 111 ∨ letter.toNat = 79) := by omega
    have notB : ¬ (letter.toNat = 98 ∨ letter.toNat = 66) := by omega
    simp only [radixLiteral, notX, notO, notB, if_false, ite_self]

theorem decimalLiteral_decimalDigits (n : Nat) :
    decimalLiteral (decimalDigits n) = some ⟨false, n, 0⟩ := by
  have unsigned : signed (decimalDigits n) = (false, decimalDigits n) := by
    cases shape : decimalDigits n with
    | nil => rfl
    | cons u rest =>
      have range := isDigit_range u (decimalDigits_notSign n u rest shape)
      simp only [signed]
      rw [if_neg (by omega), if_neg (by omega)]
  simp [decimalLiteral, unsigned, takeWhile_decimalDigits, dropWhile_decimalDigits, decimalDigits_ne_nil,
    decimalDigits_value, exponentPart]

theorem literal_decimalDigits (n : Nat) : literal (decimalDigits n) = some ⟨false, n, 0⟩ := by
  unfold literal
  rw [trim_decimalDigits]
  split
  next empty => exact (decimalDigits_ne_nil n empty).elim
  next => rw [radixLiteral_decimalDigits, decimalLiteral_decimalDigits]

theorem roundsTo_same (d : Decimal) (n : Nat) (same : scaleUp d d.mantissa = scaleDown d n) :
    roundsTo d n = true := by
  have gap (m : Nat) (positive : 0 < m) : 0 < scaleDown d m := by
    unfold scaleDown
    positivity
  unfold roundsTo
  rw [same]
  dsimp only
  split
  next =>
    rw [Bool.and_eq_true, decide_eq_true_eq, decide_eq_true_eq]
    exact ⟨Nat.le_add_right _ _, Nat.le_add_right _ _⟩
  next =>
    rw [Bool.and_eq_true, decide_eq_true_eq, decide_eq_true_eq]
    constructor
    · apply Nat.lt_add_of_pos_right
      apply gap
      split_ifs <;> positivity
    · apply Nat.lt_add_of_pos_right
      apply gap
      split_ifs <;> positivity

theorem safeInteger_integer (n : Nat) (safe : (n : Int) ≤ maxSafeInteger) :
    safeInteger (integer n) = some n := by
  have whole : nearest ⟨false, n, 0⟩ = n := by
    simp only [nearest, scaleUp, scaleDown]
    norm_num
    omega
  have rounds : roundsTo ⟨false, n, 0⟩ n = true := roundsTo_same _ _ rfl
  rw [integer_natCast, safeInteger, literal_decimalDigits]
  simp [whole, rounds, safe]

end Json
