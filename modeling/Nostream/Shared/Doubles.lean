import Nostream.Shared.Json
import Nostream.Shared.Numeric
import Mathlib.Data.List.TakeWhile

set_option autoImplicit false

namespace Numeric

open Utf16

-- The double nearest to a natural number, ties to even; 2 ^ 1024 stands for Infinity.
def toDouble (n : Nat) : Nat :=
  if n < 2 ^ 53 then n
  else
    let gap := 2 ^ (Nat.log2 n - 52)
    let down := n / gap
    let rounded := if n % gap * 2 > gap ∨ (n % gap * 2 = gap ∧ down % 2 = 1) then down + 1 else down
    min (rounded * gap) (2 ^ 1024)

def nearestQuotient (n gap : Nat) : Nat :=
  if n % gap * 2 > gap ∨ (n % gap * 2 = gap ∧ n / gap % 2 = 1) then n / gap + 1 else n / gap

theorem nearestQuotient_bounds (n gap : Nat) : n / gap ≤ nearestQuotient n gap ∧ nearestQuotient n gap ≤ n / gap + 1 := by
  unfold nearestQuotient
  split <;> omega

theorem nearestQuotient_mono (a b gap : Nat) (le : a ≤ b) : nearestQuotient a gap ≤ nearestQuotient b gap := by
  rcases (Nat.div_le_div_right (c := gap) le).lt_or_eq with less | same
  · have above := (nearestQuotient_bounds a gap).2
    have below := (nearestQuotient_bounds b gap).1
    omega
  · have remainders : a % gap ≤ b % gap := by
      have whole := Nat.div_add_mod a gap
      have other := Nat.div_add_mod b gap
      rw [same] at whole
      omega
    unfold nearestQuotient
    rw [same]
    split_ifs <;> omega

def binade (n : Nat) : Nat := 2 ^ (Nat.log2 n - 52)

theorem toDouble_small (n : Nat) (small : n < 2 ^ 53) : toDouble n = n := by
  rw [toDouble, if_pos small]

theorem toDouble_large (n : Nat) (large : 2 ^ 53 ≤ n) :
    toDouble n = min (nearestQuotient n (binade n) * binade n) (2 ^ 1024) := by
  rw [toDouble, if_neg (not_lt.mpr large)]
  rfl

theorem rounded_bounds (n : Nat) (large : 2 ^ 53 ≤ n) :
    2 ^ Nat.log2 n ≤ nearestQuotient n (binade n) * binade n ∧
      nearestQuotient n (binade n) * binade n ≤ 2 ^ (Nat.log2 n + 1) := by
  have positive : n ≠ 0 := by omega
  have deep : 53 ≤ Nat.log2 n := (Nat.le_log2 positive).mpr large
  have gap : 0 < binade n := Nat.two_pow_pos _
  have low : 2 ^ Nat.log2 n = 2 ^ 52 * binade n := by
    rw [binade, ← Nat.pow_add]
    congr 1
    omega
  have high : 2 ^ (Nat.log2 n + 1) = 2 ^ 53 * binade n := by
    rw [binade, ← Nat.pow_add]
    congr 1
    omega
  obtain ⟨below, above⟩ := nearestQuotient_bounds n (binade n)
  rw [low, high]
  constructor
  · refine Nat.mul_le_mul_right _ (le_trans ((Nat.le_div_iff_mul_le gap).mpr ?_) below)
    rw [← low]
    exact Nat.log2_self_le positive
  · refine Nat.mul_le_mul_right _ (le_trans above ((Nat.div_lt_iff_lt_mul gap).mpr ?_))
    rw [← high]
    exact Nat.lt_log2_self

theorem toDouble_mono (a b : Nat) (le : a ≤ b) : toDouble a ≤ toDouble b := by
  by_cases smallB : b < 2 ^ 53
  · rwa [toDouble_small a (by omega), toDouble_small b smallB]
  · have largeB := not_lt.mp smallB
    rw [toDouble_large b largeB]
    obtain ⟨lowB, _⟩ := rounded_bounds b largeB
    by_cases smallA : a < 2 ^ 53
    · rw [toDouble_small a smallA]
      have deep : 53 ≤ Nat.log2 b := (Nat.le_log2 (by omega)).mpr largeB
      have grows (k : Nat) (le : 53 ≤ k) : 2 ^ 53 ≤ 2 ^ k := Nat.pow_le_pow_right (by omega) le
      exact le_min (smallA.le.trans ((grows _ deep).trans lowB)) (smallA.le.trans (grows _ (by omega)))
    · have largeA := not_lt.mp smallA
      rw [toDouble_large a largeA]
      refine min_le_min_right _ ?_
      have logs : Nat.log2 a ≤ Nat.log2 b :=
        (Nat.le_log2 (by omega)).mpr ((Nat.log2_self_le (by omega)).trans le)
      rcases logs.lt_or_eq with less | same
      · calc nearestQuotient a (binade a) * binade a ≤ 2 ^ (Nat.log2 a + 1) := (rounded_bounds a largeA).2
          _ ≤ 2 ^ Nat.log2 b := Nat.pow_le_pow_right (by omega) less
          _ ≤ nearestQuotient b (binade b) * binade b := lowB
      · rw [binade, same]
        exact Nat.mul_le_mul_right _ (nearestQuotient_mono a b _ le)

-- Number.parseInt without a radix: none stands for NaN.
def parseInt (s : JsString) : Option Int :=
  let (negative, body) := signed (s.dropWhile isWhiteSpace)
  let (base, digits) := match body with
    | zero :: letter :: rest =>
      if zero.toNat = 48 ∧ (letter.toNat = 120 ∨ letter.toNat = 88) then (16, rest) else (10, body)
    | _ => (10, body)
  let whole := digits.takeWhile (isDigit base)
  if whole = [] then none
  else
    let n := (toDouble (digitsValue base whole) : Int)
    some (if negative then -n else n)

def wholeInteger (s : JsString) : Option Int :=
  let (negative, digits) := signed s
  (wholeDigits 10 digits).map fun (n : Nat) => if negative then -(n : Int) else n

def roundInteger (value : Int) : Int :=
  if value < 0 then -(toDouble value.natAbs : Int) else toDouble value.natAbs

theorem roundInteger_mono (a b : Int) (le : a ≤ b) : roundInteger a ≤ roundInteger b := by
  unfold roundInteger
  split <;> split
  next =>
    have bound := toDouble_mono b.natAbs a.natAbs (by omega)
    omega
  next => omega
  next => omega
  next =>
    have bound := toDouble_mono a.natAbs b.natAbs (by omega)
    omega

theorem isDigit_ten (u : UInt16) (digit : isDigit 10 u = true) : 48 ≤ u.toNat ∧ u.toNat ≤ 57 := by
  unfold isDigit at digit
  split at digit
  next d value =>
    rw [decide_eq_true_eq] at digit
    unfold digitValue at value
    dsimp only at value
    split_ifs at value <;> cases value <;> omega
  next => cases digit

theorem digit_visible (u : UInt16) (low : 43 ≤ u.toNat) (high : u.toNat ≤ 57) : isWhiteSpace u = false := by
  simp only [isWhiteSpace, Bool.or_eq_false_iff, Bool.and_eq_false_iff, decide_eq_false_iff_not, beq_eq_false_iff_ne]
  omega

theorem wholeDigits_some (digits : JsString) (n : Nat) (whole : wholeDigits 10 digits = some n) :
    digits ≠ [] ∧ (∀ u ∈ digits, isDigit 10 u = true) ∧ n = digitsValue 10 digits := by
  unfold wholeDigits at whole
  split at whole
  next all =>
    cases whole
    exact ⟨all.1, List.all_eq_true.mp all.2, rfl⟩
  next => cases whole

theorem parseInt_digits (s body : JsString) (negative : Bool) (sign : signed (s.dropWhile isWhiteSpace) = (negative, body))
    (nonempty : body ≠ []) (digits : ∀ u ∈ body, isDigit 10 u = true) :
    parseInt s = some (if negative then -(toDouble (digitsValue 10 body) : Int)
      else toDouble (digitsValue 10 body)) := by
  have all : body.takeWhile (isDigit 10) = body := List.takeWhile_eq_self_iff.mpr digits
  unfold parseInt
  rw [sign]
  rcases body with _ | ⟨zero, _ | ⟨letter, rest⟩⟩
  · exact (nonempty rfl).elim
  · dsimp only
    rw [all, if_neg nonempty]
  · have range := isDigit_ten letter (digits letter (by simp))
    have decimal : ¬ (zero.toNat = 48 ∧ (letter.toNat = 120 ∨ letter.toNat = 88)) := by omega
    dsimp only
    simp only [if_neg decimal, all, if_neg nonempty]

theorem wholeInteger_signed (s body : JsString) (negative : Bool) (sign : signed s = (negative, body)) :
    wholeInteger s = (wholeDigits 10 body).map fun (n : Nat) => if negative then -(n : Int) else n := by
  unfold wholeInteger
  rw [sign]

theorem signed_visible (s body : JsString) (negative : Bool) (sign : signed s = (negative, body))
    (nonempty : body ≠ []) (digits : ∀ u ∈ body, isDigit 10 u = true) : s.dropWhile isWhiteSpace = s := by
  cases s with
  | nil => rfl
  | cons u rest =>
    have range : 43 ≤ u.toNat ∧ u.toNat ≤ 57 := by
      unfold signed at sign
      dsimp only at sign
      split_ifs at sign with minus plus
      · omega
      · omega
      · cases sign
        have digit := isDigit_ten u (digits u (by simp))
        omega
    simp [digit_visible u range.1 range.2]

theorem parseInt_whole (s : JsString) (value : Int) (whole : wholeInteger s = some value) :
    parseInt s = some (roundInteger value) := by
  rcases sign : signed s with ⟨negative, body⟩
  rw [wholeInteger_signed s body negative sign] at whole
  obtain ⟨n, read, rfl⟩ := Option.map_eq_some_iff.mp whole
  obtain ⟨nonempty, digits, rfl⟩ := wholeDigits_some body n read
  have visible := signed_visible s body negative sign nonempty digits
  rw [parseInt_digits s body negative (by rw [visible, sign]) nonempty digits]
  have zero : toDouble 0 = 0 := toDouble_small 0 (by omega)
  cases negative with
  | false => simp [roundInteger]
  | true =>
    rcases Nat.eq_zero_or_pos (digitsValue 10 body) with none | some
    · simp [roundInteger, none, zero]
    · simp [roundInteger, some]

-- The multiple of the greatest power of ten that still rounds to the double n.
def shortest (n : Nat) : Nat → Nat × Nat
  | 0 => (n, 0)
  | e + 1 =>
    let unit := 10 ^ (e + 1)
    let digits := if n % unit * 2 > unit ∨ (n % unit * 2 = unit ∧ n / unit % 2 = 1) then n / unit + 1
      else n / unit
    if digits ≠ 0 ∧ toDouble (digits * unit) = n then (digits, e + 1) else shortest n e

-- Number::toString of an integer.
def numberText (value : Int) : JsString :=
  let n := value.natAbs
  let (digits, e) := shortest n (Nat.toDigits 10 n).length
  let text := encode (Nat.toDigits 10 digits)
  let magnitude :=
    if n = 2 ^ 1024 then js "Infinity"
    else if text.length + e ≤ 21 then text ++ List.replicate e 48
    else text.take 1 ++ (if text.length = 1 then [] else js "." ++ text.drop 1) ++ js "e+" ++
      Json.integer (text.length + e - 1)
  if value < 0 then js "-" ++ magnitude else magnitude

example : parseInt (js " -0x1Fz") = some (-31) := by decide +kernel
example : parseInt (js "9007199254740993") = some 9007199254740992 := by decide +kernel
example : numberText 1152921504606846976 = js "1152921504606847000" := by decide +kernel
example : numberText (10 ^ 21) = js "1e+21" := by decide +kernel

end Numeric
