import Nostream.Shared.Utf16

set_option autoImplicit false

namespace Numeric

open Utf16

def maxSafeInteger : Int := 9007199254740991

def isWhiteSpace (u : UInt16) : Bool :=
  let n := u.toNat
  (9 ≤ n && n ≤ 13) || n == 0x20 || n == 0xA0 || n == 0x1680 || (0x2000 ≤ n && n ≤ 0x200A) ||
    n == 0x2028 || n == 0x2029 || n == 0x202F || n == 0x205F || n == 0x3000 || n == 0xFEFF

def trim (s : JsString) : JsString :=
  ((s.dropWhile isWhiteSpace).reverse.dropWhile isWhiteSpace).reverse

def digitValue (u : UInt16) : Option Nat :=
  let n := u.toNat
  if 48 ≤ n ∧ n ≤ 57 then some (n - 48)
  else if 97 ≤ n ∧ n ≤ 122 then some (n - 87)
  else if 65 ≤ n ∧ n ≤ 90 then some (n - 55)
  else none

def isDigit (base : Nat) (u : UInt16) : Bool :=
  match digitValue u with
  | some d => d < base
  | none => false

def digitsValue (base : Nat) (digits : JsString) : Nat :=
  digits.foldl (fun total u => base * total + (digitValue u).getD 0) 0

def wholeDigits (base : Nat) (s : JsString) : Option Nat :=
  if s ≠ [] ∧ s.all (isDigit base) then some (digitsValue base s) else none

structure Decimal where
  negative : Bool
  mantissa : Nat
  exponent : Int

def signed (s : JsString) : Bool × JsString :=
  match s with
  | u :: rest => if u.toNat = 45 then (true, rest) else if u.toNat = 43 then (false, rest) else (false, s)
  | [] => (false, [])

def exponentPart (s : JsString) : Option Int :=
  match s with
  | [] => some 0
  | e :: rest =>
    if e.toNat = 101 ∨ e.toNat = 69 then
      let (negative, digits) := signed rest
      (wholeDigits 10 digits).map fun n => if negative then -(n : Int) else n
    else none

-- DecimalDigits, then an optional fraction, with at least one digit in the two together.
def decimalLiteral (s : JsString) : Option Decimal :=
  let (negative, body) := signed s
  let whole := body.takeWhile (isDigit 10)
  let afterWhole := body.dropWhile (isDigit 10)
  let (fraction, tail) := match afterWhole with
    | dot :: rest =>
      if dot.toNat = 46 then (rest.takeWhile (isDigit 10), rest.dropWhile (isDigit 10))
      else ([], afterWhole)
    | [] => ([], [])
  if whole ++ fraction = [] then none
  else (exponentPart tail).map fun e =>
    { negative := negative
      mantissa := digitsValue 10 (whole ++ fraction)
      exponent := e - fraction.length }

def radixLiteral (s : JsString) : Option Nat :=
  match s with
  | zero :: letter :: digits =>
    if zero.toNat = 48 then
      if letter.toNat = 120 ∨ letter.toNat = 88 then wholeDigits 16 digits
      else if letter.toNat = 111 ∨ letter.toNat = 79 then wholeDigits 8 digits
      else if letter.toNat = 98 ∨ letter.toNat = 66 then wholeDigits 2 digits
      else none
    else none
  | _ => none

-- StringToNumber up to rounding: none stands for NaN and for the infinities.
def literal (s : JsString) : Option Decimal :=
  match trim s with
  | [] => some ⟨false, 0, 0⟩
  | body => match radixLiteral body with
    | some n => some ⟨false, n, 0⟩
    | none => decimalLiteral body

def scaleUp (d : Decimal) (n : Nat) : Nat := n * 10 ^ d.exponent.toNat

def scaleDown (d : Decimal) (n : Nat) : Nat := n * 10 ^ (-d.exponent).toNat

def nearest (d : Decimal) : Nat :=
  (2 * scaleUp d d.mantissa + scaleDown d 1) / (2 * scaleDown d 1)

-- The double nearest to the literal is n: the distances are compared in units of 2^-1075,
-- where half a gap of the binade [2^k, 2^(k+1)) is 2^(k+1022), and a tie goes to even.
def roundsTo (d : Decimal) (n : Nat) : Bool :=
  let value := scaleUp d d.mantissa * 2 ^ 1075
  let target := scaleDown d n * 2 ^ 1075
  let k := Nat.log2 n
  let above := scaleDown d (if n = 0 then 1 else 2 ^ (k + 1022))
  let below := scaleDown d (if n = 0 then 1 else if n = 2 ^ k then 2 ^ (k + 1021) else 2 ^ (k + 1022))
  if n % 2 = 0 ∨ k < 52 then target ≤ value + below && value ≤ target + above
  else target < value + below && value < target + above

def safeInteger (s : JsString) : Option Int :=
  match literal s with
  | none => none
  | some d =>
    let n := nearest d
    if (n : Int) ≤ maxSafeInteger ∧ roundsTo d n then
      some (if d.negative then -(n : Int) else n)
    else none

example : safeInteger (js " 1700000000 ") = some 1700000000 := by decide +kernel
example : safeInteger (js "17e8") = some 1700000000 := by decide +kernel
example : safeInteger (js "0x10") = some 16 := by decide +kernel
example : safeInteger (js "1.5") = none := by decide +kernel
example : safeInteger (js "12a") = none := by decide +kernel

end Numeric
