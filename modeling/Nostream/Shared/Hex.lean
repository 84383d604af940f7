import Nostream.Shared.Utf16

set_option autoImplicit false

namespace Hex

open Utf16

abbrev Bytes := List UInt8

def hexDigit (n : Nat) : UInt16 :=
  if n < 10 then (48 + n).toUInt16 else (87 + n).toUInt16

def hexValue (u : UInt16) : Option Nat :=
  if 48 ≤ u.toNat ∧ u.toNat ≤ 57 then some (u.toNat - 48)
  else if 97 ≤ u.toNat ∧ u.toNat ≤ 102 then some (u.toNat - 87)
  else if 65 ≤ u.toNat ∧ u.toNat ≤ 70 then some (u.toNat - 55)
  else none

def isLowerHexDigit (u : UInt16) : Bool :=
  (48 ≤ u.toNat && u.toNat ≤ 57) || (97 ≤ u.toNat && u.toNat ≤ 102)

def isLowerHex (s : JsString) : Bool := s.all isLowerHexDigit

-- Decoding stops at the first pair that is not hexadecimal, as Buffer.from does.
def ofHex : JsString → Bytes
  | high :: low :: rest =>
    match hexValue high, hexValue low with
    | some h, some l => (16 * h + l).toUInt8 :: ofHex rest
    | _, _ => []
  | _ => []

def byteHex (b : UInt8) : JsString := [hexDigit (b.toNat / 16), hexDigit (b.toNat % 16)]

def toHex (bytes : Bytes) : JsString := bytes.flatMap byteHex

@[simp] theorem toHex_nil : toHex [] = [] := rfl

@[simp] theorem toHex_cons (b : UInt8) (bytes : Bytes) :
    toHex (b :: bytes) = hexDigit (b.toNat / 16) :: hexDigit (b.toNat % 16) :: toHex bytes := rfl

theorem toHex_append (a b : Bytes) : toHex (a ++ b) = toHex a ++ toHex b := by
  simp [toHex]

theorem toHex_length (bytes : Bytes) : (toHex bytes).length = 2 * bytes.length := by
  induction bytes with
  | nil => rfl
  | cons b rest ih => simp [ih]; omega

theorem hexDigit_toNat (n : Nat) (small : n < 16) :
    (hexDigit n).toNat = if n < 10 then 48 + n else 87 + n := by
  unfold hexDigit
  split <;> exact toNat_toUInt16 _ (by omega)

theorem hexValue_hexDigit (n : Nat) (small : n < 16) : hexValue (hexDigit n) = some n := by
  have value := hexDigit_toNat n small
  by_cases decimal : n < 10
  · rw [if_pos decimal] at value
    rw [hexValue, if_pos (by omega), value, Nat.add_sub_cancel_left]
  · rw [if_neg decimal] at value
    rw [hexValue, if_neg (by omega), if_pos (by omega), value, Nat.add_sub_cancel_left]

theorem hexDigit_injective {m n : Nat} (hm : m < 16) (hn : n < 16)
    (same : hexDigit m = hexDigit n) : m = n := by
  have values := congrArg hexValue same
  rwa [hexValue_hexDigit m hm, hexValue_hexDigit n hn, Option.some.injEq] at values

theorem isLowerHexDigit_hexDigit (n : Nat) (small : n < 16) :
    isLowerHexDigit (hexDigit n) = true := by
  simp only [isLowerHexDigit, hexDigit_toNat n small, Bool.or_eq_true, Bool.and_eq_true,
    decide_eq_true_eq]
  split_ifs <;> omega

theorem exists_hexDigit {u : UInt16} (lower : isLowerHexDigit u = true) :
    ∃ n, n < 16 ∧ u = hexDigit n := by
  simp only [isLowerHexDigit, Bool.or_eq_true, Bool.and_eq_true, decide_eq_true_eq] at lower
  rcases lower with digit | letter
  · refine ⟨u.toNat - 48, by omega, UInt16.toNat_inj.mp ?_⟩
    rw [hexDigit_toNat _ (by omega), if_pos (by omega)]
    omega
  · refine ⟨u.toNat - 87, by omega, UInt16.toNat_inj.mp ?_⟩
    rw [hexDigit_toNat _ (by omega), if_neg (by omega)]
    omega

theorem byte_toNat (n : Nat) (small : n < 256) : n.toUInt8.toNat = n := by
  simpa using small

theorem byte_recompose (b : UInt8) : (16 * (b.toNat / 16) + b.toNat % 16).toUInt8 = b := by
  rw [Nat.div_add_mod]
  simp

theorem isLowerHex_toHex (bytes : Bytes) : isLowerHex (toHex bytes) = true := by
  induction bytes with
  | nil => rfl
  | cons b rest ih =>
    have bound := b.toNat_lt
    have tail : (toHex rest).all isLowerHexDigit = true := ih
    simp [isLowerHex, tail, isLowerHexDigit_hexDigit _ (show b.toNat / 16 < 16 by omega),
      isLowerHexDigit_hexDigit _ (show b.toNat % 16 < 16 by omega)]

@[simp] theorem ofHex_toHex (bytes : Bytes) : ofHex (toHex bytes) = bytes := by
  induction bytes with
  | nil => rfl
  | cons b rest ih =>
    have bound := b.toNat_lt
    simp only [toHex_cons, ofHex, hexValue_hexDigit _ (show b.toNat / 16 < 16 by omega),
      hexValue_hexDigit _ (show b.toNat % 16 < 16 by omega), byte_recompose, ih]

theorem toHex_ofHex (s : JsString) (lower : isLowerHex s = true) (even : s.length % 2 = 0) :
    toHex (ofHex s) = s := by
  induction s using ofHex.induct with
  | case1 high low rest h l highValue lowValue ih =>
    simp only [isLowerHex, List.all_cons, Bool.and_eq_true] at lower
    obtain ⟨m, hm, rfl⟩ := exists_hexDigit lower.1
    obtain ⟨n, hn, rfl⟩ := exists_hexDigit lower.2.1
    have tail := ih lower.2.2 (by simp only [List.length_cons] at even; omega)
    have value := byte_toNat (16 * m + n) (by omega)
    simp only [ofHex, hexValue_hexDigit m hm, hexValue_hexDigit n hn, toHex_cons, value, tail]
    rw [show (16 * m + n) / 16 = m by omega, show (16 * m + n) % 16 = n by omega]
  | case2 high low rest notBoth =>
    simp only [isLowerHex, List.all_cons, Bool.and_eq_true] at lower
    obtain ⟨m, hm, rfl⟩ := exists_hexDigit lower.1
    obtain ⟨n, hn, rfl⟩ := exists_hexDigit lower.2.1
    exact (notBoth m n (hexValue_hexDigit m hm) (hexValue_hexDigit n hn)).elim
  | case3 s notPair =>
    match s with
    | [] => rfl
    | [_] => simp at even
    | high :: low :: rest => exact (notPair high low rest rfl).elim

theorem ofHex_length (s : JsString) (lower : isLowerHex s = true) (even : s.length % 2 = 0) :
    (ofHex s).length = s.length / 2 := by
  have double := toHex_length (ofHex s)
  rw [toHex_ofHex s lower even] at double
  omega

theorem toHex_injective : Function.Injective toHex := by
  intro a b same
  rw [← ofHex_toHex a, ← ofHex_toHex b, same]

theorem ofHex_injective {s t : JsString} (ls : isLowerHex s = true) (lt : isLowerHex t = true)
    (es : s.length % 2 = 0) (et : t.length % 2 = 0) (same : ofHex s = ofHex t) : s = t := by
  rw [← toHex_ofHex s ls es, ← toHex_ofHex t lt et, same]

theorem toHex_isPrefix (a b : Bytes) : toHex a <+: toHex b ↔ a <+: b := by
  constructor
  · intro start
    induction a generalizing b with
    | nil => exact List.nil_prefix
    | cons x xs ih =>
      cases b with
      | nil => simp at start
      | cons y ys =>
        have hx := x.toNat_lt
        have hy := y.toNat_lt
        simp only [toHex_cons, List.cons_prefix_cons] at start
        have high := hexDigit_injective (by omega) (by omega) start.1
        have low := hexDigit_injective (by omega) (by omega) start.2.1
        have same : x = y := UInt8.toNat_inj.mp (by omega)
        exact List.cons_prefix_cons.mpr ⟨same, ih ys start.2.2⟩
  · rintro ⟨rest, rfl⟩
    exact ⟨toHex rest, (toHex_append a rest).symm⟩

end Hex
