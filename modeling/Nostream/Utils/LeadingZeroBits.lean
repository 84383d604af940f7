import Nostream.Shared.Positional
import Nostream.Utils.Event
import Nostream.Utils.ProofOfWork

set_option autoImplicit false

namespace Nostream.LeadingZeroBits

open Utf16 Hex Positional

def bigEndian (bytes : Bytes) : Nat := value 256 (bytes.map UInt8.toNat)

def hexNumber (s : JsString) : Nat := value 16 (s.map fun u => (hexValue u).getD 0)

section Bytes

theorem bigEndian_cons (b : UInt8) (rest : Bytes) :
    bigEndian (b :: rest) = b.toNat * 2 ^ (8 * rest.length) + bigEndian rest := by
  rw [bigEndian, List.map_cons, value_cons, List.length_map, Nat.pow_mul]
  rfl

theorem bigEndian_lt (bytes : Bytes) : bigEndian bytes < 2 ^ (8 * bytes.length) := by
  have small : ∀ digit ∈ bytes.map UInt8.toNat, digit < 256 := by
    intro digit member
    obtain ⟨b, -, rfl⟩ := List.mem_map.mp member
    exact b.toNat_lt
  have bound := value_lt 256 _ small
  rwa [List.length_map, show 256 = 2 ^ 8 by rfl, ← Nat.pow_mul] at bound

theorem msb_add_size (b : UInt8) : msb b + b.toNat.size = 8 := by
  by_cases zero : b = 0
  · subst zero
    rfl
  · have nonzero : b.toNat ≠ 0 := fun isZero => zero (UInt8.toNat_inj.mp isZero)
    have size := (size_eq_iff b.toNat (shifts b.toNat)).mpr (shifts_bounds b.toNat nonzero)
    have bits : b.toNat.size ≤ 8 := Nat.size_le.mpr b.toNat_lt
    rw [msb_eq_shifts, if_neg zero]
    omega

theorem msb_eq_eight (b : UInt8) : msb b = 8 ↔ b = 0 := by
  have total := msb_add_size b
  constructor
  · intro full
    exact UInt8.toNat_inj.mp (Nat.size_eq_zero.mp (show b.toNat.size = 0 by omega))
  · rintro rfl
    rfl

theorem getLeadingZeroBits_add_size (bytes : Bytes) :
    getLeadingZeroBits bytes + (bigEndian bytes).size = 8 * bytes.length := by
  induction bytes with
  | nil => rfl
  | cons b rest ih =>
    rw [getLeadingZeroBits, bigEndian_cons, List.length_cons]
    split
    next full =>
      rw [(msb_eq_eight b).mp full]
      simp only [UInt8.toNat_zero, Nat.zero_mul, Nat.zero_add]
      omega
    next partly =>
      have positive : b.toNat ≠ 0 := fun zero => partly ((msb_eq_eight b).mpr (UInt8.toNat_inj.mp zero))
      have size := size_mul_two_pow_add (8 * rest.length) positive (bigEndian_lt rest)
      have total := msb_add_size b
      omega

end Bytes

section Digits

theorem hexValue_lt {u : UInt16} {n : Nat} (read : hexValue u = some n) : n < 16 := by
  unfold hexValue at read
  split_ifs at read <;> cases read <;> omega

theorem hexNumber_pair (high low : UInt16) (rest : JsString) (h l : Nat) (isHigh : hexValue high = some h)
    (isLow : hexValue low = some l) :
    hexNumber (high :: low :: rest) = (16 * h + l) * 16 ^ rest.length + hexNumber rest := by
  unfold hexNumber
  rw [List.map_cons, List.map_cons, value_cons, value_cons, List.length_cons, List.length_map, isHigh, isLow,
    Option.getD_some, Option.getD_some, Nat.pow_succ]
  ring

theorem ofHex_digits (s : JsString) (hex : isHex s = true) (even : s.length % 2 = 0) :
    2 * (ofHex s).length = s.length ∧ bigEndian (ofHex s) = hexNumber s := by
  induction s using ofHex.induct with
  | case1 high low rest h l lowValue highValue ih =>
    simp only [isHex, List.all_cons, Bool.and_eq_true] at hex
    obtain ⟨length, number⟩ := ih hex.2.2 (by simp only [List.length_cons] at even; omega)
    have decoded : ofHex (high :: low :: rest) = (16 * h + l).toUInt8 :: ofHex rest := by
      simp only [ofHex, highValue, lowValue]
    have small : 16 * h + l < 256 := by
      have highDigit := hexValue_lt highValue
      have lowDigit := hexValue_lt lowValue
      omega
    have weight : 2 ^ (8 * (ofHex rest).length) = 16 ^ rest.length := by
      rw [← length, show 16 = 2 ^ 4 by rfl, ← Nat.pow_mul]
      congr 1
      omega
    rw [decoded, List.length_cons, List.length_cons, List.length_cons]
    refine ⟨by omega, ?_⟩
    rw [bigEndian_cons, byte_toNat _ small, weight, number, hexNumber_pair high low rest h l highValue lowValue]
  | case2 high low rest notBoth =>
    simp only [isHex, List.all_cons, Bool.and_eq_true, Option.isSome_iff_exists] at hex
    obtain ⟨⟨h, highValue⟩, ⟨l, lowValue⟩, -⟩ := hex
    exact (notBoth h l highValue lowValue).elim
  | case3 s notPair =>
    rcases s with _ | ⟨high, _ | ⟨low, rest⟩⟩
    · exact ⟨rfl, rfl⟩
    · simp at even
    · exact (notPair high low rest rfl).elim

theorem le_proofOfWork_iff (digits : JsString) (k : Nat) (length : digits.length = 64) (hex : isHex digits = true)
    (atMost : k ≤ 256) : k ≤ getLeadingZeroBits (ofHex digits) ↔ hexNumber digits < 2 ^ (256 - k) := by
  obtain ⟨bytes, number⟩ := ofHex_digits digits hex (by omega)
  have total := getLeadingZeroBits_add_size (ofHex digits)
  rw [← number, ← Nat.size_le]
  omega

end Digits

theorem proof_of_work_measures_zero_bits :
    (∀ bytes : Bytes, getLeadingZeroBits bytes + (bigEndian bytes).size = 8 * bytes.length) ∧
      ∀ (digits : JsString) (k : Nat), digits.length = 64 → isHex digits = true → k ≤ 256 →
        (k ≤ getEventProofOfWork digits ↔ hexNumber digits < 2 ^ (256 - k)) ∧
          (k ≤ getPubkeyProofOfWork digits ↔ hexNumber digits < 2 ^ (256 - k)) :=
  ⟨getLeadingZeroBits_add_size, fun digits k length hex atMost =>
    ⟨le_proofOfWork_iff digits k length hex atMost, le_proofOfWork_iff digits k length hex atMost⟩⟩

def zeroDigits : JsString := List.replicate 64 48

theorem zero_digits_measure_256 : 256 ≤ getEventProofOfWork zeroDigits ↔ hexNumber zeroDigits < 2 ^ 0 :=
  (proof_of_work_measures_zero_bits.2 zeroDigits 256 rfl (by decide) (Nat.le_refl 256)).1

end Nostream.LeadingZeroBits
