import Nostream.Shared.Hex

set_option autoImplicit false

namespace Nostream

open Utf16 Hex

def msb (b : UInt8) : Nat := if b = 0 then 8 else 7 - Nat.log2 b.toNat

-- The loop of msb: how often a number can be shifted until nothing is left.
def shifts (b : Nat) : Nat := if shifted : b >>> 1 = 0 then 0 else shifts (b >>> 1) + 1
termination_by b
decreasing_by
  rw [Nat.shiftRight_one] at shifted ⊢
  omega

theorem shifts_bounds (b : Nat) (positive : b ≠ 0) : 2 ^ shifts b ≤ b ∧ b < 2 ^ (shifts b + 1) := by
  induction b using shifts.induct with
  | case1 b last =>
    rw [Nat.shiftRight_one] at last
    rw [shifts, dif_pos (by rwa [Nat.shiftRight_one])]
    omega
  | case2 b more ih =>
    obtain ⟨lower, upper⟩ := ih more
    rw [shifts, dif_neg more]
    rw [Nat.shiftRight_one] at lower upper more ⊢
    rw [Nat.pow_succ] at upper ⊢
    rw [Nat.pow_succ, Nat.pow_succ]
    omega

theorem msb_eq_shifts (b : UInt8) : msb b = if b = 0 then 8 else 7 - shifts b.toNat := by
  unfold msb
  split
  next => rfl
  next positive =>
    have nonzero : b.toNat ≠ 0 := fun zero => positive (UInt8.toNat_inj.mp zero)
    rw [(Nat.log2_eq_iff nonzero).mpr (shifts_bounds b.toNat nonzero)]

def getLeadingZeroBits : Bytes → Nat
  | [] => 0
  | b :: rest => if msb b = 8 then 8 + getLeadingZeroBits rest else msb b

def getEventProofOfWork (eventId : JsString) : Nat := getLeadingZeroBits (ofHex eventId)

def getPubkeyProofOfWork (pubkey : JsString) : Nat := getLeadingZeroBits (ofHex pubkey)

end Nostream
