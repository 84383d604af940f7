import Nostream.Shared.Sql

set_option autoImplicit false

namespace HexPrefix

open Utf16 Hex Sql

theorem exact_correct (start : JsString) (bytes : Bytes) (lower : isLowerHex start = true)
    (even : start.length % 2 = 0) (full : start.length = 2 * bytes.length) :
    start <+: toHex bytes ↔ bytes = ofHex start := by
  have whole := toHex_ofHex start lower even
  constructor
  · intro found
    have same : start = toHex bytes := found.eq_of_length (by rw [toHex_length, full])
    rw [same, ofHex_toHex]
  · intro same
    rw [same, whole]

theorem even_correct (start : JsString) (bytes : Bytes) (lower : isLowerHex start = true)
    (even : start.length % 2 = 0) :
    start <+: toHex bytes ↔ bytes.take (start.length / 2) = ofHex start := by
  rw [← ofHex_length start lower even]
  conv_lhs => rw [← toHex_ofHex start lower even]
  rw [toHex_isPrefix, List.prefix_iff_eq_take, eq_comm]

theorem lastDigit (start : JsString) (lower : isLowerHex start = true)
    (odd : start.length % 2 = 1) :
    ∃ (bytes : Bytes) (d : Nat), d < 16 ∧ start = toHex bytes ++ [hexDigit d] := by
  have nonempty : start ≠ [] := by
    rintro rfl
    simp at odd
  have split := List.dropLast_append_getLast nonempty
  simp only [isLowerHex, List.all_eq_true] at lower
  obtain ⟨d, small, last⟩ := exists_hexDigit (lower _ (List.getLast_mem nonempty))
  have lowerInit : isLowerHex start.dropLast = true := by
    simp only [isLowerHex, List.all_eq_true]
    exact fun u member => lower u (List.dropLast_subset start member)
  have evenInit : start.dropLast.length % 2 = 0 := by
    rw [List.length_dropLast]
    omega
  refine ⟨ofHex start.dropLast, d, small, ?_⟩
  rw [toHex_ofHex _ lowerInit evenInit, ← last, split]

theorem ofHex_lastDigit (bytes : Bytes) (d e : Nat) (hd : d < 16) (he : e < 16) :
    ofHex (toHex bytes ++ [hexDigit d] ++ [hexDigit e]) = bytes ++ [(16 * d + e).toUInt8] := by
  induction bytes with
  | nil => simp [ofHex, hexValue_hexDigit _ hd, hexValue_hexDigit _ he]
  | cons b rest ih =>
    have bound := b.toNat_lt
    simp only [toHex_cons, List.cons_append, ofHex,
      hexValue_hexDigit _ (show b.toNat / 16 < 16 by omega),
      hexValue_hexDigit _ (show b.toNat % 16 < 16 by omega), byte_recompose, ih]

theorem digit_isPrefix (start : Bytes) (d : Nat) (hd : d < 16) (bytes : Bytes) :
    toHex start ++ [hexDigit d] <+: toHex bytes ↔
      ∃ last : UInt8, bytes.take (start.length + 1) = start ++ [last] ∧ last.toNat / 16 = d := by
  constructor
  · intro found
    have known : start <+: bytes :=
      (toHex_isPrefix start bytes).mp ((List.prefix_append _ _).trans found)
    obtain ⟨rest, rfl⟩ := known
    rw [toHex_append, List.prefix_append_right_inj] at found
    cases rest with
    | nil => simp at found
    | cons last rest =>
      have bound := last.toNat_lt
      simp only [toHex_cons, List.cons_prefix_cons] at found
      refine ⟨last, ?_, (hexDigit_injective hd (by omega) found.1).symm⟩
      simp [List.take_append]
  · rintro ⟨last, taken, high⟩
    have known : start ++ [last] <+: bytes := taken ▸ List.take_prefix _ _
    refine List.IsPrefix.trans ?_ ((toHex_isPrefix _ _).mpr known)
    rw [toHex_append, List.prefix_append_right_inj]
    exact ⟨[hexDigit (last.toNat % 16)], by simp [high]⟩

theorem odd_correct (start : JsString) (bytes : Bytes) (lower : isLowerHex start = true)
    (odd : start.length % 2 = 1) :
    start <+: toHex bytes ↔
      compareBytes (bytes.take (start.length / 2 + 1)) (ofHex (start ++ js "0")) ≠ .lt ∧
        compareBytes (bytes.take (start.length / 2 + 1)) (ofHex (start ++ js "f")) ≠ .gt := by
  obtain ⟨init, d, hd, rfl⟩ := lastDigit start lower odd
  have zero : js "0" = [hexDigit 0] := by decide
  have fifteen : js "f" = [hexDigit 15] := by decide
  have half : (toHex init ++ [hexDigit d]).length / 2 = init.length := by
    rw [List.length_append, toHex_length, List.length_singleton]
    omega
  rw [zero, fifteen, ofHex_lastDigit init d 0 hd (by omega), ofHex_lastDigit init d 15 hd (by omega),
    half, digit_isPrefix init d hd bytes]
  exact (between_leading init d hd _ (by simp)).symm

end HexPrefix
