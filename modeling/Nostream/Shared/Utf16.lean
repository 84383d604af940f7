import Mathlib.Tactic

set_option autoImplicit false

namespace Utf16

abbrev JsString := List UInt16

def isHigh (u : UInt16) : Bool := 0xD800 ≤ u.toNat && u.toNat ≤ 0xDBFF

def isLow (u : UInt16) : Bool := 0xDC00 ≤ u.toNat && u.toNat ≤ 0xDFFF

def isSurrogate (u : UInt16) : Bool := isHigh u || isLow u

def combine (high low : UInt16) : Char :=
  Char.ofNat (0x10000 + (high.toNat - 0xD800) * 0x400 + (low.toNat - 0xDC00))

def replacement : Char := Char.ofNat 0xFFFD

def single (u : UInt16) : Char :=
  if isSurrogate u then replacement else Char.ofNat u.toNat

-- Lone surrogates become U+FFFD, as in every encoder that writes UTF-8.
def decode : JsString → List Char
  | [] => []
  | [u] => [single u]
  | u :: v :: rest =>
    if isHigh u && isLow v then combine u v :: decode rest
    else single u :: decode (v :: rest)

def wellFormed : JsString → Bool
  | [] => true
  | [u] => !isSurrogate u
  | u :: v :: rest =>
    if isHigh u && isLow v then wellFormed rest
    else !isSurrogate u && wellFormed (v :: rest)

def encodeChar (c : Char) : JsString :=
  if c.toNat < 0x10000 then [c.toNat.toUInt16]
  else [(0xD800 + (c.toNat - 0x10000) / 0x400).toUInt16,
    (0xDC00 + (c.toNat - 0x10000) % 0x400).toUInt16]

def encode (chars : List Char) : JsString := chars.flatMap encodeChar

def js (literal : String) : JsString := encode literal.toList

def toWellFormed (s : JsString) : JsString := encode (decode s)

@[simp] theorem encode_nil : encode [] = [] := rfl

@[simp] theorem encode_cons (c : Char) (chars : List Char) :
    encode (c :: chars) = encodeChar c ++ encode chars := rfl

theorem toNat_toUInt16 (n : Nat) (small : n < 0x10000) : n.toUInt16.toNat = n := by
  simpa using small

theorem char_bounds (c : Char) :
    c.toNat < 0xD800 ∨ (0xDFFF < c.toNat ∧ c.toNat < 0x110000) := c.valid

theorem toNat_ofNat (n : Nat) (valid : n < 0xD800 ∨ (0xDFFF < n ∧ n < 0x110000)) :
    (Char.ofNat n).toNat = n := by
  have isValid : n.isValidChar := valid
  rw [Char.ofNat, dif_pos isValid]
  rfl

theorem encodeChar_bmp (c : Char) (bmp : c.toNat < 0x10000) :
    ∃ u, encodeChar c = [u] ∧ isSurrogate u = false ∧ Char.ofNat u.toNat = c := by
  refine ⟨c.toNat.toUInt16, by simp [encodeChar, bmp], ?_, ?_⟩
  · have bounds := char_bounds c
    simp only [isSurrogate, isHigh, isLow, toNat_toUInt16 _ bmp, Bool.or_eq_false_iff,
      Bool.and_eq_false_iff, decide_eq_false_iff_not]
    omega
  · rw [toNat_toUInt16 _ bmp, Char.ofNat_toNat]

theorem encodeChar_astral (c : Char) (astral : ¬ c.toNat < 0x10000) :
    ∃ high low, encodeChar c = [high, low] ∧ isHigh high = true ∧ isLow low = true ∧
      combine high low = c := by
  have bounds := char_bounds c
  have highNat := toNat_toUInt16 (0xD800 + (c.toNat - 0x10000) / 0x400) (by omega)
  have lowNat := toNat_toUInt16 (0xDC00 + (c.toNat - 0x10000) % 0x400) (by omega)
  refine ⟨_, _, by rw [encodeChar, if_neg astral], ?_, ?_, ?_⟩
  · simp only [isHigh, highNat, Bool.and_eq_true, decide_eq_true_eq]
    omega
  · simp only [isLow, lowNat, Bool.and_eq_true, decide_eq_true_eq]
    omega
  · rw [combine, highNat, lowNat]
    have whole : 0x10000 + (0xD800 + (c.toNat - 0x10000) / 0x400 - 0xD800) * 0x400 +
        (0xDC00 + (c.toNat - 0x10000) % 0x400 - 0xDC00) = c.toNat := by omega
    rw [whole, Char.ofNat_toNat]

theorem length_le_encode (chars : List Char) : chars.length ≤ (encode chars).length := by
  have one (c : Char) : 1 ≤ (encodeChar c).length := by
    unfold encodeChar
    split <;> simp
  induction chars with
  | nil => simp
  | cons c rest ih =>
    have first := one c
    rw [encode_cons, List.length_append, List.length_cons]
    omega

theorem not_high_of_not_surrogate {u : UInt16} (h : isSurrogate u = false) :
    isHigh u = false := by
  simp only [isSurrogate, Bool.or_eq_false_iff] at h
  exact h.1

theorem decode_cons_scalar (u : UInt16) (rest : JsString) (scalar : isSurrogate u = false) :
    decode (u :: rest) = Char.ofNat u.toNat :: decode rest := by
  cases rest <;> simp [decode, single, scalar, not_high_of_not_surrogate scalar]

theorem wellFormed_cons_scalar (u : UInt16) (rest : JsString) (scalar : isSurrogate u = false) :
    wellFormed (u :: rest) = wellFormed rest := by
  cases rest <;> simp [wellFormed, scalar, not_high_of_not_surrogate scalar]

@[simp] theorem decode_encode (chars : List Char) : decode (encode chars) = chars := by
  induction chars with
  | nil => rfl
  | cons c rest ih =>
    by_cases bmp : c.toNat < 0x10000
    · obtain ⟨u, encoded, scalar, same⟩ := encodeChar_bmp c bmp
      rw [encode_cons, encoded, List.singleton_append, decode_cons_scalar u _ scalar, same, ih]
    · obtain ⟨high, low, encoded, isHi, isLo, same⟩ := encodeChar_astral c bmp
      simp [encoded, decode, isHi, isLo, same, ih]

@[simp] theorem wellFormed_encode (chars : List Char) : wellFormed (encode chars) = true := by
  induction chars with
  | nil => rfl
  | cons c rest ih =>
    by_cases bmp : c.toNat < 0x10000
    · obtain ⟨u, encoded, scalar, _⟩ := encodeChar_bmp c bmp
      rw [encode_cons, encoded, List.singleton_append, wellFormed_cons_scalar u _ scalar, ih]
    · obtain ⟨high, low, encoded, isHi, isLo, _⟩ := encodeChar_astral c bmp
      simp [encoded, wellFormed, isHi, isLo, ih]

theorem encodeChar_scalar (u : UInt16) (scalar : isSurrogate u = false) :
    encodeChar (Char.ofNat u.toNat) = [u] := by
  have bound := u.toNat_lt
  simp only [isSurrogate, isHigh, isLow, Bool.or_eq_false_iff, Bool.and_eq_false_iff,
    decide_eq_false_iff_not] at scalar
  have value : (Char.ofNat u.toNat).toNat = u.toNat := toNat_ofNat _ (by omega)
  simp [encodeChar, value, bound]

theorem encodeChar_combine (high low : UInt16) (isHi : isHigh high = true)
    (isLo : isLow low = true) : encodeChar (combine high low) = [high, low] := by
  simp only [isHigh, isLow, Bool.and_eq_true, decide_eq_true_eq] at isHi isLo
  have value := toNat_ofNat (0x10000 + (high.toNat - 0xD800) * 0x400 + (low.toNat - 0xDC00))
    (by omega)
  have upper : 0xD800 + (0x10000 + (high.toNat - 0xD800) * 0x400 + (low.toNat - 0xDC00) - 0x10000)
      / 0x400 = high.toNat := by omega
  have lower : 0xDC00 + (0x10000 + (high.toNat - 0xD800) * 0x400 + (low.toNat - 0xDC00) - 0x10000)
      % 0x400 = low.toNat := by omega
  rw [encodeChar, combine, value, if_neg (by omega), upper, lower]
  simp

theorem encode_decode (s : JsString) (wf : wellFormed s = true) : encode (decode s) = s := by
  induction s using decode.induct with
  | case1 => rfl
  | case2 u =>
    have scalar : isSurrogate u = false := by simpa [wellFormed] using wf
    simp [decode, single, scalar, encodeChar_scalar]
  | case3 u v rest pair ih =>
    simp only [wellFormed, pair, if_true] at wf
    simp only [Bool.and_eq_true] at pair
    simp [decode, pair, encodeChar_combine, ih wf]
  | case4 u v rest pair ih =>
    simp only [wellFormed, pair, Bool.false_eq_true, if_false, Bool.and_eq_true,
      Bool.not_eq_true'] at wf
    simp [decode, pair, single, wf.1, encodeChar_scalar, ih wf.2]

theorem encode_injective : Function.Injective encode := by
  intro a b same
  rw [← decode_encode a, ← decode_encode b, same]

end Utf16
