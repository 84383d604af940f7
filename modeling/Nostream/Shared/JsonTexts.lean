import Nostream.Shared.JsonRoundTrip

set_option autoImplicit false

namespace Utf16

theorem wellFormed_append (a b : JsString) (wfA : wellFormed a = true) (wfB : wellFormed b = true) :
    wellFormed (a ++ b) = true := by
  induction a using wellFormed.induct with
  | case1 => exact wfB
  | case2 u =>
    have scalar : isSurrogate u = false := by simpa [wellFormed] using wfA
    rw [List.singleton_append, wellFormed_cons_scalar u b scalar, wfB]
  | case3 u v rest pair ih =>
    rw [wellFormed, if_pos pair] at wfA
    rw [List.cons_append, List.cons_append, wellFormed, if_pos pair, ih wfA]
  | case4 u v rest pair ih =>
    rw [wellFormed, if_neg pair, Bool.and_eq_true, Bool.not_eq_true'] at wfA
    rw [List.cons_append, wellFormed_cons_scalar u _ wfA.1, ih wfA.2]

theorem wellFormed_scalars (s : JsString) (scalars : ∀ u ∈ s, isSurrogate u = false) : wellFormed s = true := by
  induction s with
  | nil => rfl
  | cons u rest ih =>
    rw [wellFormed_cons_scalar u rest (scalars u (List.mem_cons_self ..)),
      ih fun v member => scalars v (List.mem_cons_of_mem u member)]

theorem wellFormed_js (literal : String) : wellFormed (js literal) = true := wellFormed_encode literal.toList

theorem isSurrogate_low (u : UInt16) (low : u.toNat < 0xD800) : isSurrogate u = false := by
  simp only [isSurrogate, isHigh, isLow, Bool.or_eq_false_iff, Bool.and_eq_false_iff, decide_eq_false_iff_not]
  omega

end Utf16

namespace Json

open Utf16 Hex

section Integers

theorem integer_injective : Function.Injective integer := by
  have digits (m n : Nat) (same : decimalDigits m = decimalDigits n) : m = n := by
    rw [← decimalDigits_value m, same, decimalDigits_value]
  have sign (m n : Nat) : decimalDigits m ≠ js "-" ++ decimalDigits n := by
    intro same
    exact absurd (decimalDigits_notSign m 45 _ same) (by decide)
  intro a b same
  unfold integer at same
  split_ifs at same with negative other other
  · have whole := digits a.natAbs b.natAbs (List.append_cancel_left same)
    omega
  · exact (sign b.natAbs a.natAbs same.symm).elim
  · exact (sign a.natAbs b.natAbs same).elim
  · have whole := digits a.natAbs b.natAbs same
    omega

theorem integer_wellFormed (n : Int) : wellFormed (integer n) = true := by
  unfold integer
  split
  next => exact wellFormed_append _ _ (wellFormed_js "-") (wellFormed_encode _)
  next => exact wellFormed_encode _

end Integers

section Texts

theorem unicodeEscape_wellFormed (u : UInt16) : wellFormed (unicodeEscape u) = true := by
  have bound := u.toNat_lt
  have scalar (n : Nat) (small : n < 16) : isSurrogate (hexDigit n) = false := by
    refine isSurrogate_low _ ?_
    rw [hexDigit_toNat n small]
    split <;> omega
  refine wellFormed_append _ _ (wellFormed_js "\\u") (wellFormed_scalars _ fun digit member => ?_)
  simp only [List.mem_cons, List.not_mem_nil, or_false] at member
  rcases member with rfl | rfl | rfl | rfl <;> exact scalar _ (by omega)

theorem quoteUnit_wellFormed (u : UInt16) : wellFormed (quoteUnit u) = true := by
  unfold quoteUnit
  split_ifs with backspace tab newline feed carriage mark backslash hidden
  · exact wellFormed_js "\\b"
  · exact wellFormed_js "\\t"
  · exact wellFormed_js "\\n"
  · exact wellFormed_js "\\f"
  · exact wellFormed_js "\\r"
  · exact wellFormed_js "\\\""
  · exact wellFormed_js "\\\\"
  · exact unicodeEscape_wellFormed u
  · rw [not_or, Bool.not_eq_true] at hidden
    simp [wellFormed, hidden.2]

theorem quoteBody_wellFormed (s : JsString) : wellFormed (quoteBody s) = true := by
  induction s using quoteBody.induct with
  | case1 => rfl
  | case2 u => exact quoteUnit_wellFormed u
  | case3 u v rest pair ih => rw [quoteBody, if_pos pair, wellFormed, if_pos pair, ih]
  | case4 u v rest pair ih =>
    rw [quoteBody, if_neg pair]
    exact wellFormed_append _ _ (quoteUnit_wellFormed u) ih

theorem quote_wellFormed (s : JsString) : wellFormed (quote s) = true :=
  wellFormed_append _ _ (wellFormed_append _ _ (wellFormed_js "\"") (quoteBody_wellFormed s)) (wellFormed_js "\"")

theorem joined_wellFormed (elements : List JsString) (each : ∀ element ∈ elements, wellFormed element = true) :
    wellFormed (joined elements) = true := by
  induction elements with
  | nil => rfl
  | cons element rest ih =>
    have others := ih fun other member => each other (List.mem_cons_of_mem element member)
    have first := each element (List.mem_cons_self ..)
    cases rest with
    | nil => rwa [joined_singleton]
    | cons other more =>
      rw [joined_cons_cons]
      refine wellFormed_append _ _ first ?_
      rw [wellFormed_cons_scalar 44 _ (isSurrogate_low 44 (by decide)), others]

theorem array_wellFormed (elements : List JsString) (each : ∀ element ∈ elements, wellFormed element = true) :
    wellFormed (array elements) = true :=
  wellFormed_append _ _ (wellFormed_append _ _ (wellFormed_js "[") (joined_wellFormed elements each)) (wellFormed_js "]")

end Texts

section Values

theorem stringifyItems_eq (items : List JsonValue) : stringifyItems items = items.map stringify := by
  induction items with
  | nil => rfl
  | cons item rest ih => rw [stringifyItems, ih, List.map_cons]

theorem stringifyMembers_eq (members : List (JsString × JsonValue)) :
    stringifyMembers members = members.map fun member => quote member.1 ++ js ":" ++ stringify member.2 := by
  induction members with
  | nil => rfl
  | cons member rest ih => rw [stringifyMembers, ih, List.map_cons]

theorem number_wellFormed (text : JsString) (literal : isNumberLiteral text = true) : wellFormed text = true := by
  simp only [isNumberLiteral, Bool.and_eq_true, List.all_eq_true] at literal
  refine wellFormed_scalars text fun u member => isSurrogate_low u ?_
  have range := isNumberUnit_range u (literal.1.1 u member)
  omega

theorem stringify_wellFormed (value : JsonValue) (wf : WellFormed value) : wellFormed (stringify value) = true := by
  induction wf with
  | null => exact wellFormed_js "null"
  | boolean value => cases value <;> exact wellFormed_js _
  | number text literal => exact number_wellFormed text literal
  | string value => exact quote_wellFormed value
  | array items _ ih =>
    refine array_wellFormed _ fun element member => ?_
    rw [stringifyItems_eq] at member
    obtain ⟨item, inItems, rfl⟩ := List.mem_map.mp member
    exact ih item inItems
  | object members _ _ ih =>
    refine wellFormed_append _ _ (wellFormed_append _ _ (wellFormed_js "\x7b") ?_) (wellFormed_js "\x7d")
    refine joined_wellFormed _ fun element member => ?_
    rw [stringifyMembers_eq] at member
    obtain ⟨field, inMembers, rfl⟩ := List.mem_map.mp member
    exact wellFormed_append _ _ (wellFormed_append _ _ (quote_wellFormed field.1) (wellFormed_js ":"))
      (ih field inMembers)

end Values

end Json
