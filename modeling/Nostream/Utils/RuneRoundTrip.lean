import Nostream.Utils.Runes

set_option autoImplicit false

namespace Nostream.Runes

open Utf16 Numeric

namespace Condition

theorem ofSymbol_symbol (cond : Condition) : ofSymbol cond.symbol = some cond := by
  cases cond <;> rfl

theorem symbol_punctuation (cond : Condition) : isPunctuation cond.symbol = true := by
  cases cond <;> rfl

theorem symbol_range (cond : Condition) :
    cond.symbol.toNat ≠ 38 ∧ cond.symbol.toNat ≠ 92 ∧ cond.symbol.toNat ≠ 124 ∧
      isWhiteSpace cond.symbol = false := by
  cases cond <;> decide

theorem symbol_of_ofSymbol {u : UInt16} {cond : Condition} (found : ofSymbol u = some cond) :
    cond.symbol = u := by
  simpa using List.find?_some found

end Condition

namespace Alternative

theorem readValue_escape (value rest : JsString) :
    readValue (value.flatMap escapeUnit ++ rest) = (value ++ (readValue rest).1, (readValue rest).2) := by
  induction value with
  | nil => rfl
  | cons u tail ih =>
    rw [List.flatMap_cons, List.append_assoc]
    by_cases special : u.toNat = 92 ∨ u.toNat = 124 ∨ u.toNat = 38
    · rw [escapeUnit, if_pos special, List.cons_append, List.cons_append, List.nil_append,
        readValue_escaped 92 u _ rfl, ih]
      rfl
    · rw [escapeUnit, if_neg special, List.cons_append, List.nil_append]
      rw [not_or, not_or] at special
      rw [readValue_plain u _ special.2.1 special.2.2 special.1, ih]
      rfl

theorem decode_of_shape (field : JsString) (cond : Condition) (tail : JsString)
    (plain : hasPunctuation field = false) :
    decode (field ++ cond.symbol :: tail) =
      .ok ({ field := field, cond := cond, value := (readValue tail).1, plain := plain }, (readValue tail).2) := by
  have bare : ∀ u ∈ field, (!isPunctuation u) = true := by
    intro u member
    rw [hasPunctuation, List.any_eq_false] at plain
    simpa using plain u member
  have operator : (!isPunctuation cond.symbol) = false := by rw [cond.symbol_punctuation, Bool.not_true]
  have named : (field ++ cond.symbol :: tail).takeWhile (fun u => !isPunctuation u) = field := by
    rw [List.takeWhile_append_of_pos bare, List.takeWhile_cons_of_neg (by simp [operator]), List.append_nil]
  have left : (field ++ cond.symbol :: tail).dropWhile (fun u => !isPunctuation u) = cond.symbol :: tail := by
    rw [List.dropWhile_append_of_pos bare, List.dropWhile_cons_of_neg (by simp [operator])]
  simp only [decode, named]
  rw [left]
  simp only [cond.ofSymbol_symbol]

theorem decode_encode (alternative : Alternative) (rest : JsString) (closes : (readValue rest).1 = []) :
    decode (alternative.encode ++ rest) = .ok (alternative, (readValue rest).2) := by
  obtain ⟨field, cond, value, plain⟩ := alternative
  have shape : encode { field := field, cond := cond, value := value, plain := plain } ++ rest =
      field ++ cond.symbol :: (value.flatMap escapeUnit ++ rest) := by
    simp [encode]
  rw [shape, decode_of_shape field cond _ plain]
  simp only [readValue_escape, closes, List.append_nil]

theorem encode_starts (alternative : Alternative) :
    ∃ u rest, alternative.encode = u :: rest ∧ u.toNat ≠ 38 := by
  obtain ⟨field, cond, value, plain⟩ := alternative
  cases field with
  | nil => exact ⟨_, _, rfl, cond.symbol_range.1⟩
  | cons u tail =>
    refine ⟨u, _, rfl, ?_⟩
    intro ampersand
    simp only [hasPunctuation, List.any_cons, Bool.or_eq_false_iff] at plain
    have punctuation : isPunctuation u = true := by simp [isPunctuation, ampersand]
    rw [plain.1] at punctuation
    cases punctuation

end Alternative

namespace Restriction

inductive Closes : JsString → JsString → Prop
  | rune : Closes [] []
  | restriction (rest : JsString) : Closes (38 :: rest) rest

theorem Closes.readValue {rest left : JsString} (closes : Closes rest left) :
    Alternative.readValue rest = ([], rest) := by
  cases closes with
  | rune => rfl
  | restriction => exact Alternative.readValue_ampersand 38 _ rfl

theorem Closes.decodeAlternatives {rest left : JsString} (closes : Closes rest left) :
    decodeAlternatives rest = .ok ([], left) := by
  cases closes with
  | rune => exact decodeAlternatives_nil
  | restriction => exact decodeAlternatives_ampersand 38 _ rfl

theorem decodeAlternatives_encode (alternative : Alternative) (others : List Alternative) (rest left : JsString)
    (closes : Closes rest left) :
    decodeAlternatives ((js "|").intercalate ((alternative :: others).map Alternative.encode) ++ rest) =
      .ok (alternative :: others, left) := by
  induction others generalizing alternative with
  | nil =>
    have read := closes.readValue
    obtain ⟨u, tail, starts, other⟩ := alternative.encode_starts
    have decoded := alternative.decode_encode rest (by rw [read])
    rw [read, starts, List.cons_append] at decoded
    rw [List.map_singleton, List.intercalate_singleton, starts, List.cons_append,
      decodeAlternatives_ok u _ rest alternative other decoded, closes.decodeAlternatives]
    rfl
  | cons next others ih =>
    obtain ⟨u, tail, starts, other⟩ := alternative.encode_starts
    have bar : js "|" = [124] := rfl
    have more := ih next
    rw [List.map_cons, List.map_cons, List.intercalate_cons_cons, List.append_assoc, List.append_assoc, bar,
      List.singleton_append]
    rw [List.map_cons, bar] at more
    have read := Alternative.readValue_bar 124
      ([124].intercalate (next.encode :: others.map Alternative.encode) ++ rest) rfl
    have decoded := alternative.decode_encode
      (124 :: ([124].intercalate (next.encode :: others.map Alternative.encode) ++ rest)) (by rw [read])
    rw [read, starts, List.cons_append] at decoded
    rw [starts, List.cons_append, decodeAlternatives_ok u _ _ alternative other decoded, more]
    rfl

theorem decode_encode (restriction : Restriction) (rest left : JsString) (closes : Closes rest left) :
    decode (restriction.encode ++ rest) = .ok (restriction, left) := by
  apply decode_of_alternatives
  obtain ⟨alternatives, nonempty⟩ := restriction
  cases alternatives with
  | nil => exact (nonempty rfl).elim
  | cons alternative others => exact decodeAlternatives_encode alternative others rest left closes

theorem encode_ne_nil (restriction : Restriction) (rest : JsString) : restriction.encode ++ rest ≠ [] := by
  intro empty
  have decoded := restriction.decode_encode [] [] .rune
  rw [List.append_eq_nil_iff] at empty
  rw [empty.1] at decoded
  exact absurd (decode_length decoded) (by simp)

end Restriction

section WhiteSpace

open RuneLike

theorem withoutWhiteSpace_append (a b : JsString) :
    withoutWhiteSpace (a ++ b) = withoutWhiteSpace a ++ withoutWhiteSpace b := List.filter_append ..

theorem withoutWhiteSpace_intercalate (separator : JsString) (visible : withoutWhiteSpace separator = separator)
    (parts : List JsString) :
    withoutWhiteSpace (separator.intercalate parts) = separator.intercalate (parts.map withoutWhiteSpace) := by
  induction parts with
  | nil => rfl
  | cons first rest ih =>
    cases rest with
    | nil => simp
    | cons second rest =>
      rw [List.map_cons, List.map_cons, List.intercalate_cons_cons, List.intercalate_cons_cons,
        withoutWhiteSpace_append, withoutWhiteSpace_append, visible, ih, List.map_cons]

theorem hasPunctuation_withoutWhiteSpace {field : JsString} (plain : hasPunctuation field = false) :
    hasPunctuation (withoutWhiteSpace field) = false := by
  rw [hasPunctuation, List.any_eq_false] at plain ⊢
  exact fun u member => plain u (List.mem_of_mem_filter member)

/-- White space is deleted before escapes are read, so it makes no difference to them. -/
theorem withoutWhiteSpace_escape (value : JsString) :
    withoutWhiteSpace (value.flatMap Alternative.escapeUnit) =
      (withoutWhiteSpace value).flatMap Alternative.escapeUnit := by
  induction value with
  | nil => rfl
  | cons u rest ih =>
    rw [List.flatMap_cons, withoutWhiteSpace_append, ih]
    by_cases special : u.toNat = 92 ∨ u.toNat = 124 ∨ u.toNat = 38
    · have visible : isWhiteSpace u = false := by
        simp only [isWhiteSpace, Bool.or_eq_false_iff, Bool.and_eq_false_iff, decide_eq_false_iff_not,
          beq_eq_false_iff_ne]
        omega
      have backslash : isWhiteSpace 92 = false := by decide
      simp [Alternative.escapeUnit, special, withoutWhiteSpace, visible, backslash]
    · cases space : isWhiteSpace u <;>
        simp [Alternative.escapeUnit, special, withoutWhiteSpace, space]

end WhiteSpace

def Alternative.stripped (alternative : Alternative) : Alternative :=
  { field := RuneLike.withoutWhiteSpace alternative.field
    cond := alternative.cond
    value := RuneLike.withoutWhiteSpace alternative.value
    plain := hasPunctuation_withoutWhiteSpace alternative.plain }

def Restriction.stripped (restriction : Restriction) : Restriction :=
  { alternatives := restriction.alternatives.map Alternative.stripped
    nonempty := by simpa using restriction.nonempty }

def RuneLike.stripped (rune : RuneLike) : RuneLike :=
  { restrictions := rune.restrictions.map Restriction.stripped }

section Encodings

open RuneLike

theorem encode_stripped_alternative (alternative : Alternative) :
    withoutWhiteSpace alternative.encode = alternative.stripped.encode := by
  obtain ⟨field, cond, value, plain⟩ := alternative
  have symbol (rest : JsString) :
      withoutWhiteSpace (cond.symbol :: rest) = cond.symbol :: withoutWhiteSpace rest := by
    simp [withoutWhiteSpace, cond.symbol_range.2.2.2]
  simp only [Alternative.encode, Alternative.stripped]
  rw [withoutWhiteSpace_append, symbol, withoutWhiteSpace_escape]

theorem encode_stripped_restriction (restriction : Restriction) :
    withoutWhiteSpace restriction.encode = restriction.stripped.encode := by
  simp only [Restriction.encode, Restriction.stripped]
  rw [withoutWhiteSpace_intercalate _ rfl, List.map_map, List.map_map]
  exact congrArg _ (List.map_congr_left fun alternative _ => encode_stripped_alternative alternative)

theorem encode_stripped (rune : RuneLike) : withoutWhiteSpace rune.encode = rune.stripped.encode := by
  simp only [RuneLike.encode, RuneLike.stripped]
  rw [withoutWhiteSpace_intercalate _ rfl, List.map_map, List.map_map]
  exact congrArg _ (List.map_congr_left fun restriction _ => encode_stripped_restriction restriction)

theorem decodeRestrictions_encode (restrictions : List Restriction) :
    decodeRestrictions ((js "&").intercalate (restrictions.map Restriction.encode)) = .ok restrictions := by
  induction restrictions with
  | nil => exact decodeRestrictions_nil
  | cons restriction rest ih =>
    cases rest with
    | nil =>
      have decoded := restriction.decode_encode [] [] .rune
      have nonempty := restriction.encode_ne_nil []
      rw [List.append_nil] at decoded nonempty
      rw [List.map_singleton, List.intercalate_singleton, decodeRestrictions_ok nonempty decoded,
        decodeRestrictions_nil]
      rfl
    | cons next rest =>
      have ampersand : js "&" = [38] := rfl
      rw [List.map_cons, List.map_cons, List.intercalate_cons_cons, List.append_assoc, ampersand,
        List.singleton_append]
      rw [List.map_cons, ampersand] at ih
      rw [decodeRestrictions_ok (restriction.encode_ne_nil _)
        (restriction.decode_encode _ _ (.restriction _)), ih]
      rfl

theorem from_encode_stripped (rune : RuneLike) : RuneLike.from rune.encode = .ok rune.stripped := by
  rw [RuneLike.from, encode_stripped, RuneLike.encode, decodeRestrictions_encode]
  rfl

end Encodings

end Nostream.Runes
