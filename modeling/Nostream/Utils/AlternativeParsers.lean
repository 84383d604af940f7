import Nostream.Utils.RuneNarrowing

set_option autoImplicit false

namespace Nostream.Runes

open Utf16 Numeric RuneLike

-- A split at every punctuation mark that keeps the marks, as its pattern captures them.
def splitAtPunctuation : JsString → List JsString
  | [] => [[]]
  | u :: rest =>
    if isPunctuation u then [] :: [u] :: splitAtPunctuation rest
    else match splitAtPunctuation rest with
    | piece :: pieces => (u :: piece) :: pieces
    | [] => [[u]]

theorem splitAtPunctuation_head (s : JsString) :
    ∃ pieces, splitAtPunctuation s = (s.takeWhile fun u => !isPunctuation u) :: pieces := by
  induction s with
  | nil => exact ⟨[], rfl⟩
  | cons u rest ih =>
    rw [splitAtPunctuation]
    by_cases mark : isPunctuation u = true
    · exact ⟨[u] :: splitAtPunctuation rest, by simp [mark]⟩
    · obtain ⟨pieces, split⟩ := ih
      exact ⟨pieces, by simp [mark, split]⟩

theorem splitAtPunctuation_mark (field rest : JsString) (u : UInt16) (plain : hasPunctuation field = false)
    (mark : isPunctuation u = true) :
    splitAtPunctuation (field ++ u :: rest) = field :: [u] :: splitAtPunctuation rest := by
  induction field with
  | nil => simp [splitAtPunctuation, mark]
  | cons v field ih =>
    simp only [hasPunctuation, List.any_cons, Bool.or_eq_false_iff] at plain
    rw [List.cons_append, splitAtPunctuation, if_neg (by simp [plain.1]), ih plain.2]

namespace Alternative

-- The constructor: its tests come in this order.
def create (field : JsString) (cond : Option JsString) (value : JsString) : Except Thrown Alternative :=
  if plain : hasPunctuation field = false then
    match cond with
    | some [symbol] =>
      match Condition.ofSymbol symbol with
      | some cond => .ok { field := field, cond := cond, value := value, plain := plain }
      | none => .error (.error "Cond is not valid")
    | _ => .error (.error "Cond is not valid")
  else .error (.error "Field is not valid")

-- The pieces after the third one are not looked at; there are one or at least three of them.
def «from» (encodedStr : JsString) : Except Thrown Alternative :=
  let pieces := splitAtPunctuation (withoutWhiteSpace encodedStr)
  create (pieces[0]?.getD []) pieces[1]? (pieces[2]?.getD [])

theorem create_ok (alternative : Alternative) (value : JsString) :
    create alternative.field (some [alternative.cond.symbol]) value = .ok { alternative with value := value } := by
  rw [create, dif_pos alternative.plain]
  simp only [alternative.cond.ofSymbol_symbol]

theorem takeWhile_escape (value : JsString) :
    (value.flatMap escapeUnit).takeWhile (fun u => !isPunctuation u) =
      value.takeWhile fun u => !isPunctuation u := by
  induction value with
  | nil => rfl
  | cons u rest ih =>
    rw [List.flatMap_cons, escapeUnit]
    split
    next special =>
      have mark : isPunctuation u = true := by
        simp only [isPunctuation, Bool.or_eq_true, Bool.and_eq_true, decide_eq_true_eq, beq_iff_eq]
        omega
      have backslash : isPunctuation 92 = true := by decide
      simp [mark, backslash]
    next => cases mark : isPunctuation u <;> simp [mark, ih]

theorem takeWhile_whole_iff (value : JsString) :
    (value.takeWhile fun u => !isPunctuation u) = value ↔ hasPunctuation value = false := by
  rw [List.takeWhile_eq_self_iff, hasPunctuation, List.any_eq_false]
  simp

theorem from_read (alternative : Alternative)
    (visible : withoutWhiteSpace alternative.encode = alternative.encode) :
    «from» alternative.encode =
      .ok { alternative with value := alternative.value.takeWhile fun u => !isPunctuation u } := by
  have split := splitAtPunctuation_mark alternative.field (alternative.value.flatMap escapeUnit)
    alternative.cond.symbol alternative.plain alternative.cond.symbol_punctuation
  obtain ⟨pieces, head⟩ := splitAtPunctuation_head (alternative.value.flatMap escapeUnit)
  rw [head, takeWhile_escape] at split
  rw [«from», visible, encode, split]
  exact create_ok alternative _

end Alternative

structure ParsersAgree (alternative : Alternative) : Prop where
  decoded : Alternative.decode alternative.encode = .ok (alternative, [])
  parsed : Alternative.from alternative.encode = .ok alternative

theorem parsers_agree_iff (alternative : Alternative) (field : alternative.field.any isWhiteSpace = false)
    (value : alternative.value.any isWhiteSpace = false) :
    ParsersAgree alternative ↔ hasPunctuation alternative.value = false := by
  have kept (s : JsString) (visible : s.any isWhiteSpace = false) : withoutWhiteSpace s = s := by
    rw [withoutWhiteSpace, List.filter_eq_self]
    simpa using visible
  have visible : withoutWhiteSpace alternative.encode = alternative.encode := by
    rw [encode_stripped_alternative, Alternative.encode, Alternative.encode]
    simp only [Alternative.stripped, kept _ field, kept _ value]
  have parsed := Alternative.from_read alternative visible
  rw [← Alternative.takeWhile_whole_iff]
  constructor
  · intro agree
    rw [agree.parsed, Except.ok.injEq] at parsed
    exact (congrArg Alternative.value parsed).symm
  · intro whole
    have decoded := alternative.decode_encode [] rfl
    rw [List.append_nil] at decoded
    rw [whole] at parsed
    exact ⟨decoded, parsed⟩

def payAlternative : Alternative :=
  { field := js "method", cond := .equal, value := js "pay", plain := method_plain }

theorem payAlternative_agrees : ParsersAgree payAlternative :=
  (parsers_agree_iff payAlternative (by decide) (by decide)).mpr (by decide)

theorem comma_lost :
    ¬ ∀ alternative : Alternative, alternative.field.any isWhiteSpace = false →
      alternative.value.any isWhiteSpace = false → ParsersAgree alternative := by
  intro claim
  have parsed := (claim { payAlternative with value := js "pay,fund" } (by decide) (by decide)).parsed
  exact absurd parsed (by decide +kernel)

end Nostream.Runes
