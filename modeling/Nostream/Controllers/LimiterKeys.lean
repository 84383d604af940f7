import Nostream.Controllers.AddressLimits
import Nostream.Handlers.CountedOnce
import Nostream.Shared.Bracketed

set_option autoImplicit false

namespace Nostream.LimiterKeys

open Utf16 Bracketed RateLimiters
open EventMessageHandler (kindText hitFor)

-- Digits, signs, the point and the exponent, and the letters of Infinity and NaN.
def isNumericUnit (u : UInt16) : Bool := (js "0123456789+-.eInfityNa").contains u

/-- A number, known by the text that toString gives it. -/
structure NumberText where
  text : JsString
  nonempty : text ≠ []
  numeric : text.all isNumericUnit = true

mutual

def toString : Nested NumberText → JsString
  | .atom number => number.text
  | .list input => Json.array (toStrings input)

def toStrings : List (Nested NumberText) → List JsString
  | [] => []
  | first :: rest => toString first :: toStrings rest

end

inductive AddressLimiter where
  | message
  | connection
  | invoice
  | admissionCheck

def AddressLimiter.name : AddressLimiter → JsString
  | .message => js "message"
  | .connection => js "connection"
  | .invoice => js "invoice"
  | .admissionCheck => js "admission-check"

inductive Call where
  | event (pubkey : JsString) (period : NumberText) (kinds : Option (List (Nested NumberText)))
  | address (limiter : AddressLimiter) (remoteAddress : JsString) (period : NumberText)

def Call.key : Call → JsString
  | .event pubkey period none => pubkey ++ js ":events:" ++ period.text
  | .event pubkey period (some kinds) => pubkey ++ js ":events:" ++ period.text ++ js ":" ++ toString (.list kinds)
  | .address limiter remoteAddress period => remoteAddress ++ js ":" ++ limiter.name ++ js ":" ++ period.text

section Texts

theorem numeric_unmarked (u : UInt16) (numeric : isNumericUnit u = true) :
    (u ≠ 91 ∧ u ≠ 93 ∧ u ≠ 44) ∧ u ≠ 58 := by
  have apart (mark : UInt16) (isMark : isNumericUnit mark = false) : u ≠ mark := by
    rintro rfl
    rw [isMark] at numeric
    cases numeric
  exact ⟨⟨apart 91 (by decide), apart 93 (by decide), apart 44 (by decide)⟩, apart 58 (by decide)⟩

theorem NumberText.unit (number : NumberText) (u : UInt16) (member : u ∈ number.text) : isNumericUnit u = true :=
  List.all_eq_true.mp number.numeric u member

theorem text_injective : Function.Injective NumberText.text := by
  rintro ⟨a, nonemptyA, numericA⟩ ⟨b, nonemptyB, numericB⟩ same
  cases same
  rfl

theorem marks_distinct : (91 : UInt16) ≠ 93 ∧ (91 : UInt16) ≠ 44 ∧ (93 : UInt16) ≠ 44 := by decide

def bracketed : Writing NumberText UInt16 :=
  { opening := 91
    closing := 93
    comma := 44
    write := NumberText.text
    injective := text_injective
    distinct := marks_distinct
    nonempty := NumberText.nonempty
    unmarked := fun number u member => (numeric_unmarked u (number.unit u member)).1 }

theorem toStrings_eq (input : List (Nested NumberText))
    (each : ∀ nested ∈ input, toString nested = bracketed.text nested) : toStrings input = bracketed.texts input := by
  induction input with
  | nil => rfl
  | cons first rest ih =>
    rw [toStrings, Writing.texts, each first (List.mem_cons_self ..),
      ih fun nested member => each nested (List.mem_cons_of_mem first member)]

theorem toString_eq (nested : Nested NumberText) : toString nested = bracketed.text nested := by
  induction nested using Nested.induction with
  | atom number =>
    rw [toString, Writing.text]
    rfl
  | list input each =>
    rw [toString, toStrings_eq input each, Writing.text]
    rfl

theorem period_unmarked (number : NumberText) : (58 : UInt16) ∉ number.text :=
  fun member => (numeric_unmarked 58 (number.unit 58 member)).2 rfl

theorem toString_unmarked (nested : Nested NumberText) : (58 : UInt16) ∉ toString nested := by
  have units := bracketed.text_units (P := fun u => u ≠ 58) (by decide)
    (fun number u member => (numeric_unmarked u (number.unit u member)).2) nested
  rw [toString_eq]
  exact fun member => units 58 member rfl

theorem toString_injective : Function.Injective toString := by
  intro a b same
  rw [toString_eq, toString_eq] at same
  exact bracketed.text_injective same

theorem toString_list_ne (kinds : List (Nested NumberText)) (number : NumberText) :
    toString (.list kinds) ≠ number.text := by
  intro same
  have atom : toString (.list kinds) = toString (.atom number) := by
    rw [same, toString]
  cases toString_injective atom

end Texts

section Keys

def base (subject name : JsString) (period : NumberText) : JsString :=
  subject ++ 58 :: (name ++ 58 :: period.text)

def Call.subject : Call → JsString
  | .event pubkey _ _ => pubkey
  | .address _ remoteAddress _ => remoteAddress

def Call.name : Call → JsString
  | .event .. => js "events"
  | .address limiter _ _ => limiter.name

def Call.period : Call → NumberText
  | .event _ period _ => period
  | .address _ _ period => period

def Call.kinds : Call → Option (List (Nested NumberText))
  | .event _ _ kinds => kinds
  | .address .. => none

theorem key_eq (call : Call) : call.key = match call.kinds with
    | none => base call.subject call.name call.period
    | some kinds => base call.subject call.name call.period ++ 58 :: toString (.list kinds) := by
  have colon : js ":" = [58] := by decide
  have events : js ":events:" = 58 :: (js "events" ++ [58]) := by decide
  cases call with
  | event pubkey period kinds =>
    cases kinds <;> simp [Call.key, Call.kinds, Call.subject, Call.name, Call.period, base, colon, events]
  | address limiter remoteAddress period =>
    simp [Call.key, Call.kinds, Call.subject, Call.name, Call.period, base, colon]

theorem base_injective {subject other name otherName : JsString} {period otherPeriod : NumberText}
    (unmarked : (58 : UInt16) ∉ name) (otherUnmarked : (58 : UInt16) ∉ otherName)
    (same : base subject name period = base other otherName otherPeriod) :
    subject = other ∧ name = otherName ∧ period = otherPeriod := by
  unfold base at same
  rw [← List.cons_append, ← List.append_assoc, ← List.cons_append, ← List.append_assoc] at same
  obtain ⟨named, periods⟩ := cut_last (period_unmarked period) (period_unmarked otherPeriod) same
  obtain ⟨subjects, names⟩ := cut_last unmarked otherUnmarked named
  exact ⟨subjects, names, text_injective periods⟩

theorem events_unmarked : (58 : UInt16) ∉ js "events" := by decide

theorem limiter_unmarked (limiter : AddressLimiter) : (58 : UInt16) ∉ limiter.name := by
  cases limiter <;> decide

theorem name_unmarked (call : Call) : (58 : UInt16) ∉ call.name := by
  cases call with
  | event pubkey period kinds => exact events_unmarked
  | address limiter remoteAddress period => exact limiter_unmarked limiter

theorem limiter_name_ne (limiter : AddressLimiter) : limiter.name ≠ js "events" := by
  cases limiter <;> decide

theorem limiter_name_injective : Function.Injective AddressLimiter.name := by
  intro a b same
  cases a <;> cases b <;> first | rfl | exact absurd same (by decide)

theorem call_ext (a b : Call) (subjects : a.subject = b.subject) (names : a.name = b.name)
    (periods : a.period = b.period) (kinds : a.kinds = b.kinds) : a = b := by
  cases a with
  | event pubkey period kindsA =>
    cases b with
    | event other otherPeriod kindsB =>
      cases subjects
      cases periods
      cases kinds
      rfl
    | address limiter remoteAddress otherPeriod => exact absurd names.symm (limiter_name_ne limiter)
  | address limiter remoteAddress period =>
    cases b with
    | event other otherPeriod kindsB => exact absurd names (limiter_name_ne limiter)
    | address otherLimiter otherAddress otherPeriod =>
      cases subjects
      cases periods
      cases limiter_name_injective names
      rfl

theorem base_ne (subject name other otherName : JsString) (period otherPeriod : NumberText)
    (kinds : List (Nested NumberText)) :
    base subject name period ≠ base other otherName otherPeriod ++ 58 :: toString (.list kinds) := by
  intro same
  rw [base, ← List.cons_append, ← List.append_assoc] at same
  exact toString_list_ne kinds period (cut_last (period_unmarked period) (toString_unmarked _) same).2.symm

theorem key_injective : Function.Injective Call.key := by
  intro a b same
  rw [key_eq, key_eq] at same
  cases kindsA : a.kinds with
  | none =>
    cases kindsB : b.kinds with
    | none =>
      rw [kindsA, kindsB] at same
      obtain ⟨subjects, names, periods⟩ := base_injective (name_unmarked a) (name_unmarked b) same
      exact call_ext a b subjects names periods (kindsA.trans kindsB.symm)
    | some kinds =>
      rw [kindsA, kindsB] at same
      exact (base_ne _ _ _ _ _ _ _ same).elim
  | some kinds =>
    cases kindsB : b.kinds with
    | none =>
      rw [kindsA, kindsB] at same
      exact (base_ne _ _ _ _ _ _ _ same.symm).elim
    | some others =>
      rw [kindsA, kindsB] at same
      obtain ⟨bases, lists⟩ := cut_last (toString_unmarked _) (toString_unmarked _) same
      obtain ⟨subjects, names, periods⟩ := base_injective (name_unmarked a) (name_unmarked b) bases
      cases toString_injective lists
      exact call_ext a b subjects names periods (kindsA.trans kindsB.symm)

end Keys

section Hits

theorem digit_numeric (u : UInt16) (digit : Numeric.isDigit 10 u = true) : isNumericUnit u = true := by
  obtain ⟨least, most⟩ := Json.isDigit_range u digit
  have whole : u = u.toNat.toUInt16 := by simp
  generalize u.toNat = n at least most whole
  subst whole
  interval_cases n <;> decide

theorem integer_numeric (n : Int) : (Json.integer n).all isNumericUnit = true := by
  have digits (m : Nat) : (Json.decimalDigits m).all isNumericUnit = true :=
    List.all_eq_true.mpr fun u member => digit_numeric u (List.all_eq_true.mp (Json.decimalDigits_all m) u member)
  unfold Json.integer
  split
  next =>
    rw [List.all_append, Bool.and_eq_true]
    exact ⟨by decide, digits n.natAbs⟩
  next => exact digits n.natAbs

theorem integer_ne_nil (n : Int) : Json.integer n ≠ [] := by
  have digits := Json.decimalDigits_ne_nil n.natAbs
  unfold Json.integer
  split
  next => exact List.append_ne_nil_of_right_ne_nil _ digits
  next => exact digits

def NumberText.ofInt (n : Int) : NumberText :=
  { text := Json.integer n
    nonempty := integer_ne_nil n
    numeric := integer_numeric n }

def nestedKinds : KindOrRange → Nested NumberText
  | .kind kind => .atom (.ofInt kind)
  | .range first last => .list [.atom (.ofInt first), .atom (.ofInt last)]

def eventCall (event : Event) (limit : EventRateLimit) : Call :=
  .event event.pubkey (.ofInt limit.period) (limit.kinds.map (List.map nestedKinds))

def addressCall (limiter : AddressLimiter) (remoteAddress : JsString) (limit : RateLimit) : Call :=
  .address limiter remoteAddress (.ofInt limit.period)

theorem toString_nestedKinds (kind : KindOrRange) : toString (nestedKinds kind) = kindText kind := by
  cases kind <;> simp [nestedKinds, toString, toStrings, kindText, NumberText.ofInt]

theorem toStrings_nestedKinds (kinds : List KindOrRange) : toStrings (kinds.map nestedKinds) = kinds.map kindText := by
  induction kinds with
  | nil => rfl
  | cons first rest ih => rw [List.map_cons, toStrings, toString_nestedKinds, ih, List.map_cons]

theorem hitFor_key (event : Event) (limit : EventRateLimit) :
    (hitFor event limit).key = (eventCall event limit).key := by
  obtain ⟨period, rate, kinds⟩ := limit
  cases kinds with
  | none => rfl
  | some kinds =>
    simp only [hitFor, eventCall, Option.map_some, Call.key, toString, toStrings_nestedKinds, NumberText.ofInt]

theorem addressHit_key (limiter : AddressLimiter) (remoteAddress : JsString) (limit : RateLimit) :
    (addressHit remoteAddress limiter.name limit).key = (addressCall limiter remoteAddress limit).key := rfl

end Hits

theorem limiter_keys_apart :
    (∀ a b : Call, a.key = b.key → a = b) ∧
      (∀ event limit, (hitFor event limit).key = (eventCall event limit).key) ∧
        ∀ limiter remoteAddress limit,
          (addressHit remoteAddress limiter.name limit).key = (addressCall limiter remoteAddress limit).key :=
  ⟨key_injective, hitFor_key, addressHit_key⟩

end Nostream.LimiterKeys
