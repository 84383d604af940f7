import Nostream.Repositories.EventsTable
import Nostream.Shared.Doubles
import Mathlib.Data.List.TakeWhile

set_option autoImplicit false

namespace Nostream.Runes

open Utf16 Numeric

def isPunctuation (u : UInt16) : Bool :=
  let n := u.toNat
  (33 ≤ n && n ≤ 47) || (58 ≤ n && n ≤ 64) || (91 ≤ n && n ≤ 94) || n == 96 || (123 ≤ n && n ≤ 126)

def hasPunctuation (input : JsString) : Bool := input.any isPunctuation

inductive Condition where
  | missing | equal | notEqual | startsWith | endsWith | contains | less | greater
  | orderedAfter | orderedBefore | comment
  deriving DecidableEq

namespace Condition

def symbol : Condition → UInt16
  | missing => 33
  | equal => 61
  | notEqual => 47
  | startsWith => 94
  | endsWith => 36
  | contains => 126
  | less => 60
  | greater => 62
  | orderedAfter => 125
  | orderedBefore => 123
  | comment => 35

def all : List Condition :=
  [missing, equal, notEqual, startsWith, endsWith, contains, less, greater, orderedAfter, orderedBefore,
    comment]

def ofSymbol (u : UInt16) : Option Condition := all.find? fun cond => cond.symbol == u

end Condition

structure Alternative where
  field : JsString
  cond : Condition
  value : JsString
  plain : hasPunctuation field = false := by decide
  deriving DecidableEq

structure Restriction where
  alternatives : List Alternative
  nonempty : alternatives ≠ [] := by decide
  deriving DecidableEq

structure RuneLike where
  restrictions : List Restriction
  deriving DecidableEq

/-- What a record holds under a key: a function, or a value that String and `includes` may refuse. -/
inductive FieldValue where
  | function (call : Alternative → Except Thrown (Option JsString))
  | data (text : Except Thrown JsString) (includes : JsString → Except Thrown Bool)

abbrev Values := JsString → Option FieldValue

def why (cond : Bool) (field explanation : JsString) : Option JsString :=
  if cond then none else some (field ++ js ": " ++ explanation)

namespace Alternative

variable (alternative : Alternative)

def compareIntegers (val : JsString) (below : Bool) : Option JsString :=
  match parseInt val with
  | none => why false alternative.field (js "not an integer field")
  | some actualInt =>
    match parseInt alternative.value with
    | none => why false alternative.field (js "not a valid integer")
    | some restrictionVal =>
      if below then why (actualInt < restrictionVal) alternative.field (js ">= " ++ numberText restrictionVal)
      else why (actualInt > restrictionVal) alternative.field (js "<= " ++ numberText restrictionVal)

def testData (text : Except Thrown JsString) (includes : JsString → Except Thrown Bool) :
    Except Thrown (Option JsString) := do
  let val ← text
  let field := alternative.field
  let value := alternative.value
  match alternative.cond with
  | .comment => pure none
  | .missing => pure (why false field (js "is present"))
  | .equal => pure (why (val == value) field (js "!= " ++ value))
  | .notEqual => pure (why (val != value) field (js "= " ++ value))
  | .startsWith => pure (why (value.isPrefixOf val) field (js "does not start with " ++ value))
  | .endsWith => pure (why (value.isSuffixOf val) field (js "does not end with " ++ value))
  | .contains => pure (why (← includes value) field (js "does not contain " ++ value))
  | .less => pure (alternative.compareIntegers val true)
  | .greater => pure (alternative.compareIntegers val false)
  | .orderedBefore => pure (why (val < value) field (js "is the same or ordered after " ++ value))
  | .orderedAfter => pure (why (val > value) field (js "is the same or ordered before " ++ value))

def test (values : Values) : Except Thrown (Option JsString) :=
  if alternative.cond = .comment then .ok none
  else match values alternative.field with
  | none => .ok (why (alternative.cond = .missing) alternative.field (js "is missing"))
  | some (.function call) => call alternative
  | some (.data text includes) => alternative.testData text includes

def escapeUnit (u : UInt16) : JsString :=
  if u.toNat = 92 ∨ u.toNat = 124 ∨ u.toNat = 38 then [92, u] else [u]

def encode : JsString :=
  alternative.field ++ alternative.cond.symbol :: alternative.value.flatMap escapeUnit

-- A backslash at the very end appends the text of undefined.
def readValue : JsString → JsString × JsString
  | [] => ([], [])
  | u :: rest =>
    if u.toNat = 124 then ([], rest)
    else if u.toNat = 38 then ([], u :: rest)
    else if u.toNat = 92 then
      match rest with
      | [] => (js "undefined", [])
      | v :: rest => ((readValue rest).1.cons v, (readValue rest).2)
    else ((readValue rest).1.cons u, (readValue rest).2)

def noOperator (encodedStr : JsString) : Thrown :=
  .error (String.ofList (Utf16.decode encodedStr) ++ " does not contain any operator")

theorem takeWhile_plain (s : JsString) : hasPunctuation (s.takeWhile fun u => !isPunctuation u) = false := by
  rw [hasPunctuation, List.any_eq_false]
  intro u member
  simpa using List.mem_takeWhile_imp member

def decode (encodedStr : JsString) : Except Thrown (Alternative × JsString) :=
  match encodedStr.dropWhile fun u => !isPunctuation u with
  | [] => .error (noOperator encodedStr)
  | symbol :: rest =>
    match Condition.ofSymbol symbol with
    | none => .error (.error "Cond is not valid")
    | some cond =>
      .ok
        ({ field := encodedStr.takeWhile fun u => !isPunctuation u
           cond := cond
           value := (readValue rest).1
           plain := takeWhile_plain encodedStr }, (readValue rest).2)

theorem readValue_bar (u : UInt16) (rest : JsString) (bar : u.toNat = 124) :
    readValue (u :: rest) = ([], rest) := by
  rw [readValue.eq_def]
  dsimp only
  rw [if_pos bar]

theorem readValue_ampersand (u : UInt16) (rest : JsString) (ampersand : u.toNat = 38) :
    readValue (u :: rest) = ([], u :: rest) := by
  rw [readValue.eq_def]
  dsimp only
  rw [if_neg (by omega), if_pos ampersand]

theorem readValue_dangling (u : UInt16) (backslash : u.toNat = 92) :
    readValue [u] = (js "undefined", []) := by
  rw [readValue.eq_def]
  dsimp only
  rw [if_neg (by omega), if_neg (by omega), if_pos backslash]

theorem readValue_escaped (u v : UInt16) (rest : JsString) (backslash : u.toNat = 92) :
    readValue (u :: v :: rest) = (v :: (readValue rest).1, (readValue rest).2) := by
  rw [readValue.eq_def]
  dsimp only
  rw [if_neg (by omega), if_neg (by omega), if_pos backslash]

theorem readValue_plain (u : UInt16) (rest : JsString) (bar : u.toNat ≠ 124) (ampersand : u.toNat ≠ 38)
    (backslash : u.toNat ≠ 92) :
    readValue (u :: rest) = (u :: (readValue rest).1, (readValue rest).2) := by
  rw [readValue.eq_def]
  dsimp only
  rw [if_neg bar, if_neg ampersand, if_neg backslash]

theorem readValue_length (s : JsString) : (readValue s).2.length ≤ s.length := by
  induction s using readValue.induct with
  | case1 => exact le_refl _
  | case2 u rest bar => simp [readValue_bar u rest bar]
  | case3 u rest bar ampersand => simp [readValue_ampersand u rest ampersand]
  | case4 u bar ampersand backslash => simp [readValue_dangling u backslash]
  | case5 u bar ampersand backslash v rest ih =>
    rw [readValue_escaped u v rest backslash]
    exact ih.trans (Nat.le_add_right _ 2)
  | case6 u rest bar ampersand backslash ih =>
    rw [readValue_plain u rest bar ampersand backslash]
    exact ih.trans (Nat.le_add_right _ 1)

theorem decode_length {s rest : JsString} {alternative : Alternative}
    (decoded : decode s = .ok (alternative, rest)) : rest.length < s.length := by
  unfold decode at decoded
  have shorter : (s.dropWhile fun u => !isPunctuation u).length ≤ s.length :=
    (List.dropWhile_suffix _).length_le
  split at decoded
  next => cases decoded
  next symbol tail operator =>
    split at decoded
    next => cases decoded
    next =>
      cases decoded
      have read := readValue_length tail
      rw [operator, List.length_cons] at shorter
      omega

end Alternative

theorem map_ok {α β : Type} {parsed : Except Thrown α} {f : α → β} {result : β}
    (mapped : parsed.map f = .ok result) : ∃ value, parsed = .ok value ∧ result = f value := by
  cases parsed with
  | error reason => cases mapped
  | ok value =>
    cases mapped
    exact ⟨value, rfl, rfl⟩

namespace Restriction

variable (restriction : Restriction)

def firstPassing (values : Values) : List Alternative → List JsString → Except Thrown (Option JsString)
  | [], reasons => .ok (some ((reasons.intersperse (js " AND ")).flatten))
  | alternative :: rest, reasons => do
    match ← alternative.test values with
    | none => pure none
    | some reason => firstPassing values rest (reasons ++ [reason])

def test (values : Values) : Except Thrown (Option JsString) := firstPassing values restriction.alternatives []

def encode : JsString := (js "|").intercalate (restriction.alternatives.map Alternative.encode)

def decodeAlternatives : JsString → Except Thrown (List Alternative × JsString)
  | [] => .ok ([], [])
  | u :: rest =>
    if u.toNat = 38 then .ok ([], rest)
    else match _ : Alternative.decode (u :: rest) with
      | .error reason => .error reason
      | .ok (alternative, remaining) =>
        (decodeAlternatives remaining).map fun (alternatives, remaining) =>
          (alternative :: alternatives, remaining)
termination_by s => s.length
decreasing_by exact Alternative.decode_length ‹_›

def noAlternatives : Thrown := .error "Restriction must have some alternatives"

def decode (encodedStr : JsString) : Except Thrown (Restriction × JsString) :=
  match decodeAlternatives encodedStr with
  | .error reason => .error reason
  | .ok ([], _) => .error noAlternatives
  | .ok (alternative :: rest, remaining) =>
    .ok ({ alternatives := alternative :: rest, nonempty := List.cons_ne_nil alternative rest }, remaining)

theorem decodeAlternatives_nil : decodeAlternatives [] = .ok ([], []) := by rw [decodeAlternatives]

theorem decodeAlternatives_ampersand (u : UInt16) (rest : JsString) (ampersand : u.toNat = 38) :
    decodeAlternatives (u :: rest) = .ok ([], rest) := by
  rw [decodeAlternatives, if_pos ampersand]

theorem decodeAlternatives_error (u : UInt16) (rest : JsString) (reason : Thrown) (other : u.toNat ≠ 38)
    (failed : Alternative.decode (u :: rest) = .error reason) :
    decodeAlternatives (u :: rest) = .error reason := by
  rw [decodeAlternatives, if_neg other]
  split
  next found =>
    rw [failed] at found
    cases found
    rfl
  next found =>
    rw [failed] at found
    cases found

theorem decodeAlternatives_ok (u : UInt16) (rest remaining : JsString) (alternative : Alternative)
    (other : u.toNat ≠ 38) (decoded : Alternative.decode (u :: rest) = .ok (alternative, remaining)) :
    decodeAlternatives (u :: rest) =
      (decodeAlternatives remaining).map fun (alternatives, remaining) =>
        (alternative :: alternatives, remaining) := by
  rw [decodeAlternatives, if_neg other]
  split
  next failed =>
    rw [decoded] at failed
    cases failed
  next found =>
    rw [decoded] at found
    cases found
    rfl

theorem decodeAlternatives_length {s rest : JsString} {alternatives : List Alternative}
    (decoded : decodeAlternatives s = .ok (alternatives, rest)) :
    rest.length ≤ s.length ∧ (alternatives ≠ [] → rest.length < s.length) := by
  induction s using decodeAlternatives.induct generalizing alternatives with
  | case1 =>
    rw [decodeAlternatives_nil] at decoded
    cases decoded
    simp
  | case2 u tail ampersand =>
    rw [decodeAlternatives_ampersand u tail ampersand] at decoded
    cases decoded
    simp
  | case3 u tail other reason failed =>
    rw [decodeAlternatives_error u tail reason other failed] at decoded
    cases decoded
  | case4 u tail other alternative remaining first ih =>
    rw [decodeAlternatives_ok u tail remaining alternative other first] at decoded
    have shorter := Alternative.decode_length first
    obtain ⟨⟨others, left⟩, more, read⟩ := map_ok decoded
    cases read
    have bound := (ih more).1
    exact ⟨by omega, fun _ => by omega⟩

theorem decode_ok {s rest : JsString} {restriction : Restriction}
    (decoded : decode s = .ok (restriction, rest)) :
    decodeAlternatives s = .ok (restriction.alternatives, rest) := by
  unfold decode at decoded
  split at decoded
  next => cases decoded
  next => cases decoded
  next found =>
    cases decoded
    exact found

theorem decode_of_alternatives {s rest : JsString} (restriction : Restriction)
    (decoded : decodeAlternatives s = .ok (restriction.alternatives, rest)) :
    decode s = .ok (restriction, rest) := by
  obtain ⟨alternatives, nonempty⟩ := restriction
  unfold decode
  rw [decoded]
  cases alternatives with
  | nil => exact (nonempty rfl).elim
  | cons alternative others => rfl

theorem decode_length {s rest : JsString} {restriction : Restriction}
    (decoded : decode s = .ok (restriction, rest)) : rest.length < s.length :=
  (decodeAlternatives_length (decode_ok decoded)).2 restriction.nonempty

end Restriction

namespace RuneLike

variable (rune : RuneLike)

def firstFailing (values : Values) : List Restriction → Except Thrown (Bool × JsString)
  | [] => .ok (true, [])
  | restriction :: rest => do
    match ← restriction.test values with
    | some reasons => pure (false, reasons)
    | none => firstFailing values rest

def test (values : Values) : Except Thrown (Bool × JsString) := firstFailing values rune.restrictions

def encode : JsString := (js "&").intercalate (rune.restrictions.map Restriction.encode)

def decodeRestrictions (encStr : JsString) : Except Thrown (List Restriction) :=
  if encStr = [] then .ok []
  else match _ : Restriction.decode encStr with
    | .error reason => .error reason
    | .ok (restriction, encStr) => (decodeRestrictions encStr).map fun rest => restriction :: rest
termination_by encStr.length
decreasing_by exact Restriction.decode_length ‹_›

def withoutWhiteSpace (s : JsString) : JsString := s.filter fun u => !isWhiteSpace u

def «from» (encodedStr : JsString) : Except Thrown RuneLike :=
  (decodeRestrictions (withoutWhiteSpace encodedStr)).map RuneLike.mk

theorem decodeRestrictions_nil : decodeRestrictions [] = .ok [] := by rw [decodeRestrictions, if_pos rfl]

theorem decodeRestrictions_error {s : JsString} {reason : Thrown} (nonempty : s ≠ [])
    (failed : Restriction.decode s = .error reason) : decodeRestrictions s = .error reason := by
  rw [decodeRestrictions, if_neg nonempty]
  split
  next found =>
    rw [failed] at found
    cases found
    rfl
  next found =>
    rw [failed] at found
    cases found

theorem decodeRestrictions_ok {s rest : JsString} {restriction : Restriction} (nonempty : s ≠ [])
    (decoded : Restriction.decode s = .ok (restriction, rest)) :
    decodeRestrictions s = (decodeRestrictions rest).map fun others => restriction :: others := by
  rw [decodeRestrictions, if_neg nonempty]
  split
  next failed =>
    rw [decoded] at failed
    cases failed
  next found =>
    rw [decoded] at found
    cases found
    rfl

end RuneLike

end Nostream.Runes
