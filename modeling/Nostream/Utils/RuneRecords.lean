import Nostream.Shared.InsertionMap
import Nostream.Utils.RuneNarrowing

set_option autoImplicit false

namespace Nostream.Runes

open Utf16 Numeric

/-- A record's own values. A number is known by the text that String makes of it. -/
inductive Entry where
  | string (text : JsString)
  | number (text : JsString)
  | strings (items : List JsString)
  deriving DecidableEq

abbrev Record := InsertionMap JsString Entry

def notIncludes : Thrown := .error "values[this.field].includes is not a function"

namespace Entry

def text : Entry → JsString
  | string text => text
  | number text => text
  | strings items => (js ",").intercalate items

def includes (value : JsString) : Entry → Except Thrown Bool
  | string text => .ok (decide (value <:+: text))
  | number _ => .error notIncludes
  | strings items => .ok (items.contains value)

def isNumber : Entry → Bool
  | number _ => true
  | _ => false

end Entry

/-- What a property of Object.prototype does when it is called with an alternative, or read as a value. -/
inductive Inherited where
  | answers (result : Record → JsString)
  | answersUndefined
  | refuses (reason : Thrown)
  | callsToString
  | prototype

def objectText : JsString := js "[object Object]"

def hasAlternative (record : Record) : JsString :=
  if (record.get objectText).isSome then js "true" else js "false"

def objectPrototype : List (JsString × Inherited) :=
  [(js "constructor", .answers fun _ => objectText),
    (js "__defineGetter__", .refuses (.error "Object.prototype.__defineGetter__: Expecting function")),
    (js "__defineSetter__", .refuses (.error "Object.prototype.__defineSetter__: Expecting function")),
    (js "hasOwnProperty", .answers hasAlternative),
    (js "__lookupGetter__", .answersUndefined),
    (js "__lookupSetter__", .answersUndefined),
    (js "isPrototypeOf", .answers fun _ => js "false"),
    (js "propertyIsEnumerable", .answers hasAlternative),
    (js "toString", .answers fun _ => objectText),
    (js "valueOf", .answers fun _ => objectText),
    (js "__proto__", .prototype),
    (js "toLocaleString", .callsToString)]

def Inherited.value (record : Record) : Inherited → FieldValue
  | answers result => .function fun _ => .ok (some (result record))
  | answersUndefined => .function fun _ => .ok none
  | refuses reason => .function fun _ => .error reason
  | callsToString => .function fun _ =>
    match record.get (js "toString") with
    | some _ => .error (.error "toString is not a function")
    | none => .ok (some objectText)
  | prototype => .data (.ok objectText) fun _ => .error notIncludes

-- A plain object: what it does not have itself it has from Object.prototype.
def Record.values (record : Record) : Values := fun name =>
  match record.get name with
  | some entry => some (.data (.ok entry.text) fun value => entry.includes value)
  | none => (objectPrototype.lookup name).map (Inherited.value record)

namespace Alternative

variable (alternative : Alternative)

def comparesIntegers : Prop := alternative.cond = .less ∨ alternative.cond = .greater

def inOrder (actual restriction : Int) : Prop :=
  if alternative.cond = .less then actual < restriction else restriction < actual

structure Means (record : Record) : Prop where
  returns : ∃ reason, alternative.test record.values = .ok reason
  absent : record.get alternative.field = none →
    (alternative.test record.values = .ok none ↔ alternative.cond = .missing)
  ordered : ∀ entry, record.get alternative.field = some entry → alternative.comparesIntegers →
    alternative.test record.values = .ok none →
      ∃ actual restriction, wholeInteger entry.text = some actual ∧
        wholeInteger alternative.value = some restriction ∧ alternative.inOrder actual restriction
  fieldReported : ∀ entry, record.get alternative.field = some entry → alternative.comparesIntegers →
    wholeInteger entry.text = none →
      alternative.test record.values = .ok (why false alternative.field (js "not an integer field"))
  valueReported : ∀ entry, record.get alternative.field = some entry → alternative.comparesIntegers →
    (wholeInteger entry.text).isSome = true → wholeInteger alternative.value = none →
      alternative.test record.values = .ok (why false alternative.field (js "not a valid integer"))

def ReadInFull (val : JsString) : Prop :=
  parseInt val = none ∨ ((wholeInteger val).isSome = true ∧
    (parseInt alternative.value = none ∨ (wholeInteger alternative.value).isSome = true))

def FailsOn (val : JsString) : Prop :=
  match alternative.cond with
  | .equal => val ≠ alternative.value
  | .notEqual => val = alternative.value
  | .startsWith => ¬ alternative.value <+: val
  | .endsWith => ¬ alternative.value <:+ val
  | .orderedBefore => ¬ val < alternative.value
  | .orderedAfter => ¬ alternative.value < val
  | .less | .greater => True
  | .missing | .contains | .comment => False

def HarmlessOn (record : Record) : Inherited → Prop
  | .answers _ => alternative.cond ≠ .missing
  | .answersUndefined => alternative.cond = .missing
  | .refuses _ => False
  | .callsToString => alternative.cond ≠ .missing ∧ record.get (js "toString") = none
  | .prototype => alternative.FailsOn objectText

def SoundOn (record : Record) : Prop :=
  match record.get alternative.field with
  | some entry => (alternative.cond = .contains → entry.isNumber = false) ∧
      (alternative.comparesIntegers → alternative.ReadInFull entry.text)
  | none => ∀ inherited ∈ objectPrototype.lookup alternative.field, alternative.HarmlessOn record inherited

variable {alternative}

theorem why_none (passes : Bool) (explanation : JsString) :
    why passes alternative.field explanation = none ↔ passes = true := by
  cases passes <;> simp [why]

theorem why_text (passes : Bool) (expected explanation : JsString) (differ : explanation ≠ expected) :
    why passes alternative.field explanation ≠ why false alternative.field expected := by
  intro same
  cases passes with
  | true => cases same
  | false =>
    simp only [why, Bool.false_eq_true, if_false, Option.some.injEq, List.append_cancel_left_eq] at same
    exact differ same

section Own

variable {record : Record} {entry : Entry}

theorem test_own (own : record.get alternative.field = some entry) (judged : alternative.cond ≠ .comment) :
    alternative.test record.values =
      alternative.testData (.ok entry.text) fun value => entry.includes value := by
  have read : record.values alternative.field =
      some (.data (.ok entry.text) fun value => entry.includes value) := by
    unfold Record.values
    rw [own]
  rw [test, if_neg judged, read]

theorem testData_compares (compares : alternative.comparesIntegers) (text : JsString)
    (includes : JsString → Except Thrown Bool) :
    alternative.testData (.ok text) includes =
      .ok (alternative.compareIntegers text (decide (alternative.cond = .less))) := by
  rcases compares with less | greater
  · rw [less]
    unfold testData
    rw [less]
    rfl
  · rw [greater]
    unfold testData
    rw [greater]
    rfl

theorem testData_returns (text : JsString) (includes : JsString → Except Thrown Bool)
    (contained : alternative.cond = .contains → ∃ found, includes alternative.value = .ok found) :
    ∃ reason, alternative.testData (.ok text) includes = .ok reason := by
  unfold testData
  cases cond : alternative.cond with
  | contains =>
    obtain ⟨found, included⟩ := contained cond
    simp [bind, Except.bind, pure, Except.pure, included]
  | _ => exact ⟨_, rfl⟩

theorem includes_ok (value : JsString) : (∃ found, entry.includes value = .ok found) ↔ entry.isNumber = false := by
  cases entry <;> simp [Entry.includes, Entry.isNumber]

theorem compare_unread (text : JsString) (below : Bool) (unread : parseInt text = none) :
    alternative.compareIntegers text below = why false alternative.field (js "not an integer field") := by
  unfold compareIntegers
  rw [unread]

theorem compare_unreadValue (text : JsString) (below : Bool) (actual : Int) (read : parseInt text = some actual)
    (unread : parseInt alternative.value = none) :
    alternative.compareIntegers text below = why false alternative.field (js "not a valid integer") := by
  unfold compareIntegers
  rw [read, unread]

theorem compare_read (compares : alternative.comparesIntegers) (text : JsString) (actual restriction : Int)
    (read : parseInt text = some actual) (readValue : parseInt alternative.value = some restriction) :
    ∃ passes explanation, alternative.compareIntegers text (decide (alternative.cond = .less)) =
        why passes alternative.field explanation ∧
      (passes = true ↔ alternative.inOrder actual restriction) ∧
      explanation ≠ js "not an integer field" ∧ explanation ≠ js "not a valid integer" := by
  have starts (u : UInt16) (tail expected : JsString) (differ : expected.head? ≠ some u) : u :: tail ≠ expected := by
    rintro rfl
    exact differ rfl
  unfold compareIntegers inOrder
  rw [read, readValue]
  rcases compares with less | greater
  · rw [less]
    exact ⟨_, _, rfl, by simp, starts 62 _ _ (by decide), starts 62 _ _ (by decide)⟩
  · rw [greater]
    exact ⟨_, _, rfl, by simp, starts 60 _ _ (by decide), starts 60 _ _ (by decide)⟩

theorem inOrder_of_rounded (actual restriction : Int)
    (rounded : alternative.inOrder (roundInteger actual) (roundInteger restriction)) :
    alternative.inOrder actual restriction := by
  unfold inOrder at rounded ⊢
  split at rounded
  next less =>
    rw [if_pos less]
    exact lt_of_not_ge fun le => absurd (roundInteger_mono restriction actual le) (not_le.mpr rounded)
  next greater =>
    rw [if_neg greater]
    exact lt_of_not_ge fun le => absurd (roundInteger_mono actual restriction le) (not_le.mpr rounded)

section Comparison

variable (compares : alternative.comparesIntegers) (text : JsString)

include compares

theorem readInFull_of_reported
    (field : wholeInteger text = none → alternative.compareIntegers text (decide (alternative.cond = .less)) =
      why false alternative.field (js "not an integer field"))
    (value : (wholeInteger text).isSome = true → wholeInteger alternative.value = none →
      alternative.compareIntegers text (decide (alternative.cond = .less)) =
        why false alternative.field (js "not a valid integer")) :
    alternative.ReadInFull text := by
  cases read : parseInt text with
  | none => exact .inl read
  | some actual =>
    cases readValue : parseInt alternative.value with
    | none =>
      refine .inr ⟨?_, .inl readValue⟩
      by_contra partly
      have reported := field (Option.not_isSome_iff_eq_none.mp partly)
      rw [compare_unreadValue text _ actual read readValue] at reported
      exact why_text false _ _ (by decide) reported
    | some restriction =>
      obtain ⟨passes, explanation, result, -, notField, notValue⟩ :=
        compare_read compares text actual restriction read readValue
      rw [result] at field value
      have whole : (wholeInteger text).isSome = true := by
        by_contra partly
        exact why_text passes _ _ notField (field (Option.not_isSome_iff_eq_none.mp partly))
      refine .inr ⟨whole, .inr ?_⟩
      by_contra partly
      exact why_text passes _ _ notValue (value whole (Option.not_isSome_iff_eq_none.mp partly))

theorem inOrder_of_passed (inFull : alternative.ReadInFull text)
    (passed : alternative.compareIntegers text (decide (alternative.cond = .less)) = none) :
    ∃ actual restriction, wholeInteger text = some actual ∧ wholeInteger alternative.value = some restriction ∧
      alternative.inOrder actual restriction := by
  rcases inFull with unread | ⟨whole, unread | wholeValue⟩
  · rw [compare_unread text _ unread, why_none] at passed
    cases passed
  · obtain ⟨actual, isWhole⟩ := Option.isSome_iff_exists.mp whole
    rw [compare_unreadValue text _ _ (parseInt_whole _ _ isWhole) unread, why_none] at passed
    cases passed
  · obtain ⟨actual, isWhole⟩ := Option.isSome_iff_exists.mp whole
    obtain ⟨restriction, isWholeValue⟩ := Option.isSome_iff_exists.mp wholeValue
    obtain ⟨passes, explanation, result, order, -, -⟩ := compare_read compares text _ _
      (parseInt_whole _ _ isWhole) (parseInt_whole _ _ isWholeValue)
    rw [result, why_none, order] at passed
    exact ⟨actual, restriction, isWhole, isWholeValue, inOrder_of_rounded actual restriction passed⟩

end Comparison

theorem compare_field (text : JsString) (below : Bool) (inFull : alternative.ReadInFull text)
    (partly : wholeInteger text = none) :
    alternative.compareIntegers text below = why false alternative.field (js "not an integer field") := by
  rcases inFull with unread | ⟨whole, -⟩
  · exact compare_unread text below unread
  · rw [partly] at whole
    cases whole

theorem compare_value (text : JsString) (below : Bool) (inFull : alternative.ReadInFull text)
    (whole : (wholeInteger text).isSome = true) (partly : wholeInteger alternative.value = none) :
    alternative.compareIntegers text below = why false alternative.field (js "not a valid integer") := by
  obtain ⟨actual, isWhole⟩ := Option.isSome_iff_exists.mp whole
  have read := parseInt_whole _ _ isWhole
  rcases inFull with unread | ⟨-, unread | wholeValue⟩
  · rw [read] at unread
    cases unread
  · exact compare_unreadValue text below _ read unread
  · rw [partly] at wholeValue
    cases wholeValue

theorem means_own (own : record.get alternative.field = some entry) (judged : alternative.cond ≠ .comment) :
    alternative.Means record ↔ (alternative.cond = .contains → entry.isNumber = false) ∧
      (alternative.comparesIntegers → alternative.ReadInFull entry.text) := by
  have tested := test_own own judged
  have compared (compares : alternative.comparesIntegers) : alternative.test record.values =
      .ok (alternative.compareIntegers entry.text (decide (alternative.cond = .less))) := by
    rw [tested, testData_compares compares]
  constructor
  · rintro ⟨returns, -, -, fieldReported, valueReported⟩
    refine ⟨fun contains => ?_, fun compares => ?_⟩
    · rw [← includes_ok alternative.value]
      obtain ⟨reason, returned⟩ := returns
      rw [tested] at returned
      cases included : entry.includes alternative.value with
      | ok found => exact ⟨found, rfl⟩
      | error thrown =>
        unfold testData at returned
        rw [contains] at returned
        simp [bind, Except.bind, included] at returned
    · have reportsField := fieldReported entry own compares
      have reportsValue := valueReported entry own compares
      rw [compared compares, Except.ok.injEq] at reportsField reportsValue
      exact readInFull_of_reported compares entry.text reportsField reportsValue
  · rintro ⟨contained, inFull⟩
    have same (other : Entry) (isEntry : record.get alternative.field = some other) : other = entry :=
      Option.some.inj (isEntry.symm.trans own)
    refine ⟨?_, fun missing => by simp [own] at missing, ?_, ?_, ?_⟩
    · rw [tested]
      exact testData_returns entry.text _ fun contains => (includes_ok alternative.value).mpr (contained contains)
    · intro other isEntry compares passed
      rw [compared compares, Except.ok.injEq] at passed
      rw [same other isEntry]
      exact inOrder_of_passed compares entry.text (inFull compares) passed
    · intro other isEntry compares partly
      rw [same other isEntry] at partly
      rw [compared compares, compare_field entry.text _ (inFull compares) partly]
    · intro other isEntry compares whole partly
      rw [same other isEntry] at whole
      rw [compared compares, compare_value entry.text _ (inFull compares) whole partly]

end Own

section Absent

variable {record : Record}

theorem means_absent (absent : record.get alternative.field = none) :
    alternative.Means record ↔ (∃ reason, alternative.test record.values = .ok reason) ∧
      (alternative.test record.values = .ok none ↔ alternative.cond = .missing) := by
  constructor
  · intro means
    exact ⟨means.returns, means.absent absent⟩
  · rintro ⟨returns, missing⟩
    exact ⟨returns, fun _ => missing, by simp [absent], by simp [absent], by simp [absent]⟩

theorem values_absent (absent : record.get alternative.field = none) :
    record.values alternative.field =
      (objectPrototype.lookup alternative.field).map (Inherited.value record) := by
  unfold Record.values
  rw [absent]

theorem test_function (judged : alternative.cond ≠ .comment) (values : Values)
    (call : Alternative → Except Thrown (Option JsString)) (read : values alternative.field = some (.function call)) :
    alternative.test values = call alternative := by
  rw [test, if_neg judged, read]

theorem means_inherited (absent : record.get alternative.field = none) (judged : alternative.cond ≠ .comment)
    (inherited : Inherited) (found : objectPrototype.lookup alternative.field = some inherited) :
    alternative.Means record ↔ alternative.HarmlessOn record inherited := by
  rw [means_absent absent]
  have read := values_absent absent
  rw [found, Option.map_some] at read
  cases inherited with
  | answers result =>
    rw [test_function judged _ _ read]
    simp [HarmlessOn]
  | answersUndefined =>
    rw [test_function judged _ _ read]
    simp [HarmlessOn]
  | refuses reason =>
    rw [test_function judged _ _ read]
    simp [HarmlessOn]
  | callsToString =>
    rw [test_function judged _ _ read]
    cases own : record.get (js "toString") <;> simp [HarmlessOn, own]
  | prototype =>
    have tested : alternative.test record.values =
        alternative.testData (.ok objectText) fun _ => .error notIncludes := by
      rw [test, if_neg judged, read]
      rfl
    have unread : parseInt objectText = none := by decide
    rw [tested, HarmlessOn, FailsOn]
    unfold testData
    cases cond : alternative.cond with
    | comment => exact (judged cond).elim
    | contains => simp [bind, Except.bind]
    | less => simp [bind, Except.bind, pure, Except.pure, compare_unread objectText _ unread, why_none]
    | greater => simp [bind, Except.bind, pure, Except.pure, compare_unread objectText _ unread, why_none]
    | _ => simp [bind, Except.bind, pure, Except.pure, why_none]

end Absent

end Alternative

theorem means_iff (alternative : Alternative) (record : Record) (judged : alternative.cond ≠ .comment) :
    alternative.Means record ↔ alternative.SoundOn record := by
  unfold Alternative.SoundOn
  cases own : record.get alternative.field with
  | some entry => exact Alternative.means_own own judged
  | none =>
    cases found : objectPrototype.lookup alternative.field with
    | some inherited => simpa using Alternative.means_inherited own judged inherited found
    | none =>
      have read := Alternative.values_absent own
      rw [found, Option.map_none] at read
      have tested : alternative.test record.values =
          .ok (why (alternative.cond = .missing) alternative.field (js "is missing")) := by
        rw [Alternative.test, if_neg judged, read]
      rw [Alternative.means_absent own, tested]
      simp [Alternative.why_none]

def timeAt (text : JsString) : Record :=
  { entries := [(js "time", .number text)]
    nodup := List.nodup_singleton _ }

theorem time_means :
    (Alternative.mk (js "time") .less (js "17") time_plain).Means (timeAt (js "5")) ↔
      (Alternative.mk (js "time") .less (js "17") time_plain).SoundOn (timeAt (js "5")) :=
  means_iff _ _ (by decide)

theorem number_crashes :
    ¬ ∀ (alternative : Alternative) (record : Record), alternative.cond ≠ .comment → alternative.Means record := by
  intro claim
  have means := claim (Alternative.mk (js "time") .contains (js "17") time_plain) (timeAt (js "5")) (by decide)
  obtain ⟨reason, returned⟩ := means.returns
  have crashed : (Alternative.mk (js "time") .contains (js "17") time_plain).test (timeAt (js "5")).values =
      .error notIncludes := by decide
  rw [crashed] at returned
  cases returned

end Nostream.Runes
