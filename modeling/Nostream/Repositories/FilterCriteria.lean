import Nostream.Repositories.FindByFilters
import Nostream.Schemas
import Nostream.Shared.HexPrefix

set_option autoImplicit false

namespace Nostream.FilterCriteria

open Utf16 Hex Sql

theorem orGroup_holds (sources : List (Source TableName Column)) (row : TableName → Column → Value)
    (conditions : List Condition) (nonempty : conditions ≠ []) :
    (orGroup conditions).all (·.holds sources row) = true ↔
      ∃ condition ∈ conditions, condition.holds sources row = true := by
  cases conditions with
  | nil => exact (nonempty rfl).elim
  | cons first rest => simp [orGroup, holds_disjunction]

theorem orGroup_valid (sources : List (Source TableName Column)) (conditions : List Condition) :
    (orGroup conditions).all (·.valid sources) = true ↔
      ∀ condition ∈ conditions, condition.valid sources = true := by
  cases conditions with
  | nil => simp [orGroup]
  | cons first rest => simp [orGroup, valid_disjunction]

theorem mem_groupByLengthSpec (values : List JsString) (group : LengthGroup)
    (members : List JsString) :
    (group, members) ∈ groupByLengthSpec values ↔
      (∃ value ∈ values, lengthGroup value = group) ∧
        members = values.filter (lengthGroup · = group) := by
  simp only [groupByLengthSpec, List.mem_map, List.mem_eraseDups, Prod.mk.injEq]
  constructor
  · rintro ⟨_, ⟨value, member, rfl⟩, rfl, rfl⟩
    exact ⟨⟨value, member, rfl⟩, rfl⟩
  · rintro ⟨⟨value, member, rfl⟩, rfl⟩
    exact ⟨_, ⟨value, member, rfl⟩, rfl, rfl⟩

def hexConditions (field : Column) (values : List JsString) : List Condition :=
  (groupByLengthSpec values).flatMap (lengthConditions [field])

theorem hexCriteria_cons (field : Column) (first : JsString) (rest : List JsString) :
    hexCriteria [field] (some (first :: rest)) = orGroup (hexConditions field (first :: rest)) := rfl

theorem mem_hexConditions (field : Column) (values : List JsString) (condition : Condition) :
    condition ∈ hexConditions field values ↔
      ∃ value ∈ values,
        condition ∈ lengthConditions [field]
          (lengthGroup value, values.filter (lengthGroup · = lengthGroup value)) := by
  simp only [hexConditions, List.mem_flatMap, Prod.exists, mem_groupByLengthSpec]
  constructor
  · rintro ⟨_, _, ⟨⟨value, member, rfl⟩, rfl⟩, found⟩
    exact ⟨value, member, found⟩
  · rintro ⟨value, member, found⟩
    exact ⟨_, _, ⟨⟨value, member, rfl⟩, rfl⟩, found⟩

theorem hexConditions_ne_nil (field : Column) (first : JsString) (rest : List JsString) :
    hexConditions field (first :: rest) ≠ [] := by
  have member : (lengthGroup first, (first :: rest).filter (lengthGroup · = lengthGroup first)) ∈
      groupByLengthSpec (first :: rest) := (mem_groupByLengthSpec _ _ _).mpr ⟨⟨first, by simp⟩, rfl⟩
  intro none
  have empty := List.flatMap_eq_nil_iff.mp none _ member
  cases group : lengthGroup first <;> simp [lengthConditions, group] at empty

section HexColumn

variable (sources : List (Source TableName Column)) (row : TableName → Column → Value)
  (field : Column) (bytes : Bytes)

theorem leading_eval (count : Nat)
    (found : resolve sources (.bare field) = some (.events, field, .bytea))
    (value : row .events field = .bytea bytes) :
    (Operand.leading (.bare field) count).eval sources row = .bytea (bytes.take count) := by
  simp [Operand.eval, found, value]

theorem column_eval (type : ColumnType) (found : resolve sources (.bare field) = some (.events, field, type)) :
    (Operand.column (.bare field)).eval sources row = row .events field := by
  simp [Operand.eval, found]

theorem test_atLeast (a b : Bytes) :
    test (.bytea a) .atLeast (.bytea b) = some true ↔ compareBytes a b ≠ .lt := by
  simp [test, Value.compare, Operator.accepts]

theorem test_atMost (a b : Bytes) :
    test (.bytea a) .atMost (.bytea b) = some true ↔ compareBytes a b ≠ .gt := by
  simp [test, Value.compare, Operator.accepts]

theorem lengthConditions_hold (group : LengthGroup) (values : List JsString)
    (grouped : ∀ value ∈ values, lengthGroup value = group)
    (lower : ∀ value ∈ values, isLowerHex value = true) (size : bytes.length = 32)
    (found : resolve sources (.bare field) = some (.events, field, .bytea))
    (value : row .events field = .bytea bytes) :
    (∃ condition ∈ lengthConditions [field] (group, values), condition.holds sources row = true) ↔
      ∃ start ∈ values, start <+: toHex bytes := by
  have column := column_eval sources row field .bytea found
  cases group with
  | exact =>
    have sameIff : ∀ start ∈ values, (start <+: toHex bytes ↔ bytes = ofHex start) := by
      intro start member
      have full : start.length = 64 := by
        by_contra other
        have group := grouped start member
        simp only [lengthGroup, other, if_false] at group
        split_ifs at group
      exact HexPrefix.exact_correct start bytes (lower start member) (by omega) (by omega)
    simp only [lengthConditions, List.map_cons, List.map_nil, List.mem_singleton, exists_eq_left,
      holds_oneOf, List.mem_map, exists_exists_and_eq_and, column, value, test_bytea_equal,
      compareBytes_eq]
    exact exists_congr fun start => and_congr_right fun member => (sameIff start member).symm
  | even =>
    have sameIff : ∀ start ∈ values,
        (start <+: toHex bytes ↔ bytes.take (start.length / 2) = ofHex start) := by
      intro start member
      have even : start.length % 2 = 0 := by
        by_contra other
        have group := grouped start member
        simp only [lengthGroup, other, if_false] at group
        split_ifs at group
      exact HexPrefix.even_correct start bytes (lower start member) even
    simp only [lengthConditions, List.map_cons, List.map_nil, List.mem_flatMap, List.mem_singleton]
    constructor
    · rintro ⟨_, ⟨start, member, rfl⟩, holds⟩
      rw [holds_compare, leading_eval sources row field bytes _ found value, test_bytea_equal,
        compareBytes_eq] at holds
      exact ⟨start, member, (sameIff start member).mpr holds⟩
    · rintro ⟨start, member, isStart⟩
      refine ⟨_, ⟨start, member, rfl⟩, ?_⟩
      rw [holds_compare, leading_eval sources row field bytes _ found value, test_bytea_equal,
        compareBytes_eq]
      exact (sameIff start member).mp isStart
  | odd =>
    have sameIff : ∀ start ∈ values, (start <+: toHex bytes ↔
        compareBytes (bytes.take (start.length / 2 + 1)) (ofHex (start ++ js "0")) ≠ .lt ∧
          compareBytes (bytes.take (start.length / 2 + 1)) (ofHex (start ++ js "f")) ≠ .gt) := by
      intro start member
      have odd : start.length % 2 = 1 := by
        by_contra other
        have group := grouped start member
        simp only [lengthGroup, show start.length % 2 = 0 by omega, if_true] at group
        split_ifs at group
      exact HexPrefix.odd_correct start bytes (lower start member) odd
    simp only [lengthConditions, List.map_cons, List.map_nil, List.mem_flatMap, List.mem_singleton]
    constructor
    · rintro ⟨_, ⟨start, member, rfl⟩, holds⟩
      rw [holds_between, leading_eval sources row field bytes _ found value, test_atLeast,
        test_atMost] at holds
      exact ⟨start, member, (sameIff start member).mpr holds⟩
    · rintro ⟨start, member, isStart⟩
      refine ⟨_, ⟨start, member, rfl⟩, ?_⟩
      rw [holds_between, leading_eval sources row field bytes _ found value, test_atLeast,
        test_atMost]
      exact (sameIff start member).mp isStart

theorem hexConditions_hold (values : List JsString)
    (lower : ∀ value ∈ values, isLowerHex value = true) (size : bytes.length = 32)
    (found : resolve sources (.bare field) = some (.events, field, .bytea))
    (value : row .events field = .bytea bytes) :
    (∃ condition ∈ hexConditions field values, condition.holds sources row = true) ↔
      ∃ start ∈ values, start <+: toHex bytes := by
  have perGroup (group : LengthGroup) := lengthConditions_hold sources row field bytes group
    (values.filter (lengthGroup · = group)) (by simp)
    (fun start member => lower start (List.mem_filter.mp member).1) size found value
  simp only [mem_hexConditions]
  constructor
  · rintro ⟨condition, ⟨start, member, emitted⟩, holds⟩
    obtain ⟨other, inGroup, isStart⟩ := (perGroup (lengthGroup start)).mp ⟨condition, emitted, holds⟩
    exact ⟨other, (List.mem_filter.mp inGroup).1, isStart⟩
  · rintro ⟨start, member, isStart⟩
    obtain ⟨condition, emitted, holds⟩ := (perGroup (lengthGroup start)).mpr
      ⟨start, List.mem_filter.mpr ⟨member, by simp⟩, isStart⟩
    exact ⟨condition, ⟨start, member, emitted⟩, holds⟩

theorem hexCriteria_hold (values : Option (List JsString))
    (lower : ∀ value ∈ values.getD [], isLowerHex value = true) (size : bytes.length = 32)
    (found : resolve sources (.bare field) = some (.events, field, .bytea))
    (value : row .events field = .bytea bytes) :
    (hexCriteria [field] values).all (·.holds sources row) = true ↔
      (values.any fun starts => !starts.any (startsWith (toHex bytes))) = false := by
  match values with
  | none => simp [hexCriteria]
  | some [] => simp [hexCriteria]
  | some (first :: rest) =>
    have matched := hexConditions_hold sources row field bytes (first :: rest) lower size found value
    have nonempty := hexConditions_ne_nil field first rest
    rw [hexCriteria_cons, orGroup_holds _ _ _ nonempty, matched]
    simp only [Option.any_some, Bool.not_eq_false', List.any_eq_true, startsWith_iff]

end HexColumn

section BaseCriteria

variable (sources : List (Source TableName Column)) (row : TableName → Column → Value)

theorem kindCriteria_hold (kinds : Option (List Int)) (kind : Int)
    (found : resolve sources (.bare .eventKind) = some (.events, .eventKind, .int4))
    (value : row .events .eventKind = .integer kind) :
    (kindCriteria kinds).all (·.holds sources row) = true ↔
      (kinds.any fun kinds => !kinds.contains kind) = false := by
  have column := column_eval sources row .eventKind .int4 found
  cases kinds with
  | none => simp [kindCriteria]
  | some given =>
    cases given with
    | nil => simp [kindCriteria]
    | cons first rest =>
      have equal (n : Int) : test (.integer kind) .equal (.integer n) = some true ↔ kind = n := by
        simp [test, Value.compare, Operator.accepts]
      simp only [kindCriteria, List.all_cons, List.all_nil, Bool.and_true, holds_oneOf, List.mem_map,
        exists_exists_and_eq_and, column, value, equal, Option.any_some, Bool.not_eq_false',
        List.contains_iff_mem]
      constructor
      · rintro ⟨n, member, same⟩
        exact same ▸ member
      · intro member
        exact ⟨kind, member, rfl⟩

theorem since_hold (since : Option Int) (createdAt : Int)
    (found : resolve sources (.bare .eventCreatedAt) = some (.events, .eventCreatedAt, .int4))
    (value : row .events .eventCreatedAt = .integer createdAt) :
    (timeCriteria .atLeast since).all (·.holds sources row) = true ↔
      (since.any fun since => decide (createdAt < since)) = false := by
  have column := column_eval sources row .eventCreatedAt .int4 found
  cases since with
  | none => simp [timeCriteria]
  | some time => simp [timeCriteria, column, value, test, Value.compare, Operator.accepts,
      Int.compare_eq_lt]

theorem until_hold (untilTime : Option Int) (createdAt : Int)
    (found : resolve sources (.bare .eventCreatedAt) = some (.events, .eventCreatedAt, .int4))
    (value : row .events .eventCreatedAt = .integer createdAt) :
    (timeCriteria .atMost untilTime).all (·.holds sources row) = true ↔
      (untilTime.any fun untilTime => decide (createdAt > untilTime)) = false := by
  have column := column_eval sources row .eventCreatedAt .int4 found
  cases untilTime with
  | none => simp [timeCriteria]
  | some time => simp [timeCriteria, column, value, test, Value.compare, Operator.accepts,
      Int.compare_eq_gt]

end BaseCriteria

section PrefixSearch

theorem wheres_authors (starts : List JsString) :
    (findByFilter { authors := some starts }).wheres = hexCriteria [.eventPubkey] (some starts) := by
  simp [findByFilter, hexCriteria, kindCriteria, timeCriteria, tagQueries]

theorem wheres_ids (starts : List JsString) :
    (findByFilter { ids := some starts }).wheres = hexCriteria [.eventId] (some starts) := by
  simp [findByFilter, hexCriteria, kindCriteria, timeCriteria, tagQueries]

theorem prefix_search (starts : List JsString) (lower : ∀ start ∈ starts, isLowerHex start = true)
    (bytes : Bytes) (size : bytes.length = 32) (row : DBEvent) :
    (row.eventPubkey = bytes → ((findByFilter { authors := some starts }).accepts row none = true ↔
      ∃ start ∈ starts, start <+: toHex bytes)) ∧
    (row.eventId = bytes → ((findByFilter { ids := some starts }).accepts row none = true ↔
      ∃ start ∈ starts, start <+: toHex bytes)) := by
  have searched (field : Column) (found : resolve [eventsSource] (.bare field) = some (.events, field, .bytea))
      (value : joinedRow row none .events field = .bytea bytes) :
      (hexCriteria [field] (some starts)).all (·.holds [eventsSource] (joinedRow row none)) = true ↔
        ∃ start ∈ starts, start <+: toHex bytes := by
    rw [hexCriteria_hold [eventsSource] (joinedRow row none) field bytes (some starts) lower size found value]
    simp only [Option.any_some, Bool.not_eq_false', List.any_eq_true, startsWith_iff]
  constructor
  · rintro rfl
    rw [Query.accepts, wheres_authors]
    exact searched .eventPubkey (by decide) rfl
  · rintro rfl
    rw [Query.accepts, wheres_ids]
    exact searched .eventId (by decide) rfl

def searchedRow : DBEvent :=
  { eventId := List.replicate 32 0xcd, eventPubkey := List.replicate 32 0xab, eventCreatedAt := 1700000000,
    eventKind := 1, eventTags := [], eventContent := [], eventSignature := [], eventDeduplication := none,
    remoteAddress := none, expiresAt := none, deletedAt := none }

def mixedStarts : List JsString := [toHex (List.replicate 32 0xef), js "cdcd", js "aba"]

theorem mixed_starts_searched :
    (findByFilter { authors := some mixedStarts }).accepts searchedRow none = true ∧
      (findByFilter { ids := some mixedStarts }).accepts searchedRow none = true := by
  have lower : ∀ start ∈ mixedStarts, isLowerHex start = true := by decide
  have byPubkey := (prefix_search mixedStarts lower searchedRow.eventPubkey rfl searchedRow).1 rfl
  have byId := (prefix_search mixedStarts lower searchedRow.eventId rfl searchedRow).2 rfl
  exact ⟨byPubkey.mpr ⟨js "aba", by decide, by decide⟩, byId.mpr ⟨js "cdcd", by decide, by decide⟩⟩

end PrefixSearch

end Nostream.FilterCriteria
