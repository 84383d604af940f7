import Nostream.Repositories.EventRepository
import Nostream.Repositories.FilterAgreement
import Nostream.Utils.RecordedCrypto

set_option autoImplicit false

namespace Nostream.ColumnRanges

open Utf16 Hex Sql FilterCriteria FilterAgreement EventRepository

def integers (row : EventRow) : List Int :=
  row.eventCreatedAt :: row.eventKind :: row.expiresAt.toList

def comparands (query : Query) : List Value :=
  query.wheres.flatMap fun condition => condition.comparands query.sources .int4

-- A parsed event has no metadata but what addExpirationMetadata gives it.
def parsed (event : Event) : Event := addExpirationMetadata { event with expirationTime := none }

structure FitsColumns (event : Event) (filter : SubscriptionFilter) : Prop where
  insert : ∀ n ∈ integers (insertRow (parsed event)), int4Range n = true
  upsert : ∀ deduplication, ∀ n ∈ integers (upsertRow (parsed event) deduplication), int4Range n = true
  findByFilters : ∀ n, .integer n ∈ comparands (findByFilter filter) → int4Range n = true

def int4Max : Int := 2147483647

structure BelowInt4 (event : Event) (filter : SubscriptionFilter) : Prop where
  createdAt : event.createdAt ≤ int4Max
  kind : event.kind ≤ int4Max
  expiration : ∀ expirationTime ∈ getEventExpiration event, expirationTime ≤ int4Max
  kinds : ∀ kind ∈ filter.kinds.getD [], kind ≤ int4Max
  since : ∀ time ∈ filter.since, time ≤ int4Max
  untilTime : ∀ time ∈ filter.untilTime, time ≤ int4Max

theorem int4Range_iff {n : Int} (positive : 0 ≤ n) : int4Range n = true ↔ n ≤ int4Max := by
  simp only [int4Range, int4Max, Bool.and_eq_true, decide_eq_true_eq]
  omega

section Rows

theorem mem_expiresAt (event : Event) (n : Int) :
    (insertRow (parsed event)).expiresAt = some n ↔ getEventExpiration event = some n ∧ n ≠ 0 := by
  have same : getEventExpiration { event with expirationTime := none } = getEventExpiration event := rfl
  simp only [insertRow, parsed, addExpirationMetadata, same]
  cases getEventExpiration event with
  | none => simp
  | some expirationTime =>
    by_cases zero : expirationTime = 0
    next =>
      have other (other : n = 0) : 0 = n := other.symm
      simp [zero, eq_comm]
    next =>
      simp only [zero, if_false, Option.some.injEq, iff_self_and]
      rintro rfl
      exact zero

theorem integers_upsertRow (event : Event) (deduplication : Option (List JsString)) :
    integers (upsertRow event deduplication) = integers (insertRow event) := rfl

theorem mem_integers (event : Event) (n : Int) :
    n ∈ integers (insertRow (parsed event)) ↔
      n = event.createdAt ∨ n = event.kind ∨ (getEventExpiration event = some n ∧ n ≠ 0) := by
  obtain ⟨expirationTime, shape⟩ := addExpirationMetadata_eq { event with expirationTime := none }
  have createdAt : (insertRow (parsed event)).eventCreatedAt = event.createdAt := by
    rw [insertRow, parsed, shape]
  have kind : (insertRow (parsed event)).eventKind = event.kind := by
    rw [insertRow, parsed, shape]
  rw [integers, List.mem_cons, List.mem_cons, Option.mem_toList, createdAt, kind, mem_expiresAt]

theorem getEventExpiration_positive (event : Event) (n : Int) (found : getEventExpiration event = some n) :
    0 ≤ n := by
  unfold getEventExpiration at found
  split at found
  next =>
    split at found
    next => cases found
    next =>
      split at found
      next =>
        split at found
        next positive =>
          cases found
          exact positive.1
        next => cases found
      next => cases found
  next => cases found

theorem insert_fits_iff (event : Event) (accepted : eventSchema event = true) :
    (∀ n ∈ integers (insertRow (parsed event)), int4Range n = true) ↔
      event.createdAt ≤ int4Max ∧ event.kind ≤ int4Max ∧
        ∀ expirationTime ∈ getEventExpiration event, expirationTime ≤ int4Max := by
  simp only [eventSchema, createdAtSchema, kindSchema, Bool.and_eq_true, decide_eq_true_eq] at accepted
  have createdAt := int4Range_iff accepted.1.1.1.2.1
  have kind := int4Range_iff accepted.1.1.2.1
  simp only [mem_integers, forall_eq_or_imp, createdAt, kind]
  refine and_congr_right fun _ => and_congr_right fun _ => forall_congr' fun n => ?_
  rw [Option.mem_def]
  constructor
  · intro fits found
    by_cases zero : n = 0
    · rw [zero]
      decide
    · exact (int4Range_iff (getEventExpiration_positive event n found)).mp (fits ⟨found, zero⟩)
  · rintro below ⟨found, _⟩
    exact (int4Range_iff (getEventExpiration_positive event n found)).mpr (below found)

end Rows

section Queries

variable (sources : List (Source TableName Column))

theorem comparands_orGroup (conditions : List Condition) (value : Value) :
    value ∈ (orGroup conditions).flatMap (·.comparands sources .int4) ↔
      ∃ condition ∈ conditions, value ∈ condition.comparands sources .int4 := by
  cases conditions with
  | nil => simp [orGroup]
  | cons first rest => simp [orGroup, mem_comparands_disjunction]

theorem comparands_hexCriteria (field : Column)
    (bytes : (resolve sources (.bare field)).map (·.2.2) ≠ some .int4)
    (values : Option (List JsString)) :
    (hexCriteria [field] values).flatMap (·.comparands sources .int4) = [] := by
  have column : (Operand.column (.bare field) : Operand TableName Column).type sources ≠ some .int4 := bytes
  have leading (count : Nat) :
      (Operand.leading (.bare field) count : Operand TableName Column).type sources ≠ some .int4 := by
    simp only [Operand.type]
    split <;> simp
  cases values with
  | none => rfl
  | some given =>
    cases given with
    | nil => rfl
    | cons first rest =>
      rw [List.eq_nil_iff_forall_not_mem]
      intro value member
      rw [hexCriteria_cons, comparands_orGroup] at member
      obtain ⟨condition, inside, compared⟩ := member
      obtain ⟨start, _, emitted⟩ := (mem_hexConditions _ _ _).mp inside
      cases group : lengthGroup start with
      | exact =>
        simp only [group, lengthConditions, List.map_cons, List.map_nil, List.mem_singleton] at emitted
        simp [emitted, Cond.comparands, column] at compared
      | even | odd =>
        simp only [group, lengthConditions, List.map_cons, List.map_nil, List.mem_flatMap,
          List.mem_singleton] at emitted
        obtain ⟨_, _, rfl⟩ := emitted
        simp [Cond.comparands, leading] at compared

theorem comparands_kindCriteria
    (found : resolve sources (.bare .eventKind) = some (.events, .eventKind, .int4))
    (kinds : Option (List Int)) :
    (kindCriteria kinds).flatMap (·.comparands sources .int4) = (kinds.getD []).map Value.integer := by
  match kinds with
  | none => rfl
  | some [] => rfl
  | some (first :: rest) => simp [kindCriteria, Cond.comparands, Operand.type, found]

theorem comparands_timeCriteria
    (found : resolve sources (.bare .eventCreatedAt) = some (.events, .eventCreatedAt, .int4))
    (operator : Operator) (time : Option Int) :
    (timeCriteria operator time).flatMap (·.comparands sources .int4) = time.toList.map Value.integer := by
  cases time <;> simp [timeCriteria, Cond.comparands, Operand.type, found]

theorem comparands_tagCriteria
    (name : (resolve sources (.qualified .eventTags .tagName)).map (·.2.2) ≠ some .int4)
    (text : (resolve sources (.qualified .eventTags .tagValue)).map (·.2.2) ≠ some .int4)
    (c : JsString × List JsString) : (tagCriteria c).flatMap (·.comparands sources .int4) = [] := by
  obtain ⟨key, values⟩ := c
  cases values with
  | nil => rfl
  | cons first rest =>
    rw [List.eq_nil_iff_forall_not_mem]
    intro value member
    rw [tagCriteria, comparands_orGroup] at member
    · obtain ⟨condition, inside, compared⟩ := member
      obtain ⟨criterion, _, rfl⟩ := List.mem_map.mp inside
      simp [tagCondition, Cond.comparands, Operand.type, name, text] at compared
    · simp

theorem sources_findByFilter (filter : SubscriptionFilter) :
    (findByFilter filter).sources = [eventsSource] ∨
      (findByFilter filter).sources = [eventsSource, eventTagsSource] := by
  unfold Query.sources
  split <;> simp

theorem comparands_findByFilter (filter : SubscriptionFilter) :
    comparands (findByFilter filter) =
      (filter.kinds.getD [] ++ filter.since.toList ++ filter.untilTime.toList).map Value.integer := by
  have kind := resolve_event filter .eventKind (by simp)
  have createdAt := resolve_event filter .eventCreatedAt (by simp)
  have bytes (field : Column) (isBytes : field = .eventPubkey ∨ field = .eventId) :
      (resolve (findByFilter filter).sources (.bare field)).map (·.2.2) ≠ some .int4 := by
    rcases sources_findByFilter filter with sources | sources <;> rw [sources] <;>
      rcases isBytes with rfl | rfl <;> decide
  have text (field : Column) (isText : field = .tagName ∨ field = .tagValue) :
      (resolve (findByFilter filter).sources (.qualified .eventTags field)).map (·.2.2) ≠ some .int4 := by
    rcases sources_findByFilter filter with sources | sources <;> rw [sources] <;>
      rcases isText with rfl | rfl <;> decide
  have tags : ((tagQueries filter).flatMap tagCriteria).flatMap
      (·.comparands (findByFilter filter).sources .int4) = [] := by
    rw [List.flatMap_assoc, List.flatMap_eq_nil_iff]
    exact fun c _ => comparands_tagCriteria _ (text .tagName (by simp)) (text .tagValue (by simp)) c
  have wheres : (findByFilter filter).wheres =
      hexCriteria [.eventPubkey] filter.authors ++ hexCriteria [.eventId] filter.ids ++
        kindCriteria filter.kinds ++ timeCriteria .atLeast filter.since ++
        timeCriteria .atMost filter.untilTime ++ (tagQueries filter).flatMap tagCriteria := rfl
  rw [comparands, wheres]
  simp only [List.flatMap_append, tags, comparands_hexCriteria _ _ (bytes .eventPubkey (by simp)),
    comparands_hexCriteria _ _ (bytes .eventId (by simp)), comparands_kindCriteria _ kind,
    comparands_timeCriteria _ createdAt, List.map_append, List.append_nil, List.nil_append]

end Queries

theorem query_fits_iff (filter : SubscriptionFilter) (accepted : filterSchema filter = true) :
    (∀ n, .integer n ∈ comparands (findByFilter filter) → int4Range n = true) ↔
      (∀ kind ∈ filter.kinds.getD [], kind ≤ int4Max) ∧ (∀ time ∈ filter.since, time ≤ int4Max) ∧
        ∀ time ∈ filter.untilTime, time ≤ int4Max := by
  simp only [filterSchema, Bool.and_eq_true, List.all_eq_true, Option.all_eq_true] at accepted
  obtain ⟨⟨⟨⟨⟨_, kinds⟩, since⟩, untilTime⟩, _⟩, _⟩ := accepted
  have positive : ∀ n ∈ filter.kinds.getD [] ++ filter.since.toList ++ filter.untilTime.toList, 0 ≤ n := by
    intro n member
    simp only [List.mem_append, Option.mem_toList] at member
    simp only [createdAtSchema, kindSchema, Bool.and_eq_true, decide_eq_true_eq] at kinds since untilTime
    rcases member with (member | member) | member
    · exact (kinds n member).1
    · exact (since n member).1
    · exact (untilTime n member).1
  have each : (∀ n, .integer n ∈ comparands (findByFilter filter) → int4Range n = true) ↔
      ∀ n ∈ filter.kinds.getD [] ++ filter.since.toList ++ filter.untilTime.toList, n ≤ int4Max := by
    simp only [comparands_findByFilter, List.mem_map, Value.integer.injEq, exists_eq_right]
    exact forall₂_congr fun n member => int4Range_iff (positive n member)
  rw [each]
  simp only [List.mem_append, Option.mem_toList, or_imp, forall_and, and_assoc, Option.mem_def]

theorem fits_iff (event : Event) (filter : SubscriptionFilter) (acceptedEvent : eventSchema event = true)
    (acceptedFilter : filterSchema filter = true) : FitsColumns event filter ↔ BelowInt4 event filter := by
  have insert := insert_fits_iff event acceptedEvent
  have query := query_fits_iff filter acceptedFilter
  constructor
  · rintro ⟨inserted, _, queried⟩
    obtain ⟨createdAt, kind, expiration⟩ := insert.mp inserted
    obtain ⟨kinds, since, untilTime⟩ := query.mp queried
    exact ⟨createdAt, kind, expiration, kinds, since, untilTime⟩
  · rintro ⟨createdAt, kind, expiration, kinds, since, untilTime⟩
    have inserted := insert.mpr ⟨createdAt, kind, expiration⟩
    refine ⟨inserted, fun deduplication => ?_, query.mpr ⟨kinds, since, untilTime⟩⟩
    rw [integers_upsertRow]
    exact inserted

theorem note_fits : FitsColumns note { kinds := some [1], since := some 1700000000 } :=
  (fits_iff note { kinds := some [1], since := some 1700000000 } (by decide +kernel) (by decide)).mpr
    ⟨by decide, by decide, by decide, by decide, by decide, by decide⟩

theorem outsizedNote_does_not_fit :
    ¬ ∀ (event : Event) (filter : SubscriptionFilter), eventSchema event = true →
      filterSchema filter = true → FitsColumns event filter := by
  intro claim
  have fits := (claim outsizedNote {} (by decide +kernel) (by decide)).insert 2147483648
    ((mem_integers outsizedNote _).mpr (.inr (.inl rfl)))
  exact absurd fits (by decide)

end Nostream.ColumnRanges
