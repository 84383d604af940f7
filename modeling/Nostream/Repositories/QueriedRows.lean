import Nostream.Migrations.TagIndex
import Nostream.Repositories.FilterUnion
import Nostream.Repositories.QueryEquivalence

set_option autoImplicit false

namespace Nostream.QueriedRows

open Utf16 Hex Sql EventRepository FilterAgreement QueryAgreement QueryEquivalence Writes TagIndex TagStore

theorem indexesLetters_of_mirrors (store : TagStore) (mirrors : Mirrors store) (r : DBEvent)
    (member : r ∈ store.events) : IndexesLetters store.eventTags r := by
  have letters := (mirrors.exact r member).filter fun pair => isLetterName pair.1
  rw [List.filter_map, List.filter_filter] at letters
  refine (List.Perm.of_eq ?_).trans letters
  exact congrArg _ (List.filter_congr fun tag _ => Bool.and_comm ..)

theorem isStored_insertRow (event : Event) (schema : eventSchema event = true)
    (storable : (insertRow event).storable = true) : IsStored (insertRow event).stored := by
  simp only [eventSchema, idSchema, pubkeySchema, Bool.and_eq_true, beq_iff_eq] at schema
  obtain ⟨⟨⟨⟨⟨id, pubkey⟩, _⟩, _⟩, _⟩, _⟩ := schema
  have bytes (s : JsString) (lower : isLowerHex s = true) (length : s.length = 64) :
      (ofHex s).length = 32 := by
    rw [ofHex_length s lower (by rw [length]), length]
  simp only [EventRow.storable, insertRow, Bool.and_eq_true, List.all_eq_true, jsonbStorable]
    at storable
  obtain ⟨⟨⟨⟨⟨createdAt, kind⟩, _⟩, tags⟩, _⟩, _⟩ := storable
  refine ⟨bytes _ id.1 id.2, bytes _ pubkey.1 pubkey.2, kind, createdAt, ?_⟩
  intro tag inRow text inTag
  obtain ⟨source, inEvent, rfl⟩ := List.mem_map.mp inRow
  obtain ⟨raw, inSource, rfl⟩ := List.mem_map.mp inTag
  exact (tags source inEvent raw inSource).2

theorem isStored_mergeRow (existing row : DBEvent) (old : IsStored existing) (new : IsStored row) :
    IsStored (mergeRow existing row) :=
  ⟨new.eventId, old.eventPubkey, old.eventKind, new.eventCreatedAt, new.eventTags⟩

def SchemaOperation : Operation → Prop
  | .insert event => eventSchema event = true
  | .upsert event _ => eventSchema event = true
  | .softDelete .. => True
  | .remove _ => True

def StoredRows (events : EventsTable) : Prop := ∀ r ∈ events, IsStored r

theorem isStored_upsertRow (event : Event) (deduplication : Option (List JsString))
    (schema : eventSchema event = true) (storable : (upsertRow event deduplication).storable = true) :
    IsStored (upsertRow event deduplication).stored := by
  have row := isStored_insertRow event schema (insertRow_storable event deduplication storable)
  exact ⟨row.eventId, row.eventPubkey, row.eventKind, row.eventCreatedAt, row.eventTags⟩

theorem written_storedRows (events : EventsTable) (operation : Operation) (stored : StoredRows events)
    (schema : SchemaOperation operation) : StoredRows (written events operation) := by
  unfold written
  cases ran : statement operation events with
  | error reason => exact stored
  | ok outcome =>
    obtain ⟨rowCount, written⟩ := outcome
    cases operation with
    | insert event =>
      obtain ⟨storable, ⟨_, rfl⟩ | ⟨_, rfl, _⟩⟩ := insertIgnore_ok _ _ _ _ ran
      · exact stored
      · intro r member
        rcases List.mem_append.mp member with old | new
        · exact stored r old
        · rw [List.mem_singleton.mp new]
          exact isStored_insertRow event schema storable
    | upsert event deduplication =>
      obtain ⟨storable, outcome⟩ := (insertMerge_ok ..).mp ran
      have row := isStored_upsertRow event deduplication schema storable
      intro r member
      rcases merged_rows _ _ _ _ outcome r member with old | rfl | ⟨old, inStore, _, rfl⟩
      · exact stored r old
      · exact row
      · exact isStored_mergeRow old _ (stored old inStore) row
    | softDelete pubkey ids now =>
      cases ran
      intro r member
      obtain ⟨old, inStore, rfl⟩ := List.mem_map.mp member
      have same := stored old inStore
      split
      · exact ⟨same.eventId, same.eventPubkey, same.eventKind, same.eventCreatedAt, same.eventTags⟩
      · exact same
    | remove selected =>
      cases ran
      exact fun r member => stored r (List.mem_filter.mp member).1

theorem run_storedRows (operations : List Operation) (store : TagStore) (stored : StoredRows store.events)
    (schema : ∀ operation ∈ operations, SchemaOperation operation) :
    StoredRows (store.run operations).events := by
  induction operations generalizing store with
  | nil => exact stored
  | cons operation rest ih =>
    exact ih (store.apply operation)
      (written_storedRows store.events operation stored (schema operation (by simp)))
      fun other inRest => schema other (List.mem_cons_of_mem _ inRest)

def store (operations : List Operation) : TagStore := TagStore.run { events := [], eventTags := [] } operations

section Reached

variable (operations : List Operation) (schema : ∀ operation ∈ operations, SchemaOperation operation)
  (plain : PlainRun [] operations)

include schema plain

theorem reachable_rows (r : DBEvent) (member : r ∈ (store operations).events) :
    IsStored r ∧ IndexesLetters (store operations).eventTags r := by
  have start : Indexed { events := [], eventTags := [] } := ⟨List.Pairwise.nil, List.Perm.refl _⟩
  have indexed := run_indexed operations _ start plain
  have stored := run_storedRows operations { events := [], eventTags := [] } (by simp [StoredRows]) schema
  exact ⟨stored r member, indexesLetters_of_mirrors _ indexed.mirrors r member⟩

theorem reached_queries_agree (database : Database) (events : database.events = (store operations).events)
    (eventTags : database.eventTags = (store operations).eventTags) (filter : SubscriptionFilter)
    (accepted : filterSchema filter = true) (condition : AgreementCondition filter) :
    (findByFilter filter).valid = true ∧ ∀ r, r ∈ database.candidates (findByFilter filter) ↔
      r ∈ (store operations).events ∧ isEventMatchingFilter filter (toNostrEvent r) = true := by
  have fields := accepted_of_schema filter accepted
  refine ⟨(valid_iff filter fields).mpr ⟨condition.unambiguous, condition.bindable⟩, fun r => ?_⟩
  rw [FilterUnion.mem_candidates, events, eventTags]
  refine and_congr_right fun member => ?_
  obtain ⟨stored, index⟩ := reachable_rows operations schema plain r member
  exact (agrees_of_condition filter fields condition r stored _ index).2

end Reached

theorem mem_fired (events : EventsTable) (operation : Operation) (change : RowChange)
    (fires : change ∈ fired events operation) : ∃ rowCount, change ∈ changes events rowCount operation := by
  unfold fired at fires
  split at fires
  next rowCount _ _ => exact ⟨rowCount, fires⟩
  next => cases fires

theorem plainStep_insert (events : EventsTable) (event : Event)
    (plain : Plain (insertRow event).stored.eventTags) : PlainStep events (.insert event) := by
  intro change fires
  obtain ⟨rowCount, among⟩ := mem_fired events _ change fires
  rw [changes] at among
  split at among
  next => cases among
  next =>
    rw [List.mem_singleton.mp among]
    exact plain

theorem plainStep_upsert (events : EventsTable) (event : Event) (deduplication : Option (List JsString))
    (plain : Plain (upsertRow event deduplication).stored.eventTags) :
    PlainStep events (.upsert event deduplication) := by
  intro change fires
  obtain ⟨rowCount, among⟩ := mem_fired events _ change fires
  rw [changes] at among
  split at among
  next => cases among
  next =>
    unfold upsertChanges at among
    split at among
    next =>
      rw [List.mem_singleton.mp among]
      exact plain
    next =>
      obtain ⟨old, _, rfl⟩ := List.mem_map.mp among
      exact plain

def taggedOperations : List Operation := [.insert taggedNote, .upsert profile none]

def taggedDatabase : Database :=
  { events := (store taggedOperations).events
    eventTags := (store taggedOperations).eventTags
    place := fun r => r.eventKind.toNat
    placed := fun a inA b inB same => by revert a b; decide +kernel }

def aboutNostr : SubscriptionFilter := { criteria := [(js "#t", [js "nostr", js "relays"])] }

theorem tagged_note_found :
    (taggedDatabase.candidates (findByFilter aboutNostr)).map (·.eventId) = [ofHex taggedNote.id] ∧
      (findByFilter aboutNostr).valid = true ∧ ∀ r, r ∈ taggedDatabase.candidates (findByFilter aboutNostr) ↔
        r ∈ (store taggedOperations).events ∧ isEventMatchingFilter aboutNostr (toNostrEvent r) = true := by
  have condition : AgreementCondition aboutNostr := by
    refine ⟨.inr rfl, ?_, .inr ?_⟩
    · constructor <;> decide
    · show ∀ value ∈ [js "nostr", js "relays"], toWellFormed value ∈ [js "nostr", js "relays"]
      decide +kernel
  refine ⟨by decide +kernel, reached_queries_agree taggedOperations ?_ ?_ taggedDatabase rfl rfl aboutNostr
    (by decide +kernel) condition⟩
  · simp only [taggedOperations, List.forall_mem_cons]
    exact ⟨(show eventSchema taggedNote = true by decide +kernel), (show eventSchema profile = true by decide +kernel),
      by simp⟩
  · exact ⟨plainStep_insert _ _ (by decide +kernel), plainStep_upsert _ _ _ (by decide +kernel), trivial⟩

end Nostream.QueriedRows
