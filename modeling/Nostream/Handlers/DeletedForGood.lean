import Nostream.Handlers.AnnouncedOnce
import Nostream.Handlers.SubscribeMessageHandler
import Nostream.Migrations.TagIndex
import Nostream.Repositories.FilterUnion

set_option autoImplicit false

namespace Nostream.DeletedForGood

open Utf16 Hex Sql Effects EventRepository Writes MessageStages SubmissionStages SubmissionPool
open SettledEvents AnnouncedOnce SubscribeMessageHandler TagIndex Slots
open Runs hiding execute

structure IsRowOf (event : Event) (r : DBEvent) : Prop where
  durable : isEphemeralEvent event = false
  eventPubkey : r.eventPubkey = ofHex event.pubkey
  eventKind : r.eventKind = event.kind
  eventCreatedAt : r.eventCreatedAt = event.createdAt
  eventDeduplication : isReplacing event = true →
    r.eventDeduplication = (bound event).stored.eventDeduplication

def OwnRows (event : Event) (table : EventsTable) : Prop :=
  ∀ r ∈ table, r.eventId = ofHex event.id → IsRowOf event r

def Submittable (event received : Event) : Prop :=
  eventSchema received = true ∧ (received.id = event.id → SameSignedFields received event)

theorem ofHex_schema (a b : Event) (schemaA : eventSchema a = true) (schemaB : eventSchema b = true)
    (same : ofHex a.id = ofHex b.id) : a.id = b.id := by
  simp only [eventSchema, idSchema, Bool.and_eq_true, beq_iff_eq] at schemaA schemaB
  obtain ⟨⟨⟨⟨⟨⟨lowerA, lengthA⟩, _⟩, _⟩, _⟩, _⟩, _⟩ := schemaA
  obtain ⟨⟨⟨⟨⟨⟨lowerB, lengthB⟩, _⟩, _⟩, _⟩, _⟩, _⟩ := schemaB
  exact ofHex_injective lowerA lowerB (by rw [lengthA]) (by rw [lengthB]) same

theorem sameKey_isRowOf (event : Event) (replacing : isReplacing event = true) (r : DBEvent)
    (isRow : IsRowOf event r) : sameKey (bound event) r = true := by
  have deduplication := isRow.eventDeduplication replacing
  refine (sameIndexKey_iff _ _).mpr ⟨?_, isRow.eventPubkey, isRow.eventKind, ?_, deduplication⟩
  · rw [isRow.eventKind, ← replacing_kind, replacing]
  · rw [deduplication]
    rfl

theorem settled_of_row (event : Event) (table : EventsTable) (constrained : Constrained table)
    (r : DBEvent) (member : r ∈ table) (id : r.eventId = ofHex event.id) (isRow : IsRowOf event r) :
    Settled event table := by
  unfold Settled
  cases replacing : isReplacing event with
  | true =>
    have own := sameKey_isRowOf event replacing r isRow
    rw [if_pos rfl]
    cases found : table.find? (sameKey (bound event)) with
    | none => exact absurd own (by simpa using List.find?_eq_none.mp found r member)
    | some existing =>
      have single := ((filter_sameKey table constrained (bound event) existing found).2 r member).mp own
      have same := eq_of_eventId table constrained existing r (List.mem_of_find?_eq_some found) member single
      exact ⟨existing, rfl, by rw [← same, isRow.eventCreatedAt]⟩
  | false =>
    rw [if_neg (by simp)]
    refine ⟨r, member, id, ?_⟩
    rw [isRow.eventKind, ← replacing_kind, replacing]

theorem puts_constrained (event : Event) (before after : EventsTable) (puts : Puts event before after)
    (constrained : Constrained before) : Constrained after := by
  have other (r : DBEvent) (member : r ∈ before) (unknown : hasId before (ofHex event.id) = false) :
      r.eventId ≠ ofHex event.id := fun same => by
    rw [(hasId_iff ..).mpr ⟨r, member, same⟩] at unknown
    cases unknown
  cases puts with
  | inserted creating unknown =>
    exact constrained_append _ _ constrained fun r member =>
      ⟨other r member unknown, sameIndexKey_none r _ rfl⟩
  | appended replacing fresh unknown =>
    refine constrained_append _ _ constrained fun r member => ⟨other r member unknown, ?_⟩
    simpa [sameKey] using List.find?_eq_none.mp fresh r member
  | replaced replacing existing found older noOther =>
    exact merged_constrained (bound event) before constrained noOther

theorem marked_constrained (now : Int) (event : Event) (ids : List JsString) (table : EventsTable)
    (constrained : Constrained table) : Constrained (marked now event ids table) := by
  refine List.pairwise_map.mpr (constrained.imp ?_)
  rintro a b apart
  split <;> split <;> exact apart

theorem puts_rows (event : Event) (durable : isEphemeralEvent event = false)
    (before after : EventsTable) (puts : Puts event before after) (r : DBEvent) (member : r ∈ after) :
    r ∈ before ∨ (r.eventId = ofHex event.id ∧ IsRowOf event r) := by
  cases puts with
  | inserted creating unknown =>
    refine (List.mem_append.mp member).imp id fun new => ?_
    rw [List.mem_singleton.mp new]
    exact ⟨rfl, durable, rfl, rfl, rfl, by simp [creating]⟩
  | appended replacing fresh unknown =>
    refine (List.mem_append.mp member).imp id fun new => ?_
    rw [List.mem_singleton.mp new]
    exact ⟨rfl, durable, rfl, rfl, rfl, fun _ => rfl⟩
  | replaced replacing existing found older noOther =>
    obtain ⟨old, inTable, rfl⟩ := List.mem_map.mp member
    by_cases same : sameKey (bound event) old = true
    · obtain ⟨_, pubkey, kind, _, deduplication⟩ := (sameIndexKey_iff _ _).mp same
      rw [if_pos same]
      exact .inr ⟨rfl, durable, pubkey, kind, rfl, fun _ => deduplication⟩
    · rw [if_neg same]
      exact .inl inTable

theorem isRowOf_same (a b : Event) (same : SameSignedFields a b) (r : DBEvent) (isRow : IsRowOf a r) :
    IsRowOf b r := by
  obtain ⟨durable, eventPubkey, eventKind, eventCreatedAt, eventDeduplication⟩ := isRow
  obtain ⟨pubkey, createdAt, kind, tags, content⟩ := same
  cases a
  cases b
  subst pubkey createdAt kind tags content
  exact ⟨durable, eventPubkey, eventKind, eventCreatedAt, eventDeduplication⟩

structure Origin (event : Event) (pool : Pool) : Prop where
  own : ∀ submission ∈ pool.submissions, OwnBroadcasts submission
  constrained : Constrained pool.table
  rows : OwnRows event pool.table
  submittable : ∀ submission ∈ pool.submissions,
    submission.stage = .writing ∨ submission.stage = .deleting → Submittable event submission.event
  durable : ∀ submission ∈ pool.submissions,
    submission.stage = .writing ∨ submission.stage = .deleting →
      isEphemeralEvent submission.event = false

-- Nothing is asked of the events that are turned away.
def Submitted (event : Event) (_ : Pool) : Action → Prop
  | .submit handler received => passes handler received = true → Submittable event received
  | .advance .. => True

theorem prepared_submittable (event : Event) (handler : EventMessageHandler) (received : Event)
    (ok : Submittable event received) : Submittable event (prepared handler received) := by
  obtain ⟨_, shape⟩ := prepared_eq handler received
  refine ⟨?_, fun id => prepared_same handler received event (ok.2 ?_)⟩
  · rw [shape]
    exact ok.1
  · rw [← id, prepared_id]

theorem start_durable (handler : EventMessageHandler) (received : Event)
    (stage : (start handler received).stage = .writing ∨ (start handler received).stage = .deleting) :
    isEphemeralEvent (start handler received).event = false := by
  rw [Bool.eq_false_iff, Ne, (eventStrategyFactory_correct _).ephemeral]
  intro ephemeral
  unfold start at stage ephemeral
  dsimp only at stage ephemeral
  split at stage
  · simp [strategyStage, ephemeral] at stage
  · simp at stage

theorem advance_effect (fates : Fates) (submission advanced : Submission) (before after : EventsTable)
    (moved : Advance fates submission before advanced after) :
    after = before ∨ (∃ ids, after = marked fates.now submission.event ids before) ∨
      (submission.stage = .writing ∧ Puts submission.event before after) := by
  have deletes (ids : List JsString) :
      (((eventRepository fates).deleteByPubkeyAndIds submission.event.pubkey ids).run before).2 =
          before ∨
        (((eventRepository fates).deleteByPubkeyAndIds submission.event.pubkey ids).run before).2 =
          marked fates.now submission.event ids before := by
    have table := Writes.delete_table fates.update fates.now submission.event ids before
    split at table
    · exact .inr table
    · exact .inl table
  cases moved with
  | failed => exact (deletes _).imp id fun same => .inl ⟨_, same⟩
  | deleted => exact (deletes _).imp id fun same => .inl ⟨_, same⟩
  | written outcome after stage ran =>
    have puts := write_puts fates submission.event before
    rw [ran] at puts
    exact puts.imp id fun puts => .inr ⟨stage, puts⟩

theorem advance_constrained (fates : Fates) (submission advanced : Submission)
    (before after : EventsTable) (moved : Advance fates submission before advanced after)
    (constrained : Constrained before) : Constrained after := by
  rcases advance_effect fates submission advanced before after moved with rfl | ⟨ids, rfl⟩ | ⟨_, puts⟩
  · exact constrained
  · exact marked_constrained fates.now submission.event ids before constrained
  · exact puts_constrained submission.event before after puts constrained

theorem advance_durable (fates : Fates) (submission advanced : Submission) (before after : EventsTable)
    (moved : Advance fates submission before advanced after)
    (durable : submission.stage = .writing ∨ submission.stage = .deleting →
      isEphemeralEvent submission.event = false)
    (stage : advanced.stage = .writing ∨ advanced.stage = .deleting) :
    isEphemeralEvent advanced.event = false := by
  cases moved with
  | failed reason was => exact durable (.inr was)
  | deleted was => exact durable (.inr was)
  | written outcome after was => exact durable (.inl was)

theorem advance_rows (event : Event) (schema : eventSchema event = true) (fates : Fates)
    (submission advanced : Submission) (before after : EventsTable)
    (moved : Advance fates submission before advanced after)
    (submittable : Submittable event submission.event)
    (durable : submission.stage = .writing ∨ submission.stage = .deleting →
      isEphemeralEvent submission.event = false) (rows : OwnRows event before) : OwnRows event after := by
  intro r member id
  rcases advance_effect fates submission advanced before after moved with
    rfl | ⟨ids, rfl⟩ | ⟨stage, puts⟩
  · exact rows r member id
  · obtain ⟨old, inTable, rfl⟩ := List.mem_map.mp member
    split at id
    next deletable =>
      rw [if_pos deletable]
      have isRow := rows old inTable id
      exact ⟨isRow.durable, isRow.eventPubkey, isRow.eventKind, isRow.eventCreatedAt,
        isRow.eventDeduplication⟩
    next kept =>
      rw [if_neg kept]
      exact rows old inTable id
  · rcases puts_rows submission.event (durable (.inl stage)) before after puts r member with
      old | ⟨sameId, isRow⟩
    · exact rows r old id
    · have same := ofHex_schema submission.event event submittable.1 schema (sameId.symm.trans id)
      exact isRowOf_same submission.event event (submittable.2 same) r isRow

theorem origin_preserved (event : Event) (schema : eventSchema event = true) :
    Preserves step (Submitted event) (Origin event) := by
  intro pool action reached inv ok taken
  rcases step_cases pool reached action taken with
    ⟨handler, received, rfl, rfl⟩ | ⟨i, fates, submission, advanced, table, rfl, found, ran, rfl⟩
  · refine ⟨?_, inv.constrained, inv.rows, ?_, ?_⟩
    · intro submission member
      rcases List.mem_append.mp member with old | new
      · exact inv.own submission old
      · rw [List.mem_singleton.mp new]
        exact start_own handler received
    · intro submission member stage
      rcases List.mem_append.mp member with old | new
      · exact inv.submittable submission old stage
      · rw [List.mem_singleton.mp new] at stage ⊢
        exact prepared_submittable event handler received (ok (start_passes handler received stage))
    · intro submission member stage
      rcases List.mem_append.mp member with old | new
      · exact inv.durable submission old stage
      · rw [List.mem_singleton.mp new] at stage ⊢
        exact start_durable handler received stage
  · have member := List.mem_of_getElem? found
    have moved := advance_cases fates submission advanced pool.table table ran
    have sameEvent := advance_event fates submission advanced pool.table table moved
    have submittable :=
      inv.submittable submission member (advance_active fates submission advanced pool.table table moved)
    refine ⟨?_, ?_, ?_, ?_, ?_⟩
    · intro other inPool
      rcases mem_set_cases inPool with rfl | old
      · exact advance_own fates submission _ pool.table table moved
      · exact inv.own other old
    · exact advance_constrained fates submission advanced pool.table table moved inv.constrained
    · exact advance_rows event schema fates submission advanced pool.table table moved
        submittable (inv.durable submission member) inv.rows
    · intro other inPool stage
      rcases mem_set_cases inPool with rfl | old
      · rw [sameEvent]
        exact submittable
      · exact inv.submittable other old stage
    · intro other inPool
      rcases mem_set_cases inPool with rfl | old
      · exact advance_durable fates submission _ pool.table table moved (inv.durable submission member)
      · exact inv.durable other old

def Hidden (event : Event) (table : EventsTable) : Prop :=
  ∀ r ∈ table, r.eventId = ofHex event.id → r.deletedAt.isNone = false

structure Buried (event : Event) (deleted pool : Pool) : Prop where
  origin : Origin event pool
  settled : Settled event pool.table
  hidden : Hidden event pool.table
  silent : ∀ (i : Nat) (submission : Submission), pool.submissions[i]? = some submission →
    submission.event.id = event.id → announces submission = true → deleted.submissions[i]? = some submission

theorem advance_hidden (event : Event) (schema : eventSchema event = true) (fates : Fates)
    (submission advanced : Submission) (before after : EventsTable)
    (moved : Advance fates submission before advanced after)
    (submittable : Submittable event submission.event) (settled : Settled event before)
    (hidden : Hidden event before) : Hidden event after := by
  intro r member id
  rcases advance_effect fates submission advanced before after moved with rfl | ⟨ids, rfl⟩ | ⟨_, puts⟩
  · exact hidden r member id
  · obtain ⟨old, inTable, rfl⟩ := List.mem_map.mp member
    split
    · rfl
    next kept =>
      rw [if_neg kept] at id
      exact hidden old inTable id
  · have unsettled := (puts_settles submission.event before after puts).1
    have different : ofHex submission.event.id ≠ ofHex event.id := by
      intro sameId
      have same := ofHex_schema submission.event event submittable.1 schema sameId
      exact unsettled ((settled_same submission.event event before same (submittable.2 same)).mpr settled)
    cases puts with
    | inserted =>
      rcases List.mem_append.mp member with old | new
      · exact hidden r old id
      · rw [List.mem_singleton.mp new] at id
        exact (different id).elim
    | appended =>
      rcases List.mem_append.mp member with old | new
      · exact hidden r old id
      · rw [List.mem_singleton.mp new] at id
        exact (different id).elim
    | replaced =>
      obtain ⟨old, inTable, rfl⟩ := List.mem_map.mp member
      split at id
      next => exact (different id).elim
      next other =>
        rw [if_neg other]
        exact hidden old inTable id

theorem buried_preserved (event : Event) (schema : eventSchema event = true)
    (durable : isEphemeralEvent event = false) (deleted : Pool) :
    Preserves step (Submitted event) (Buried event deleted) := by
  intro pool action reached inv ok taken
  have origin := origin_preserved event schema pool action reached inv.origin ok taken
  rcases step_cases pool reached action taken with
    ⟨handler, received, rfl, rfl⟩ | ⟨i, fates, submission, advanced, table, rfl, found, ran, rfl⟩
  · refine ⟨origin, inv.settled, inv.hidden, fun j other atJ own announced => ?_⟩
    rw [List.getElem?_append] at atJ
    split at atJ
    next => exact inv.silent j other atJ own announced
    next =>
      rw [List.getElem?_singleton] at atJ
      split at atJ
      next =>
        cases atJ
        have sameId : received.id = event.id := (prepared_id handler received).symm.trans own
        rw [start_quiet handler received event durable fun passed =>
          prepared_same handler received event ((ok passed).2 sameId)] at announced
        cases announced
      next => cases atJ
  · have member := List.mem_of_getElem? found
    have moved := advance_cases fates submission advanced pool.table table ran
    have submittable := inv.origin.submittable submission member
      (advance_active fates submission advanced pool.table table moved)
    refine ⟨origin, ?_, ?_, fun j other atJ own announced => ?_⟩
    · exact settled_succeeds event _ _ inv.settled
        (advance_succeeds fates submission advanced pool.table table moved)
    · exact advance_hidden event schema fates submission advanced pool.table table moved submittable
        inv.settled inv.hidden
    · rcases getElem?_set_cases atJ with ⟨rfl, rfl⟩ | ⟨_, old⟩
      · rw [advance_event fates submission other pool.table table moved] at own
        have answered := advance_answered event fates submission other pool.table table own
          (submittable.2 own) moved
        exact ((answered.announced announced).1 inv.settled).elim
      · exact inv.silent j other old own announced

structure StaysDeleted (event : Event) (deleted final : Pool) : Prop where
  hidden : ∀ r ∈ final.table, r.eventId = ofHex event.id → r.deletedAt.isNone = false
  unserved : ∀ database : Database, database.events = final.table → ∀ filters rows,
    database.findByFilters filters = .ok rows → ∀ r ∈ rows, r.eventId = ofHex event.id →
      r.deletedAt.isNone = false
  unsent : ∀ database : Database, database.events = final.table → ∀ subscriptionId filters id sent,
    OutgoingMessage.event id sent ∈ storedMessages database subscriptionId filters → sent.id ≠ event.id
  silent : ∀ (i : Nat) (submission : Submission), final.submissions[i]? = some submission →
    ∀ outputs, submission.stage = .finished outputs →
      (.ok event.id true empty ∈ outputs.messages ∧ submission.event.id = event.id ∨
        ∃ sent ∈ outputs.broadcasts, sent.id = event.id) →
          deleted.submissions[i]? = some submission
  replaced : ∀ r ∈ final.table, r.deletedAt.isNone = true → sameKey (bound event) r = true →
    r.eventId ≠ ofHex event.id

theorem staysDeleted_of_buried (event : Event) (deleted final : Pool) (buried : Buried event deleted final) :
    StaysDeleted event deleted final := by
  have unserved (database : Database) (same : database.events = final.table)
      (filters : List SubscriptionFilter) (rows : List DBEvent)
      (found : database.findByFilters filters = .ok rows) (r : DBEvent) (member : r ∈ rows)
      (id : r.eventId = ofHex event.id) : r.deletedAt.isNone = false := by
    have inTable := FilterUnion.findByFilters_subset database filters rows found r member
    rw [same] at inTable
    exact buried.hidden r inTable id
  refine ⟨buried.hidden, unserved, ?_, ?_, ?_⟩
  · intro database same subscriptionId filters id sent message ownId
    unfold storedMessages at message
    split at message
    next rows found =>
      obtain ⟨_, _, r, member, kept, shown⟩ := (mem_fetchAndSend ..).mp message
      have rowId : r.eventId = ofHex event.id := by
        rw [← ownId, ← shown]
        exact (ofHex_toHex r.eventId).symm
      rw [unserved database same filters rows found r member rowId] at kept
      cases kept
    next => cases message
  · intro i submission found outputs stage announced
    have announces : announces submission = true ∧ submission.event.id = event.id := by
      simp only [announces, stage, Bool.or_eq_true, List.contains_iff_mem, Bool.not_eq_true',
        List.isEmpty_eq_false_iff]
      rcases announced with ⟨answered, own⟩ | ⟨sent, broadcast, id⟩
      · exact ⟨.inl (own ▸ answered), own⟩
      · have isOwn := buried.origin.own submission (List.mem_of_getElem? found) outputs stage sent broadcast
        exact ⟨.inr (List.ne_nil_of_mem broadcast), isOwn ▸ id⟩
    exact buried.silent i submission found announces.2 announces.1
  · intro r member visible _ id
    rw [buried.hidden r member id] at visible
    cases visible

theorem deleted_stays_deleted (event : Event) (schema : eventSchema event = true)
    (table : EventsTable) (constrained : Constrained table) (rows : OwnRows event table)
    (before : List Action) (deleted : Pool)
    (runBefore : Run step (Submitted event) { table := table, submissions := [] } before deleted)
    (marked : ∃ r ∈ deleted.table, r.eventId = ofHex event.id ∧ r.deletedAt.isNone = false)
    (after : List Action) (final : Pool) (runAfter : Run step (Submitted event) deleted after final) :
    StaysDeleted event deleted final := by
  have origin := runBefore.invariant (origin_preserved event schema)
    ⟨by simp, constrained, rows, by simp, by simp⟩
  obtain ⟨r, member, id, gone⟩ := marked
  have isRow := origin.rows r member id
  have hidden : Hidden event deleted.table := by
    intro other inTable otherId
    have same := TagIndex.eq_of_eventId deleted.table origin.constrained r other member inTable
      (otherId.trans id.symm)
    rwa [same]
  have buried : Buried event deleted deleted :=
    ⟨origin, settled_of_row event deleted.table origin.constrained r member id isRow, hidden,
      fun _ _ found _ _ => found⟩
  exact staysDeleted_of_buried event deleted final
    (runAfter.invariant (buried_preserved event schema isRow.durable deleted) buried)

instance (event received : Event) : Decidable (Submittable event received) :=
  inferInstanceAs (Decidable (eventSchema received = true ∧
    (received.id = event.id → SameSignedFields received event)))

instance (event : Event) (pool : Pool) : DecidablePred (Submitted event pool)
  | .submit handler received =>
    inferInstanceAs (Decidable (passes handler received = true → Submittable event received))
  | .advance .. => inferInstanceAs (Decidable True)

def deletion : Event :=
  { note with
    id := toHex [0x3a, 0x4f, 0x9b, 0x05, 0xb1, 0x9a, 0x86, 0x8c, 0x5c, 0xdc, 0x4b, 0x0f, 0x25, 0x5b, 0x35, 0xb2,
       0xc7, 0x32, 0x65, 0x2b, 0xd5, 0xc1, 0x12, 0x9c, 0x15, 0xb7, 0x62, 0x7f, 0xc6, 0x61, 0xde, 0xbc]
    createdAt := 1700000001
    kind := 5
    tags := [[js "e", note.id]]
    content := []
    sig := toHex [0x79, 0xe9, 0x56, 0x96, 0x1d, 0xbc, 0x41, 0x9f, 0x57, 0xad, 0x35, 0x3f, 0x7d, 0xd2, 0xb0, 0x2b,
       0x6a, 0x49, 0x7b, 0xb5, 0x77, 0xfc, 0x5a, 0x54, 0xe9, 0xef, 0x03, 0x9b, 0xf6, 0x8a, 0xe1, 0x8c,
       0x2c, 0x1d, 0xb6, 0x20, 0x70, 0xd4, 0xd1, 0x58, 0x0b, 0xd7, 0xbc, 0x68, 0xc4, 0x0c, 0xa4, 0xd2,
       0x0b, 0x09, 0xeb, 0xd8, 0x57, 0xa7, 0x98, 0xb4, 0xef, 0x21, 0x85, 0xcf, 0x4f, 0x6d, 0x4e, 0x3d] }

def deletingHandler : EventMessageHandler :=
  { openHandler with crypto := recordedCrypto ([note, deletion].map recorded) }

theorem note_stays_deleted :
    ∃ deleted final,
      Run step (Submitted note) { table := [], submissions := [] }
        [.submit deletingHandler note, .advance 0 {}, .submit deletingHandler deletion, .advance 1 {}]
        deleted ∧
      Run step (Submitted note) deleted [.advance 1 {}, .submit deletingHandler note, .advance 2 {}]
        final ∧ StaysDeleted note deleted final := by
  have ranBefore : (Runs.execute step (Submitted note) { table := [], submissions := [] }
      [.submit deletingHandler note, .advance 0 {}, .submit deletingHandler deletion,
        .advance 1 {}]).map (fun pool => pool.table.map fun r =>
          (r.eventId == ofHex note.id, r.deletedAt.isNone)) = some [(true, false)] := by decide +kernel
  obtain ⟨deleted, executed, rows⟩ := Option.map_eq_some_iff.mp ranBefore
  obtain ⟨r, alone, values⟩ := List.map_eq_singleton_iff.mp rows
  rw [Prod.mk.injEq, beq_iff_eq] at values
  have ranAfter : ((Runs.execute step (Submitted note) { table := [], submissions := [] }
      [.submit deletingHandler note, .advance 0 {}, .submit deletingHandler deletion,
        .advance 1 {}]).bind fun pool => Runs.execute step (Submitted note) pool
          [.advance 1 {}, .submit deletingHandler note, .advance 2 {}]).isSome = true := by
    decide +kernel
  rw [executed, Option.bind_some] at ranAfter
  obtain ⟨final, executedAfter⟩ := Option.isSome_iff_exists.mp ranAfter
  have runBefore := run_of_execute executed
  have runAfter := run_of_execute executedAfter
  exact ⟨deleted, final, runBefore, runAfter,
    deleted_stays_deleted note (by decide +kernel) [] List.Pairwise.nil (by simp [OwnRows]) _ deleted
      runBefore ⟨r, by simp [alone], values⟩ _ final runAfter⟩

end Nostream.DeletedForGood
