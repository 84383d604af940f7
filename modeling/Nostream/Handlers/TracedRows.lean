import Nostream.Handlers.DeletedForGood

set_option autoImplicit false

namespace Nostream.TracedRows

open Utf16 Hex Sql Effects EventRepository Writes MessageStages SubmissionStages SubmissionPool
open SettledEvents DeletedForGood AnnouncedOnce TagIndex Slots
open Runs hiding execute

-- The part of an event that its id is the hash of, with the id.
def unsigned (event : Event) : Event :=
  { event with sig := [], remoteAddress := none, expirationTime := none }

theorem unsigned_iff (a b : Event) : unsigned a = unsigned b ↔ a.id = b.id ∧ SameSignedFields a b := by
  constructor
  · intro same
    injection same with id pubkey createdAt kind tags content
    exact ⟨id, pubkey, createdAt, kind, tags, content⟩
  · rintro ⟨id, pubkey, createdAt, kind, tags, content⟩
    simp [unsigned, id, pubkey, createdAt, kind, tags, content]

theorem unsigned_prepared (handler : EventMessageHandler) (received : Event) :
    unsigned (prepared handler received) = unsigned received := by
  obtain ⟨_, shape⟩ := prepared_eq handler received
  rw [shape]
  rfl

def statementRow (event : Event) : EventRow := if isReplacing event then bound event else insertRow event

theorem insertRow_fits (event : Event) (storable : (statementRow event).storable = true) :
    (insertRow event).storable = true := by
  unfold statementRow at storable
  split at storable
  · exact insertRow_storable event _ storable
  · exact storable

structure Carries (event : Event) (r : DBEvent) : Prop where
  eventId : r.eventId = ofHex event.id
  isRow : IsRowOf event r
  shows : toNostrEvent r = toNostrEvent (insertRow event).stored

theorem carries_deleted (event : Event) (r : DBEvent) (carries : Carries event r) (deletedAt : Option Int) :
    Carries event { r with deletedAt := deletedAt } := by
  obtain ⟨eventId, isRow, shows⟩ := carries
  exact ⟨eventId, ⟨isRow.durable, isRow.eventPubkey, isRow.eventKind, isRow.eventCreatedAt,
    isRow.eventDeduplication⟩, shows⟩

theorem puts_carries (event : Event) (durable : isEphemeralEvent event = false) (before after : EventsTable)
    (puts : Puts event before after) (r : DBEvent) (member : r ∈ after) : r ∈ before ∨ Carries event r := by
  have rows := puts_rows event durable before after puts r member
  refine (em (r ∈ before)).imp id fun new => ?_
  obtain ⟨eventId, isRow⟩ := rows.resolve_left new
  refine ⟨eventId, isRow, ?_⟩
  cases puts with
  | inserted creating unknown =>
    rw [List.mem_singleton.mp ((List.mem_append.mp member).resolve_left new)]
  | appended replacing fresh unknown =>
    rw [List.mem_singleton.mp ((List.mem_append.mp member).resolve_left new)]
    rfl
  | replaced replacing existing found older noOther =>
    obtain ⟨old, inTable, rfl⟩ := List.mem_map.mp member
    split at new
    next same =>
      obtain ⟨_, pubkey, kind, _⟩ := (sameIndexKey_iff _ _).mp same
      rw [if_pos same]
      simp only [toNostrEvent, mergeRow, pubkey, kind]
      rfl
    next => exact (new inTable).elim

theorem write_storable (fates : Fates) (event : Event) (before : EventsTable) :
    ((write fates event).run before).2 = before ∨
      (statementRow event).storable = true ∧ Puts event before ((write fates event).run before).2 := by
  rcases write_puts fates event before with same | puts
  · exact .inl same
  · refine (em _).imp id fun changed => ⟨?_, puts⟩
    cases replacing : isReplacing event with
    | true =>
      rw [write_replacing fates event replacing] at changed
      rw [statementRow, if_pos replacing]
      rcases upsert_written fates.upsert event (replacementDeduplication event) before with same | ⟨_, storable, _⟩
      · exact (changed same).elim
      · exact storable
    | false =>
      rw [write_creating fates event replacing, create_eq] at changed
      rw [statementRow, if_neg (by simp [replacing])]
      by_contra unstorable
      exact changed (if_neg (by simp [inserts, unstorable]))

structure Traffic (events : Set Event) : Prop where
  schema : ∀ event ∈ events, eventSchema event = true
  sameFields : ∀ a ∈ events, ∀ b ∈ events, a.id = b.id → SameSignedFields a b

abbrev Offer := EventMessageHandler → Event → Prop

def Offered (offer : Offer) (_ : Pool) : Action → Prop
  | .submit handler received => offer handler received
  | .advance .. => True

def SubmittedFrom (events : Set Event) : Pool → Action → Prop := Offered fun _ received => received ∈ events

-- Clients may submit anything else as well, as long as it is turned away.
def acceptedFrom (events : Set Event) : Offer := fun handler received => passes handler received = true → received ∈ events

def AcceptedFrom (events : Set Event) : Pool → Action → Prop := Offered (acceptedFrom events)

instance (listed : List Event) (pool : Pool) : DecidablePred (SubmittedFrom {event | event ∈ listed} pool)
  | .submit _ received => inferInstanceAs (Decidable (received ∈ listed))
  | .advance .. => .isTrue trivial

instance (listed : List Event) (pool : Pool) : DecidablePred (AcceptedFrom {event | event ∈ listed} pool)
  | .submit handler received => inferInstanceAs (Decidable (passes handler received = true → received ∈ listed))
  | .advance .. => .isTrue trivial

inductive Passed (submission : Submission) : Prop
  | deleting (stage : submission.stage = .deleting)
  | writing (stage : submission.stage = .writing)
  | written (isSome : submission.written.isSome = true)
  | confirmed (outputs : Outputs) (stage : submission.stage = .finished outputs) (text : JsString)
      (confirms : .ok submission.event.id true text ∈ outputs.messages)
  | broadcast (outputs : Outputs) (stage : submission.stage = .finished outputs)
      (announces : outputs.broadcasts ≠ [])

structure Handles (submission : Submission) (received : Event) : Prop where
  prepared : submission.event = prepared submission.handler received
  accepted : Passed submission → Accepted submission.handler received
  durable : submission.stage = .writing ∨ submission.stage = .deleting ∨ submission.written.isSome = true →
    isEphemeralEvent submission.event = false
  deleting : submission.stage = .deleting → isDeleteEvent submission.event = true
  own : OwnBroadcasts submission

theorem start_handles (handler : EventMessageHandler) (received : Event) :
    Handles (start handler received) received where
  prepared := rfl
  accepted := by
    intro passed
    rw [← passes_iff]
    by_contra turnedAway
    have stage : (start handler received).stage = .finished
        { messages := (rejection handler received).map (createCommandResult received.id false)
          broadcasts := [] } := if_neg turnedAway
    cases passed with
    | deleting was => rw [stage] at was; cases was
    | writing was => rw [stage] at was; cases was
    | written isSome => cases isSome
    | confirmed outputs was text confirms =>
      rw [stage] at was
      cases was
      simp [createCommandResult] at confirms
    | broadcast outputs was announces =>
      rw [stage] at was
      cases was
      exact announces rfl
  durable := by
    rintro (writing | deleting | isSome)
    · exact start_durable handler received (.inl writing)
    · exact start_durable handler received (.inr deleting)
    · cases isSome
  deleting := by
    intro stage
    have event : (start handler received).event = MessageStages.prepared handler received := rfl
    unfold start at stage
    dsimp only at stage
    split at stage
    · unfold strategyStage at stage
      split at stage
      next => cases stage
      next delete =>
        rw [event, (eventStrategyFactory_correct _).delete]
        exact delete
      next => cases stage
    · cases stage
  own := start_own handler received

theorem advance_handles (fates : Fates) (submission advanced : Submission) (before after : EventsTable)
    (moved : Advance fates submission before advanced after) (received : Event)
    (handles : Handles submission received) : Handles advanced received := by
  have own := advance_own fates submission advanced before after moved
  cases moved with
  | failed reason stage =>
    exact ⟨handles.prepared, fun _ => handles.accepted (.deleting stage),
      fun _ => handles.durable (.inr (.inl stage)), (by simp [Submission.finish]), own⟩
  | deleted stage =>
    exact ⟨handles.prepared, fun _ => handles.accepted (.deleting stage),
      fun _ => handles.durable (.inr (.inl stage)), (by simp), own⟩
  | written outcome after stage =>
    exact ⟨handles.prepared, fun _ => handles.accepted (.writing stage),
      fun _ => handles.durable (.inl stage), (by simp [Submission.finish]), own⟩

theorem passed_of_advance {fates : Fates} {submission advanced : Submission} {before after : EventsTable}
    (moved : Advance fates submission before advanced after) : Passed submission := by
  rcases advance_active fates submission advanced before after moved with writing | deleting
  · exact .writing writing
  · exact .deleting deleting

theorem single_row (table : EventsTable) (constrained : Constrained table) (event : Event)
    (a b : DBEvent) (inA : a ∈ table) (inB : b ∈ table) (ofA : sameKey (bound event) a = true)
    (ofB : sameKey (bound event) b = true) : a = b := by
  cases found : table.find? (sameKey (bound event)) with
  | none => exact absurd ofA (List.find?_eq_none.mp found a inA)
  | some existing =>
    have single (r : DBEvent) (member : r ∈ table) (own : sameKey (bound event) r = true) : r = existing :=
      eq_of_eventId table constrained existing r (List.mem_of_find?_eq_some found) member
        (((filter_sameKey table constrained (bound event) existing found).2 r member).mp own)
    rw [single a inA ofA, single b inB ofB]

structure Deletes (event : Event) (r : DBEvent) : Prop where
  kind : isDeleteEvent event = true
  own : r.eventPubkey = ofHex event.pubkey
  listed : r.eventId ∈ (DeleteEventStrategy.eventIdsToDelete event).map ofHex

theorem puts_unmarked (event : Event) (before after : EventsTable) (puts : Puts event before after) (r : DBEvent)
    (member : r ∈ after) : r ∈ before ∨ r.deletedAt = none := by
  cases puts with
  | inserted =>
    exact (List.mem_append.mp member).imp id fun new => by rw [List.mem_singleton.mp new]; rfl
  | appended =>
    exact (List.mem_append.mp member).imp id fun new => by rw [List.mem_singleton.mp new]; rfl
  | replaced =>
    obtain ⟨old, inTable, rfl⟩ := List.mem_map.mp member
    split
    · exact .inr rfl
    · exact .inl inTable

theorem advance_marks (fates : Fates) (submission advanced : Submission) (before after : EventsTable)
    (moved : Advance fates submission before advanced after) (r : DBEvent) (member : r ∈ after)
    (mark : r.deletedAt.isSome = true) :
    r ∈ before ∨ (submission.stage = .deleting ∧ r.eventPubkey = ofHex submission.event.pubkey ∧
      r.eventId ∈ (DeleteEventStrategy.eventIdsToDelete submission.event).map ofHex) := by
  have deletes (stage : submission.stage = .deleting) (inMarked : r ∈ ((deleteByPubkeyAndIds fates.update fates.now
      submission.event.pubkey (DeleteEventStrategy.eventIdsToDelete submission.event)).run before).2) :
      r ∈ before ∨ (submission.stage = .deleting ∧ r.eventPubkey = ofHex submission.event.pubkey ∧
        r.eventId ∈ (DeleteEventStrategy.eventIdsToDelete submission.event).map ofHex) := by
    rw [Writes.delete_table] at inMarked
    split at inMarked
    · obtain ⟨old, inTable, rfl⟩ := List.mem_map.mp inMarked
      split
      next deletable =>
        simp only [isDeletable, Bool.and_eq_true, beq_iff_eq, List.contains_iff_mem] at deletable
        exact .inr ⟨stage, deletable.1.1, deletable.1.2⟩
      next => exact .inl inTable
    · exact .inl inMarked
  cases moved with
  | failed reason stage => exact deletes stage member
  | deleted stage => exact deletes stage member
  | written outcome after stage ran =>
    have wrote := write_puts fates submission.event before
    rw [ran] at wrote
    rcases wrote with same | puts
    · exact .inl (same ▸ member)
    · rcases puts_unmarked submission.event before after puts r member with old | unmarked
      · exact .inl old
      · rw [unmarked] at mark
        cases mark

theorem advance_carried (fates : Fates) (submission advanced : Submission) (before after : EventsTable)
    (moved : Advance fates submission before advanced after)
    (durable : submission.stage = .writing → isEphemeralEvent submission.event = false)
    (r : DBEvent) (member : r ∈ after) :
    (∃ old ∈ before, ∃ deletedAt, r = { old with deletedAt := deletedAt }) ∨
      (advanced.written.isSome = true ∧ (statementRow submission.event).storable = true ∧
        Carries submission.event r) := by
  cases moved with
  | failed => exact .inl (delete_rows _ _ submission.event _ before r member)
  | deleted => exact .inl (delete_rows _ _ submission.event _ before r member)
  | written outcome after stage ran =>
    have wrote := write_storable fates submission.event before
    rw [ran] at wrote
    rcases wrote with same | ⟨storable, puts⟩
    · have inBefore : r ∈ before := same ▸ member
      exact .inl ⟨r, inBefore, r.deletedAt, rfl⟩
    · rcases puts_carries submission.event (durable stage) before after puts r member with old | carries
      · exact .inl ⟨r, old, r.deletedAt, rfl⟩
      · exact .inr ⟨rfl, storable, carries⟩

def Wrote (submission : Submission) : Prop :=
  submission.written.isSome = true ∧ (statementRow submission.event).storable = true

def Handled (offer : Offer) (pool : Pool) : Prop :=
  ∀ submission ∈ pool.submissions, ∃ received, offer submission.handler received ∧ Handles submission received

structure Traced (offer : Offer) (pool : Pool) : Prop where
  handled : Handled offer pool
  constrained : Constrained pool.table
  rows : ∀ r ∈ pool.table, ∃ submission ∈ pool.submissions, Wrote submission ∧ Carries submission.event r
  marked : ∀ r ∈ pool.table, r.deletedAt.isSome = true → ∃ submission ∈ pool.submissions,
    ∃ received, offer submission.handler received ∧ submission.event = prepared submission.handler received ∧
      Accepted submission.handler received ∧ Deletes submission.event r

theorem kept_by_advance (pool : Pool) (i : Nat) (fates : Fates) (submission advanced : Submission) (table : EventsTable)
    (found : pool.submissions[i]? = some submission)
    (moved : Advance fates submission pool.table advanced table) (other : Submission)
    (member : other ∈ pool.submissions) : ∃ later ∈ pool.submissions.set i advanced,
      later.handler = other.handler ∧ later.event = other.event ∧ (Wrote other → Wrote later) := by
  obtain ⟨j, atJ⟩ := List.getElem?_of_mem member
  by_cases same : i = j
  · subst same
    rw [found, Option.some.injEq] at atJ
    subst atJ
    refine ⟨advanced, List.mem_set (List.getElem?_eq_some_iff.mp found).1 advanced, ?_⟩
    cases moved with
    | failed => exact ⟨rfl, rfl, id⟩
    | deleted => exact ⟨rfl, rfl, id⟩
    | written => exact ⟨rfl, rfl, fun wrote => ⟨rfl, wrote.2⟩⟩
  · exact ⟨other, List.mem_of_getElem? ((List.getElem?_set_ne same).trans atJ), rfl, rfl, id⟩

def Marked (old r : DBEvent) : Prop := ∃ deletedAt, r = { old with deletedAt := deletedAt }

def Written (opening : EventsTable) (pool : Pool) : Prop :=
  ∀ r ∈ pool.table, (∃ old ∈ opening, Marked old r) ∨
    ∃ submission ∈ pool.submissions, Wrote submission ∧ Carries submission.event r

theorem advance_handler (fates : Fates) (submission advanced : Submission) (before after : EventsTable)
    (moved : Advance fates submission before advanced after) : advanced.handler = submission.handler := by
  cases moved <;> rfl

section Advancing

variable (offer : Offer) (pool : Pool) (i : Nat) (fates : Fates) (submission advanced : Submission)
  (table : EventsTable) (found : pool.submissions[i]? = some submission)
  (moved : Advance fates submission pool.table advanced table)

include found moved

theorem advance_handled (handled : Handled offer pool) :
    Handled offer { table := table, submissions := pool.submissions.set i advanced } := by
  obtain ⟨received, offered, handles⟩ := handled submission (List.mem_of_getElem? found)
  intro other inPool
  rcases mem_set_cases inPool with rfl | old
  · exact ⟨received, advance_handler fates submission _ pool.table table moved ▸ offered,
      advance_handles fates submission _ pool.table table moved received handles⟩
  · exact handled other old

theorem advance_written (opening : EventsTable) (handled : Handled offer pool) (written : Written opening pool) :
    Written opening { table := table, submissions := pool.submissions.set i advanced } := by
  obtain ⟨received, _, handles⟩ := handled submission (List.mem_of_getElem? found)
  have event := advance_event fates submission advanced pool.table table moved
  intro r inTable
  rcases advance_carried fates submission advanced pool.table table moved (fun stage => handles.durable (.inl stage))
    r inTable with ⟨old, inBefore, deletedAt, rfl⟩ | ⟨isSome, storable, carries⟩
  · rcases written old inBefore with ⟨first, inOpening, before, rfl⟩ | ⟨writer, inPool, wrote, carries⟩
    · exact .inl ⟨first, inOpening, deletedAt, rfl⟩
    · obtain ⟨later, inLater, _, sameEvent, wroteLater⟩ :=
        kept_by_advance pool i fates submission advanced table found moved writer inPool
      exact .inr ⟨later, inLater, wroteLater wrote, sameEvent ▸ carries_deleted writer.event old carries deletedAt⟩
  · exact .inr ⟨advanced, List.mem_set (List.getElem?_eq_some_iff.mp found).1 advanced, ⟨isSome, event ▸ storable⟩,
      event ▸ carries⟩

theorem advance_traced (traced : Traced offer pool) :
    Traced offer { table := table, submissions := pool.submissions.set i advanced } := by
  obtain ⟨received, offered, handles⟩ := traced.handled submission (List.mem_of_getElem? found)
  have event := advance_event fates submission advanced pool.table table moved
  refine ⟨advance_handled offer pool i fates submission advanced table found moved traced.handled, ?_, ?_, ?_⟩
  · exact advance_constrained fates submission advanced pool.table table moved traced.constrained
  · intro r inTable
    have written := advance_written offer pool i fates submission advanced table found moved [] traced.handled
      fun r member => .inr (traced.rows r member)
    simpa using written r inTable
  · intro r inTable mark
    rcases advance_marks fates submission advanced pool.table table moved r inTable mark with
      old | ⟨stage, own, listed⟩
    · obtain ⟨deletion, inPool, of, offered, prepared, accepted, deletes⟩ := traced.marked r old mark
      obtain ⟨later, inLater, sameHandler, sameEvent, _⟩ :=
        kept_by_advance pool i fates submission advanced table found moved deletion inPool
      exact ⟨later, inLater, of, sameHandler ▸ offered, by rw [sameEvent, sameHandler, prepared],
        sameHandler ▸ accepted, sameEvent ▸ deletes⟩
    · have sameHandler := advance_handler fates submission advanced pool.table table moved
      exact ⟨advanced, List.mem_set (List.getElem?_eq_some_iff.mp found).1 advanced, received, sameHandler ▸ offered,
        by rw [event, sameHandler, handles.prepared], sameHandler ▸ handles.accepted (.deleting stage),
        event ▸ ⟨handles.deleting stage, own, listed⟩⟩

end Advancing

section Submitting

variable (offer : Offer) (pool : Pool) (handler : EventMessageHandler) (received : Event)

theorem submit_handled (offered : offer handler received) (handled : Handled offer pool) :
    Handled offer { pool with submissions := pool.submissions ++ [start handler received] } := by
  intro submission member
  rcases List.mem_append.mp member with old | new
  · exact handled submission old
  · rw [List.mem_singleton.mp new]
    exact ⟨received, offered, start_handles handler received⟩

theorem submit_written (opening : EventsTable) (written : Written opening pool) :
    Written opening { pool with submissions := pool.submissions ++ [start handler received] } := by
  intro r member
  refine (written r member).imp id ?_
  rintro ⟨writer, inPool, wrote⟩
  exact ⟨writer, List.mem_append_left _ inPool, wrote⟩

end Submitting

theorem traced_preserved (offer : Offer) : Preserves step (Offered offer) (Traced offer) := by
  intro pool action reached traced ok taken
  rcases step_cases pool reached action taken with
    ⟨handler, received, rfl, rfl⟩ | ⟨i, fates, submission, advanced, table, rfl, found, ran, rfl⟩
  · refine ⟨submit_handled offer pool handler received ok traced.handled, traced.constrained, ?_, ?_⟩
    · intro r member
      have written := submit_written pool handler received [] fun r member => .inr (traced.rows r member)
      simpa using written r member
    · intro r member mark
      obtain ⟨deletion, inPool, issued⟩ := traced.marked r member mark
      exact ⟨deletion, List.mem_append_left _ inPool, issued⟩
  · exact advance_traced offer pool i fates submission advanced table found
      (advance_cases fates submission advanced pool.table table ran) traced

theorem run_traced (offer : Offer) (trace : List Action) (final : Pool)
    (run : Run step (Offered offer) { table := [], submissions := [] } trace final) : Traced offer final :=
  run.invariant (traced_preserved offer) ⟨by simp [Handled], List.Pairwise.nil, by simp, by simp⟩

def shown (r : DBEvent) : Event := unsigned (toNostrEvent r)

def readBack (event : Event) : Event := shown (insertRow event).stored

theorem shown_carries (event : Event) (r : DBEvent) (carries : Carries event r) :
    shown r = readBack (unsigned event) := by
  rw [shown, carries.shows]
  rfl

def SubmittedAs (events : Set Event) (event : Event) : Prop :=
  ∃ received ∈ events, unsigned event = unsigned received

section Identified

variable (events : Set Event) (pool : Pool)

theorem submittedAs_passed (handled : Handled (acceptedFrom events) pool) (submission : Submission)
    (member : submission ∈ pool.submissions) (passed : Passed submission) : SubmittedAs events submission.event := by
  obtain ⟨received, offered, handles⟩ := handled submission member
  have accepted := (passes_iff ..).mpr (handles.accepted passed)
  exact ⟨received, offered accepted, by rw [handles.prepared, unsigned_prepared]⟩

theorem submittedAs_wrote (traced : Traced (acceptedFrom events) pool) (submission : Submission)
    (member : submission ∈ pool.submissions) (wrote : Wrote submission) : SubmittedAs events submission.event :=
  submittedAs_passed events pool traced.handled submission member (.written wrote.1)

theorem id_schema (traffic : Traffic events) (event : Event) (submitted : SubmittedAs events event) :
    isLowerHex event.id = true ∧ event.id.length = 64 := by
  obtain ⟨received, inEvents, equal⟩ := submitted
  have schema := traffic.schema received inEvents
  simp only [eventSchema, idSchema, Bool.and_eq_true, beq_iff_eq] at schema
  rw [((unsigned_iff ..).mp equal).1]
  exact schema.1.1.1.1.1

theorem unsigned_of_id (traffic : Traffic events) (a b : Event) (ofA : SubmittedAs events a)
    (ofB : SubmittedAs events b) (same : ofHex a.id = ofHex b.id) : unsigned a = unsigned b := by
  obtain ⟨receivedA, inA, equalA⟩ := ofA
  obtain ⟨receivedB, inB, equalB⟩ := ofB
  rw [((unsigned_iff ..).mp equalA).1, ((unsigned_iff ..).mp equalB).1] at same
  have id := ofHex_schema receivedA receivedB (traffic.schema _ inA) (traffic.schema _ inB) same
  rw [equalA, equalB]
  exact (unsigned_iff ..).mpr ⟨id, traffic.sameFields receivedA inA receivedB inB id⟩

theorem carries_of_id (traffic : Traffic events) (traced : Traced (acceptedFrom events) pool) (event : Event)
    (submitted : SubmittedAs events event) (r : DBEvent) (member : r ∈ pool.table) (id : r.eventId = ofHex event.id) :
    IsRowOf event r ∧ shown r = readBack (unsigned event) := by
  obtain ⟨writer, inPool, wrote, carries⟩ := traced.rows r member
  have submittedWriter := submittedAs_wrote events pool traced writer inPool wrote
  have same := unsigned_of_id events traffic writer.event event submittedWriter submitted (carries.eventId.symm.trans id)
  exact ⟨isRowOf_same writer.event event ((unsigned_iff ..).mp same).2 r carries.isRow,
    same ▸ shown_carries writer.event r carries⟩

end Identified

end Nostream.TracedRows
