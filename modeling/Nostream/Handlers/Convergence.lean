import Nostream.Handlers.ReplacementKeys
import Nostream.Handlers.TracedRows
import Nostream.Shared.Superseding

set_option autoImplicit false

namespace Nostream.Convergence

open Utf16 Hex Sql Effects EventRepository Writes MessageStages SubmissionStages SubmissionPool
open SettledEvents DeletedForGood AnnouncedOnce TagIndex Slots Superseding TracedRows
open ReplacementKeys
open Runs hiding execute

def Written (pool : Pool) : Set Event :=
  {event | ∃ submission ∈ pool.submissions, submission.event = event ∧ Wrote submission}

def supersedes (later earlier : Event) : Prop :=
  isReplacing later = true ∧ isReplacing earlier = true ∧ eventKey later = eventKey earlier ∧
    earlier.createdAt < later.createdAt

instance : IsTrans Event supersedes where
  trans := by
    rintro a b c ⟨replacing, _, keyAB, laterAB⟩ ⟨_, alsoReplacing, keyBC, laterBC⟩
    exact ⟨replacing, alsoReplacing, keyAB.trans keyBC, laterBC.trans laterAB⟩

theorem supersedes_unsigned (later earlier : Event) :
    supersedes (unsigned later) (unsigned earlier) ↔ supersedes later earlier := Iff.rfl

def Untied (events : Set Event) : Prop :=
  ∀ a ∈ events, ∀ b ∈ events, isReplacing a = true → isReplacing b = true → eventKey a = eventKey b →
    a.createdAt = b.createdAt → a.id = b.id

def Allowed (events : Set Event) (_ : Pool) : Action → Prop
  | .submit handler received => passes handler received = true → received ∈ events
  | .advance _ fates => writes fates.insert = true ∧ writes fates.upsert = true

theorem acceptedFrom_of_allowed (events : Set Event) (pool : Pool) (action : Action)
    (allowed : Allowed events pool action) : AcceptedFrom events pool action := by
  cases action with
  | submit handler received => exact allowed
  | advance i fates => trivial

theorem execute_writes (statement : Statement) (fate : Fate) (writing : writes fate = true)
    (table after : EventsTable) (count : Nat) (ran : statement table = .ok (count, after)) :
    ((statement.execute fate).run table).2 = after := by
  cases fate with
  | rejected reason => cases writing
  | completes => simp [Statement.execute, Statement.outcome, ran]
  | lostReply reason => simp [Statement.execute, Statement.outcome, ran]

theorem write_settles (fates : Fates) (event : Event) (before : EventsTable)
    (constrained : Constrained before) (rows : OwnRows event before)
    (writing : writes fates.insert = true ∧ writes fates.upsert = true)
    (storable : (statementRow event).storable = true) : Settled event ((write fates event).run before).2 := by
  by_cases known : hasId before (ofHex event.id) = true
  · obtain ⟨r, member, id⟩ := (hasId_iff ..).mp known
    exact settled_succeeds event _ _ (settled_of_row event before constrained r member id (rows r member id))
      (write_succeeds fates event before)
  rw [Bool.not_eq_true] at known
  cases replacing : isReplacing event with
  | false =>
    rw [statementRow, if_neg (by simp [replacing])] at storable
    rw [write_creating fates event replacing, create_eq]
    simp only [inserts, storable, writing.1, known, Bool.not_false, Bool.and_self, if_true]
    exact (puts_settles event before _ (.inserted replacing known)).2
  | true =>
    rw [statementRow, if_pos replacing] at storable
    have reaches (after : EventsTable) (count : Nat) (merged : Merged (bound event) before count after) :
        ((write fates event).run before).2 = after := by
      rw [write_replacing fates event replacing]
      exact execute_writes _ _ writing.2 before after count ((insertMerge_ok ..).mpr ⟨storable, merged⟩)
    have noOther (r : DBEvent) (member : r ∈ before) : r.eventId ≠ ofHex event.id := fun same => by
      rw [(hasId_iff ..).mpr ⟨r, member, same⟩] at known
      cases known
    cases found : before.find? (sameKey (bound event)) with
    | none =>
      rw [reaches _ 1 (.appended found known)]
      exact (puts_settles event before _ (.appended replacing found known)).2
    | some existing =>
      by_cases older : existing.eventCreatedAt < event.createdAt
      · rw [reaches _ 1 (.replaced existing found older fun r member _ => noOther r member)]
        exact (puts_settles event before _
          (.replaced replacing existing found older fun r member _ => noOther r member)).2
      · rw [reaches before 0 (.kept existing found (not_lt.mp older)), Settled, if_pos replacing]
        exact ⟨existing, found, not_lt.mp older⟩

structure Recorded (events : Set Event) (pool : Pool) : Prop where
  traced : Traced (acceptedFrom events) pool
  settled : ∀ event ∈ Written pool, Settled event pool.table

theorem written_advance (pool : Pool) (i : Nat) (fates : Fates) (submission advanced : Submission)
    (table : EventsTable) (found : pool.submissions[i]? = some submission)
    (moved : Advance fates submission pool.table advanced table) (event : Event)
    (written : event ∈ Written { table := table, submissions := pool.submissions.set i advanced }) :
    event ∈ Written pool ∨
      (event = submission.event ∧ submission.stage = .writing ∧ (statementRow event).storable = true) := by
  obtain ⟨other, member, rfl, wrote⟩ := written
  rcases mem_set_cases member with rfl | old
  · have inPool := List.mem_of_getElem? found
    cases moved with
    | failed => exact .inl ⟨submission, inPool, rfl, wrote⟩
    | deleted => exact .inl ⟨submission, inPool, rfl, wrote⟩
    | written outcome after stage => exact .inr ⟨rfl, stage, wrote.2⟩
  · exact .inl ⟨other, old, rfl, wrote⟩

theorem settled_advance (events : Set Event) (traffic : Traffic events) (pool : Pool) (i : Nat) (fates : Fates)
    (submission advanced : Submission) (table : EventsTable) (found : pool.submissions[i]? = some submission)
    (writing : writes fates.insert = true ∧ writes fates.upsert = true)
    (moved : Advance fates submission pool.table advanced table) (recorded : Recorded events pool) (event : Event)
    (written : event ∈ Written { table := table, submissions := pool.submissions.set i advanced }) :
    Settled event table := by
  rcases written_advance pool i fates submission advanced table found moved event written with
    old | ⟨rfl, stage, storable⟩
  · exact settled_succeeds event _ _ (recorded.settled event old)
      (advance_succeeds fates submission advanced pool.table table moved)
  · have submitted := submittedAs_passed events pool recorded.traced.handled submission (List.mem_of_getElem? found)
      (.writing stage)
    have rows : OwnRows submission.event pool.table := fun r member id =>
      (carries_of_id events pool traffic recorded.traced submission.event submitted r member id).1
    have settles := write_settles fates submission.event pool.table recorded.traced.constrained rows writing storable
    cases moved with
    | failed reason was => rw [stage] at was; cases was
    | deleted was => rw [stage] at was; cases was
    | written outcome after _ ran => rwa [ran] at settles

theorem recorded_preserved (events : Set Event) (traffic : Traffic events) :
    Preserves step (Allowed events) (Recorded events) := by
  intro pool action reached recorded ok taken
  refine ⟨traced_preserved _ pool action reached recorded.traced
    (acceptedFrom_of_allowed events pool action ok) taken, ?_⟩
  rcases step_cases pool reached action taken with
    ⟨handler, received, rfl, rfl⟩ | ⟨i, fates, submission, advanced, table, rfl, found, ran, rfl⟩
  · rintro _ ⟨submission, member, rfl, wrote⟩
    rcases List.mem_append.mp member with old | new
    · exact recorded.settled submission.event ⟨submission, old, rfl, wrote⟩
    · rw [List.mem_singleton.mp new] at wrote
      cases wrote.1
  · exact settled_advance events traffic pool i fates submission advanced table found ok
      (advance_cases fates submission advanced pool.table table ran) recorded

theorem run_recorded (events : Set Event) (traffic : Traffic events) (trace : List Action) (final : Pool)
    (run : Run step (Allowed events) { table := [], submissions := [] } trace final) : Recorded events final := by
  refine run.invariant (recorded_preserved events traffic)
    ⟨⟨by simp [Handled], List.Pairwise.nil, by simp, by simp⟩, ?_⟩
  rintro event ⟨_, none, _⟩
  cases none

def kept (pool : Pool) : Set Event :=
  {event ∈ unsigned '' Written pool | hasId pool.table (ofHex event.id) = true}

theorem kept_of_row (pool : Pool) (writer : Submission) (inPool : writer ∈ pool.submissions) (wrote : Wrote writer)
    (r : DBEvent) (member : r ∈ pool.table) (carries : Carries writer.event r) : unsigned writer.event ∈ kept pool :=
  ⟨⟨writer.event, ⟨writer, inPool, rfl, wrote⟩, rfl⟩, (hasId_iff ..).mpr ⟨r, member, carries.eventId⟩⟩

theorem row_of_kept (events : Set Event) (traffic : Traffic events) (pool : Pool) (traced : Traced (acceptedFrom events) pool)
    (event : Event) (isKept : event ∈ kept pool) :
    ∃ written, unsigned written = event ∧ ∃ r ∈ pool.table, Carries written r := by
  obtain ⟨⟨submitted, isSubmitted, rfl⟩, stored⟩ := isKept
  obtain ⟨r, member, id⟩ := (hasId_iff ..).mp stored
  obtain ⟨writer, inPool, wrote, carries⟩ := traced.rows r member
  refine ⟨writer.event, ?_, r, member, carries⟩
  obtain ⟨submission, alsoInPool, rfl, alsoWrote⟩ := isSubmitted
  exact unsigned_of_id events traffic writer.event submission.event (submittedAs_wrote events pool traced writer inPool wrote)
    (submittedAs_wrote events pool traced submission alsoInPool alsoWrote) (carries.eventId.symm.trans id)

theorem untied_unsigned (events : Set Event) (traffic : Traffic events) (untied : Untied events) (a b : Event)
    (ofA : SubmittedAs events a) (ofB : SubmittedAs events b) (replacingA : isReplacing a = true)
    (replacingB : isReplacing b = true) (key : eventKey a = eventKey b) (stamp : a.createdAt = b.createdAt) :
    unsigned a = unsigned b := by
  obtain ⟨receivedA, inA, equalA⟩ := ofA
  obtain ⟨receivedB, inB, equalB⟩ := ofB
  have alike {β : Type} (f : Event → β) {x y : Event} (same : unsigned x = unsigned y) :
      f (unsigned x) = f (unsigned y) := congrArg f same
  have id := untied receivedA inA receivedB inB ((alike isReplacing equalA).symm.trans replacingA)
    ((alike isReplacing equalB).symm.trans replacingB)
    ((alike eventKey equalA).symm.trans (key.trans (alike eventKey equalB)))
    ((alike Event.createdAt equalA).symm.trans (stamp.trans (alike Event.createdAt equalB)))
  rw [equalA, equalB]
  exact (unsigned_iff ..).mpr ⟨id, traffic.sameFields receivedA inA receivedB inB id⟩

theorem sameKey_iff_key (a b : Event) (replacing : isReplacing b = true) (r : DBEvent) (isRow : IsRowOf a r) :
    sameKey (bound b) r = true ↔ isReplacing a = true ∧ eventKey a = eventKey b := by
  have kind : replaceableEventsIdx r.eventKind = isReplacing a := by rw [isRow.eventKind, replacing_kind]
  rw [bound, sameKey_iff_holds b replacing, holds, kind, Bool.and_eq_true, beq_iff_eq]
  refine and_congr_right fun alsoReplacing => ?_
  have key : rowKey r = eventKey a := by
    rw [← rowKey_upsertRow a alsoReplacing, rowKey, isRow.eventPubkey, isRow.eventKind,
      isRow.eventDeduplication alsoReplacing]
    rfl
  rw [key]

theorem recorded_keeps (events : Set Event) (traffic : Traffic events) (untied : Untied events) (pool : Pool)
    (recorded : Recorded events pool) : Keeps supersedes (unsigned '' Written pool) (kept pool) := by
  have traced := recorded.traced
  refine ⟨fun _ isKept => isKept.1, ?_, ?_⟩
  · rintro _ ⟨_, ⟨submission, member, rfl, wrote⟩, rfl⟩
    have settled := recorded.settled submission.event ⟨submission, member, rfl, wrote⟩
    unfold Settled at settled
    split at settled
    next replacing =>
      obtain ⟨existing, found, newer⟩ := settled
      have inTable := List.mem_of_find?_eq_some found
      obtain ⟨holder, inPool, alsoWrote, carries⟩ := traced.rows existing inTable
      have isKept := kept_of_row pool holder inPool alsoWrote existing inTable carries
      obtain ⟨alsoReplacing, key⟩ :=
        (sameKey_iff_key holder.event submission.event replacing existing carries.isRow).mp (List.find?_some found)
      rw [carries.isRow.eventCreatedAt] at newer
      rcases newer.eq_or_lt with tied | later
      · rw [untied_unsigned events traffic untied submission.event holder.event
          (submittedAs_wrote events pool traced submission member wrote)
          (submittedAs_wrote events pool traced holder inPool alsoWrote)
          replacing alsoReplacing key.symm tied]
        exact .inl isKept
      · exact .inr ⟨unsigned holder.event, isKept, alsoReplacing, replacing, key, later⟩
    next =>
      obtain ⟨r, inTable, id, _⟩ := settled
      exact .inl ⟨⟨submission.event, ⟨submission, member, rfl, wrote⟩, rfl⟩,
        (hasId_iff ..).mpr ⟨r, inTable, id⟩⟩
  · intro earlier keptEarlier later keptLater supersedes
    obtain ⟨a, rfl, rowA, inA, carriesA⟩ := row_of_kept events traffic pool traced earlier keptEarlier
    obtain ⟨b, rfl, rowB, inB, carriesB⟩ := row_of_kept events traffic pool traced later keptLater
    obtain ⟨replacingB, replacingA, key, older⟩ := (supersedes_unsigned b a).mp supersedes
    have same := single_row pool.table traced.constrained b rowA rowB inA inB
      ((sameKey_iff_key a b replacingB rowA carriesA.isRow).mpr ⟨replacingA, key.symm⟩)
      ((sameKey_iff_key b b replacingB rowB carriesB.isRow).mpr ⟨replacingB, rfl⟩)
    rw [← carriesA.isRow.eventCreatedAt, ← carriesB.isRow.eventCreatedAt, same] at older
    exact lt_irrefl _ older

theorem shown_rows (events : Set Event) (traffic : Traffic events) (untied : Untied events) (pool : Pool)
    (recorded : Recorded events pool) (event : Event) : event ∈ pool.table.map shown ↔
      ∃ survivor ∈ surviving supersedes (unsigned '' Written pool), readBack survivor = event := by
  rw [← (recorded_keeps events traffic untied pool recorded).eq_surviving, List.mem_map]
  constructor
  · rintro ⟨r, member, rfl⟩
    obtain ⟨writer, inPool, wrote, carries⟩ := recorded.traced.rows r member
    exact ⟨unsigned writer.event, kept_of_row pool writer inPool wrote r member carries,
      (shown_carries writer.event r carries).symm⟩
  · rintro ⟨survivor, isKept, rfl⟩
    obtain ⟨written, rfl, r, member, carries⟩ := row_of_kept events traffic pool recorded.traced survivor isKept
    exact ⟨r, member, shown_carries written r carries⟩

theorem shown_distinct (table : EventsTable) (constrained : Constrained table) : (table.map shown).Nodup := by
  refine List.pairwise_map.mpr (constrained.imp ?_)
  rintro a b ⟨different, _⟩ same
  have ids : toHex a.eventId = toHex b.eventId := congrArg Event.id same
  apply different
  rw [← ofHex_toHex a.eventId, ids, ofHex_toHex]

theorem relays_converge (events : Set Event) (traffic : Traffic events) (untied : Untied events)
    (firstTrace secondTrace : List Action) (first second : Pool)
    (firstRun : Run step (Allowed events) { table := [], submissions := [] } firstTrace first)
    (secondRun : Run step (Allowed events) { table := [], submissions := [] } secondTrace second)
    (sameWritten : unsigned '' Written first = unsigned '' Written second) :
    (first.table.map shown).Perm (second.table.map shown) ∧
      ∀ event, event ∈ first.table.map shown ↔
        ∃ survivor ∈ surviving supersedes (unsigned '' Written first), readBack survivor = event := by
  have firstRecorded := run_recorded events traffic firstTrace first firstRun
  have secondRecorded := run_recorded events traffic secondTrace second secondRun
  have firstShown := shown_rows events traffic untied first firstRecorded
  refine ⟨(List.perm_ext_iff_of_nodup ?_ ?_).mpr fun event => ?_, firstShown⟩
  · exact shown_distinct first.table firstRecorded.traced.constrained
  · exact shown_distinct second.table secondRecorded.traced.constrained
  · rw [firstShown, sameWritten, shown_rows events traffic untied second secondRecorded]

def writtenEvents (pool : Pool) : List Event :=
  (pool.submissions.filter fun submission =>
    submission.written.isSome && (statementRow submission.event).storable).map fun submission =>
      unsigned submission.event

theorem mem_writtenEvents (pool : Pool) (event : Event) :
    event ∈ writtenEvents pool ↔ event ∈ unsigned '' Written pool := by
  simp only [writtenEvents, List.mem_map, List.mem_filter, Bool.and_eq_true]
  constructor
  · rintro ⟨submission, ⟨member, written, storable⟩, rfl⟩
    exact ⟨submission.event, ⟨submission, member, rfl, written, storable⟩, rfl⟩
  · rintro ⟨_, ⟨submission, member, rfl, written, storable⟩, rfl⟩
    exact ⟨submission, ⟨member, written, storable⟩, rfl⟩

def exchanged : List Event := [note, profile, laterProfile]

instance (pool : Pool) : DecidablePred (Allowed {event | event ∈ exchanged} pool)
  | .submit handler received => inferInstanceAs (Decidable (passes handler received = true → received ∈ exchanged))
  | .advance _ fates => inferInstanceAs (Decidable (writes fates.insert = true ∧ writes fates.upsert = true))

theorem exchanged_traffic : Traffic {event | event ∈ exchanged} where
  schema := show ∀ event ∈ exchanged, eventSchema event = true by decide +kernel
  sameFields := show ∀ a ∈ exchanged, ∀ b ∈ exchanged, a.id = b.id → SameSignedFields a b by decide +kernel

theorem exchanged_untied : Untied {event | event ∈ exchanged} :=
  show ∀ a ∈ exchanged, ∀ b ∈ exchanged, isReplacing a = true → isReplacing b = true →
    eventKey a = eventKey b → a.createdAt = b.createdAt → a.id = b.id by decide +kernel

def inOrder : List Action :=
  [.submit openHandler note, .submit openHandler profile, .submit openHandler laterProfile,
    .advance 0 {}, .advance 1 {}, .advance 2 {}]

def outOfOrder : List Action :=
  [.submit openHandler note, .submit openHandler profile, .submit openHandler laterProfile,
    .advance 2 {}, .advance 1 {}, .advance 0 {}]

theorem profiles_converge :
    ∃ first second, Run step (Allowed {event | event ∈ exchanged}) { table := [], submissions := [] } inOrder first ∧
      Run step (Allowed {event | event ∈ exchanged}) { table := [], submissions := [] } outOfOrder second ∧
      (first.table.map shown).Perm (second.table.map shown) ∧
      ∀ event, event ∈ first.table.map shown ↔
        ∃ survivor ∈ surviving supersedes (unsigned '' Written first), readBack survivor = event := by
  have ran (trace : List Action) (either : trace ∈ [inOrder, outOfOrder]) :
      (Runs.execute step (Allowed {event | event ∈ exchanged}) { table := [], submissions := [] } trace).map
        writtenEvents = some (exchanged.map unsigned) := by
    revert trace
    decide +kernel
  obtain ⟨first, firstRan, firstWritten⟩ := Option.map_eq_some_iff.mp (ran inOrder (by simp))
  obtain ⟨second, secondRan, secondWritten⟩ := Option.map_eq_some_iff.mp (ran outOfOrder (by simp))
  have same : unsigned '' Written first = unsigned '' Written second := by
    ext event
    rw [← mem_writtenEvents, ← mem_writtenEvents, firstWritten, secondWritten]
  exact ⟨first, second, run_of_execute firstRan, run_of_execute secondRan,
    relays_converge _ exchanged_traffic exchanged_untied inOrder outOfOrder first second (run_of_execute firstRan)
      (run_of_execute secondRan) same⟩

end Nostream.Convergence
