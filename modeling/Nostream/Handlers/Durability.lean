import Nostream.Handlers.ReplacementKeys
import Nostream.Handlers.TracedRows
import Nostream.Repositories.QueryAgreement

set_option autoImplicit false

namespace Nostream.Durability

open Utf16 Hex Sql Effects EventRepository Writes MessageStages SubmissionStages SubmissionPool
open SettledEvents DeletedForGood AnnouncedOnce SubscribeMessageHandler TagIndex TracedRows Slots
open ReplacementKeys
open Runs hiding execute

def Holds (event : Event) (r : DBEvent) : Prop :=
  r.eventId = ofHex event.id ∨
    (isReplacing event = true ∧ holds (eventKey event) r = true ∧ event.createdAt < r.eventCreatedAt)

def Held (event : Event) (table : EventsTable) : Prop := ∃ r ∈ table, Holds event r

theorem holds_deleted (event : Event) (r : DBEvent) (isHeld : Holds event r) (deletedAt : Option Int) :
    Holds event { r with deletedAt := deletedAt } := isHeld

theorem holds_merged (event other : Event) (r : DBEvent) (own : r.eventId = ofHex event.id → IsRowOf event r)
    (isHeld : Holds event r) (same : sameKey (bound other) r = true) (older : r.eventCreatedAt < other.createdAt) :
    Holds event (mergeRow r (bound other).stored) := by
  refine .inr ?_
  rcases isHeld with id | ⟨replacing, key, newer⟩
  · have isRow := own id
    have replacing : isReplacing event = true := by
      rw [replacing_kind, ← isRow.eventKind]
      exact ((sameIndexKey_iff _ _).mp same).1
    refine ⟨replacing, (sameKey_iff_holds event replacing r).mp (sameKey_isRowOf event replacing r isRow), ?_⟩
    exact isRow.eventCreatedAt ▸ older
  · exact ⟨replacing, key, newer.trans older⟩

theorem held_puts (event other : Event) (before after : EventsTable) (constrained : Constrained before)
    (own : OwnRows event before) (puts : Puts other before after) (held : Held event before) : Held event after := by
  obtain ⟨r, member, isHeld⟩ := held
  cases puts with
  | inserted => exact ⟨r, List.mem_append_left _ member, isHeld⟩
  | appended => exact ⟨r, List.mem_append_left _ member, isHeld⟩
  | replaced replacing existing found older noOther =>
    refine ⟨_, List.mem_map_of_mem member, ?_⟩
    split
    next same =>
      have isExisting := single_row before constrained other r existing member (List.mem_of_find?_eq_some found) same
        (List.find?_some found)
      exact holds_merged event other r (own r member) isHeld same (isExisting ▸ older)
    next => exact isHeld

theorem held_advance (event : Event) (fates : Fates) (submission advanced : Submission) (before after : EventsTable)
    (constrained : Constrained before) (own : OwnRows event before)
    (moved : Advance fates submission before advanced after) (held : Held event before) : Held event after := by
  rcases advance_effect fates submission advanced before after moved with rfl | ⟨ids, rfl⟩ | ⟨_, puts⟩
  · exact held
  · obtain ⟨r, member, isHeld⟩ := held
    refine ⟨_, List.mem_map_of_mem member, ?_⟩
    split
    · exact holds_deleted event r isHeld _
    · exact isHeld
  · exact held_puts event submission.event before after constrained own puts held

theorem puts_own (event : Event) (before after : EventsTable) (puts : Puts event before after) :
    ∃ r ∈ after, r.eventId = ofHex event.id := by
  cases puts with
  | inserted => exact ⟨_, List.mem_append_right _ (List.mem_singleton_self _), rfl⟩
  | appended => exact ⟨_, List.mem_append_right _ (List.mem_singleton_self _), rfl⟩
  | replaced replacing existing found =>
    refine ⟨_, List.mem_map_of_mem (List.mem_of_find?_eq_some found), ?_⟩
    rw [if_pos (List.find?_some found)]
    rfl

structure Confirmed (events : Set Event) (event : Event) (pool : Pool) : Prop where
  traced : Traced (acceptedFrom events) pool
  held : ∀ submission ∈ pool.submissions, submission.event.id = event.id → announces submission = true →
    Held event pool.table

theorem announced_held (event : Event) (fates : Fates) (submission advanced : Submission) (before after : EventsTable)
    (own : submission.event.id = event.id) (same : SameSignedFields submission.event event)
    (moved : Advance fates submission before advanced after) (announced : announces advanced = true) :
    Held event after := by
  obtain ⟨unsettled, settled⟩ := (advance_answered event fates submission advanced before after own same moved).announced
    announced
  cases moved with
  | failed reason stage =>
    exact absurd (announces_answers (submission.finish (raise reason)) _ _ rfl
      (answers_raise submission.handler submission.event reason) announced) (by simp)
  | deleted => cases announced
  | written outcome after stage ran =>
    have wrote := write_puts fates submission.event before
    rw [ran] at wrote
    rcases wrote with unchanged | puts
    · exact (unsettled (unchanged ▸ settled)).elim
    · obtain ⟨r, member, id⟩ := puts_own submission.event before after puts
      exact ⟨r, member, .inl (own ▸ id)⟩

section Runs

variable (events : Set Event) (traffic : Traffic events) (event : Event) (inEvents : event ∈ events)
  (durable : isEphemeralEvent event = false)

include traffic inEvents

theorem traced_same (pool : Pool) (traced : Traced (acceptedFrom events) pool) (submission : Submission)
    (member : submission ∈ pool.submissions) (passed : Passed submission) (own : submission.event.id = event.id) :
    SameSignedFields submission.event event := by
  have submitted := submittedAs_passed events pool traced.handled submission member passed
  have same := unsigned_of_id events traffic submission.event event submitted ⟨event, inEvents, rfl⟩ (by rw [own])
  exact ((unsigned_iff ..).mp same).2

theorem traced_ownRows (pool : Pool) (traced : Traced (acceptedFrom events) pool) :
    OwnRows event pool.table := fun r member id =>
  (carries_of_id events pool traffic traced event ⟨event, inEvents, rfl⟩ r member id).1

include durable

theorem confirmed_preserved : Preserves step (AcceptedFrom events) (Confirmed events event) := by
  intro pool action reached confirmed ok taken
  have traced := traced_preserved _ pool action reached confirmed.traced ok taken
  refine ⟨traced, ?_⟩
  rcases step_cases pool reached action taken with
    ⟨handler, received, rfl, rfl⟩ | ⟨i, fates, submission, advanced, table, rfl, found, ran, rfl⟩
  · intro submission member own announced
    rcases List.mem_append.mp member with old | new
    · exact confirmed.held submission old own announced
    · rw [List.mem_singleton.mp new] at own announced
      have sameId : received.id = event.id := (prepared_id handler received).symm.trans own
      rw [start_quiet handler received event durable fun passed =>
        prepared_same handler received event (traffic.sameFields received (ok passed) event inEvents sameId)] at announced
      cases announced
  · have moved := advance_cases fates submission advanced pool.table table ran
    have inPool := List.mem_of_getElem? found
    intro other member own announced
    rcases mem_set_cases member with rfl | old
    · rw [advance_event fates submission _ pool.table table moved] at own
      exact announced_held event fates submission _ pool.table table own
        (traced_same events traffic event inEvents pool confirmed.traced submission inPool (passed_of_advance moved)
          own) moved announced
    · exact held_advance event fates submission advanced pool.table table confirmed.traced.constrained
        (traced_ownRows events traffic event inEvents pool confirmed.traced) moved
        (confirmed.held other old own announced)

end Runs

section Requested

variable (database : Database) (constrained : Constrained database.events)
  (sized : ∀ r ∈ database.events, r.eventId.length = 32) (r : DBEvent) (member : r ∈ database.events)

def byId (r : DBEvent) : SubscriptionFilter := { ids := some [toHex r.eventId] }

include constrained sized member

theorem candidates_byId (other : DBEvent) :
    other ∈ database.candidates (findByFilter (byId r)) ↔ other = r := by
  have lower : ∀ start ∈ [toHex r.eventId], isLowerHex start = true := by simp [isLowerHex_toHex]
  rw [FilterUnion.mem_candidates]
  have selects (row : DBEvent) (inTable : row ∈ database.events) :
      (findByFilter (byId r)).selects database.eventTags row = true ↔ toHex r.eventId <+: toHex row.eventId := by
    have search := (FilterCriteria.prefix_search [toHex r.eventId] lower row.eventId (sized row inTable) row).2 rfl
    simp only [List.mem_singleton, exists_eq_left] at search
    rw [← search]
    simp [Query.selects, Query.joined, findByFilter, byId, tagQueries]
  constructor
  · rintro ⟨inTable, selected⟩
    have isPrefix := (toHex_isPrefix r.eventId other.eventId).mp ((selects other inTable).mp selected)
    have same := isPrefix.eq_of_length (by rw [sized r member, sized other inTable])
    exact eq_of_eventId database.events constrained r other member inTable same.symm
  · rintro rfl
    exact ⟨member, (selects other member).mpr (List.prefix_refl _)⟩

theorem served_byId (live : r.deletedAt = none) (subscriptionId : JsString) :
    OutgoingMessage.event subscriptionId (toNostrEvent r) ∈ storedMessages database subscriptionId [byId r] := by
  have valid : (findByFilter (byId r)).valid = true := by
    have criteria := QueryAgreement.hexCriteria_valid [eventsSource] .eventId (by decide) (some [toHex r.eventId])
    rw [← FilterCriteria.wheres_ids] at criteria
    rw [Query.valid, Bool.and_eq_true]
    exact ⟨criteria, rfl⟩
  have found : r ∈ database.rows (findByFilter (byId r)) := by
    rw [FilterUnion.mem_rows, FilterUnion.picks]
    simp only [Bool.and_eq_true, decide_eq_true_eq]
    refine ⟨(candidates_byId database constrained sized r member r).mpr rfl, ?_⟩
    have first : Ranking.rank (database.sortKey (findByFilter (byId r)).orderBy)
        (database.candidates (findByFilter (byId r))) r = 0 := by
      rw [Ranking.rank, List.countP_eq_zero]
      intro other isCandidate
      rw [(candidates_byId database constrained sized r member other).mp isCandidate]
      simp
    rw [first]
    exact Nat.zero_lt_succ 499
  rw [storedMessages, Database.findByFilters, if_pos valid]
  refine (mem_fetchAndSend ..).mpr ⟨rfl, ?_, r, found, by rw [live]; rfl, rfl⟩
  simp [isClientSubscribedToEvent, isEventMatchingFilter, byId, toNostrEvent]

end Requested

structure Lasts (events : Set Event) (event : Event) (final : Pool) (r : DBEvent) : Prop where
  row : (r.eventId = ofHex event.id ∧ shown r = readBack (unsigned event)) ∨
    (isReplacing event = true ∧ holds (eventKey event) r = true ∧ event.createdAt < r.eventCreatedAt)
  served : r.deletedAt = none → ∀ database : Database, database.events = final.table → ∀ subscriptionId,
    OutgoingMessage.event subscriptionId (toNostrEvent r) ∈ storedMessages database subscriptionId [byId r]
  deleted : r.deletedAt.isSome = true → ∃ deletion ∈ final.submissions, ∃ received ∈ events,
    deletion.event = prepared deletion.handler received ∧ Accepted deletion.handler received ∧
      Deletes deletion.event r

theorem announced_lasts (events : Set Event) (traffic : Traffic events) (event : Event) (inEvents : event ∈ events)
    (durable : isEphemeralEvent event = false) (trace : List Action) (final : Pool)
    (run : Run step (AcceptedFrom events) { table := [], submissions := [] } trace final) (submission : Submission)
    (member : submission ∈ final.submissions) (own : submission.event.id = event.id)
    (announced : announces submission = true) : ∃ r ∈ final.table, Lasts events event final r := by
  have confirmed := run.invariant (confirmed_preserved events traffic event inEvents durable)
    ⟨⟨by simp [Handled], List.Pairwise.nil, by simp, by simp⟩, by simp⟩
  have traced := confirmed.traced
  obtain ⟨r, inTable, isHeld⟩ := confirmed.held submission member own announced
  have sized : ∀ other ∈ final.table, other.eventId.length = 32 := by
    intro other otherMember
    obtain ⟨writer, inPool, wrote, carries⟩ := traced.rows other otherMember
    obtain ⟨lower, length⟩ := id_schema events traffic writer.event
      (submittedAs_wrote events final traced writer inPool wrote)
    rw [carries.eventId, ofHex_length _ lower (by rw [length]), length]
  refine ⟨r, inTable, ?_, ?_, fun mark => ?_⟩
  · refine isHeld.imp (fun id => ⟨id, ?_⟩) id
    exact (carries_of_id events final traffic traced event ⟨event, inEvents, rfl⟩ r inTable id).2
  · intro live database same subscriptionId
    exact served_byId database (same ▸ traced.constrained) (same ▸ sized) r (same ▸ inTable) live subscriptionId
  · obtain ⟨deletion, inPool, received, offered, prepared, accepted, deletes⟩ := traced.marked r inTable mark
    exact ⟨deletion, inPool, received, offered ((passes_iff ..).mpr accepted), prepared, accepted, deletes⟩

def profilesInTurn : List Action :=
  [.submit openHandler profile, .advance 0 {}, .submit openHandler laterProfile, .advance 1 {}]

def twoProfiles : Set Event := {event | event ∈ [profile, laterProfile]}

theorem profile_lasts :
    ∃ final, Run step (AcceptedFrom twoProfiles) { table := [], submissions := [] } profilesInTurn final ∧
      ∃ r ∈ final.table, Lasts twoProfiles profile final r := by
  have traffic : Traffic twoProfiles :=
    { schema := show ∀ event ∈ [profile, laterProfile], eventSchema event = true by decide +kernel
      sameFields := show ∀ a ∈ [profile, laterProfile], ∀ b ∈ [profile, laterProfile], a.id = b.id →
        SameSignedFields a b by decide +kernel }
  have ran : (Runs.execute step (AcceptedFrom {event | event ∈ [profile, laterProfile]})
      { table := [], submissions := [] } profilesInTurn).map (fun final => final.submissions.map fun submission =>
        (submission.event.id == profile.id, announces submission)) = some [(true, true), (false, true)] := by
    decide +kernel
  obtain ⟨final, executed, answers⟩ := Option.map_eq_some_iff.mp ran
  have run := run_of_execute executed
  obtain ⟨submission, member, values⟩ := List.mem_map.mp
    (answers ▸ List.mem_cons_self : (true, true) ∈ final.submissions.map fun submission =>
      (submission.event.id == profile.id, announces submission))
  rw [Prod.mk.injEq, beq_iff_eq] at values
  exact ⟨final, run, announced_lasts twoProfiles traffic profile (show profile ∈ [profile, laterProfile] by simp)
    (by decide) profilesInTurn final run submission member values.1 values.2⟩

end Nostream.Durability
