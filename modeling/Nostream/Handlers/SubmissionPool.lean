import Nostream.Handlers.SubmissionStages
import Nostream.Repositories.Writes

set_option autoImplicit false

namespace Nostream.SubmissionPool

open Utf16 Hex Sql Effects EventRepository Writes MessageStages SubmissionStages Slots

/-- EVENT messages that are handled at the same time, on any connections and in any processes. -/
structure Pool where
  table : EventsTable
  submissions : List Submission

inductive Action where
  | submit (handler : EventMessageHandler) (received : Event)
  | advance (i : Nat) (fates : Fates)

def step (pool : Pool) : Action → Option Pool
  | .submit handler received =>
    some { pool with submissions := pool.submissions ++ [start handler received] }
  | .advance i fates =>
    pool.submissions[i]?.bind fun submission =>
      (submission.advance fates pool.table).map fun (advanced, table) =>
        { table := table, submissions := pool.submissions.set i advanced }

theorem step_cases (pool reached : Pool) (action : Action) (taken : step pool action = some reached) :
    (∃ handler received, action = .submit handler received ∧
      reached = { pool with submissions := pool.submissions ++ [start handler received] }) ∨
    ∃ i fates submission advanced table, action = .advance i fates ∧
      pool.submissions[i]? = some submission ∧
      submission.advance fates pool.table = some (advanced, table) ∧
      reached = { table := table, submissions := pool.submissions.set i advanced } := by
  cases action with
  | submit handler received =>
    cases taken
    exact .inl ⟨handler, received, rfl, rfl⟩
  | advance i fates =>
    obtain ⟨submission, found, moved⟩ := Option.bind_eq_some_iff.mp taken
    obtain ⟨⟨advanced, table⟩, ran, rfl⟩ := Option.map_eq_some_iff.mp moved
    exact .inr ⟨i, fates, submission, advanced, table, rfl, found, ran, rfl⟩

inductive Advance (fates : Fates) (submission : Submission) (before : EventsTable) :
    Submission → EventsTable → Prop
  | failed (reason : Thrown) (stage : submission.stage = .deleting) :
      Advance fates submission before (submission.finish (raise reason))
        (((eventRepository fates).deleteByPubkeyAndIds submission.event.pubkey
          (DeleteEventStrategy.eventIdsToDelete submission.event)).run before).2
  | deleted (stage : submission.stage = .deleting) :
      Advance fates submission before { submission with stage := .writing }
        (((eventRepository fates).deleteByPubkeyAndIds submission.event.pubkey
          (DeleteEventStrategy.eventIdsToDelete submission.event)).run before).2
  | written (outcome : Except Thrown Nat) (after : EventsTable) (stage : submission.stage = .writing)
      (ran : (write fates submission.event).run before = (outcome, after)) :
      Advance fates submission before
        { submission.finish (afterWrite submission.handler submission.event outcome) with
          written := some (before, after) } after

theorem advance_cases (fates : Fates) (submission advanced : Submission) (before after : EventsTable)
    (moved : submission.advance fates before = some (advanced, after)) :
    Advance fates submission before advanced after := by
  unfold Submission.advance at moved
  split at moved
  next stage =>
    split at moved
    next reason marked ran =>
      cases moved
      have failed := @Advance.failed fates submission before reason stage
      rwa [ran] at failed
    next count marked ran =>
      cases moved
      have deleted := @Advance.deleted fates submission before stage
      rwa [ran] at deleted
  next stage =>
    cases moved
    exact .written _ _ stage rfl
  next => cases moved

theorem write_replacing (fates : Fates) (event : Event) (replacing : isReplacing event = true) :
    write fates event = EventRepository.upsert fates.upsert event (replacementDeduplication event) := by
  have dispatch := eventStrategyFactory_correct event
  rcases (isReplacing_iff event).mp replacing with strategy | strategy
  · simp only [write, strategy, replacementDeduplication, dispatch.replaceable.mpr strategy, if_true]
    rfl
  · have other : isReplaceableEvent event = false := by
      rw [Bool.eq_false_iff, Ne, dispatch.replaceable, strategy]
      simp
    simp only [write, strategy, replacementDeduplication, other]
    rfl

theorem write_creating (fates : Fates) (event : Event) (replacing : isReplacing event = false) :
    write fates event = EventRepository.create fates.insert event := by
  have neither := mt (isReplacing_iff event).mpr (by simp [replacing])
  rw [not_or] at neither
  unfold write
  split
  next strategy => exact (neither.1 strategy).elim
  next strategy => exact (neither.2 strategy).elim
  next => rfl

end Nostream.SubmissionPool
