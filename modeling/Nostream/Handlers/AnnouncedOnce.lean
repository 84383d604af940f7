import Nostream.Handlers.SettledEvents

set_option autoImplicit false

namespace Nostream.AnnouncedOnce

open Utf16 Hex Sql Effects EventMessageHandler MessageStages SubmissionStages SubmissionPool
open SettledEvents Slots
open Runs hiding execute

def empty : JsString := []

def duplicate : JsString := js "duplicate:"

def announces (submission : Submission) : Bool :=
  match submission.stage with
  | .finished outputs =>
    outputs.messages.contains (.ok submission.event.id true empty) || !outputs.broadcasts.isEmpty
  | _ => false

def isCommandResult : OutgoingMessage → Bool
  | .ok .. => true
  | _ => false

structure Answers (event : Event) (counted : Bool) (outputs : Outputs) : Prop where
  texts : ∀ text, OutgoingMessage.ok event.id true text ∈ outputs.messages →
    text = if counted then empty else duplicate
  quiet : counted = false → outputs.broadcasts = []
  own : ∀ sent ∈ outputs.broadcasts, sent = event
  single : outputs.broadcasts.length ≤ 1
  results : ∀ message ∈ outputs.messages, isCommandResult message = true

def isCounted : Except Thrown Nat → Bool
  | .ok count => count != 0
  | .error _ => false

theorem answers_raise (handler : EventMessageHandler) (event : Event) (reason : Thrown) :
    Answers event false (emitted handler event (raise reason)) := by
  constructor <;>
    simp [emitted, handle_run, reply, IWebSocketAdapter.emitMessage, World.send, World.outputs,
      createCommandResult, isCommandResult]

theorem answers_duplicate (event : Event) :
    Answers event false { messages := [createCommandResult event.id true duplicate], broadcasts := [] } := by
  constructor <;> simp [createCommandResult, isCommandResult]

theorem answers_counted (event : Event) (more : List OutgoingMessage) (shown : List Event)
    (silent : ∀ text, OutgoingMessage.ok event.id true text ∉ more)
    (results : ∀ message ∈ more, isCommandResult message = true) (single : shown = [] ∨ shown = [event]) :
    Answers event true { messages := createCommandResult event.id true empty :: more, broadcasts := shown } := by
  constructor
  · simp [createCommandResult, silent]
  · simp
  · rcases single with rfl | rfl <;> simp
  · rcases single with rfl | rfl <;> simp
  · simpa [createCommandResult, isCommandResult] using results

theorem isCounted_ok (count : Nat) (counted : count ≠ 0) : isCounted (.ok count) = true := by
  simp [isCounted, counted]

section Emitted

variable (handler : EventMessageHandler) (event : Event)

theorem emitted_duplicate :
    emitted handler event (answer (.ok 0) >>= acknowledge handler.webSocket event) =
      { messages := [createCommandResult event.id true duplicate], broadcasts := [] } := rfl

theorem emitted_counted (count : Nat) (counted : count ≠ 0) (quiet : handler.webSocket.broadcastFailure = none) :
    emitted handler event (answer (.ok count) >>= acknowledge handler.webSocket event) =
      { messages := [createCommandResult event.id true empty], broadcasts := [event] } := by
  have ran := acknowledge_counted handler.webSocket event { table := [] } count counted
  rw [quiet] at ran
  rw [emitted, handle_ok ((bind_ok (answer_run ..)).trans ran)]
  rfl

theorem emitted_failed (count : Nat) (counted : count ≠ 0) (reason : Thrown)
    (failure : handler.webSocket.broadcastFailure = some reason) :
    (answer (.ok count) >>= acknowledge handler.webSocket event).run { table := [] } =
      (.error reason, World.send { table := [] } (createCommandResult event.id true empty)) := by
  have ran := acknowledge_counted handler.webSocket event { table := [] } count counted
  rw [failure] at ran
  exact (bind_ok (answer_run ..)).trans ran

end Emitted

theorem answers_acknowledge (handler : EventMessageHandler) (event : Event) (outcome : Except Thrown Nat) :
    Answers event (isCounted outcome)
      (emitted handler event (answer outcome >>= acknowledge handler.webSocket event)) := by
  cases outcome with
  | error reason => exact answers_raise handler event reason
  | ok count =>
    by_cases zero : count = 0
    · subst zero
      rw [emitted_duplicate]
      exact answers_duplicate event
    · rw [isCounted_ok count zero]
      cases failure : handler.webSocket.broadcastFailure with
      | none =>
        rw [emitted_counted handler event count zero failure]
        exact answers_counted event [] [event] (by simp) (by simp) (.inr rfl)
      | some reason =>
        rw [emitted, handle_error (emitted_failed handler event count zero reason failure)]
        exact answers_counted event [createCommandResult event.id false (js "error: unable to process event")] []
          (by simp [createCommandResult]) (by simp [createCommandResult, isCommandResult]) (.inl rfl)

theorem answers_replaceable (handler : EventMessageHandler) (event : Event)
    (outcome : Except Thrown Nat) :
    Answers event (isCounted outcome) (emitted handler event
      (handle (answer outcome >>= acknowledge handler.webSocket event)
        (ReplaceableEventStrategy.onError handler.webSocket event))) := by
  have silent (reason : Thrown) (world : World) :
      ∃ messages : List OutgoingMessage,
        (ReplaceableEventStrategy.onError handler.webSocket event reason).run world =
        (.ok (), { world with sent := world.sent ++ messages.map (·, world.table) }) ∧
          (∀ text, OutgoingMessage.ok event.id true text ∉ messages) ∧
          ∀ message ∈ messages, isCommandResult message = true := by
    unfold ReplaceableEventStrategy.onError
    cases reason with
    | error message =>
      dsimp only
      split <;> exact ⟨[_], rfl, by simp [createCommandResult], by simp [createCommandResult, isCommandResult]⟩
    | other => exact ⟨[], by simp, by simp, by simp⟩
  cases outcome with
  | error reason =>
    obtain ⟨messages, ran, none, results⟩ := silent reason { table := [] }
    have outputs : emitted handler event
        (handle (answer (.error reason) >>= acknowledge handler.webSocket event)
          (ReplaceableEventStrategy.onError handler.webSocket event)) = { messages := messages, broadcasts := [] } := by
      rw [emitted, handle_run, handle_error (bind_error (answer_run ..)), ran]
      simp [World.outputs, Function.comp_def]
    rw [outputs]
    constructor <;> simp_all [isCounted]
  | ok count =>
    by_cases zero : count = 0
    · subst zero
      exact answers_duplicate event
    · rw [isCounted_ok count zero]
      cases failure : handler.webSocket.broadcastFailure with
      | none =>
        have ran := acknowledge_counted handler.webSocket event { table := [] } count zero
        rw [failure] at ran
        rw [emitted, handle_ok (handle_ok ((bind_ok (answer_run ..)).trans ran))]
        exact answers_counted event [] [event] (by simp) (by simp) (.inr rfl)
      | some reason =>
        obtain ⟨messages, ran, none, results⟩ := silent reason
          (World.send { table := [] } (createCommandResult event.id true empty))
        rw [emitted, handle_run, handle_error (emitted_failed handler event count zero reason failure), ran]
        have shown : World.outputs { World.send { table := [] } (createCommandResult event.id true empty) with
            sent := (World.send { table := [] } (createCommandResult event.id true empty)).sent ++
              messages.map (·, (World.send { table := [] } (createCommandResult event.id true empty)).table) } =
            { messages := createCommandResult event.id true empty :: messages, broadcasts := [] } := by
          simp [World.outputs, World.send, Function.comp_def]
        exact shown ▸ answers_counted event messages [] none results (.inl rfl)

theorem answers_afterWrite (handler : EventMessageHandler) (event : Event) (outcome : Except Thrown Nat) :
    Answers event (isCounted outcome) (emitted handler event (afterWrite handler event outcome)) := by
  unfold afterWrite
  split
  · exact answers_replaceable handler event outcome
  · exact answers_acknowledge handler event outcome

theorem answers_rejection (handler : EventMessageHandler) (received event : Event) :
    Answers event false
      { messages := (rejection handler received).map (createCommandResult received.id false)
        broadcasts := [] } := by
  constructor <;> simp [createCommandResult, isCommandResult]

theorem announces_answers (submission : Submission) (counted : Bool) (outputs : Outputs)
    (stage : submission.stage = .finished outputs)
    (answers : Answers submission.event counted outputs) (announced : announces submission = true) :
    counted = true := by
  cases counted with
  | true => rfl
  | false =>
    simp only [announces, stage, answers.quiet rfl, Bool.or_eq_true, List.contains_iff_mem,
      List.isEmpty_nil, Bool.not_true, Bool.false_eq_true, or_false] at announced
    exact absurd (answers.texts empty announced) (by decide)

def OwnBroadcasts (submission : Submission) : Prop :=
  ∀ outputs, submission.stage = .finished outputs → ∀ sent ∈ outputs.broadcasts, sent = submission.event

def OnlyResults (submission : Submission) : Prop :=
  ∀ outputs, submission.stage = .finished outputs → ∀ message ∈ outputs.messages, isCommandResult message = true

structure Announced (event : Event) (pool : Pool) : Prop where
  own : ∀ submission ∈ pool.submissions, OwnBroadcasts submission
  same : ∀ submission ∈ pool.submissions, submission.event.id = event.id →
    (submission.stage = .writing ∨ submission.stage = .deleting) ∨ announces submission = true →
      SameSignedFields submission.event event
  answered : ∀ submission ∈ pool.submissions, submission.event.id = event.id →
    ∀ outputs, submission.stage = .finished outputs → ∃ counted, Answers submission.event counted outputs ∧
      (counted = true → ∃ before after, submission.written = some (before, after) ∧
        Puts submission.event before after)
  settled : ∀ submission ∈ pool.submissions, submission.event.id = event.id →
    announces submission = true → Settled event pool.table
  once : pool.submissions.countP (fun submission =>
    submission.event.id == event.id && announces submission) ≤ 1

-- The ids of accepted events determine the signed fields.
def Allowed (event : Event) (_ : Pool) : Action → Prop
  | .submit handler received =>
    passes handler received = true → received.id = event.id → SameSignedFields received event
  | .advance .. => True

theorem prepared_same (handler : EventMessageHandler) (received event : Event)
    (same : SameSignedFields received event) : SameSignedFields (prepared handler received) event := by
  obtain ⟨_, shape⟩ := prepared_eq handler received
  rw [shape]
  exact ⟨same.pubkey, same.createdAt, same.kind, same.tags, same.content⟩

theorem ephemeral_same (a b : Event) (same : SameSignedFields a b) :
    isEphemeralEvent a = isEphemeralEvent b := by
  rw [isEphemeralEvent, isEphemeralEvent, same.kind]

theorem start_passes (handler : EventMessageHandler) (received : Event)
    (stage : (start handler received).stage = .writing ∨ (start handler received).stage = .deleting) :
    passes handler received = true := by
  by_contra turnedAway
  simp [start, turnedAway] at stage

theorem start_answered (handler : EventMessageHandler) (received event : Event)
    (durable : isEphemeralEvent event = false)
    (same : passes handler received = true → SameSignedFields (prepared handler received) event)
    (outputs : Outputs) (stage : (start handler received).stage = .finished outputs) :
    Answers (start handler received).event false outputs := by
  unfold start at stage
  dsimp only at stage
  split at stage
  next passed =>
    have strategy : eventStrategyFactory (prepared handler received) ≠ .ephemeral := by
      rw [Ne, ← (eventStrategyFactory_correct _).ephemeral, ephemeral_same _ event (same passed), durable]
      simp
    unfold strategyStage at stage
    split at stage
    next ephemeral => exact (strategy ephemeral).elim
    next => split at stage <;> cases stage
    next => cases stage
  next =>
    cases stage
    exact answers_rejection handler received _

theorem start_own (handler : EventMessageHandler) (received : Event) :
    OwnBroadcasts (start handler received) := by
  intro outputs stage
  unfold start at stage ⊢
  dsimp only at stage ⊢
  split at stage
  · unfold strategyStage at stage
    split at stage
    next =>
      cases stage
      exact (answers_acknowledge handler _ (.ok 1)).own
    next => split at stage <;> cases stage
    next => cases stage
  · cases stage
    exact fun sent none => by cases none

theorem start_results (handler : EventMessageHandler) (received : Event) :
    OnlyResults (start handler received) := by
  intro outputs stage
  unfold start at stage
  dsimp only at stage
  split at stage
  · unfold strategyStage at stage
    split at stage
    next =>
      cases stage
      exact (answers_acknowledge handler _ (.ok 1)).results
    next => split at stage <;> cases stage
    next => cases stage
  · cases stage
    exact (answers_rejection handler received received).results

theorem start_quiet (handler : EventMessageHandler) (received event : Event)
    (durable : isEphemeralEvent event = false)
    (same : passes handler received = true → SameSignedFields (prepared handler received) event) :
    announces (start handler received) = false := by
  rw [Bool.eq_false_iff]
  intro announced
  cases stage : (start handler received).stage with
  | finished outputs =>
    have answers := start_answered handler received event durable same outputs stage
    exact absurd (announces_answers _ _ outputs stage answers announced) (by simp)
  | _ => simp [announces, stage] at announced

theorem submit_announced (event : Event) (durable : isEphemeralEvent event = false) (pool : Pool)
    (handler : EventMessageHandler) (received : Event)
    (alike : passes handler received = true → received.id = event.id → SameSignedFields received event)
    (inv : Announced event pool) :
    Announced event { pool with submissions := pool.submissions ++ [start handler received] } := by
  have id : (start handler received).event.id = received.id := prepared_id handler received
  have sameStart (own : (start handler received).event.id = event.id) (passed : passes handler received = true) :
      SameSignedFields (start handler received).event event :=
    prepared_same handler received event (alike passed (id.symm.trans own))
  have quiet (own : (start handler received).event.id = event.id) :=
    start_quiet handler received event durable (sameStart own)
  constructor
  · intro submission member
    rcases List.mem_append.mp member with old | new
    · exact inv.own submission old
    · rw [List.mem_singleton.mp new]
      exact start_own handler received
  · intro submission member own underway
    rcases List.mem_append.mp member with old | new
    · exact inv.same submission old own underway
    · rw [List.mem_singleton.mp new] at own underway ⊢
      rw [quiet own, or_iff_left Bool.false_ne_true] at underway
      exact sameStart own (start_passes handler received underway)
  · intro submission member own outputs stage
    rcases List.mem_append.mp member with old | new
    · exact inv.answered submission old own outputs stage
    · rw [List.mem_singleton.mp new] at own stage ⊢
      exact ⟨false, start_answered handler received event durable (sameStart own) outputs stage, by simp⟩
  · intro submission member own announced
    rcases List.mem_append.mp member with old | new
    · exact inv.settled submission old own announced
    · rw [List.mem_singleton.mp new] at own announced
      rw [quiet own] at announced
      cases announced
  · have none : ((start handler received).event.id == event.id && announces (start handler received)) =
        false := by
      rw [Bool.and_eq_false_iff]
      by_cases own : (start handler received).event.id = event.id
      · exact .inr (quiet own)
      · exact .inl (by simpa using own)
    simpa [List.countP_append, none] using inv.once

structure Answered (event : Event) (before after : EventsTable) (advanced : Submission) : Prop where
  answered : ∀ outputs, advanced.stage = .finished outputs → ∃ counted,
    Answers advanced.event counted outputs ∧ (counted = true → ∃ before after,
      advanced.written = some (before, after) ∧ Puts advanced.event before after)
  announced : announces advanced = true → ¬ Settled event before ∧ Settled event after

theorem advance_answered (event : Event) (fates : Fates) (submission advanced : Submission)
    (before after : EventsTable) (own : submission.event.id = event.id)
    (same : SameSignedFields submission.event event)
    (moved : Advance fates submission before advanced after) : Answered event before after advanced := by
  cases moved with
  | failed reason stage =>
    have answers := answers_raise submission.handler submission.event reason
    refine ⟨fun outputs finished => ⟨false, ?_, by simp⟩, fun announced => ?_⟩
    · cases finished
      exact answers
    · exact absurd (announces_answers (submission.finish (raise reason)) _ _ rfl answers announced)
        (by simp)
  | deleted stage =>
    refine ⟨fun outputs finished => ?_, fun announced => ?_⟩
    · cases finished
    · simp [announces] at announced
  | written outcome after stage ran =>
    have answers := answers_afterWrite submission.handler submission.event outcome
    have wrote (counted : isCounted outcome = true) := by
      cases outcome with
      | error reason => cases counted
      | ok count =>
        exact counted_puts fates submission.event before after count (by simpa [isCounted] using counted) ran
    refine ⟨fun outputs finished => ⟨isCounted outcome, ?_, fun counted => ?_⟩, fun announced => ?_⟩
    · cases finished
      exact answers
    · exact ⟨before, after, rfl, wrote counted⟩
    · have counted := announces_answers { submission.finish
        (afterWrite submission.handler submission.event outcome) with
          written := some (before, after) } _ _ rfl answers announced
      obtain ⟨unsettled, settled⟩ := puts_settles _ _ _ (wrote counted)
      rw [← settled_same submission.event event _ own same, ← settled_same submission.event event _ own same]
      exact ⟨unsettled, settled⟩

theorem advance_own (fates : Fates) (submission advanced : Submission) (before after : EventsTable)
    (moved : Advance fates submission before advanced after) : OwnBroadcasts advanced := by
  intro outputs stage
  cases moved with
  | failed reason =>
    cases stage
    exact (answers_raise submission.handler submission.event reason).own
  | deleted => cases stage
  | written outcome =>
    cases stage
    exact (answers_afterWrite submission.handler submission.event outcome).own

theorem advance_results (fates : Fates) (submission advanced : Submission) (before after : EventsTable)
    (moved : Advance fates submission before advanced after) : OnlyResults advanced := by
  intro outputs stage
  cases moved with
  | failed reason =>
    cases stage
    exact (answers_raise submission.handler submission.event reason).results
  | deleted => cases stage
  | written outcome =>
    cases stage
    exact (answers_afterWrite submission.handler submission.event outcome).results

theorem advance_event (fates : Fates) (submission advanced : Submission) (before after : EventsTable)
    (moved : Advance fates submission before advanced after) : advanced.event = submission.event := by
  cases moved <;> rfl

theorem advance_quiet (fates : Fates) (submission advanced : Submission) (before after : EventsTable)
    (moved : Advance fates submission before advanced after) : announces submission = false := by
  cases moved with
  | failed reason stage => simp [announces, stage]
  | deleted stage => simp [announces, stage]
  | written outcome after stage ran => simp [announces, stage]

theorem advance_active (fates : Fates) (submission advanced : Submission) (before after : EventsTable)
    (moved : Advance fates submission before advanced after) :
    submission.stage = .writing ∨ submission.stage = .deleting := by
  cases moved with
  | failed reason stage => exact .inr stage
  | deleted stage => exact .inr stage
  | written outcome after stage => exact .inl stage

theorem advance_announced (event : Event) (pool : Pool) (i : Nat) (fates : Fates)
    (submission advanced : Submission) (table : EventsTable)
    (found : pool.submissions[i]? = some submission)
    (moved : Advance fates submission pool.table advanced table) (inv : Announced event pool) :
    Announced event { table := table, submissions := pool.submissions.set i advanced } := by
  have member := List.mem_of_getElem? found
  have sameEvent := advance_event fates submission advanced pool.table table moved
  have succeeds := advance_succeeds fates submission advanced pool.table table moved
  have active := advance_active fates submission advanced pool.table table moved
  have step (own : submission.event.id = event.id) :=
    advance_answered event fates submission advanced pool.table table own
      (inv.same submission member own (.inl active)) moved
  constructor
  · intro other inPool
    rcases mem_set_cases inPool with rfl | old
    · exact advance_own fates submission _ pool.table table moved
    · exact inv.own other old
  · intro other inPool own underway
    rcases mem_set_cases inPool with rfl | old
    · rw [sameEvent] at own ⊢
      exact inv.same submission member own (.inl active)
    · exact inv.same other old own underway
  · intro other inPool own
    rcases mem_set_cases inPool with rfl | old
    · exact (step (sameEvent ▸ own)).answered
    · exact inv.answered other old own
  · intro other inPool own announced
    rcases mem_set_cases inPool with rfl | old
    · exact ((step (sameEvent ▸ own)).announced announced).2
    · exact settled_succeeds event _ _ (inv.settled other old own announced) succeeds
  · have counts := countP_set found advanced fun submission =>
      submission.event.id == event.id && announces submission
    have quiet := advance_quiet fates submission advanced pool.table table moved
    simp only [quiet, Bool.and_false, Bool.false_eq_true, if_false, add_zero] at counts
    rw [counts]
    split
    next announced =>
      rw [Bool.and_eq_true, beq_iff_eq, sameEvent] at announced
      have unsettled := ((step announced.1).announced announced.2).1
      have none : pool.submissions.countP (fun submission =>
          submission.event.id == event.id && announces submission) = 0 := by
        rw [List.countP_eq_zero]
        intro other inPool both
        rw [Bool.and_eq_true, beq_iff_eq] at both
        exact unsettled (inv.settled other inPool both.1 both.2)
      rw [none]
    next => exact inv.once

theorem announced_preserved (event : Event) (durable : isEphemeralEvent event = false) :
    Preserves step (Allowed event) (Announced event) := by
  intro pool action reached inv ok taken
  rcases step_cases pool reached action taken with
    ⟨handler, received, rfl, rfl⟩ | ⟨i, fates, submission, advanced, table, rfl, found, moved, rfl⟩
  · exact submit_announced event durable pool handler received ok inv
  · exact advance_announced event pool i fates submission advanced table found
      (advance_cases fates submission advanced pool.table table moved) inv

structure AtMostOnce (event : Event) (pool : Pool) : Prop where
  once : pool.submissions.countP (fun submission =>
    submission.event.id == event.id && announces submission) ≤ 1
  others : ∀ submission ∈ pool.submissions, submission.event.id = event.id →
    announces submission = false → ∀ outputs, submission.stage = .finished outputs →
      outputs.broadcasts = [] ∧ ∀ text, .ok event.id true text ∈ outputs.messages → text = duplicate
  wrote : ∀ submission ∈ pool.submissions, ∀ outputs, submission.stage = .finished outputs →
    ∀ sent ∈ outputs.broadcasts, sent.id = event.id → sent = submission.event ∧
      ∃ before after, submission.written = some (before, after) ∧ Puts submission.event before after

theorem announced_once (event : Event) (durable : isEphemeralEvent event = false)
    (table : EventsTable) (trace : List Action) (final : Pool)
    (run : Run step (Allowed event) { table := table, submissions := [] } trace final) :
    AtMostOnce event final := by
  have inv := run.invariant (announced_preserved event durable)
    ⟨by simp, by simp, by simp, by simp, by simp⟩
  refine ⟨inv.once, ?_, ?_⟩
  · intro submission member own quiet outputs stage
    obtain ⟨counted, answers, _⟩ := inv.answered submission member own outputs stage
    simp only [announces, stage, Bool.or_eq_false_iff, Bool.not_eq_false', List.isEmpty_iff] at quiet
    refine ⟨quiet.2, fun text answered => ?_⟩
    rw [← own] at answered
    cases counted with
    | false => exact answers.texts text answered
    | true =>
      have isEmpty := answers.texts text answered
      rw [if_pos rfl] at isEmpty
      subst isEmpty
      rw [← Bool.not_eq_true, List.contains_iff_mem] at quiet
      exact (quiet.1 answered).elim
  · intro submission member outputs stage sent broadcast ownId
    have isOwn := inv.own submission member outputs stage sent broadcast
    obtain ⟨counted, answers, wrote⟩ := inv.answered submission member (isOwn ▸ ownId) outputs stage
    refine ⟨isOwn, ?_⟩
    cases counted with
    | false =>
      rw [answers.quiet rfl] at broadcast
      cases broadcast
    | true => exact wrote rfl

instance (a b : Event) : Decidable (SameSignedFields a b) :=
  decidable_of_iff (a.pubkey = b.pubkey ∧ a.createdAt = b.createdAt ∧ a.kind = b.kind ∧ a.tags = b.tags ∧
    a.content = b.content)
    ⟨fun ⟨pubkey, createdAt, kind, tags, content⟩ => ⟨pubkey, createdAt, kind, tags, content⟩,
      fun ⟨pubkey, createdAt, kind, tags, content⟩ => ⟨pubkey, createdAt, kind, tags, content⟩⟩

instance (event : Event) (pool : Pool) : DecidablePred (Allowed event pool)
  | .submit handler received =>
    inferInstanceAs (Decidable (passes handler received = true → received.id = event.id →
      SameSignedFields received event))
  | .advance .. => inferInstanceAs (Decidable True)

def race : List Action :=
  [.submit openHandler note, .submit openHandler note, .advance 1 {}, .advance 0 {}]

theorem race_announced_once :
    ∃ final, Run step (Allowed note) { table := [], submissions := [] } race final ∧
      final.submissions.map announces = [false, true] ∧ AtMostOnce note final := by
  have ran : (Runs.execute step (Allowed note) { table := [], submissions := [] } race).map
      (fun final => final.submissions.map announces) = some [false, true] := by decide +kernel
  obtain ⟨final, executed, answers⟩ := Option.map_eq_some_iff.mp ran
  have run := run_of_execute executed
  exact ⟨final, run, answers, announced_once note (by decide) [] race final run⟩

end Nostream.AnnouncedOnce
