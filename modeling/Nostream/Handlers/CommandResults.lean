import Nostream.Handlers.MessageStages

set_option autoImplicit false

namespace Nostream.CommandResults

open Utf16 Effects EventMessageHandler MessageStages

def isResultFor (id : JsString) : OutgoingMessage → Bool
  | .ok eventId _ _ => eventId == id
  | _ => false

def results (id : JsString) (world : World) : Nat :=
  world.sent.countP fun (message, _) => isResultFor id message

def AnswersOnce (handler : EventMessageHandler) (event : Event) (table : EventsTable) : Prop :=
  results event.id ((handler.handleMessage event).run { table := table }).2 = 1

def writeOutcome (repository : IEventRepository) (event : Event) (table : EventsTable) :
    EventStrategy → Except Thrown Nat
  | .ephemeral => .ok 1
  | .default => ((repository.create event).run table).1
  | .parameterizedReplaceable =>
    ((repository.upsert event (some (ParameterizedReplaceableEventStrategy.deduplication event))).run
      table).1
  | .replaceable => ((repository.upsert event none).run table).1
  | .delete =>
    let ids := DeleteEventStrategy.eventIdsToDelete event
    if ids = [] then ((repository.create event).run table).1
    else match (repository.deleteByPubkeyAndIds event.pubkey ids).run table with
      | (.error reason, _) => .error reason
      | (.ok _, marked) => ((repository.create event).run marked).1

def BroadcastSafe (failure : Option Thrown) : Except Thrown Nat → Prop
  | .ok count => count = 0 ∨ failure = none
  | .error _ => True

def StrategyAnswers (failure : Option Thrown) : EventStrategy → Except Thrown Nat → Prop
  | .replaceable, .ok count => count = 0 ∨ failure = none ∨ failure = some .other
  | .replaceable, .error reason => reason ≠ .other
  | _, outcome => BroadcastSafe failure outcome

section Stages

variable (handler : EventMessageHandler)

def AnswersCondition (received : Event) (table : EventsTable) : Prop :=
  let event := prepared handler received
  isPassed handler received →
    (∀ outcome ∈ hits handler event, ∃ limited, outcome = .ok limited) ∧
    (.ok true ∉ hits handler event → handler.canAcceptEvent event = none →
      (∀ outcome ∈ userLookup handler event, ∃ user, outcome = .ok user) ∧
      ((∀ user, userLookup handler event = some (.ok user) → handler.admission user = none) →
        ∀ strategy ∈ handler.strategyFactory event,
          StrategyAnswers handler.webSocket.broadcastFailure strategy
            (writeOutcome handler.repository event table strategy)))

end Stages

theorem results_send (id : JsString) (world : World) (message : OutgoingMessage) :
    results id (world.send message) = results id world + if isResultFor id message then 1 else 0 := by
  simp [results, World.send, List.countP_append, List.countP_cons]

@[simp]
theorem results_withTable (id : JsString) (table : EventsTable) (world : World) :
    results id (world.withTable table) = results id world := rfl

@[simp]
theorem isResultFor_createCommandResult (id : JsString) (successful : Bool) (text : JsString) :
    isResultFor id (createCommandResult id successful text) = true := by
  simp [isResultFor, createCommandResult]

theorem reply_run (handler : EventMessageHandler) (event : Event) (reason : JsString) (world : World) :
    (handler.reply event reason).run world =
      (.ok (), world.send (createCommandResult event.id false reason)) := rfl

theorem results_reply (handler : EventMessageHandler) (event : Event) (reason : JsString) (world : World) :
    results event.id ((handler.reply event reason).run world).2 = results event.id world + 1 := by
  simp [reply_run, results_send]

def ending (failure : Option Thrown) : Except Thrown Nat → Except Thrown Unit
  | .error reason => .error reason
  | .ok count => if count = 0 then .ok () else match failure with
    | some reason => .error reason
    | none => .ok ()

theorem ending_ok (failure : Option Thrown) (count : Nat) (value : Unit) :
    ending failure (.ok count) = .ok value ↔ count = 0 ∨ failure = none := by
  cases failure <;> by_cases zero : count = 0 <;> simp [ending, zero]

theorem ending_error (failure : Option Thrown) (count : Nat) (reason : Thrown) :
    ending failure (.ok count) = .error reason ↔ count ≠ 0 ∧ failure = some reason := by
  cases failure <;> by_cases zero : count = 0 <;> simp [ending, zero]

def answersBefore : Except Thrown Nat → Nat
  | .ok _ => 1
  | .error _ => 0

structure Writes (body : Handling Unit) (id : JsString) (failure : Option Thrown) (world : World)
    (outcome : Except Thrown Nat) : Prop where
  ends : (body.run world).1 = ending failure outcome
  answers : results id (body.run world).2 = results id world + answersBefore outcome

theorem acknowledge_run (webSocket : IWebSocketAdapter) (event : Event) (count : Nat) (world : World) :
    Writes (acknowledge webSocket event count) event.id webSocket.broadcastFailure world (.ok count) := by
  by_cases none : count = 0
  · subst none
    constructor
    · rw [acknowledge_zero]
      rfl
    · rw [acknowledge_zero, results_send]
      simp [answersBefore]
  · have kept (reached : World) : results event.id (reached.broadcast event) = results event.id reached := rfl
    constructor
    · rw [acknowledge_counted webSocket event world count none]
      cases webSocket.broadcastFailure <;> simp [ending, none]
    · rw [acknowledge_counted webSocket event world count none]
      cases webSocket.broadcastFailure <;> simp [answersBefore, results_send, kept]

theorem write_run (webSocket : IWebSocketAdapter) (event : Event)
    (statement : Effect EventsTable Thrown Nat) (world : World) :
    Writes (onTable statement >>= acknowledge webSocket event) event.id webSocket.broadcastFailure
      world (statement.run world.table).1 := by
  have ran : (onTable statement).run world =
      ((statement.run world.table).1, world.withTable (statement.run world.table).2) := rfl
  cases outcome : (statement.run world.table).1 with
  | error reason =>
    rw [outcome] at ran
    refine ⟨by rw [bind_error ran, ending], ?_⟩
    rw [bind_error ran]
    simp [answersBefore]
  | ok count =>
    rw [outcome] at ran
    have answered := acknowledge_run webSocket event count (world.withTable (statement.run world.table).2)
    refine ⟨?_, ?_⟩ <;> rw [bind_ok ran]
    · exact answered.ends
    · simpa using answered.answers

theorem delete_run (webSocket : IWebSocketAdapter) (repository : IEventRepository) (event : Event)
    (world : World) :
    Writes (DeleteEventStrategy.execute webSocket repository event) event.id
      webSocket.broadcastFailure world (writeOutcome repository event world.table .delete) := by
  by_cases none : DeleteEventStrategy.eventIdsToDelete event = []
  · have plain : DeleteEventStrategy.execute webSocket repository event =
        onTable (repository.create event) >>= acknowledge webSocket event := by
      unfold DeleteEventStrategy.execute
      rw [if_neg (by simp [none])]
    rw [plain]
    simpa [writeOutcome, none] using write_run webSocket event (repository.create event) world
  · have both : DeleteEventStrategy.execute webSocket repository event =
        onTable (repository.deleteByPubkeyAndIds event.pubkey (DeleteEventStrategy.eventIdsToDelete event)) >>=
          fun _ => onTable (repository.create event) >>= acknowledge webSocket event := by
      unfold DeleteEventStrategy.execute
      rw [if_pos none]
    rw [both]
    simp only [writeOutcome, none, if_false]
    cases ran : (repository.deleteByPubkeyAndIds event.pubkey
        (DeleteEventStrategy.eventIdsToDelete event)).run world.table with
    | mk outcome marked =>
      have lifted : (onTable (repository.deleteByPubkeyAndIds event.pubkey
          (DeleteEventStrategy.eventIdsToDelete event))).run world = (outcome, world.withTable marked) := by
        simp [onTable, ran]
      cases outcome with
      | error reason =>
        refine ⟨by rw [bind_error lifted, ending], ?_⟩
        rw [bind_error lifted]
        simp [answersBefore]
      | ok count =>
        have answered := write_run webSocket event (repository.create event) (world.withTable marked)
        refine ⟨?_, ?_⟩ <;> rw [bind_ok lifted]
        · exact answered.ends
        · exact answered.answers

theorem ephemeral_run (webSocket : IWebSocketAdapter) (event : Event) (world : World) :
    Writes (EphemeralEventStrategy.execute webSocket event) event.id webSocket.broadcastFailure world
      (.ok 1) :=
  acknowledge_run webSocket event 1 world

theorem handled (handler : EventMessageHandler) (body : Handling Unit) (event : Event) (world : World)
    (outcome : Except Thrown Nat)
    (writes : Writes body event.id handler.webSocket.broadcastFailure world outcome) (text : JsString) :
    results event.id ((handle body fun _ => handler.reply event text).run world).2 =
        results event.id world + 1 ↔
      BroadcastSafe handler.webSocket.broadcastFailure outcome := by
  have ran : body.run world = (ending handler.webSocket.broadcastFailure outcome, (body.run world).2) :=
    Prod.ext writes.ends rfl
  have answers := writes.answers
  cases ended : ending handler.webSocket.broadcastFailure outcome with
  | ok done =>
    rw [ended] at ran
    rw [handle_ok ran, answers]
    cases outcome with
    | error reason => cases ended
    | ok count =>
      rw [ending_ok] at ended
      simp [answersBefore, BroadcastSafe, ended]
  | error reason =>
    rw [ended] at ran
    rw [handle_error ran, results_reply, answers]
    cases outcome with
    | error reason => simp [answersBefore, BroadcastSafe]
    | ok count =>
      rw [ending_error] at ended
      simp [answersBefore, BroadcastSafe, ended]

theorem results_onError (webSocket : IWebSocketAdapter) (event : Event) (reason : Thrown) (world : World) :
    results event.id ((ReplaceableEventStrategy.onError webSocket event reason).run world).2 =
        results event.id world + (if reason = .other then 0 else 1) ∧
      ((ReplaceableEventStrategy.onError webSocket event reason).run world).1 = .ok () := by
  unfold ReplaceableEventStrategy.onError
  cases reason with
  | error message =>
    simp only [reduceCtorEq, if_false]
    split <;> simp [IWebSocketAdapter.emitMessage, results_send]
  | other => simp

theorem caught (webSocket : IWebSocketAdapter) (body : Handling Unit) (event : Event) (world : World)
    (outcome : Except Thrown Nat)
    (writes : Writes body event.id webSocket.broadcastFailure world outcome) :
    ((handle body (ReplaceableEventStrategy.onError webSocket event)).run world).1 = .ok () ∧
      (results event.id ((handle body (ReplaceableEventStrategy.onError webSocket event)).run world).2 =
          results event.id world + 1 ↔
        StrategyAnswers webSocket.broadcastFailure .replaceable outcome) := by
  have ran : body.run world = (ending webSocket.broadcastFailure outcome, (body.run world).2) :=
    Prod.ext writes.ends rfl
  have answers := writes.answers
  cases ended : ending webSocket.broadcastFailure outcome with
  | ok done =>
    rw [ended] at ran
    rw [handle_ok ran, answers]
    refine ⟨rfl, ?_⟩
    cases outcome with
    | error reason => cases ended
    | ok count =>
      rw [ending_ok] at ended
      simp only [answersBefore, StrategyAnswers, true_iff]
      tauto
  | error reason =>
    rw [ended] at ran
    obtain ⟨counted, quiet⟩ := results_onError webSocket event reason (body.run world).2
    rw [handle_error ran, counted, answers]
    refine ⟨quiet, ?_⟩
    cases outcome with
    | error thrown =>
      simp only [ending, Except.error.injEq] at ended
      by_cases silent : thrown = .other <;> simp [answersBefore, StrategyAnswers, ← ended, silent]
    | ok count =>
      rw [ending_error] at ended
      by_cases silent : reason = .other <;> simp [answersBefore, StrategyAnswers, ended, silent]

theorem replaceable_run (handler : EventMessageHandler) (event : Event) (world : World) (text : JsString) :
    results event.id ((handle (ReplaceableEventStrategy.execute handler.webSocket handler.repository event)
        fun _ => handler.reply event text).run world).2 = results event.id world + 1 ↔
      StrategyAnswers handler.webSocket.broadcastFailure .replaceable
        (writeOutcome handler.repository event world.table .replaceable) := by
  obtain ⟨quiet, answers⟩ := caught handler.webSocket _ event world _
    (write_run handler.webSocket event (handler.repository.upsert event none) world)
  rw [ReplaceableEventStrategy.execute, handle_ok (Prod.ext quiet rfl)]
  exact answers

theorem executeStrategy_run (handler : EventMessageHandler) (event : Event) (world : World) :
    results event.id ((handler.executeStrategy event).run world).2 = results event.id world + 1 ↔
      ∀ strategy ∈ handler.strategyFactory event,
        StrategyAnswers handler.webSocket.broadcastFailure strategy
          (writeOutcome handler.repository event world.table strategy) := by
  unfold executeStrategy
  cases chosen : handler.strategyFactory event with
  | none => simp [results_reply]
  | some strategy =>
    simp only [Option.mem_def, Option.some.injEq, forall_eq']
    cases strategy with
    | replaceable => exact replaceable_run handler event world _
    | ephemeral => exact handled handler _ event world _ (ephemeral_run handler.webSocket event world) _
    | delete =>
      exact handled handler _ event world _ (delete_run handler.webSocket handler.repository event world) _
    | parameterizedReplaceable => exact handled handler _ event world _ (write_run handler.webSocket event _ world) _
    | default => exact handled handler _ event world _ (write_run handler.webSocket event _ world) _

theorem admission_answers (handler : EventMessageHandler) (event : Event) (world : World) :
    results event.id ((handler.isUserAdmitted event >>= fun
        | some reason => handler.reply event reason
        | none => handler.executeStrategy event).run world).2 = results event.id world + 1 ↔
      (∀ outcome ∈ userLookup handler event, ∃ user, outcome = .ok user) ∧
        ((∀ user, userLookup handler event = some (.ok user) → handler.admission user = none) →
          ∀ strategy ∈ handler.strategyFactory event,
            StrategyAnswers handler.webSocket.broadcastFailure strategy
              (writeOutcome handler.repository event world.table strategy)) := by
  have ran := isUserAdmitted_run handler event world
  have strategy := executeStrategy_run handler event world
  match lookup : userLookup handler event with
  | none =>
    simp only [lookup] at ran
    rw [bind_ok ran, strategy]
    simp
  | some (.error reason) =>
    simp only [lookup] at ran
    rw [bind_error ran]
    simp
  | some (.ok user) =>
    simp only [lookup] at ran
    rw [bind_ok ran]
    cases admitted : handler.admission user with
    | some reason => simp [results_reply, admitted]
    | none => simp [strategy, admitted]

theorem limiter_answers (handler : EventMessageHandler) (event : Event) (world : World)
    (next : Handling Unit) :
    results event.id ((handler.isRateLimited event >>= fun limited =>
        if limited then handler.reply event (js "rate-limited: slow down") else next).run world).2 =
          results event.id world + 1 ↔
      (∀ outcome ∈ hits handler event, ∃ limited, outcome = .ok limited) ∧
        (.ok true ∉ hits handler event →
          results event.id (next.run world).2 = results event.id world + 1) := by
  rcases isRateLimited_run handler event world with ⟨reason, member, ran⟩ | ⟨all, limited, ran, same⟩
  · rw [bind_error ran]
    have thrown : ¬ ∀ outcome ∈ hits handler event, ∃ limited, outcome = .ok limited := by
      intro all
      obtain ⟨_, impossible⟩ := all _ member
      cases impossible
    exact ⟨fun count => by simp at count, fun condition => (thrown condition.1).elim⟩
  · rw [bind_ok ran]
    cases limited with
    | true =>
      have limited := same.mp rfl
      exact ⟨fun _ => ⟨all, fun unlimited => (unlimited limited).elim⟩, fun _ => results_reply handler event _ world⟩
    | false =>
      have passed : .ok true ∉ hits handler event := fun member => by simpa using same.mpr member
      simp only [Bool.false_eq_true, if_false, passed, not_false_eq_true, true_imp_iff]
      exact (and_iff_right all).symm

theorem answers_once_iff (handler : EventMessageHandler) (received : Event) (table : EventsTable) :
    AnswersOnce handler received table ↔ AnswersCondition handler received table := by
  have start : results received.id { table := table } = 0 := rfl
  have limiter := limiter_answers handler (prepared handler received) { table := table }
  have admission := admission_answers handler (prepared handler received) { table := table }
  simp only [prepared_id, start, zero_add] at limiter admission
  have replied (reason : JsString) :
      results received.id ((handler.reply received reason).run { table := table }).2 = 1 :=
    results_reply handler received reason { table := table }
  simp only [AnswersOnce, handleMessage_eq, AnswersCondition, isPassed]
  cases valid : handler.isEventValid received with
  | some reason => simp [replied]
  | none =>
    cases expired : isExpiredEvent handler.expiryClock received with
    | true => simp [replied]
    | false =>
      simp only [Bool.false_eq_true, if_false, and_self, true_imp_iff]
      rw [limiter]
      refine and_congr_right fun _ => imp_congr_right fun _ => ?_
      cases accepted : handler.canAcceptEvent (prepared handler received) with
      | some reason =>
        have answered := results_reply handler (prepared handler received) reason { table := table }
        rw [prepared_id, start] at answered
        simpa using answered
      | none =>
        exact admission.trans ⟨fun answers _ => answers, fun answers => answers rfl⟩

def brokenLimiter : EventMessageHandler :=
  { openHandler with
    settings := { limits := some { event := some { rateLimits := some [{ period := 60000, rate := 6 }] } } }
    hit := fun _ _ => .error (.error "The client is closed") }

theorem broken_limiter_silent :
    ¬ ∀ (handler : EventMessageHandler) (event : Event) (table : EventsTable),
      handler.strategyFactory = (fun event => some (eventStrategyFactory event)) →
        eventSchema event = true → AnswersOnce handler event table := by
  intro claim
  have answered : results note.id ((brokenLimiter.handleMessage note).run { table := [] }).2 = 1 :=
    claim brokenLimiter note [] rfl (by decide +kernel)
  have silent : results note.id ((brokenLimiter.handleMessage note).run { table := [] }).2 = 0 := by
    decide +kernel
  omega

end Nostream.CommandResults
