import Nostream.Handlers.MessageStages
import Nostream.Shared.Runs
import Nostream.Shared.Slots

set_option autoImplicit false

namespace Nostream

open Utf16 Hex Effects EventMessageHandler MessageStages

structure Outputs where
  messages : List OutgoingMessage
  broadcasts : List Event

def World.outputs (world : World) : Outputs :=
  { messages := world.sent.map Prod.fst
    broadcasts := world.broadcasts }

namespace SubmissionStages

/-- Where the handling of an EVENT message stands between the statements it awaits. -/
inductive Stage where
  | deleting
  | writing
  | finished (outputs : Outputs)

structure Submission where
  handler : EventMessageHandler
  event : Event
  stage : Stage
  written : Option (EventsTable × EventsTable) := none

def passes (handler : EventMessageHandler) (received : Event) : Bool :=
  (handler.isEventValid received).isNone && !isExpiredEvent handler.expiryClock received &&
    ((hits handler (prepared handler received)).all fun
      | .ok limited => !limited
      | .error _ => false) &&
    (handler.canAcceptEvent (prepared handler received)).isNone &&
    (userLookup handler (prepared handler received)).all fun
      | .ok user => (handler.admission user).isNone
      | .error _ => false

def rejection (handler : EventMessageHandler) (received : Event) : List JsString :=
  match handler.isEventValid received with
  | some reason => [reason]
  | none =>
    if isExpiredEvent handler.expiryClock received then [js "event is expired"]
    else if (hits handler (prepared handler received)).any fun
      | .ok _ => false
      | .error _ => true
    then []
    else if (hits handler (prepared handler received)).any fun
      | .ok limited => limited
      | .error _ => false
    then [js "rate-limited: slow down"]
    else match handler.canAcceptEvent (prepared handler received) with
    | some reason => [reason]
    | none => match userLookup handler (prepared handler received) with
      | some (.ok user) => (handler.admission user).toList
      | _ => []

def emitted (handler : EventMessageHandler) (event : Event) (body : Handling Unit) : Outputs :=
  ((handle body fun _ => handler.reply event (js "error: unable to process event")).run
    { table := [] }).2.outputs

def strategyStage (handler : EventMessageHandler) (event : Event) : Stage :=
  match eventStrategyFactory event with
  | .ephemeral => .finished (emitted handler event (EphemeralEventStrategy.execute handler.webSocket event))
  | .delete => if DeleteEventStrategy.eventIdsToDelete event = [] then .writing else .deleting
  | _ => .writing

def start (handler : EventMessageHandler) (received : Event) : Submission :=
  { handler := handler
    event := prepared handler received
    stage := if passes handler received then strategyStage handler (prepared handler received)
      else .finished
        { messages := (rejection handler received).map (createCommandResult received.id false)
          broadcasts := [] } }

def write (fates : Fates) (event : Event) : Effect EventsTable Thrown Nat :=
  match eventStrategyFactory event with
  | .replaceable => (eventRepository fates).upsert event none
  | .parameterizedReplaceable =>
    (eventRepository fates).upsert event (some (ParameterizedReplaceableEventStrategy.deduplication event))
  | _ => (eventRepository fates).create event

def afterWrite (handler : EventMessageHandler) (event : Event) (outcome : Except Thrown Nat) :
    Handling Unit :=
  match eventStrategyFactory event with
  | .replaceable =>
    handle (answer outcome >>= acknowledge handler.webSocket event)
      (ReplaceableEventStrategy.onError handler.webSocket event)
  | _ => answer outcome >>= acknowledge handler.webSocket event

namespace Submission

def finish (submission : Submission) (body : Handling Unit) : Submission :=
  { submission with stage := .finished (emitted submission.handler submission.event body) }

def advance (fates : Fates) (submission : Submission) (table : EventsTable) :
    Option (Submission × EventsTable) :=
  match submission.stage with
  | .deleting =>
    match ((eventRepository fates).deleteByPubkeyAndIds submission.event.pubkey
        (DeleteEventStrategy.eventIdsToDelete submission.event)).run table with
    | (.error reason, marked) => some (submission.finish (raise reason), marked)
    | (.ok _, marked) => some ({ submission with stage := .writing }, marked)
  | .writing =>
    match (write fates submission.event).run table with
    | (outcome, after) =>
      some ({ submission.finish (afterWrite submission.handler submission.event outcome) with
        written := some (table, after) }, after)
  | .finished _ => none

end Submission

theorem accepted_storing (handler : EventMessageHandler) (fates : Fates) (received : Event) :
    Accepted (handler.storing fates) received ↔ Accepted handler received :=
  ⟨fun accepted => ⟨accepted.passed, accepted.unlimited, accepted.acceptable, accepted.admitted⟩,
    fun accepted => ⟨accepted.passed, accepted.unlimited, accepted.acceptable, accepted.admitted⟩⟩

theorem passes_iff (handler : EventMessageHandler) (received : Event) :
    passes handler received = true ↔ Accepted handler received := by
  have free : ((hits handler (prepared handler received)).all fun
      | .ok limited => !limited
      | .error _ => false) = true ↔
        ∀ outcome ∈ hits handler (prepared handler received), outcome = .ok false := by
    rw [List.all_eq_true]
    refine forall₂_congr fun outcome _ => ?_
    rcases outcome with reason | _ | _ <;> simp
  have admitted : ((userLookup handler (prepared handler received)).all fun
      | .ok user => (handler.admission user).isNone
      | .error _ => false) = true ↔
        ∀ outcome ∈ userLookup handler (prepared handler received),
          ∃ user, outcome = .ok user ∧ handler.admission user = none := by
    rcases userLookup handler (prepared handler received) with _ | reason | user <;> simp
  simp only [passes, Bool.and_eq_true, free, admitted, Option.isNone_iff_eq_none, Bool.not_eq_true']
  constructor
  · rintro ⟨⟨⟨⟨valid, unexpired⟩, unlimited⟩, acceptable⟩, user⟩
    exact ⟨⟨valid, unexpired⟩, unlimited, acceptable, user⟩
  · rintro ⟨⟨valid, unexpired⟩, unlimited, acceptable, user⟩
    exact ⟨⟨⟨⟨valid, unexpired⟩, unlimited⟩, acceptable⟩, user⟩

def World.replied (world : World) (event : Event) (reasons : List JsString) : World :=
  { world with
    sent := world.sent ++
      reasons.map fun reason => (createCommandResult event.id false reason, world.table) }

theorem replied_nil (world : World) (event : Event) : World.replied world event [] = world := by
  simp [World.replied]

theorem reply_prepared (handler : EventMessageHandler) (received : Event) (reason : JsString)
    (world : World) :
    ((handler.reply (prepared handler received) reason).run world).2 =
      World.replied world received [reason] := by
  rw [World.replied, ← prepared_id handler received]
  rfl

theorem rejected_run (handler : EventMessageHandler) (received : Event)
    (rejected : ¬ Accepted handler received) (world : World) :
    ((handler.handleMessage received).run world).2 =
      World.replied world received (rejection handler received) := by
  unfold rejection
  rw [handleMessage_eq]
  cases valid : handler.isEventValid received with
  | some reason => rfl
  | none =>
    cases expired : isExpiredEvent handler.expiryClock received with
    | true => rfl
    | false =>
      simp only [Bool.false_eq_true, if_false]
      rcases isRateLimited_run handler (prepared handler received) world with
        ⟨reason, member, ran⟩ | ⟨all, limited, ran, same⟩
      · rw [bind_error ran, if_pos (List.any_eq_true.mpr ⟨_, member, rfl⟩), replied_nil]
      · have unfailed (failed : Except Thrown Bool → Bool) (onlyErrors : ∀ limited, failed (.ok limited) = false) :
            ¬ (hits handler (prepared handler received)).any failed = true := by
          rw [List.any_eq_true]
          rintro ⟨outcome, member, hasFailed⟩
          obtain ⟨limited, rfl⟩ := all outcome member
          rw [onlyErrors] at hasFailed
          cases hasFailed
        rw [bind_ok ran, if_neg (unfailed _ (by exact fun _ => rfl))]
        cases limited with
        | true =>
          rw [if_pos rfl, if_pos (List.any_eq_true.mpr ⟨_, same.mp rfl, rfl⟩), reply_prepared]
        | false =>
          have unlimited : ∀ outcome ∈ hits handler (prepared handler received), outcome = .ok false := by
            intro outcome member
            obtain ⟨limited, rfl⟩ := all outcome member
            cases limited with
            | false => rfl
            | true => simpa using same.mpr member
          rw [if_neg (by simp), if_neg]
          · cases acceptable : handler.canAcceptEvent (prepared handler received) with
            | some reason => exact reply_prepared handler received reason world
            | none =>
              have admitted := isUserAdmitted_run handler (prepared handler received) world
              cases lookup : userLookup handler (prepared handler received) with
              | none =>
                exact (rejected ⟨⟨valid, expired⟩, unlimited, acceptable, by simp [lookup]⟩).elim
              | some looked =>
                cases looked with
                | error reason =>
                  simp only [lookup] at admitted
                  dsimp only
                  rw [bind_error admitted, replied_nil]
                | ok user =>
                  simp only [lookup] at admitted
                  dsimp only
                  rw [bind_ok admitted]
                  cases verdict : handler.admission user with
                  | some reason => exact reply_prepared handler received reason world
                  | none =>
                    refine (rejected ⟨⟨valid, expired⟩, unlimited, acceptable, ?_⟩).elim
                    rw [lookup]
                    rintro _ ⟨⟩
                    exact ⟨user, rfl, verdict⟩
          · rw [List.any_eq_true]
            rintro ⟨outcome, member, isLimited⟩
            rw [unlimited outcome member] at isLimited
            cases isLimited

def Blind (body : Handling Unit) : Prop :=
  ∃ (result : Except Thrown Unit) (messages : List OutgoingMessage) (broadcasts : List Event),
    ∀ world : World, body.run world =
      (result, { world with
        sent := world.sent ++ messages.map fun message => (message, world.table)
        broadcasts := world.broadcasts ++ broadcasts })

theorem blind_pure : Blind (pure ()) := ⟨.ok (), [], [], by simp⟩

theorem blind_raise (reason : Thrown) : Blind (raise reason) := ⟨.error reason, [], [], by simp⟩

theorem blind_emitMessage (webSocket : IWebSocketAdapter) (message : OutgoingMessage) :
    Blind (webSocket.emitMessage message) :=
  ⟨.ok (), [message], [], by simp [IWebSocketAdapter.emitMessage, World.send]⟩

theorem blind_emitBroadcast (webSocket : IWebSocketAdapter) (event : Event) :
    Blind (webSocket.emitBroadcast event) := by
  unfold IWebSocketAdapter.emitBroadcast
  split
  · exact blind_raise _
  · exact ⟨.ok (), [], [event], by simp [World.broadcast]⟩

theorem blind_bind (first : Handling Unit) (next : Unit → Handling Unit) (blindFirst : Blind first)
    (blindNext : ∀ value, Blind (next value)) : Blind (first >>= next) := by
  obtain ⟨result, messages, broadcasts, ran⟩ := blindFirst
  cases result with
  | error reason => exact ⟨.error reason, messages, broadcasts, fun world => bind_error (ran world)⟩
  | ok value =>
    obtain ⟨last, later, others, continued⟩ := blindNext value
    refine ⟨last, messages ++ later, broadcasts ++ others, fun world => ?_⟩
    rw [bind_ok (ran world), continued]
    simp

theorem blind_handle (body : Handling Unit) (handler : Thrown → Handling Unit) (blindBody : Blind body)
    (blindHandler : ∀ reason, Blind (handler reason)) : Blind (handle body handler) := by
  obtain ⟨result, messages, broadcasts, ran⟩ := blindBody
  cases result with
  | ok value => exact ⟨.ok value, messages, broadcasts, fun world => handle_ok (ran world)⟩
  | error reason =>
    obtain ⟨last, later, others, continued⟩ := blindHandler reason
    refine ⟨last, messages ++ later, broadcasts ++ others, fun world => ?_⟩
    rw [handle_error (ran world), continued]
    simp

theorem blind_acknowledge (webSocket : IWebSocketAdapter) (event : Event) (count : Nat) :
    Blind (acknowledge webSocket event count) := by
  refine blind_bind _ _ (blind_emitMessage _ _) fun _ => ?_
  split
  · exact blind_emitBroadcast _ _
  · exact blind_pure

theorem blind_answered (webSocket : IWebSocketAdapter) (event : Event) (outcome : Except Thrown Nat) :
    Blind (answer outcome >>= acknowledge webSocket event) := by
  cases outcome with
  | error reason => exact blind_raise reason
  | ok count => exact blind_acknowledge webSocket event count

theorem blind_onError (webSocket : IWebSocketAdapter) (event : Event) (reason : Thrown) :
    Blind (ReplaceableEventStrategy.onError webSocket event reason) := by
  unfold ReplaceableEventStrategy.onError
  cases reason with
  | error message =>
    dsimp only
    split <;> exact blind_emitMessage _ _
  | other => exact blind_pure

theorem blind_afterWrite (handler : EventMessageHandler) (event : Event) (outcome : Except Thrown Nat) :
    Blind (afterWrite handler event outcome) := by
  unfold afterWrite
  split
  · exact blind_handle _ _ (blind_answered _ _ _) fun reason => blind_onError _ _ reason
  · exact blind_answered _ _ _

def advances (fates : Fates) : Nat → Submission × EventsTable → Submission × EventsTable
  | 0, reached => reached
  | n + 1, reached =>
    match reached.1.advance fates reached.2 with
    | some next => advances fates n next
    | none => reached

def Finishes (reached : Submission × EventsTable) (world : World) : Prop :=
  reached.1.stage = .finished world.outputs ∧ reached.2 = world.table

theorem emitted_run (handler : EventMessageHandler) (event : Event) (body : Handling Unit)
    (blind : Blind body) (table : EventsTable) :
    ((handle body fun _ => handler.reply event (js "error: unable to process event")).run
        { table := table }).2.outputs = emitted handler event body ∧
      ((handle body fun _ => handler.reply event (js "error: unable to process event")).run
        { table := table }).2.table = table := by
  have replying := blind_handle body (fun _ => handler.reply event (js "error: unable to process event"))
    blind fun _ => blind_emitMessage _ _
  obtain ⟨result, messages, broadcasts, ran⟩ := replying
  rw [emitted, ran, ran]
  simp [World.outputs, Function.comp_def]

theorem handle_congr {body other : Handling Unit} {world reached : World}
    (same : body.run world = other.run reached) (handler : Thrown → Handling Unit) :
    (handle body handler).run world = (handle other handler).run reached := by
  rw [handle_run, handle_run, same]

def writing (handler : EventMessageHandler) (fates : Fates) (event : Event) : Handling Unit :=
  match eventStrategyFactory event with
  | .replaceable => ReplaceableEventStrategy.execute handler.webSocket (eventRepository fates) event
  | _ => onTable (write fates event) >>= acknowledge handler.webSocket event

theorem writing_run (handler : EventMessageHandler) (fates : Fates) (event : Event) (world : World) :
    (writing handler fates event).run world =
      (afterWrite handler event ((write fates event).run world.table).1).run
        (world.withTable ((write fates event).run world.table).2) := by
  have answered (statement : Effect EventsTable Thrown Nat) :
      (onTable statement >>= acknowledge handler.webSocket event).run world =
        (answer (statement.run world.table).1 >>= acknowledge handler.webSocket event).run
          (world.withTable (statement.run world.table).2) := by
    simp only [bind_run, onTable, zoom_run, answer_run]
  unfold writing afterWrite
  cases strategy : eventStrategyFactory event with
  | replaceable =>
    have written : write fates event = (eventRepository fates).upsert event none := by
      simp [write, strategy]
    rw [written]
    exact handle_congr (answered ((eventRepository fates).upsert event none)) _
  | _ => exact answered _

theorem advances_finished (fates : Fates) (n : Nat) (submission : Submission) (table : EventsTable)
    (outputs : Outputs) (finished : submission.stage = .finished outputs) :
    advances fates n (submission, table) = (submission, table) := by
  cases n with
  | zero => rfl
  | succ n => simp [advances, Submission.advance, finished]

theorem writing_finishes (handler : EventMessageHandler) (fates : Fates) (event : Event)
    (table : EventsTable) (n : Nat) :
    Finishes (advances fates (n + 1)
        ({ handler := handler, event := event, stage := .writing }, table))
      ((handle (writing handler fates event) fun _ =>
        handler.reply event (js "error: unable to process event")).run { table := table }).2 := by
  have emits := emitted_run handler event _
    (blind_afterWrite handler event ((write fates event).run table).1) ((write fates event).run table).2
  have same : (handle (writing handler fates event) fun _ =>
      handler.reply event (js "error: unable to process event")).run { table := table } =
      (handle (afterWrite handler event ((write fates event).run table).1) fun _ =>
        handler.reply event (js "error: unable to process event")).run
          { table := ((write fates event).run table).2 } :=
    handle_congr (writing_run handler fates event { table := table }) _
  rw [same, Finishes, emits.1, emits.2]
  simp only [advances, Submission.advance]
  rw [advances_finished fates n _ _ _ rfl]
  exact ⟨rfl, rfl⟩

theorem strategy_finishes (handler : EventMessageHandler) (fates : Fates) (event : Event)
    (table : EventsTable) :
    Finishes (advances fates 2
        ({ handler := handler, event := event, stage := strategyStage handler event }, table))
      (((handler.storing fates).executeStrategy event).run { table := table }).2 := by
  have found : (handler.storing fates).executeStrategy event =
      handle ((eventStrategyFactory event).execute handler.webSocket (eventRepository fates) event)
        fun _ => handler.reply event (js "error: unable to process event") := rfl
  have writes := writing_finishes handler fates event
  rw [found]
  unfold strategyStage
  cases strategy : eventStrategyFactory event with
  | ephemeral =>
    have emits := emitted_run handler event (EphemeralEventStrategy.execute handler.webSocket event)
      (blind_acknowledge handler.webSocket event 1) table
    rw [advances_finished fates 2 _ _ _ rfl]
    exact ⟨congrArg Stage.finished emits.1.symm, emits.2.symm⟩
  | replaceable =>
    have own := writes table 1
    simp only [writing, strategy] at own
    exact own
  | parameterizedReplaceable =>
    have own := writes table 1
    simp only [writing, write, strategy] at own
    exact own
  | default =>
    have own := writes table 1
    simp only [writing, write, strategy] at own
    exact own
  | delete =>
    simp only [writing, write, strategy] at writes
    by_cases none : DeleteEventStrategy.eventIdsToDelete event = []
    · have plain : DeleteEventStrategy.execute handler.webSocket (eventRepository fates) event =
          onTable ((eventRepository fates).create event) >>= acknowledge handler.webSocket event := by
        unfold DeleteEventStrategy.execute
        rw [if_neg (by simp [none])]
      simp only [EventStrategy.execute, none, if_true, plain]
      exact writes table 1
    · have both : DeleteEventStrategy.execute handler.webSocket (eventRepository fates) event =
          onTable ((eventRepository fates).deleteByPubkeyAndIds event.pubkey
            (DeleteEventStrategy.eventIdsToDelete event)) >>= fun _ =>
              onTable ((eventRepository fates).create event) >>= acknowledge handler.webSocket event := by
        unfold DeleteEventStrategy.execute
        rw [if_pos none]
      simp only [EventStrategy.execute, none, if_false, both]
      cases ran : ((eventRepository fates).deleteByPubkeyAndIds event.pubkey
          (DeleteEventStrategy.eventIdsToDelete event)).run table with
      | mk outcome marked =>
        have lifted : (onTable ((eventRepository fates).deleteByPubkeyAndIds event.pubkey
            (DeleteEventStrategy.eventIdsToDelete event))).run { table := table } =
              (outcome, { table := marked }) := by
          simp [onTable, ran, World.withTable]
        cases outcome with
        | error reason =>
          have emits := emitted_run handler event (raise reason) (blind_raise reason) marked
          rw [handle_congr ((bind_error lifted).trans (raise_run reason ({ table := marked } : World)).symm),
            Finishes, emits.1, emits.2]
          simp only [advances, Submission.advance, ran]
          exact ⟨rfl, rfl⟩
        | ok count =>
          rw [handle_congr (bind_ok lifted)]
          have later := writes marked 0
          simp only [advances, Submission.advance, ran] at later ⊢
          exact later

theorem submission_refines (handler : EventMessageHandler) (fates : Fates) (received : Event)
    (table : EventsTable) :
    Finishes (advances fates 2 (start handler received, table))
      (((handler.storing fates).handleMessage received).run { table := table }).2 := by
  unfold start
  by_cases accepted : Accepted handler received
  · rw [if_pos ((passes_iff handler received).mpr accepted),
      accepted_run _ received ((accepted_storing handler fates received).mpr accepted)]
    exact strategy_finishes handler fates (prepared handler received) table
  · have rejected := mt (accepted_storing handler fates received).mp accepted
    rw [if_neg (mt (passes_iff handler received).mp accepted), advances_finished fates 2 _ _ _ rfl,
      rejected_run _ received rejected]
    refine ⟨?_, rfl⟩
    simp [World.outputs, World.replied, Function.comp_def]
    rfl

end SubmissionStages

end Nostream
