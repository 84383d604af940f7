import Nostream.Adapters.WebSocketAdapter
import Nostream.Handlers.SubscriptionLimits
import Nostream.Repositories.EventRepository
import Nostream.Utils.RecordedCrypto

set_option autoImplicit false

namespace Nostream.FinalAnswers

open Utf16 EventRepository SubscribeMessageHandler SubscriptionLimits WebSocketAdapter

/-- What a stream fails with: an Error with its name, or another thrown value. -/
inductive Failure where
  | error (name message : JsString)
  | other

def Failure.isReported : Failure → Bool
  | .error name _ => name == js "SyntaxError" || name == js "ValidationError"
  | .other => false

structure QueryStream where
  rows : List DBEvent
  failure : Option Failure := none

-- The catch of onClientMessage: only what it takes for a malformed message is answered.
def report (adapter : WebSocketAdapter) : Failure → List OutgoingMessage
  | .error name message =>
    if name = js "SyntaxError" ∨ name = js "ValidationError" then
      adapter.sendMessage (createNoticeMessage (js "invalid: " ++ message))
    else []
  | .other => []

-- fetchAndSend throws the failure of its pipeline again; streamEnd comes after the last row.
def pipeline (adapter : WebSocketAdapter) (subscriptionId : JsString) (filters : List SubscriptionFilter)
    (stream : QueryStream) : List OutgoingMessage :=
  stream.rows.flatMap (adapter.streamRow subscriptionId filters) ++
    match stream.failure with
    | none => adapter.emitMessage (createEndOfStoredEventsNoticeMessage subscriptionId)
    | some failure => report adapter failure

def answers (settings : Settings) (adapter : WebSocketAdapter) (frame : Frame) (stream : QueryStream) :
    List OutgoingMessage :=
  match adapter.onClientMessage settings frame (.ok false) with
  | (reached, .querying subscriptionId filters, messages) =>
    messages ++ pipeline reached subscriptionId filters stream
  | (_, _, messages) => messages

def isFinal (subscriptionId : JsString) : OutgoingMessage → Bool
  | .endOfStoredEvents id => id == subscriptionId
  | .notice _ => true
  | _ => false

structure Answered (settings : Settings) (subscriptions : Subscriptions) (subscriptionId : JsString)
    (filters : List SubscriptionFilter) (stream : QueryStream) (messages : List OutgoingMessage) : Prop where
  single : messages.countP (isFinal subscriptionId) = 1
  complete : .endOfStoredEvents subscriptionId ∈ messages →
    stream.failure = none ∧ messages = fetchAndSend subscriptionId filters stream.rows
  explained : ∀ text, .notice text ∈ messages →
    (∃ reason, canSubscribe settings subscriptions subscriptionId filters = .ok (some reason) ∧
        text = js "Subscription rejected: " ++ reason) ∨
      ∃ name message, stream.failure = some (.error name message) ∧ text = js "invalid: " ++ message

def IsSettled (settings : Settings) (subscriptions : Subscriptions) (subscriptionId : JsString)
    (filters : List SubscriptionFilter) (stream : QueryStream) : Prop :=
  isDuplicate subscriptions subscriptionId filters = true ∨
    ∃ limits, settings.subscriptionLimits = some limits ∧
      (WithinLimits limits subscriptions subscriptionId filters →
        ∀ failure ∈ stream.failure, failure.isReported = true)

section Pipeline

variable {adapter : WebSocketAdapter} (isOpen : adapter.isOpen = true) (isAttached : adapter.isAttached = true)
include isOpen

theorem report_eq (failure : Failure) :
    report adapter failure = [] ∧ failure.isReported = false ∨
      ∃ name message, failure = .error name message ∧ failure.isReported = true ∧
        report adapter failure = [.notice (js "invalid: " ++ message)] := by
  cases failure with
  | other => exact .inl ⟨rfl, rfl⟩
  | error name message =>
    by_cases reported : name = js "SyntaxError" ∨ name = js "ValidationError"
    · refine .inr ⟨name, message, rfl, by simpa [Failure.isReported] using reported, ?_⟩
      rw [report, if_pos reported, sendMessage, if_pos isOpen]
      rfl
    · exact .inl ⟨by rw [report, if_neg reported], by simpa [Failure.isReported] using reported⟩

include isAttached

theorem emitMessage_eq (message : OutgoingMessage) : adapter.emitMessage message = [message] := by
  rw [emitMessage, if_pos isAttached, sendMessage, if_pos isOpen]

theorem streamRows_eq (subscriptionId : JsString) (filters : List SubscriptionFilter) (rows : List DBEvent) :
    rows.flatMap (adapter.streamRow subscriptionId filters) ++ [.endOfStoredEvents subscriptionId] =
      fetchAndSend subscriptionId filters rows := by
  rw [fetchAndSend]
  congr 1
  induction rows with
  | nil => rfl
  | cons row rest ih =>
    rw [List.flatMap_cons, ih, streamRow, emitMessage_eq isOpen isAttached]
    cases live : row.deletedAt.isNone with
    | false => simp [live]
    | true => cases shown : isClientSubscribedToEvent filters (toNostrEvent row) <;> simp [live, shown]

end Pipeline

theorem streamRow_notFinal (adapter : WebSocketAdapter) (subscriptionId id : JsString)
    (filters : List SubscriptionFilter) (rows : List DBEvent) :
    (rows.flatMap (adapter.streamRow subscriptionId filters)).countP (isFinal id) = 0 := by
  rw [List.countP_eq_zero]
  intro message member
  obtain ⟨row, _, sends⟩ := List.mem_flatMap.mp member
  obtain ⟨_, _, _, _, rfl⟩ := (mem_streamRow ..).mp sends
  simp [isFinal]

section Answers

variable {settings : Settings} {adapter : WebSocketAdapter} {subscriptionId : JsString}
  {received : List SubscriptionFilter} (accepted : messageSchema (.subscribe subscriptionId received) = true)
  (stream : QueryStream)

theorem answers_thrown {thrown : Thrown}
    (can : canSubscribe settings adapter.subscriptions subscriptionId
      (uniqWith SubscriptionFilter.equals received) = .error thrown) :
    answers settings adapter (.valid (.subscribe subscriptionId received) accepted) stream = [] := by
  simp [answers, onClientMessage, handleSubscribe, can]

theorem answers_rejected (isOpen : adapter.isOpen = true) (isAttached : adapter.isAttached = true)
    {reason : JsString}
    (can : canSubscribe settings adapter.subscriptions subscriptionId
      (uniqWith SubscriptionFilter.equals received) = .ok (some reason)) :
    answers settings adapter (.valid (.subscribe subscriptionId received) accepted) stream =
      [.notice (js "Subscription rejected: " ++ reason)] := by
  simp [answers, onClientMessage, handleSubscribe, can, emitMessage_eq isOpen isAttached, createNoticeMessage]

theorem answers_streamed
    (can : canSubscribe settings adapter.subscriptions subscriptionId
      (uniqWith SubscriptionFilter.equals received) = .ok none) :
    answers settings adapter (.valid (.subscribe subscriptionId received) accepted) stream =
      pipeline (adapter.emitSubscribe subscriptionId (uniqWith SubscriptionFilter.equals received))
        subscriptionId (uniqWith SubscriptionFilter.equals received) stream := by
  simp [answers, onClientMessage, handleSubscribe, can]

end Answers

section Answered

variable {settings : Settings} {subscriptions : Subscriptions} {subscriptionId : JsString}
  {filters : List SubscriptionFilter} {stream : QueryStream}

theorem answered_notice (text : JsString)
    (explained : (∃ reason, canSubscribe settings subscriptions subscriptionId filters = .ok (some reason) ∧
        text = js "Subscription rejected: " ++ reason) ∨
      ∃ name message, stream.failure = some (.error name message) ∧ text = js "invalid: " ++ message)
    (events : List OutgoingMessage) (plain : ∀ message ∈ events, ∃ id event, message = .event id event) :
    Answered settings subscriptions subscriptionId filters stream (events ++ [.notice text]) where
  single := by
    have none : events.countP (isFinal subscriptionId) = 0 := by
      rw [List.countP_eq_zero]
      intro message member
      obtain ⟨id, event, rfl⟩ := plain message member
      simp [isFinal]
    rw [List.countP_append, none]
    rfl
  complete member := by
    rcases List.mem_append.mp member with among | last
    · obtain ⟨id, event, shape⟩ := plain _ among
      cases shape
    · simp at last
  explained other member := by
    rcases List.mem_append.mp member with among | last
    · obtain ⟨id, event, shape⟩ := plain _ among
      cases shape
    · cases List.mem_singleton.mp last
      exact explained

theorem answered_complete (rows : List DBEvent) :
    Answered settings subscriptions subscriptionId filters { rows := rows }
      (fetchAndSend subscriptionId filters rows) where
  single := by
    have none (events : List Event) :
        (events.map (createOutgoingEventMessage subscriptionId)).countP (isFinal subscriptionId) = 0 := by
      rw [List.countP_eq_zero]
      intro message member
      obtain ⟨event, _, rfl⟩ := List.mem_map.mp member
      simp [isFinal, createOutgoingEventMessage]
    rw [fetchAndSend, List.countP_append, none]
    simp [isFinal, createEndOfStoredEventsNoticeMessage]
  complete _ := ⟨rfl, rfl⟩
  explained text member := by
    simp [fetchAndSend, createOutgoingEventMessage, createEndOfStoredEventsNoticeMessage] at member

theorem not_answered {messages : List OutgoingMessage}
    (none : messages.countP (isFinal subscriptionId) = 0) :
    ¬ Answered settings subscriptions subscriptionId filters stream messages := by
  intro answered
  have single := answered.single
  omega

end Answered

theorem pipeline_answered_iff (settings : Settings) (subscriptions : Subscriptions) (adapter : WebSocketAdapter)
    (isOpen : adapter.isOpen = true) (isAttached : adapter.isAttached = true) (subscriptionId : JsString)
    (filters : List SubscriptionFilter) (stream : QueryStream) :
    Answered settings subscriptions subscriptionId filters stream
        (pipeline adapter subscriptionId filters stream) ↔
      ∀ failure ∈ stream.failure, failure.isReported = true := by
  obtain ⟨rows, failure⟩ := stream
  have plain : ∀ message ∈ rows.flatMap (adapter.streamRow subscriptionId filters),
      ∃ id event, message = .event id event := by
    intro message member
    obtain ⟨row, _, sends⟩ := List.mem_flatMap.mp member
    exact ⟨_, _, ((mem_streamRow ..).mp sends).2.2.2.2⟩
  cases failure with
  | none =>
    have ended : pipeline adapter subscriptionId filters { rows := rows } =
        fetchAndSend subscriptionId filters rows := by
      rw [← streamRows_eq isOpen isAttached, pipeline]
      simp only [emitMessage_eq isOpen isAttached]
      rfl
    rw [ended]
    exact iff_of_true (answered_complete rows) (by simp)
  | some failure =>
    rcases report_eq isOpen failure with ⟨silent, unreported⟩ | ⟨name, message, rfl, reported, notice⟩
    · refine iff_of_false (not_answered ?_) (by simp [unreported])
      simp only [pipeline, silent, List.append_nil]
      exact streamRow_notFinal adapter subscriptionId subscriptionId filters rows
    · refine iff_of_true ?_ (by simp [reported])
      simp only [pipeline, notice]
      exact answered_notice _ (.inr ⟨name, message, rfl, rfl⟩) _ plain

theorem answered_iff (settings : Settings) (adapter : WebSocketAdapter) (isOpen : adapter.isOpen = true)
    (isAttached : adapter.isAttached = true) (subscriptionId : JsString) (received : List SubscriptionFilter)
    (accepted : messageSchema (.subscribe subscriptionId received) = true) (stream : QueryStream) :
    Answered settings adapter.subscriptions subscriptionId (uniqWith SubscriptionFilter.equals received) stream
        (answers settings adapter (.valid (.subscribe subscriptionId received) accepted) stream) ↔
      IsSettled settings adapter.subscriptions subscriptionId (uniqWith SubscriptionFilter.equals received)
        stream := by
  have rejection {reason : JsString} (can : canSubscribe settings adapter.subscriptions subscriptionId
      (uniqWith SubscriptionFilter.equals received) = .ok (some reason)) :
      Answered settings adapter.subscriptions subscriptionId (uniqWith SubscriptionFilter.equals received) stream
        (answers settings adapter (.valid (.subscribe subscriptionId received) accepted) stream) := by
    rw [answers_rejected accepted stream isOpen isAttached can]
    exact answered_notice _ (.inl ⟨reason, can, rfl⟩) [] (by simp)
  unfold IsSettled
  cases duplicate : isDuplicate adapter.subscriptions subscriptionId
      (uniqWith SubscriptionFilter.equals received) with
  | true => exact iff_of_true (rejection (canSubscribe_duplicate settings _ _ _ duplicate)) (.inl rfl)
  | false =>
    simp only [Bool.false_eq_true, false_or]
    cases configured : settings.subscriptionLimits with
    | none =>
      rw [answers_thrown accepted stream (canSubscribe_unlimited settings _ _ _ duplicate configured)]
      exact iff_of_false (not_answered rfl) (by simp)
    | some limits =>
      obtain ⟨reason, can, within, _⟩ := canSubscribe_limited settings _ _ _ limits duplicate configured
      simp only [Option.some.injEq, exists_eq_left', ← within]
      cases reason with
      | some reason => exact iff_of_true (rejection can) (by simp)
      | none =>
        rw [answers_streamed accepted stream can, pipeline_answered_iff]
        · simp
        · rw [emitSubscribe_isOpen, isOpen]
        · rw [emitSubscribe_isAttached, isAttached]

def noteStream : QueryStream :=
  { rows := [(insertRow note).stored, { (insertRow note).stored with deletedAt := some 1700000001 }] }

theorem note_stream_answered :
    answers unlimitedSettings {} (reqFrame (js "feed") [{ kinds := some [1] }]) noteStream =
        [.event (js "feed") note, .endOfStoredEvents (js "feed")] ∧
      Answered unlimitedSettings .empty (js "feed") [{ kinds := some [1] }] noteStream
        (answers unlimitedSettings {} (reqFrame (js "feed") [{ kinds := some [1] }]) noteStream) := by
  refine ⟨by decide +kernel, ?_⟩
  exact (answered_iff unlimitedSettings {} rfl rfl (js "feed") [{ kinds := some [1] }] (by decide)
    noteStream).mpr (.inr ⟨{}, rfl, fun _ => by simp [noteStream]⟩)

theorem silent_failures :
    messageSchema (.subscribe (js "feed") [{ kinds := some [1] }]) = true ∧
      ¬ Answered {} .empty (js "feed") [{ kinds := some [1] }] { rows := [] }
        (answers {} {} (reqFrame (js "feed") [{ kinds := some [1] }]) { rows := [] }) ∧
      ¬ Answered unlimitedSettings .empty (js "feed") [{ kinds := some [1] }]
        { rows := [], failure := some (.error (js "error") (js "connection terminated")) }
        (answers unlimitedSettings {} (reqFrame (js "feed") [{ kinds := some [1] }])
          { rows := [], failure := some (.error (js "error") (js "connection terminated")) }) :=
  ⟨by decide, not_answered (by decide +kernel), not_answered (by decide +kernel)⟩

end Nostream.FinalAnswers
