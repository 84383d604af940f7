import Nostream.Handlers.SubscribeMessageHandler
import Nostream.Shared.Slots

set_option autoImplicit false

namespace Nostream

open Utf16 SubscribeMessageHandler

inductive Frame where
  | valid (message : IncomingMessage) (accepted : messageSchema message = true)
  | malformed (reason : JsString)

def reqFrame (subscriptionId : JsString) (filters : List SubscriptionFilter)
    (accepted : messageSchema (.subscribe subscriptionId filters) = true := by decide) : Frame :=
  .valid (.subscribe subscriptionId filters) accepted

def closeFrame (subscriptionId : JsString)
    (accepted : messageSchema (.unsubscribe subscriptionId) = true := by decide) : Frame :=
  .valid (.unsubscribe subscriptionId) accepted

inductive MessageHandling where
  | checking (frame : Frame)
  | querying (subscriptionId : JsString) (filters : List SubscriptionFilter)
  | streaming (subscriptionId : JsString) (filters : List SubscriptionFilter) (rows : List DBEvent)
  | finished

structure WebSocketAdapter where
  isOpen : Bool := true
  -- Whether the adapter and its socket still have their listeners.
  isAttached : Bool := true
  subscriptions : Subscriptions := .empty
  handlings : List MessageHandling := []

namespace WebSocketAdapter

def onSubscribed (adapter : WebSocketAdapter) (subscriptionId : JsString)
    (filters : List SubscriptionFilter) : WebSocketAdapter :=
  { adapter with subscriptions := adapter.subscriptions.set subscriptionId filters }

def onUnsubscribed (adapter : WebSocketAdapter) (subscriptionId : JsString) : WebSocketAdapter :=
  { adapter with subscriptions := adapter.subscriptions.delete subscriptionId }

def sendMessage (adapter : WebSocketAdapter) (message : OutgoingMessage) : List OutgoingMessage :=
  if adapter.isOpen then [message] else []

def onSendEvent (adapter : WebSocketAdapter) (event : Event) : List OutgoingMessage :=
  adapter.subscriptions.entries.flatMap fun (subscriptionId, filters) =>
    if isClientSubscribedToEvent filters event then
      adapter.sendMessage (createOutgoingEventMessage subscriptionId event)
    else []

-- The handlers that are to be aborted ignore it.
def onClientClose (adapter : WebSocketAdapter) : WebSocketAdapter :=
  { adapter with isOpen := false, isAttached := false, subscriptions := .empty }

section Emit

-- An event that is emitted without a listener is lost.
variable (adapter : WebSocketAdapter)

def emitSubscribe (subscriptionId : JsString) (filters : List SubscriptionFilter) : WebSocketAdapter :=
  if adapter.isAttached then adapter.onSubscribed subscriptionId filters else adapter

def emitUnsubscribe (subscriptionId : JsString) : WebSocketAdapter :=
  if adapter.isAttached then adapter.onUnsubscribed subscriptionId else adapter

def emitMessage (message : OutgoingMessage) : List OutgoingMessage :=
  if adapter.isAttached then adapter.sendMessage message else []

def emitEvent (event : Event) : List OutgoingMessage :=
  if adapter.isAttached then adapter.onSendEvent event else []

end Emit

-- SubscribeMessageHandler.handleMessage up to the opening of the stream.
def handleSubscribe (settings : Settings) (adapter : WebSocketAdapter) (subscriptionId : JsString)
    (received : List SubscriptionFilter) : WebSocketAdapter × MessageHandling × List OutgoingMessage :=
  let filters := uniqWith SubscriptionFilter.equals received
  match canSubscribe settings adapter.subscriptions subscriptionId filters with
  | .error _ => (adapter, .finished, [])
  | .ok (some reason) =>
    (adapter, .finished,
      adapter.emitMessage (createNoticeMessage (js "Subscription rejected: " ++ reason)))
  | .ok none => (adapter.emitSubscribe subscriptionId filters, .querying subscriptionId filters, [])

def onClientMessage (settings : Settings) (adapter : WebSocketAdapter) (frame : Frame)
    (limited : Except Thrown Bool) : WebSocketAdapter × MessageHandling × List OutgoingMessage :=
  match limited, frame with
  | .error _, _ => (adapter, .finished, [])
  | .ok true, _ => (adapter, .finished, adapter.sendMessage (createNoticeMessage (js "rate limited")))
  | .ok false, .malformed reason =>
    (adapter, .finished, adapter.sendMessage (createNoticeMessage (js "invalid: " ++ reason)))
  | .ok false, .valid (.subscribe subscriptionId filters) _ =>
    handleSubscribe settings adapter subscriptionId filters
  | .ok false, .valid (.unsubscribe subscriptionId) _ =>
    (adapter.emitUnsubscribe subscriptionId, .finished, [])

def streamRow (adapter : WebSocketAdapter) (subscriptionId : JsString)
    (filters : List SubscriptionFilter) (row : DBEvent) : List OutgoingMessage :=
  if row.deletedAt.isNone && isClientSubscribedToEvent filters (toNostrEvent row) then
    adapter.emitMessage (createOutgoingEventMessage subscriptionId (toNostrEvent row))
  else []

inductive Action where
  | receive (frame : Frame)
  | checked (i : Nat) (limited : Except Thrown Bool)
  | snapshot (i : Nat) (found : Except Thrown (List DBEvent))
  | next (i : Nat)
  | fail (i : Nat)
  | event (event : Event)
  | closing
  | close

def proceed (adapter : WebSocketAdapter) (i : Nat) (handling : MessageHandling) : WebSocketAdapter :=
  { adapter with handlings := adapter.handlings.set i handling }

def step (settings : Settings) (adapter : WebSocketAdapter) :
    Action → Option (WebSocketAdapter × List OutgoingMessage)
  | .receive frame =>
    if adapter.isAttached then
      some ({ adapter with handlings := adapter.handlings ++ [.checking frame] }, [])
    else none
  | .checked i limited =>
    match adapter.handlings[i]? with
    | some (.checking frame) =>
      let (reached, handling, messages) := adapter.onClientMessage settings frame limited
      some (reached.proceed i handling, messages)
    | _ => none
  | .snapshot i found =>
    match adapter.handlings[i]?, found with
    | some (.querying subscriptionId filters), .ok rows =>
      some (adapter.proceed i (.streaming subscriptionId filters rows), [])
    | some (.querying _ _), .error _ => some (adapter.proceed i .finished, [])
    | _, _ => none
  | .next i =>
    match adapter.handlings[i]? with
    | some (.streaming subscriptionId filters (row :: rows)) =>
      some (adapter.proceed i (.streaming subscriptionId filters rows),
        adapter.streamRow subscriptionId filters row)
    | some (.streaming subscriptionId _ []) =>
      some (adapter.proceed i .finished,
        adapter.emitMessage (createEndOfStoredEventsNoticeMessage subscriptionId))
    | _ => none
  | .fail i =>
    match adapter.handlings[i]? with
    | some (.streaming _ _ _) => some (adapter.proceed i .finished, [])
    | _ => none
  | .event event => some (adapter, adapter.emitEvent event)
  | .closing => some ({ adapter with isOpen := false }, [])
  | .close => if adapter.isAttached then some (adapter.onClientClose, []) else none

inductive Step (settings : Settings) (adapter : WebSocketAdapter) :
    Action → WebSocketAdapter → List OutgoingMessage → Prop
  | received (frame : Frame) (attached : adapter.isAttached = true) :
      Step settings adapter (.receive frame)
        { adapter with handlings := adapter.handlings ++ [.checking frame] } []
  | turnedAway (i : Nat) (limited : Except Thrown Bool) (frame : Frame) (messages : List OutgoingMessage)
      (found : adapter.handlings[i]? = some (.checking frame))
      (notices : ∀ message ∈ messages, ∃ text, message = createNoticeMessage text) :
      Step settings adapter (.checked i limited) (adapter.proceed i .finished) messages
  | subscribed (i : Nat) (subscriptionId : JsString) (filters : List SubscriptionFilter)
      (accepted : messageSchema (.subscribe subscriptionId filters) = true)
      (found : adapter.handlings[i]? = some (.checking (.valid (.subscribe subscriptionId filters) accepted)))
      (can : canSubscribe settings adapter.subscriptions subscriptionId
        (uniqWith SubscriptionFilter.equals filters) = .ok none) :
      Step settings adapter (.checked i (.ok false))
        ((adapter.emitSubscribe subscriptionId (uniqWith SubscriptionFilter.equals filters)).proceed i
          (.querying subscriptionId (uniqWith SubscriptionFilter.equals filters))) []
  | unsubscribed (i : Nat) (subscriptionId : JsString)
      (accepted : messageSchema (.unsubscribe subscriptionId) = true)
      (found : adapter.handlings[i]? = some (.checking (.valid (.unsubscribe subscriptionId) accepted))) :
      Step settings adapter (.checked i (.ok false))
        ((adapter.emitUnsubscribe subscriptionId).proceed i .finished) []
  | found (i : Nat) (subscriptionId : JsString) (filters : List SubscriptionFilter) (rows : List DBEvent)
      (found : adapter.handlings[i]? = some (.querying subscriptionId filters)) :
      Step settings adapter (.snapshot i (.ok rows))
        (adapter.proceed i (.streaming subscriptionId filters rows)) []
  | rejected (i : Nat) (subscriptionId : JsString) (filters : List SubscriptionFilter) (reason : Thrown)
      (found : adapter.handlings[i]? = some (.querying subscriptionId filters)) :
      Step settings adapter (.snapshot i (.error reason)) (adapter.proceed i .finished) []
  | streamed (i : Nat) (subscriptionId : JsString) (filters : List SubscriptionFilter) (row : DBEvent)
      (rows : List DBEvent)
      (found : adapter.handlings[i]? = some (.streaming subscriptionId filters (row :: rows))) :
      Step settings adapter (.next i) (adapter.proceed i (.streaming subscriptionId filters rows))
        (adapter.streamRow subscriptionId filters row)
  | ended (i : Nat) (subscriptionId : JsString) (filters : List SubscriptionFilter)
      (found : adapter.handlings[i]? = some (.streaming subscriptionId filters [])) :
      Step settings adapter (.next i) (adapter.proceed i .finished)
        (adapter.emitMessage (createEndOfStoredEventsNoticeMessage subscriptionId))
  | failed (i : Nat) (subscriptionId : JsString) (filters : List SubscriptionFilter) (rows : List DBEvent)
      (found : adapter.handlings[i]? = some (.streaming subscriptionId filters rows)) :
      Step settings adapter (.fail i) (adapter.proceed i .finished) []
  | event (event : Event) : Step settings adapter (.event event) adapter (adapter.emitEvent event)
  | closing : Step settings adapter .closing { adapter with isOpen := false } []
  | closed (attached : adapter.isAttached = true) : Step settings adapter .close adapter.onClientClose []

@[simp]
theorem emitSubscribe_isOpen (adapter : WebSocketAdapter) (subscriptionId : JsString)
    (filters : List SubscriptionFilter) : (adapter.emitSubscribe subscriptionId filters).isOpen = adapter.isOpen := by
  unfold emitSubscribe
  split <;> rfl

@[simp]
theorem emitSubscribe_isAttached (adapter : WebSocketAdapter) (subscriptionId : JsString)
    (filters : List SubscriptionFilter) :
    (adapter.emitSubscribe subscriptionId filters).isAttached = adapter.isAttached := by
  unfold emitSubscribe
  split <;> rfl

@[simp]
theorem emitSubscribe_handlings (adapter : WebSocketAdapter) (subscriptionId : JsString)
    (filters : List SubscriptionFilter) :
    (adapter.emitSubscribe subscriptionId filters).handlings = adapter.handlings := by
  unfold emitSubscribe
  split <;> rfl

@[simp]
theorem emitUnsubscribe_isOpen (adapter : WebSocketAdapter) (subscriptionId : JsString) :
    (adapter.emitUnsubscribe subscriptionId).isOpen = adapter.isOpen := by
  unfold emitUnsubscribe
  split <;> rfl

@[simp]
theorem emitUnsubscribe_isAttached (adapter : WebSocketAdapter) (subscriptionId : JsString) :
    (adapter.emitUnsubscribe subscriptionId).isAttached = adapter.isAttached := by
  unfold emitUnsubscribe
  split <;> rfl

@[simp]
theorem emitUnsubscribe_handlings (adapter : WebSocketAdapter) (subscriptionId : JsString) :
    (adapter.emitUnsubscribe subscriptionId).handlings = adapter.handlings := by
  unfold emitUnsubscribe
  split <;> rfl

theorem mem_sendMessage (adapter : WebSocketAdapter) (message sent : OutgoingMessage) :
    sent ∈ adapter.sendMessage message ↔ adapter.isOpen = true ∧ sent = message := by
  simp only [sendMessage]
  split <;> simp_all

theorem mem_emitMessage (adapter : WebSocketAdapter) (message sent : OutgoingMessage) :
    sent ∈ adapter.emitMessage message ↔
      adapter.isAttached = true ∧ adapter.isOpen = true ∧ sent = message := by
  rw [emitMessage, ← mem_sendMessage]
  split <;> simp_all

theorem mem_emitEvent (adapter : WebSocketAdapter) (event : Event) (sent : OutgoingMessage) :
    sent ∈ adapter.emitEvent event ↔ adapter.isAttached = true ∧ adapter.isOpen = true ∧
      ∃ subscriptionId filters, adapter.subscriptions.get subscriptionId = some filters ∧
        isClientSubscribedToEvent filters event = true ∧ sent = .event subscriptionId event := by
  have delivered : sent ∈ adapter.onSendEvent event ↔ adapter.isOpen = true ∧
      ∃ subscriptionId filters, adapter.subscriptions.get subscriptionId = some filters ∧
        isClientSubscribedToEvent filters event = true ∧ sent = .event subscriptionId event := by
    simp only [onSendEvent, List.mem_flatMap, InsertionMap.get_eq_some_iff]
    constructor
    · rintro ⟨⟨subscriptionId, filters⟩, member, sends⟩
      dsimp only at sends
      split at sends
      next subscribed =>
        obtain ⟨isOpen, rfl⟩ := (mem_sendMessage ..).mp sends
        exact ⟨isOpen, subscriptionId, filters, member, subscribed, rfl⟩
      next => cases sends
    · rintro ⟨isOpen, subscriptionId, filters, member, subscribed, rfl⟩
      refine ⟨(subscriptionId, filters), member, ?_⟩
      dsimp only
      rw [if_pos subscribed, mem_sendMessage]
      exact ⟨isOpen, rfl⟩
  rw [emitEvent, ← delivered]
  split <;> simp_all

theorem onSendEvent_eq (adapter : WebSocketAdapter) (isOpen : adapter.isOpen = true) (event : Event) :
    adapter.onSendEvent event =
      ((adapter.subscriptions.entries.filter fun entry => isClientSubscribedToEvent entry.2 event).map
        Prod.fst).map (createOutgoingEventMessage · event) := by
  unfold onSendEvent
  induction adapter.subscriptions.entries with
  | nil => rfl
  | cons entry rest ih =>
    rw [List.flatMap_cons, ih, List.filter_cons]
    dsimp only
    cases isClientSubscribedToEvent entry.2 event with
    | true => simp [sendMessage, isOpen]
    | false => rfl

theorem emitEvent_nodup (adapter : WebSocketAdapter) (event : Event) : (adapter.emitEvent event).Nodup := by
  unfold emitEvent
  split
  next =>
    cases isOpen : adapter.isOpen with
    | true =>
      rw [onSendEvent_eq adapter isOpen]
      apply List.Nodup.map
      · intro a b same
        simpa [createOutgoingEventMessage] using same
      · exact adapter.subscriptions.nodup.sublist (List.filter_sublist.map Prod.fst)
    | false =>
      have silent : adapter.onSendEvent event = [] := by
        rw [onSendEvent, List.flatMap_eq_nil_iff]
        intro entry _
        simp [sendMessage, isOpen]
      rw [silent]
      exact List.nodup_nil
  next => exact List.nodup_nil

theorem mem_streamRow (adapter : WebSocketAdapter) (subscriptionId : JsString)
    (filters : List SubscriptionFilter) (row : DBEvent) (sent : OutgoingMessage) :
    sent ∈ adapter.streamRow subscriptionId filters row ↔ adapter.isAttached = true ∧
      adapter.isOpen = true ∧ row.deletedAt.isNone = true ∧
        isClientSubscribedToEvent filters (toNostrEvent row) = true ∧
          sent = .event subscriptionId (toNostrEvent row) := by
  unfold streamRow
  split
  next shown =>
    rw [Bool.and_eq_true] at shown
    rw [mem_emitMessage]
    simp only [shown.1, shown.2, true_and]
    rfl
  next hidden =>
    rw [Bool.and_eq_true] at hidden
    simp only [List.not_mem_nil, false_iff]
    exact fun sends => hidden ⟨sends.2.2.1, sends.2.2.2.1⟩

theorem checked_cases (settings : Settings) (adapter : WebSocketAdapter) (i : Nat) (frame : Frame)
    (limited : Except Thrown Bool) (found : adapter.handlings[i]? = some (.checking frame)) :
    Step settings adapter (.checked i limited)
      ((adapter.onClientMessage settings frame limited).1.proceed i
        (adapter.onClientMessage settings frame limited).2.1)
      (adapter.onClientMessage settings frame limited).2.2 := by
  have noticed (text : JsString) : ∀ message ∈ adapter.sendMessage (createNoticeMessage text),
      ∃ text, message = createNoticeMessage text :=
    fun message sent => ⟨text, ((mem_sendMessage _ _ _).mp sent).2⟩
  match limited, frame with
  | .error reason, frame => exact .turnedAway i _ frame _ found (by simp [onClientMessage])
  | .ok true, frame => exact .turnedAway i _ frame _ found (noticed _)
  | .ok false, .malformed reason => exact .turnedAway i _ _ _ found (noticed _)
  | .ok false, .valid (.unsubscribe subscriptionId) accepted =>
    exact .unsubscribed i subscriptionId accepted found
  | .ok false, .valid (.subscribe subscriptionId filters) accepted =>
    cases can : canSubscribe settings adapter.subscriptions subscriptionId
        (uniqWith SubscriptionFilter.equals filters) with
    | error reason =>
      simp only [onClientMessage, handleSubscribe, can]
      exact .turnedAway i _ _ _ found (by simp)
    | ok outcome =>
      cases outcome with
      | none =>
        simp only [onClientMessage, handleSubscribe, can]
        exact .subscribed i subscriptionId filters accepted found can
      | some reason =>
        simp only [onClientMessage, handleSubscribe, can]
        exact .turnedAway i _ _ _ found
          fun message sent => ⟨_, ((mem_emitMessage _ _ _).mp sent).2.2⟩

theorem step_cases (settings : Settings) (adapter reached : WebSocketAdapter) (action : Action)
    (messages : List OutgoingMessage) (taken : adapter.step settings action = some (reached, messages)) :
    Step settings adapter action reached messages := by
  unfold step at taken
  split at taken
  · split at taken
    next attached =>
      cases taken
      exact .received _ attached
    next => cases taken
  · split at taken
    next frame found =>
      cases taken
      exact checked_cases settings adapter _ frame _ found
    next => cases taken
  · split at taken
    next found =>
      cases taken
      exact .found _ _ _ _ found
    next found =>
      cases taken
      exact .rejected _ _ _ _ found
    next => cases taken
  · split at taken
    next found =>
      cases taken
      exact .streamed _ _ _ _ _ found
    next found =>
      cases taken
      exact .ended _ _ _ found
    next => cases taken
  · split at taken
    next found =>
      cases taken
      exact .failed _ _ _ _ found
    next => cases taken
  · cases taken
    exact .event _
  · cases taken
    exact .closing
  · split at taken
    next attached =>
      cases taken
      exact .closed attached
    next => cases taken

def unlimitedSettings : Settings := { limits := some { client := some { subscription := some {} } } }

end WebSocketAdapter

structure Connection where
  adapter : WebSocketAdapter := {}
  sent : List (OutgoingMessage × Subscriptions) := []

namespace Connection

def step (settings : Settings) (connection : Connection) (action : WebSocketAdapter.Action) :
    Option Connection :=
  (connection.adapter.step settings action).map fun (reached, messages) =>
    { adapter := reached
      sent := connection.sent ++ messages.map fun message => (message, reached.subscriptions) }

theorem step_cases (settings : Settings) (connection reached : Connection)
    (action : WebSocketAdapter.Action) (taken : connection.step settings action = some reached) :
    ∃ messages, WebSocketAdapter.Step settings connection.adapter action reached.adapter messages ∧
      reached.sent =
        connection.sent ++ messages.map fun message => (message, reached.adapter.subscriptions) := by
  obtain ⟨⟨adapter, messages⟩, stepped, rfl⟩ := Option.map_eq_some_iff.mp taken
  exact ⟨messages, WebSocketAdapter.step_cases settings _ _ _ _ stepped, rfl⟩

end Connection

end Nostream
