import Nostream.Adapters.WebSocketAdapter
import Nostream.App.ServedEvents
import Nostream.Shared.Runs

set_option autoImplicit false

namespace Nostream.CurrentSubscriptions

open Utf16 SubscribeMessageHandler WebSocketAdapter Slots
open Runs hiding execute

def carries (subscriptions : Subscriptions) (subscriptionId : JsString) (event : Event) : Bool :=
  (subscriptions.get subscriptionId).any fun filters => isClientSubscribedToEvent filters event

def Current (connection : Connection) : Prop :=
  ∀ sent ∈ connection.sent, ∀ subscriptionId event, sent.1 = .event subscriptionId event →
    carries sent.2 subscriptionId event = true

def deliverable (filters : List SubscriptionFilter) (rows : List DBEvent) : List Event :=
  ((rows.filter fun row => row.deletedAt.isNone).map toNostrEvent).filter (isClientSubscribedToEvent filters)

def pending (adapter : WebSocketAdapter) (subscriptionId : JsString) : List Event :=
  adapter.handlings.flatMap fun
    | .streaming id filters rows => if id = subscriptionId then deliverable filters rows else []
    | _ => []

-- The step takes nothing from a subscription that one of its streams is still to deliver.
def undisturbed (settings : Settings) (connection : Connection) (action : Action) : Bool :=
  let adapter := connection.adapter
  !(adapter.isAttached && adapter.isOpen) ||
    match action with
    | .checked i (.ok false) =>
      match adapter.handlings[i]? with
      | some (.checking (.valid (.unsubscribe subscriptionId) _)) => (pending adapter subscriptionId).isEmpty
      | some (.checking (.valid (.subscribe subscriptionId received) _)) =>
        let filters := uniqWith SubscriptionFilter.equals received
        match canSubscribe settings adapter.subscriptions subscriptionId filters with
        | .ok none => (pending adapter subscriptionId).all (isClientSubscribedToEvent filters)
        | _ => true
      | _ => true
    | .snapshot i (.ok rows) =>
      match adapter.handlings[i]? with
      | some (.querying subscriptionId filters) =>
        (deliverable filters rows).all (carries adapter.subscriptions subscriptionId)
      | _ => true
    | _ => true

def Covered (adapter : WebSocketAdapter) : Prop :=
  adapter.isAttached = true → adapter.isOpen = true → ∀ subscriptionId, ∀ event ∈ pending adapter subscriptionId,
    carries adapter.subscriptions subscriptionId event = true

theorem mem_deliverable (filters : List SubscriptionFilter) (rows : List DBEvent) (event : Event) :
    event ∈ deliverable filters rows ↔ ∃ row ∈ rows, row.deletedAt.isNone = true ∧
      isClientSubscribedToEvent filters (toNostrEvent row) = true ∧ toNostrEvent row = event := by
  simp only [deliverable, List.mem_filter, List.mem_map]
  constructor
  · rintro ⟨⟨row, ⟨member, shown⟩, rfl⟩, subscribed⟩
    exact ⟨row, member, shown, subscribed, rfl⟩
  · rintro ⟨row, member, shown, subscribed, rfl⟩
    exact ⟨⟨row, ⟨member, shown⟩, rfl⟩, subscribed⟩

theorem mem_pending (adapter : WebSocketAdapter) (subscriptionId : JsString) (event : Event) :
    event ∈ pending adapter subscriptionId ↔ ∃ filters rows,
      .streaming subscriptionId filters rows ∈ adapter.handlings ∧ event ∈ deliverable filters rows := by
  simp only [pending, List.mem_flatMap]
  constructor
  · intro delivers
    obtain ⟨handling, member, delivers⟩ := delivers
    cases handling with
    | streaming id filters rows =>
      dsimp only at delivers
      split at delivers
      next same => exact ⟨filters, rows, same ▸ member, delivers⟩
      next => cases delivers
    | _ => cases delivers
  · intro delivers
    obtain ⟨filters, rows, member, delivers⟩ := delivers
    refine ⟨_, member, ?_⟩
    dsimp only
    rwa [if_pos rfl]

theorem pending_proceed (adapter : WebSocketAdapter) (i : Nat) (handling : MessageHandling)
    (subscriptionId : JsString) (event : Event)
    (delivers : event ∈ pending (adapter.proceed i handling) subscriptionId) :
    event ∈ pending adapter subscriptionId ∨ ∃ filters rows,
      handling = .streaming subscriptionId filters rows ∧ event ∈ deliverable filters rows := by
  obtain ⟨filters, rows, member, delivers⟩ := (mem_pending ..).mp delivers
  rcases mem_set_cases member with isNew | old
  · exact .inr ⟨filters, rows, isNew.symm, delivers⟩
  · exact .inl ((mem_pending ..).mpr ⟨filters, rows, old, delivers⟩)

theorem pending_idle (adapter : WebSocketAdapter) (i : Nat) (handling : MessageHandling)
    (idle : ∀ subscriptionId filters rows, handling ≠ .streaming subscriptionId filters rows)
    (subscriptionId : JsString) (event : Event)
    (delivers : event ∈ pending (adapter.proceed i handling) subscriptionId) :
    event ∈ pending adapter subscriptionId := by
  rcases pending_proceed adapter i handling subscriptionId event delivers with old | ⟨_, _, isNew, _⟩
  · exact old
  · exact (idle _ _ _ isNew).elim

theorem pending_streamed (adapter : WebSocketAdapter) (i : Nat) (id : JsString)
    (filters : List SubscriptionFilter) (row : DBEvent) (rows : List DBEvent)
    (found : adapter.handlings[i]? = some (.streaming id filters (row :: rows)))
    (subscriptionId : JsString) (event : Event)
    (delivers : event ∈ pending (adapter.proceed i (.streaming id filters rows)) subscriptionId) :
    event ∈ pending adapter subscriptionId := by
  rcases pending_proceed _ _ _ _ _ delivers with old | ⟨_, _, isNew, delivers⟩
  · exact old
  · cases isNew
    obtain ⟨other, member, delivers⟩ := (mem_deliverable ..).mp delivers
    apply (mem_pending ..).mpr
    exact ⟨filters, row :: rows, List.mem_of_getElem? found,
      (mem_deliverable ..).mpr ⟨other, List.mem_cons_of_mem row member, delivers⟩⟩

theorem covered_proceed (adapter : WebSocketAdapter) (i : Nat) (handling : MessageHandling)
    (idle : ∀ subscriptionId filters rows, handling ≠ .streaming subscriptionId filters rows)
    (covered : Covered adapter) : Covered (adapter.proceed i handling) := by
  intro attached isOpen subscriptionId event delivers
  apply covered attached isOpen subscriptionId event
  exact pending_idle adapter i handling idle subscriptionId event delivers

theorem emitSubscribe_covered (adapter : WebSocketAdapter) (id : JsString)
    (filters : List SubscriptionFilter) (covered : Covered adapter)
    (kept : adapter.isAttached = true → adapter.isOpen = true →
      (pending adapter id).all (isClientSubscribedToEvent filters) = true) :
    Covered (adapter.emitSubscribe id filters) := by
  unfold emitSubscribe
  split
  next attached =>
    intro _ isOpen subscriptionId event delivers
    unfold carries onSubscribed
    rw [InsertionMap.get_set]
    split
    next same =>
      subst same
      exact List.all_eq_true.mp (kept attached isOpen) event delivers
    next => exact covered attached isOpen subscriptionId event delivers
  next => exact covered

theorem emitUnsubscribe_covered (adapter : WebSocketAdapter) (id : JsString) (covered : Covered adapter)
    (spent : adapter.isAttached = true → adapter.isOpen = true → pending adapter id = []) :
    Covered (adapter.emitUnsubscribe id) := by
  unfold emitUnsubscribe
  split
  next attached =>
    intro _ isOpen subscriptionId event delivers
    unfold carries onUnsubscribed
    rw [InsertionMap.get_delete]
    split
    next same =>
      subst same
      have none : event ∈ pending adapter subscriptionId := delivers
      rw [spent attached isOpen] at none
      cases none
    next => exact covered attached isOpen subscriptionId event delivers
  next => exact covered

theorem step_covered (settings : Settings) (connection reached : Connection) (action : Action)
    (covered : Covered connection.adapter) (allowed : undisturbed settings connection action = true)
    (taken : connection.step settings action = some reached) : Covered reached.adapter := by
  obtain ⟨messages, stepped, _⟩ := Connection.step_cases settings connection reached action taken
  have holds (attached : connection.adapter.isAttached = true) (isOpen : connection.adapter.isOpen = true) :=
    Bool.or_eq_true_iff.mp allowed |>.resolve_left (by simp [attached, isOpen])
  generalize reached.adapter = adapter at stepped ⊢
  cases stepped with
  | received frame =>
    intro attached isOpen subscriptionId event delivers
    apply covered attached isOpen subscriptionId event
    simpa [pending] using delivers
  | subscribed i id received accepted found can =>
    apply covered_proceed _ _ _ (by simp)
    apply emitSubscribe_covered connection.adapter id _ covered
    intro attached isOpen
    have kept := holds attached isOpen
    simp only [found, can] at kept
    exact kept
  | unsubscribed i id accepted found =>
    apply covered_proceed _ _ _ (by simp)
    apply emitUnsubscribe_covered connection.adapter id covered
    intro attached isOpen
    have spent := holds attached isOpen
    simp only [found, List.isEmpty_iff] at spent
    exact spent
  | found i id filters rows found =>
    intro attached isOpen subscriptionId event delivers
    rcases pending_proceed _ _ _ _ _ delivers with old | ⟨_, _, isNew, delivers⟩
    · exact covered attached isOpen subscriptionId event old
    · cases isNew
      have registered := holds attached isOpen
      simp only [found] at registered
      exact List.all_eq_true.mp registered event delivers
  | streamed i id filters row rows found =>
    intro attached isOpen subscriptionId event delivers
    apply covered attached isOpen subscriptionId event
    exact pending_streamed connection.adapter i id filters row rows found subscriptionId event delivers
  | event => exact covered
  | closing => exact fun attached isOpen => by cases isOpen
  | closed => exact fun attached => by cases attached
  | turnedAway | rejected | ended | failed =>
    apply covered_proceed _ _ _ (by simp)
    exact covered

theorem step_current (settings : Settings) (connection reached : Connection) (action : Action)
    (covered : Covered connection.adapter) (current : Current connection)
    (taken : connection.step settings action = some reached) : Current reached := by
  obtain ⟨messages, stepped, isSent⟩ := Connection.step_cases settings connection reached action taken
  intro sent member subscriptionId event isEvent
  rw [isSent, List.mem_append] at member
  rcases member with old | new
  · exact current sent old subscriptionId event isEvent
  · obtain ⟨message, sends, rfl⟩ := List.mem_map.mp new
    dsimp only at isEvent
    subst isEvent
    generalize reached.adapter = adapter at stepped ⊢
    cases stepped with
    | turnedAway i limited frame messages found notices =>
      obtain ⟨text, isNotice⟩ := notices _ sends
      cases isNotice
    | streamed i id filters row rows found =>
      obtain ⟨attached, isOpen, shown, subscribed, isRow⟩ := (mem_streamRow ..).mp sends
      cases isRow
      apply covered attached isOpen subscriptionId (toNostrEvent row)
      apply (mem_pending ..).mpr
      exact ⟨filters, row :: rows, List.mem_of_getElem? found,
        (mem_deliverable ..).mpr ⟨row, List.mem_cons_self, shown, subscribed, rfl⟩⟩
    | ended i id filters found =>
      obtain ⟨_, _, isEose⟩ := (mem_emitMessage ..).mp sends
      cases isEose
    | event delivered =>
      obtain ⟨_, _, id, filters, registered, subscribed, isLive⟩ := (mem_emitEvent ..).mp sends
      cases isLive
      unfold carries
      rw [registered]
      exact subscribed
    | received | subscribed | unsubscribed | found | rejected | failed | closing | closed => cases sends

theorem undisturbed_current (settings : Settings) (trace : List Action) (final : Connection)
    (run : Run (Connection.step settings) (fun connection action => undisturbed settings connection action = true)
      {} trace final) :
    Current final := by
  have preserved : Preserves (Connection.step settings)
      (fun connection action => undisturbed settings connection action = true)
      fun connection => Covered connection.adapter ∧ Current connection := by
    intro connection action reached inv allowed taken
    exact ⟨step_covered settings connection reached action inv.1 allowed taken,
      step_current settings connection reached action inv.1 inv.2 taken⟩
  have opened : Covered ({} : WebSocketAdapter) := fun _ _ _ event delivers => by cases delivers
  exact (run.invariant preserved ⟨opened, fun sent member => by cases member⟩).2

def closedLate : List Action :=
  [.receive (reqFrame (js "s") [{}]), .checked 0 (.ok false), .snapshot 0 (.ok [ServedEvents.noteRow]),
    .next 0, .next 0, .receive (closeFrame (js "s")), .checked 1 (.ok false)]

def closedEarly : List Action :=
  [.receive (reqFrame (js "s") [{}]), .checked 0 (.ok false), .snapshot 0 (.ok [ServedEvents.noteRow]),
    .receive (closeFrame (js "s")), .checked 1 (.ok false), .next 0]

theorem closed_late_current :
    ∃ final, Run (Connection.step unlimitedSettings)
        (fun connection action => undisturbed unlimitedSettings connection action = true) {} closedLate final ∧
      final.sent.map Prod.fst = [.event (js "s") (toNostrEvent ServedEvents.noteRow), .endOfStoredEvents (js "s")] ∧
      Current final := by
  have ran : (Runs.execute (Connection.step unlimitedSettings)
      (fun connection action => undisturbed unlimitedSettings connection action = true) {} closedLate).map
      (fun final => final.sent.map Prod.fst) =
        some [.event (js "s") (toNostrEvent ServedEvents.noteRow), .endOfStoredEvents (js "s")] := by
    decide +kernel
  obtain ⟨final, executed, answers⟩ := Option.map_eq_some_iff.mp ran
  have run := run_of_execute executed
  exact ⟨final, run, answers, undisturbed_current unlimitedSettings closedLate final run⟩

theorem closed_early_stale :
    ¬ ∀ (settings : Settings) (trace : List Action) (final : Connection),
      Run (Connection.step settings) (fun _ _ => True) {} trace final → Current final := by
  intro claim
  have ran : (Runs.execute (Connection.step unlimitedSettings) (fun _ _ => True) {} closedEarly).map
      Connection.sent = some [(.event (js "s") (toNostrEvent ServedEvents.noteRow), .empty)] := by
    decide +kernel
  obtain ⟨final, executed, sent⟩ := Option.map_eq_some_iff.mp ran
  have current := claim unlimitedSettings closedEarly final (run_of_execute executed)
  have carried := current _ (sent ▸ List.mem_singleton_self _) (js "s") _ rfl
  simp [carries] at carried

end Nostream.CurrentSubscriptions
