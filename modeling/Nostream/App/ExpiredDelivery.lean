import Nostream.Adapters.CurrentSubscriptions
import Nostream.App.BroadcastReach
import Nostream.Handlers.AnnouncedOnce

set_option autoImplicit false

namespace Nostream.ExpiredDelivery

open Utf16 Hex MessageStages SubmissionStages SubmissionPool AnnouncedOnce CurrentSubscriptions Cluster Slots
open Runs hiding execute

def NeverExpired (cluster : Cluster) : Prop :=
  ∀ client ∈ cluster.clients, ∀ sent ∈ client.sent, ∀ subscriptionId event,
    sent.message = .event subscriptionId event →
      ∀ expiration, getEventExpiration event = some expiration → sent.time < expiration

def isExpiredAt (now : Int) (event : Event) : Bool :=
  (getEventExpiration event).any fun expiration => expiration ≤ now

def upcoming (handled : ClientSubmission) : List Event :=
  if handled.isEmitted then []
  else match handled.submission.stage with
  | .finished outputs => outputs.broadcasts
  | _ => [handled.submission.event]

def streamed (adapter : WebSocketAdapter) : List Event :=
  if adapter.isAttached && adapter.isOpen then
    adapter.handlings.flatMap fun
      | .streaming _ filters rows => deliverable filters rows
      | _ => []
  else []

-- Time does not overtake an event on its way, and no query finds an event that has expired.
def timely (cluster : Cluster) : Cluster.Action → Bool
  | .tick now =>
    (cluster.submissions.flatMap upcoming).all (fun event => !isExpiredAt now event) &&
      (List.range cluster.workers).all (fun worker =>
        cluster.hub.owed (.worker worker) (fun broadcast => isExpiredAt now broadcast.event) = 0) &&
      (cluster.clients.flatMap fun client => streamed client.adapter).all fun event => !isExpiredAt now event
  | .client c (.snapshot i (.ok rows)) =>
    match cluster.clients[c]? with
    | none => true
    | some client =>
      !(client.adapter.isAttached && client.adapter.isOpen) ||
        match client.adapter.handlings[i]? with
        | some (.querying _ filters) => (deliverable filters rows).all fun event => !isExpiredAt cluster.now event
        | _ => true
  | .submit _ _ received => getEventExpiration received ≠ some 0
  | .ingest _ _ (.event _ received) => getEventExpiration received ≠ some 0
  | _ => true

structure InTime (cluster : Cluster) : Prop where
  placed : ∀ client ∈ cluster.clients, client.worker < cluster.workers
  results : ∀ handled ∈ cluster.submissions, OnlyResults handled.submission
  submitted : ∀ handled ∈ cluster.submissions, ∀ event ∈ upcoming handled, isExpiredAt cluster.now event = false
  underway : ∀ worker < cluster.workers, cluster.hub.owed (.worker worker)
    (fun broadcast => isExpiredAt cluster.now broadcast.event) = 0
  streaming : ∀ client ∈ cluster.clients, ∀ event ∈ streamed client.adapter, isExpiredAt cluster.now event = false
  never : NeverExpired cluster

theorem expired_same (a b : Event) (same : a.tags = b.tags) (now : Int) : isExpiredAt now a = isExpiredAt now b := by
  unfold isExpiredAt getEventExpiration
  rw [same]

/-- The check on arrival misses an expiration of zero only. -/
theorem unexpired_accepted (now : Int) (event : Event) (unexpired : isExpiredEvent now event = false)
    (nonzero : getEventExpiration event ≠ some 0) : isExpiredAt now event = false := by
  unfold isExpiredEvent at unexpired
  unfold isExpiredAt
  cases expiration : getEventExpiration event with
  | none => rfl
  | some time =>
    have other : time ≠ 0 := fun zero => nonzero (by rw [expiration, zero])
    simp only [expiration, Bool.and_eq_false_iff, bne_eq_false_iff_eq, other, false_or] at unexpired
    exact unexpired

def Sends (now : Int) (before client : Client) : Prop :=
  ∀ sent ∈ client.sent, sent ∈ before.sent ∨ (sent.time = now ∧ ∀ subscriptionId event,
    sent.message = .event subscriptionId event → isExpiredAt now event = false)

theorem sends_never (now : Int) (before client : Client) (sends : Sends now before client)
    (never : ∀ sent ∈ before.sent, ∀ subscriptionId event, sent.message = .event subscriptionId event →
      ∀ expiration, getEventExpiration event = some expiration → sent.time < expiration) :
    ∀ sent ∈ client.sent, ∀ subscriptionId event, sent.message = .event subscriptionId event →
      ∀ expiration, getEventExpiration event = some expiration → sent.time < expiration := by
  intro sent member subscriptionId event isEvent expiration isExpiration
  rcases sends sent member with old | ⟨time, unexpired⟩
  · exact never sent old subscriptionId event isEvent expiration isExpiration
  · have later := unexpired subscriptionId event isEvent
    simp only [isExpiredAt, isExpiration, Option.any_some, decide_eq_false_iff_not, not_le] at later
    rwa [time]

theorem sends_log (now : Int) (client : Client) (broadcast : Option Nat) (messages : List OutgoingMessage)
    (unexpired : ∀ subscriptionId event, .event subscriptionId event ∈ messages →
      isExpiredAt now event = false) :
    Sends now client (client.log now broadcast messages) := by
  intro sent member
  rcases List.mem_append.mp member with old | new
  · exact .inl old
  · obtain ⟨message, sends, rfl⟩ := List.mem_map.mp new
    exact .inr ⟨rfl, fun subscriptionId event isEvent => unexpired subscriptionId event (isEvent ▸ sends)⟩

theorem serve_never (cluster : Cluster) (worker : Nat) (broadcast : BroadcastMessage)
    (unexpired : worker < cluster.workers → isExpiredAt cluster.now broadcast.event = false)
    (placed : ∀ client ∈ cluster.clients, client.worker < cluster.workers) (never : NeverExpired cluster) :
    NeverExpired (cluster.serve worker broadcast) := by
  intro client member
  obtain ⟨before, isBefore, rfl⟩ := List.mem_map.mp member
  split
  next same =>
    apply sends_never cluster.now before _ _ (never before isBefore)
    unfold Client.hear
    split
    next =>
      apply sends_log
      intro subscriptionId event sends
      obtain ⟨_, _, _, _, _, _, isEvent⟩ := (WebSocketAdapter.mem_emitEvent ..).mp sends
      cases isEvent
      exact unexpired (same ▸ placed before isBefore)
    next => exact fun sent old => .inl old
  next => exact never before isBefore

theorem onBroadcast_inTime (cluster : Cluster) (worker : Nat) (event : Event)
    (unexpired : isExpiredAt cluster.now event = false) (inv : InTime cluster) :
    InTime (cluster.onBroadcast worker event) := by
  let broadcast : BroadcastMessage := { number := cluster.issued.length, event := event }
  constructor
  · exact BroadcastReach.serve_clients cluster worker broadcast (fun _ w => w < cluster.workers) inv.placed
  · exact inv.results
  · exact inv.submitted
  · intro other bound
    have posted := Hub.owed_post cluster.hub (.worker worker) (.worker other) broadcast
      fun broadcast => isExpiredAt cluster.now broadcast.event
    rw [unexpired, Bool.and_false, inv.underway other bound] at posted
    exact posted
  · exact BroadcastReach.serve_clients cluster worker broadcast
      (fun adapter _ => ∀ event ∈ streamed adapter, isExpiredAt cluster.now event = false) inv.streaming
  · exact serve_never cluster worker broadcast (fun _ => unexpired) inv.placed inv.never

theorem send_inTime (cluster : Cluster) (m : Nat) (event : Event) (source : Option JsString)
    (unexpired : isExpiredAt cluster.now event = false) (inv : InTime cluster) :
    InTime (cluster.send (.mirror m) event source) := by
  refine ⟨inv.placed, inv.results, inv.submitted, ?_, inv.streaming, inv.never⟩
  intro other bound
  have posted := Hub.owed_post cluster.hub (.mirror m) (.worker other)
    { number := cluster.issued.length, event := event, source := source }
    fun broadcast => isExpiredAt cluster.now broadcast.event
  rw [unexpired, Bool.and_false, inv.underway other bound] at posted
  exact posted

theorem mem_streamed (adapter : WebSocketAdapter) (event : Event) :
    event ∈ streamed adapter ↔ adapter.isAttached = true ∧ adapter.isOpen = true ∧
      ∃ subscriptionId, event ∈ pending adapter subscriptionId := by
  unfold streamed
  split
  next live =>
    rw [Bool.and_eq_true] at live
    simp only [live.1, live.2, true_and, List.mem_flatMap, mem_pending]
    constructor
    · rintro ⟨handling, member, delivers⟩
      cases handling with
      | streaming subscriptionId filters rows => exact ⟨subscriptionId, filters, rows, member, delivers⟩
      | _ => cases delivers
    · rintro ⟨subscriptionId, filters, rows, member, delivers⟩
      exact ⟨_, member, delivers⟩
  next dead =>
    rw [Bool.and_eq_true] at dead
    simp only [List.not_mem_nil, false_iff]
    exact fun live => dead ⟨live.1, live.2.1⟩

theorem step_streamed (settings : Settings) (adapter reached : WebSocketAdapter)
    (action : WebSocketAdapter.Action) (messages : List OutgoingMessage)
    (stepped : WebSocketAdapter.Step settings adapter action reached messages) (event : Event)
    (delivers : event ∈ streamed reached) :
    event ∈ streamed adapter ∨ ∃ i rows subscriptionId filters, action = .snapshot i (.ok rows) ∧
      adapter.handlings[i]? = some (.querying subscriptionId filters) ∧ adapter.isAttached = true ∧
        adapter.isOpen = true ∧ event ∈ deliverable filters rows := by
  obtain ⟨attached, isOpen, subscriptionId, delivers⟩ := (mem_streamed ..).mp delivers
  cases stepped with
  | received =>
    refine .inl ((mem_streamed ..).mpr ⟨attached, isOpen, subscriptionId, ?_⟩)
    simpa [pending] using delivers
  | subscribed i id filters =>
    simp only [WebSocketAdapter.proceed, WebSocketAdapter.emitSubscribe_isAttached,
      WebSocketAdapter.emitSubscribe_isOpen] at attached isOpen
    refine .inl ((mem_streamed ..).mpr ⟨attached, isOpen, subscriptionId, ?_⟩)
    have before := pending_idle _ i _ (by simp) subscriptionId event delivers
    simpa [pending] using before
  | unsubscribed i id =>
    simp only [WebSocketAdapter.proceed, WebSocketAdapter.emitUnsubscribe_isAttached,
      WebSocketAdapter.emitUnsubscribe_isOpen] at attached isOpen
    refine .inl ((mem_streamed ..).mpr ⟨attached, isOpen, subscriptionId, ?_⟩)
    have before := pending_idle _ i _ (by simp) subscriptionId event delivers
    simpa [pending] using before
  | found i id filters rows found =>
    rcases pending_proceed _ _ _ _ _ delivers with old | ⟨_, _, isNew, delivers⟩
    · exact .inl ((mem_streamed ..).mpr ⟨attached, isOpen, subscriptionId, old⟩)
    · cases isNew
      exact .inr ⟨i, rows, subscriptionId, filters, rfl, found, attached, isOpen, delivers⟩
  | streamed i id filters row rows found =>
    have before := pending_streamed adapter i id filters row rows found subscriptionId event delivers
    exact .inl ((mem_streamed ..).mpr ⟨attached, isOpen, subscriptionId, before⟩)
  | event => exact .inl ((mem_streamed ..).mpr ⟨attached, isOpen, subscriptionId, delivers⟩)
  | closing => cases isOpen
  | closed => cases attached
  | turnedAway | rejected | ended | failed =>
    have before := pending_idle adapter _ _ (by simp) subscriptionId event delivers
    exact .inl ((mem_streamed ..).mpr ⟨attached, isOpen, subscriptionId, before⟩)

theorem step_sends (settings : Settings) (adapter reached : WebSocketAdapter)
    (action : WebSocketAdapter.Action) (messages : List OutgoingMessage)
    (stepped : WebSocketAdapter.Step settings adapter action reached messages)
    (stored : ∀ event, action ≠ .event event) (subscriptionId : JsString) (event : Event)
    (sends : .event subscriptionId event ∈ messages) : event ∈ streamed adapter := by
  cases stepped with
  | turnedAway i limited frame messages found notices =>
    obtain ⟨text, isNotice⟩ := notices _ sends
    cases isNotice
  | streamed i id filters row rows found =>
    obtain ⟨attached, isOpen, shown, subscribed, isRow⟩ := (WebSocketAdapter.mem_streamRow ..).mp sends
    cases isRow
    apply (mem_streamed ..).mpr
    refine ⟨attached, isOpen, subscriptionId, (mem_pending ..).mpr ⟨filters, row :: rows, ?_, ?_⟩⟩
    · exact List.mem_of_getElem? found
    · exact (mem_deliverable ..).mpr ⟨row, List.mem_cons_self, shown, subscribed, rfl⟩
  | ended =>
    obtain ⟨_, _, isEose⟩ := (WebSocketAdapter.mem_emitMessage ..).mp sends
    cases isEose
  | event live => exact (stored live rfl).elim
  | received | subscribed | unsubscribed | found | rejected | failed | closing | closed => cases sends

theorem started_unexpired (handler : EventMessageHandler) (received : Event) (now : Int)
    (nonzero : getEventExpiration received ≠ some 0) {c : Nat} (event : Event)
    (coming : event ∈ upcoming
      { client := c, submission := start { handler with expiryClock := now } received }) :
    isExpiredAt now event = false := by
  have own : event = prepared { handler with expiryClock := now } received ∧
      passes { handler with expiryClock := now } received = true := by
    cases passed : passes { handler with expiryClock := now } received with
    | false => simp [upcoming, start, passed] at coming
    | true =>
      refine ⟨?_, rfl⟩
      have own := start_own { handler with expiryClock := now } received
      unfold upcoming at coming
      split at coming
      next emitted => cases emitted
      next =>
        split at coming
        next outputs stage => exact own outputs stage event coming
        next => exact List.mem_singleton.mp coming
  obtain ⟨rfl, passed⟩ := own
  have unexpired := ((passes_iff _ _).mp passed).passed.2
  obtain ⟨_, shape⟩ := prepared_eq { handler with expiryClock := now } received
  rw [expired_same _ received (by rw [shape])]
  exact unexpired_accepted now received unexpired nonzero

theorem advance_upcoming (fates : Fates) (handled : ClientSubmission) (advanced : Submission)
    (before after : EventsTable) (moved : Advance fates handled.submission before advanced after) (event : Event)
    (coming : event ∈ upcoming { handled with submission := advanced }) : event ∈ upcoming handled := by
  have sameEvent := advance_event fates handled.submission advanced before after moved
  have own := advance_own fates handled.submission advanced before after moved
  unfold upcoming at coming ⊢
  split at coming
  next => cases coming
  next fresh =>
    rw [if_neg fresh]
    have isOwn : event = handled.submission.event := by
      rw [← sameEvent]
      split at coming
      next outputs stage => exact own outputs stage event coming
      next => exact List.mem_singleton.mp coming
    cases moved with
    | failed _ stage => simp [stage, isOwn]
    | deleted stage => simp [stage, isOwn]
    | written _ _ stage => simp [stage, isOwn]

theorem acted_inTime (settings : Settings) (cluster : Cluster) (c : Nat) (action : WebSocketAdapter.Action)
    (client : Client) (reached : WebSocketAdapter) (messages : List OutgoingMessage)
    (found : cluster.clients[c]? = some client) (observed : cluster.observes action = true)
    (stepped : WebSocketAdapter.Step settings client.adapter action reached messages)
    (allowed : timely cluster (.client c action) = true) (inv : InTime cluster) :
    InTime { cluster with
      clients := cluster.clients.set c { client.log cluster.now none messages with adapter := reached } } := by
  have member := List.mem_of_getElem? found
  constructor
  · intro other inClients
    rcases mem_set_cases inClients with rfl | old
    · exact inv.placed client member
    · exact inv.placed other old
  · exact inv.results
  · exact inv.submitted
  · exact inv.underway
  · intro other inClients event delivers
    rcases mem_set_cases inClients with rfl | old
    · rcases step_streamed settings client.adapter reached action messages stepped event delivers with
        before | ⟨i, rows, id, filters, rfl, querying, attached, isOpen, fetched⟩
      · exact inv.streaming client member event before
      · simp only [timely, found, querying, attached, isOpen, Bool.and_self, Bool.not_true,
          Bool.false_or, List.all_eq_true, Bool.not_eq_true'] at allowed
        exact allowed event fetched
    · exact inv.streaming other old event delivers
  · intro other inClients
    rcases mem_set_cases inClients with rfl | old
    · apply sends_never cluster.now client _ _ (inv.never client member)
      apply sends_log cluster.now client none messages
      intro subscriptionId event sends
      apply inv.streaming client member event
      apply step_sends settings client.adapter reached action messages stepped _ subscriptionId event sends
      intro live isLive
      rw [isLive] at observed
      cases observed
    · exact inv.never other old

theorem emit_inTime (cluster : Cluster) (i : Nat) (handled : ClientSubmission) (client : Client)
    (outputs : Outputs) (found : cluster.submissions[i]? = some handled) (fresh : handled.isEmitted = false)
    (stage : handled.submission.stage = .finished outputs)
    (isClient : cluster.clients[handled.client]? = some client) (inv : InTime cluster) :
    InTime (cluster.emit i handled client outputs) := by
  have member := List.mem_of_getElem? isClient
  have inSubmissions := List.mem_of_getElem? found
  have unexpired : ∀ event ∈ outputs.broadcasts, isExpiredAt cluster.now event = false := by
    intro event broadcast
    apply inv.submitted handled inSubmissions event
    simpa [upcoming, fresh, stage] using broadcast
  refine (emit_induction cluster (fun reached => reached.now = cluster.now ∧ InTime reached) i handled client
    outputs ?_ ?_).2
  · refine ⟨rfl, ?_, ?_, ?_, inv.underway, ?_, ?_⟩
    · intro other inClients
      rcases mem_set_cases inClients with rfl | old
      · exact inv.placed client member
      · exact inv.placed other old
    · intro other inPool
      rcases mem_set_cases inPool with rfl | old
      · exact inv.results handled inSubmissions
      · exact inv.results other old
    · intro other inPool event coming
      rcases mem_set_cases inPool with rfl | old
      · simp [upcoming] at coming
      · exact inv.submitted other old event coming
    · intro other inClients event delivers
      rcases mem_set_cases inClients with rfl | old
      · exact inv.streaming client member event delivers
      · exact inv.streaming other old event delivers
    · intro other inClients
      rcases mem_set_cases inClients with rfl | old
      · apply sends_never cluster.now client _ _ (inv.never client member)
        apply sends_log
        intro subscriptionId event sends
        obtain ⟨message, answered, emits⟩ := List.mem_flatMap.mp sends
        obtain ⟨_, _, rfl⟩ := (WebSocketAdapter.mem_emitMessage ..).mp emits
        cases inv.results handled inSubmissions outputs stage _ answered
      · exact inv.never other old
  · intro reached ⟨sameNow, inv⟩ event broadcast
    exact ⟨sameNow, onBroadcast_inTime reached client.worker event (sameNow ▸ unexpired event broadcast) inv⟩

theorem inTime_preserved (settings : Settings) :
    Preserves (Cluster.step settings) (fun cluster action => timely cluster action = true) InTime := by
  intro cluster action reached inv allowed taken
  cases step_cases settings cluster reached action taken with
  | ticked now =>
    simp only [timely, Bool.and_eq_true, List.all_eq_true, List.mem_flatMap, List.mem_range,
      Bool.not_eq_true', decide_eq_true_eq, forall_exists_index, and_imp] at allowed
    obtain ⟨⟨submitted, underway⟩, streaming⟩ := allowed
    exact ⟨inv.placed, inv.results, fun handled member event coming => submitted event handled member coming,
      underway, fun client member event delivers => streaming event client member delivers, inv.never⟩
  | connected worker bound =>
    refine ⟨?_, inv.results, inv.submitted, inv.underway, ?_, ?_⟩
    · intro client member
      rcases List.mem_append.mp member with old | new
      · exact inv.placed client old
      · rw [List.mem_singleton.mp new]
        exact bound
    · intro client member event delivers
      rcases List.mem_append.mp member with old | new
      · exact inv.streaming client old event delivers
      · rw [List.mem_singleton.mp new] at delivers
        cases delivers
    · intro client member sent wasSent
      rcases List.mem_append.mp member with old | new
      · exact inv.never client old sent wasSent
      · rw [List.mem_singleton.mp new] at wasSent
        cases wasSent
  | linked => exact ⟨inv.placed, inv.results, inv.submitted, inv.underway, inv.streaming, inv.never⟩
  | acted c action client adapter messages found observed stepped =>
    exact acted_inTime settings cluster c action client adapter messages found observed stepped allowed inv
  | submitted c handler received bound =>
    refine ⟨inv.placed, ?_, ?_, inv.underway, inv.streaming, inv.never⟩
    · intro handled member
      rcases List.mem_append.mp member with old | new
      · exact inv.results handled old
      · rw [List.mem_singleton.mp new]
        exact start_results _ received
    · intro handled member event coming
      rcases List.mem_append.mp member with old | new
      · exact inv.submitted handled old event coming
      · rw [List.mem_singleton.mp new] at coming
        exact started_unexpired handler received cluster.now (by simpa [timely] using allowed) event coming
  | advanced i fates handled advanced table found moved =>
    have member := List.mem_of_getElem? found
    refine ⟨inv.placed, ?_, ?_, inv.underway, inv.streaming, inv.never⟩
    · intro other inPool
      rcases mem_set_cases inPool with rfl | old
      · exact advance_results fates handled.submission advanced cluster.table table moved
      · exact inv.results other old
    · intro other inPool event coming
      rcases mem_set_cases inPool with rfl | old
      · exact inv.submitted handled member event
          (advance_upcoming fates handled advanced cluster.table table moved event coming)
      · exact inv.submitted other old event coming
  | emitted i handled client outputs found fresh stage isClient =>
    exact emit_inTime cluster i handled client outputs found fresh stage isClient inv
  | passed k hub passed =>
    refine ⟨inv.placed, inv.results, inv.submitted, ?_, inv.streaming, inv.never⟩
    intro worker bound
    rw [← inv.underway worker bound]
    exact Hub.owed_passOn cluster.processes (BroadcastReach.processes_nodup cluster) cluster.hub hub k
      (.worker worker) (BroadcastReach.worker_mem_processes cluster worker bound) passed _
  | heard k worker broadcast hub took =>
    have taken (other : Nat) := Hub.owed_take cluster.hub hub k (.worker worker) broadcast (.worker other) took
      fun broadcast => isExpiredAt cluster.now broadcast.event
    have unexpired (bound : worker < cluster.workers) : isExpiredAt cluster.now broadcast.event = false := by
      have none := taken worker
      rw [inv.underway worker bound] at none
      simpa using (Nat.add_eq_zero_iff.mp none.symm).2
    constructor
    · exact BroadcastReach.serve_clients { cluster with hub := hub } worker broadcast
        (fun _ w => w < cluster.workers) inv.placed
    · exact inv.results
    · exact inv.submitted
    · intro other bound
      have none := taken other
      rw [inv.underway other bound] at none
      exact (Nat.add_eq_zero_iff.mp none.symm).1
    · exact BroadcastReach.serve_clients { cluster with hub := hub } worker broadcast
        (fun adapter _ => ∀ event ∈ streamed adapter, isExpiredAt cluster.now event = false) inv.streaming
    · exact serve_never { cluster with hub := hub } worker broadcast unexpired inv.placed inv.never
  | relayed k m broadcast hub took =>
    refine ⟨inv.placed, inv.results, inv.submitted, ?_, inv.streaming, inv.never⟩
    intro worker bound
    have same := Hub.owed_take cluster.hub hub k (.mirror m) broadcast (.worker worker) took
      fun broadcast => isExpiredAt cluster.now broadcast.event
    rw [inv.underway worker bound] at same
    exact (Nat.add_eq_zero_iff.mp same.symm).1
  | ingested m fates message mirror found =>
    refine (ingest_induction cluster (fun reached => reached.now = cluster.now ∧ InTime reached) m mirror fates
      message ?_ ?_).2
    · exact fun table => ⟨rfl, inv.placed, inv.results, inv.submitted, inv.underway, inv.streaming, inv.never⟩
    · rintro reached ⟨sameNow, inv⟩ subscriptionId received isMessage unexpired
      subst isMessage
      refine ⟨sameNow, send_inTime reached m _ _ ?_ inv⟩
      rw [sameNow, expired_same _ received (addExpirationMetadata_tags received)]
      exact unexpired_accepted cluster.now received unexpired (by simpa [timely] using allowed)

theorem started_inTime (workers : Nat) (mirrors : List StaticMirroringWorker) (table : EventsTable)
    (now : Int) : InTime (started workers mirrors table now) :=
  ⟨by simp [started], by simp [started], by simp [started], by simp [started, Hub.owed], by simp [started],
    by simp [NeverExpired, started]⟩

theorem timely_never_expired (settings : Settings) (workers : Nat) (mirrors : List StaticMirroringWorker)
    (table : EventsTable) (now : Int) (trace : List Cluster.Action) (final : Cluster)
    (run : Run (Cluster.step settings) (fun cluster action => timely cluster action = true)
      (started workers mirrors table now) trace final) : NeverExpired final :=
  (run.invariant (inTime_preserved settings) (started_inTime workers mirrors table now)).never

def expiringNote : Event :=
  { note with
    id := toHex [0x97, 0xe8, 0x0b, 0x08, 0xe0, 0xbf, 0x34, 0xc1, 0x2f, 0xfc, 0x3b, 0xd6, 0xfd, 0x21, 0xef, 0x47,
       0x6c, 0x83, 0xb2, 0x81, 0x4d, 0x9f, 0x56, 0x9f, 0x59, 0xa3, 0x42, 0xcb, 0xdc, 0x11, 0xbc, 0x5e]
    tags := [[js "expiration", js "1700000100"]]
    sig := toHex [0xb9, 0x16, 0xea, 0x3c, 0x4c, 0x39, 0x9a, 0x04, 0x38, 0x2e, 0x3c, 0xa0, 0x6a, 0xd1, 0xfe, 0x94,
        0xd6, 0x4b, 0xbb, 0x92, 0x47, 0x31, 0xa9, 0xfb, 0xbf, 0x20, 0xd8, 0x26, 0x59, 0xf1, 0x48, 0xa5,
        0x5d, 0xa9, 0xc6, 0xe9, 0x28, 0xdd, 0xa0, 0xb8, 0x1b, 0x90, 0x5c, 0xf1, 0xf8, 0x6c, 0x92, 0x87,
        0x60, 0x03, 0xa0, 0x49, 0x73, 0xd0, 0x37, 0x10, 0xa3, 0x28, 0x5c, 0xff, 0x20, 0x61, 0x02, 0xab] }

def expiringHandler : EventMessageHandler := { openHandler with crypto := recordedCrypto [recorded expiringNote] }

def expiringRow : DBEvent := (EventRepository.insertRow (prepared expiringHandler expiringNote)).stored

theorem all_accepted : messageSchema (.subscribe (js "s") [{}]) = true := by decide

def askedAt (time : Int) : List Cluster.Action :=
  [.connect 0, .submit 0 expiringHandler expiringNote, .advance 0 {}, .emit 0, .passOn 0, .tick time] ++
    BroadcastReach.subscribing 0 [{}] all_accepted ++ [.client 0 (.snapshot 0 (.ok [expiringRow])), .client 0 (.next 0)]

theorem asked_early_never_expired :
    ∃ final, Run (Cluster.step WebSocketAdapter.unlimitedSettings)
        (fun cluster action => timely cluster action = true) (started 1 [] [] 1700000000) (askedAt 1700000099)
        final ∧
      (final.clients.map fun client => client.sent.map SentMessage.message) =
        [[.ok expiringNote.id true [], .event (js "s") (toNostrEvent expiringRow)]] ∧ NeverExpired final := by
  have ran : (Runs.execute (Cluster.step WebSocketAdapter.unlimitedSettings)
      (fun cluster action => timely cluster action = true) (started 1 [] [] 1700000000)
      (askedAt 1700000099)).map
      (fun final => final.clients.map fun client => client.sent.map SentMessage.message) =
        some [[.ok expiringNote.id true [], .event (js "s") (toNostrEvent expiringRow)]] := by
    decide +kernel
  obtain ⟨final, executed, answers⟩ := Option.map_eq_some_iff.mp ran
  have run := run_of_execute executed
  exact ⟨final, run, answers, timely_never_expired _ 1 [] [] 1700000000 _ final run⟩

theorem asked_late_expired :
    ¬ ∀ (settings : Settings) (workers : Nat) (mirrors : List StaticMirroringWorker) (table : EventsTable)
        (now : Int) (trace : List Cluster.Action) (final : Cluster),
      Run (Cluster.step settings) (fun _ _ => True) (started workers mirrors table now) trace final →
        NeverExpired final := by
  intro claim
  have ran : (Runs.execute (Cluster.step WebSocketAdapter.unlimitedSettings) (fun _ _ => True)
      (started 1 [] [] 1700000000) (askedAt 1700000200)).map
      (fun final => final.clients.map fun client => client.sent.map fun sent => (sent.message, sent.time)) =
        some [[(.ok expiringNote.id true [], 1700000000),
          (.event (js "s") (toNostrEvent expiringRow), 1700000200)]] := by
    decide +kernel
  obtain ⟨final, executed, answers⟩ := Option.map_eq_some_iff.mp ran
  have never := claim _ 1 [] [] 1700000000 _ final (run_of_execute executed)
  obtain ⟨client, clients⟩ : ∃ client, final.clients = [client] := by
    rw [← List.length_eq_one_iff, ← List.length_map (f := fun client : Client => client.sent.map
      fun sent => (sent.message, sent.time)), answers]
    rfl
  rw [clients, List.map_singleton, List.singleton_inj] at answers
  obtain ⟨sent, member, same⟩ := List.mem_map.mp (answers ▸ List.mem_cons_of_mem _ (List.mem_singleton_self _) :
    (OutgoingMessage.event (js "s") (toNostrEvent expiringRow), (1700000200 : Int)) ∈ client.sent.map
      fun sent => (sent.message, sent.time))
  rw [Prod.mk.injEq] at same
  have early := never client (clients ▸ List.mem_singleton_self client) sent member (js "s") _ same.1
    1700000100 (by decide +kernel)
  omega

end Nostream.ExpiredDelivery
