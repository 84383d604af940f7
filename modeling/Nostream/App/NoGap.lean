import Nostream.Adapters.CurrentSubscriptions
import Nostream.App.BroadcastReach
import Nostream.Handlers.AnnouncedOnce

set_option autoImplicit false

namespace Nostream.NoGap

open Utf16 SubscribeMessageHandler MessageStages SubmissionStages SubmissionPool SettledEvents AnnouncedOnce
open CurrentSubscriptions BroadcastReach Cluster ServedEvents WebSocketAdapter Hex Slots
open Runs hiding execute

structure Snapshot where
  client : Nat
  subscriptionId : JsString
  filters : List SubscriptionFilter
  table : EventsTable
  submissions : List ClientSubmission

structure Observed where
  cluster : Cluster
  snapshots : List Snapshot := []

def snapshotAt (cluster : Cluster) (c : Nat) (subscriptionId : JsString)
    (filters : List SubscriptionFilter) : Snapshot :=
  { client := c
    subscriptionId := subscriptionId
    filters := filters
    table := cluster.table
    submissions := cluster.submissions }

def snapshotOf (cluster : Cluster) : Cluster.Action → List Snapshot
  | .client c (.snapshot i (.ok _)) =>
    match cluster.clients[c]?.bind fun client => client.adapter.handlings[i]? with
    | some (.querying subscriptionId filters) => [snapshotAt cluster c subscriptionId filters]
    | _ => []
  | _ => []

def Observed.step (settings : Settings) (observed : Observed) (action : Cluster.Action) : Option Observed :=
  (observed.cluster.step settings action).map fun reached =>
    { cluster := reached
      snapshots := observed.snapshots ++ snapshotOf observed.cluster action }

def answered (c : Nat) (subscriptionId : JsString) (observed : Observed) : Cluster.Action → Bool
  | .client d (.snapshot i found) =>
    match observed.cluster.clients[d]?.bind fun client => client.adapter.handlings[i]? with
    | some (.querying id filters) =>
      !(d = c && id = subscriptionId) ||
        match found with
        | .ok rows => observed.cluster.table.all fun row =>
            !(row.deletedAt.isNone && isClientSubscribedToEvent filters (toNostrEvent row)) || row ∈ rows
        | .error _ => false
    | _ => true
  | .client d (.fail i) =>
    match observed.cluster.clients[d]?.bind fun client => client.adapter.handlings[i]? with
    | some (.streaming id _ _) => !(d = c && id = subscriptionId)
    | _ => true
  | _ => true

-- An EVENT message has passed its schema when it comes to its handler.
def schematic : Cluster.Action → Bool
  | .submit _ _ received => eventSchema received
  | _ => true

def permitted (c : Nat) (subscriptionId : JsString) (observed : Observed) (action : Cluster.Action) : Bool :=
  schematic action && answered c subscriptionId observed action

def asStored (event : Event) : Event := toNostrEvent (EventRepository.insertRow event).stored

def NewlyStored (submission : Submission) : Prop :=
  ∃ before after, submission.written = some (before, after) ∧ Puts submission.event before after

def Delivered (client : Client) (subscriptionId : JsString) (event : Event) : Prop :=
  ∃ sent ∈ client.sent,
    sent.message = .event subscriptionId event ∨ sent.message = .event subscriptionId (asStored event)

-- No row shows the event of the submission any more when a query of the subscription takes its snapshot.
def Withdrawn (observed : Observed) (c : Nat) (subscriptionId : JsString) (filters : List SubscriptionFilter)
    (handled : ClientSubmission) : Prop :=
  ∃ snapshot ∈ observed.snapshots, snapshot.client = c ∧ snapshot.subscriptionId = subscriptionId ∧
    snapshot.filters = filters ∧ handled ∈ snapshot.submissions ∧
      ∀ row ∈ snapshot.table, row.deletedAt.isNone = true → toNostrEvent row ≠ asStored handled.submission.event

def carriesEvent (event : Event) (broadcast : BroadcastMessage) : Bool := broadcast.event = event

inductive Accounted (observed : Observed) (c : Nat) (subscriptionId : JsString)
    (filters : List SubscriptionFilter) (handled : ClientSubmission) (client : Client) : Prop
  | delivered (delivered : Delivered client subscriptionId handled.submission.event)
  | underway (owed : 0 < observed.cluster.hub.owed (.worker client.worker)
      (carriesEvent handled.submission.event))
  | querying (member : .querying subscriptionId filters ∈ client.adapter.handlings)
  | streaming (rows : List DBEvent) (member : .streaming subscriptionId filters rows ∈ client.adapter.handlings)
      (delivers : asStored handled.submission.event ∈ deliverable filters rows)
  | withdrawn (withdrawn : Withdrawn observed c subscriptionId filters handled)

theorem newlyStored_row (event : Event) (before after : EventsTable) (puts : Puts event before after) :
    ∃ row ∈ after, toNostrEvent row = asStored event := by
  cases puts with
  | inserted => exact ⟨_, List.mem_append_right _ (List.mem_singleton_self _), rfl⟩
  | appended => exact ⟨_, List.mem_append_right _ (List.mem_singleton_self _), rfl⟩
  | replaced _ existing found =>
    have merged := List.mem_of_find?_eq_some (find_merged (bound event) before existing found)
    have same : Writes.sameKey (bound event) existing = true := List.find?_some found
    obtain ⟨_, pubkey, kind, _⟩ := (Writes.sameIndexKey_iff existing (bound event).stored).mp same
    refine ⟨_, merged, ?_⟩
    simp only [toNostrEvent, mergeRow, pubkey, kind]
    rfl

theorem puts_changes (event : Event) (table : EventsTable) : ¬ Puts event table table := fun puts =>
  (puts_settles event table table puts).1 (puts_settles event table table puts).2

theorem write_storable (fates : Fates) (event : Event) (before : EventsTable)
    (puts : Puts event before ((write fates event).run before).2) :
    (EventRepository.insertRow event).storable = true := by
  cases replacing : isReplacing event with
  | true =>
    rw [write_replacing fates event replacing] at puts
    rcases Writes.upsert_written fates.upsert event (replacementDeduplication event) before with
      same | ⟨_, storable, _⟩
    · rw [same] at puts
      exact (puts_changes event before puts).elim
    · exact Writes.insertRow_storable event _ storable
  | false =>
    rw [write_creating fates event replacing, Writes.create_eq] at puts
    dsimp only at puts
    split at puts
    next inserted =>
      simp only [Writes.inserts, Bool.and_eq_true] at inserted
      exact inserted.1.1
    next => exact (puts_changes event before puts).elim

theorem asStored_subscribed (event : Event) (id : idSchema event.id = true)
    (pubkey : pubkeySchema event.pubkey = true)
    (storable : (EventRepository.insertRow event).storable = true) (filters : List SubscriptionFilter) :
    isClientSubscribedToEvent filters (asStored event) = isClientSubscribedToEvent filters event := by
  simp only [idSchema, pubkeySchema, Bool.and_eq_true, beq_iff_eq] at id pubkey
  simp only [EventRow.storable, EventRepository.insertRow, Bool.and_eq_true] at storable
  have sameId : (asStored event).id = event.id := toHex_ofHex event.id id.1 (by rw [id.2])
  have samePubkey : (asStored event).pubkey = event.pubkey :=
    toHex_ofHex event.pubkey pubkey.1 (by rw [pubkey.2])
  have sameTags : (asStored event).tags = event.tags := Writes.encode_decode_tags event.tags storable.1.1.2
  have sameKind : (asStored event).kind = event.kind := rfl
  have sameTime : (asStored event).createdAt = event.createdAt := rfl
  simp only [isClientSubscribedToEvent, isEventMatchingFilter, sameId, samePubkey, sameTags, sameKind, sameTime]

structure Follows (before client : Client) : Prop where
  worker : client.worker = before.worker
  adapter : client.adapter = before.adapter
  sent : before.sent ⊆ client.sent

theorem follows_self (client : Client) : Follows client client := ⟨rfl, rfl, fun _ member => member⟩

theorem follows_trans (a b c : Client) (first : Follows a b) (second : Follows b c) : Follows a c :=
  ⟨second.worker.trans first.worker, second.adapter.trans first.adapter,
    fun _ member => second.sent (first.sent member)⟩

theorem follows_log (client : Client) (now : Int) (broadcast : Option Nat) (messages : List OutgoingMessage) :
    Follows client (client.log now broadcast messages) :=
  ⟨rfl, rfl, fun _ member => List.mem_append_left _ member⟩

theorem follows_hear (client : Client) (now : Int) (broadcast : BroadcastMessage) :
    Follows client (client.hear now broadcast) := by
  unfold Client.hear
  split
  next => exact follows_log client now _ _
  next => exact follows_self client

def IsFetching (subscriptionId : JsString) (filters : List SubscriptionFilter) (handling : MessageHandling) :
    Prop :=
  handling = .querying subscriptionId filters ∨ ∃ rows, handling = .streaming subscriptionId filters rows

structure Grown (observed reached : Observed) (event : Event) (before client : Client) : Prop where
  worker : client.worker = before.worker
  sent : before.sent ⊆ client.sent
  owed : observed.cluster.hub.owed (.worker before.worker) (carriesEvent event) ≤
    reached.cluster.hub.owed (.worker before.worker) (carriesEvent event)
  snapshots : observed.snapshots ⊆ reached.snapshots

section Acting

variable (observed reached : Observed) (c : Nat) (subscriptionId : JsString)
  (filters : List SubscriptionFilter) (handled : ClientSubmission) (before client : Client)
  (grown : Grown observed reached handled.submission.event before client)
  (accounted : Accounted observed c subscriptionId filters handled before)

include grown accounted

theorem accounted_elim
    (querying : .querying subscriptionId filters ∈ before.adapter.handlings →
      Accounted reached c subscriptionId filters handled client)
    (streaming : ∀ rows, .streaming subscriptionId filters rows ∈ before.adapter.handlings →
      asStored handled.submission.event ∈ deliverable filters rows →
        Accounted reached c subscriptionId filters handled client) :
    Accounted reached c subscriptionId filters handled client := by
  cases accounted with
  | delivered delivered =>
    obtain ⟨message, member, isEvent⟩ := delivered
    exact .delivered ⟨message, grown.sent member, isEvent⟩
  | underway positive =>
    apply Accounted.underway
    rw [grown.worker]
    exact positive.trans_le grown.owed
  | querying member => exact querying member
  | streaming rows member delivers => exact streaming rows member delivers
  | withdrawn withdrawn =>
    obtain ⟨snapshot, taken, rest⟩ := withdrawn
    exact .withdrawn ⟨snapshot, grown.snapshots taken, rest⟩

theorem accounted_mono
    (fetching : ∀ handling ∈ before.adapter.handlings, IsFetching subscriptionId filters handling →
      handling ∈ client.adapter.handlings) :
    Accounted reached c subscriptionId filters handled client := by
  apply accounted_elim observed reached c subscriptionId filters handled before client grown accounted
  · exact fun member => .querying (fetching _ member (.inl rfl))
  · exact fun rows member delivers => .streaming rows (fetching _ member (.inr ⟨rows, rfl⟩)) delivers

theorem accounted_proceed (i : Nat) (old new : MessageHandling)
    (found : before.adapter.handlings[i]? = some old) (idle : ¬ IsFetching subscriptionId filters old)
    (handlings : client.adapter.handlings = before.adapter.handlings.set i new) :
    Accounted reached c subscriptionId filters handled client := by
  apply accounted_mono observed reached c subscriptionId filters handled before client grown accounted
  intro handling member fetching
  rw [handlings]
  apply mem_set_of_ne found member
  intro same
  exact idle (same ▸ fetching)

theorem accounted_streamed (i : Nat) (row : DBEvent) (rows : List DBEvent)
    (found : before.adapter.handlings[i]? = some (.streaming subscriptionId filters (row :: rows)))
    (handlings : client.adapter.handlings =
      before.adapter.handlings.set i (.streaming subscriptionId filters rows))
    (sends : ∀ message ∈ before.adapter.streamRow subscriptionId filters row,
      ∃ sent ∈ client.sent, sent.message = message)
    (attached : before.adapter.isAttached = true) (isOpen : before.adapter.isOpen = true) :
    Accounted reached c subscriptionId filters handled client := by
  have bound : i < before.adapter.handlings.length := (List.getElem?_eq_some_iff.mp found).1
  have left : .streaming subscriptionId filters rows ∈ client.adapter.handlings :=
    handlings ▸ List.mem_set bound _
  have others (handling : MessageHandling) (member : handling ∈ before.adapter.handlings)
      (other : handling ≠ .streaming subscriptionId filters (row :: rows)) :
      handling ∈ client.adapter.handlings := handlings ▸ mem_set_of_ne found member other
  apply accounted_elim observed reached c subscriptionId filters handled before client grown accounted
  · exact fun member => .querying (others _ member (by simp))
  · intro all member delivers
    by_cases own : all = row :: rows
    · subst own
      obtain ⟨shown, isRow, visible, subscribed, same⟩ := (mem_deliverable ..).mp delivers
      rcases List.mem_cons.mp isRow with rfl | later
      · have isSent : OutgoingMessage.event subscriptionId (toNostrEvent shown) ∈
            before.adapter.streamRow subscriptionId filters shown :=
          (WebSocketAdapter.mem_streamRow ..).mpr ⟨attached, isOpen, visible, subscribed, rfl⟩
        obtain ⟨sent, inSent, isMessage⟩ := sends _ isSent
        exact .delivered ⟨sent, inSent, .inr (by rw [isMessage, same])⟩
      · exact .streaming rows left ((mem_deliverable ..).mpr ⟨shown, later, visible, subscribed, same⟩)
    · exact .streaming all (others _ member (by simpa using own)) delivers

end Acting

structure Sound (handled : ClientSubmission) : Prop where
  id : idSchema handled.submission.event.id = true
  pubkey : pubkeySchema handled.submission.event.pubkey = true
  own : OwnBroadcasts handled.submission
  finished : handled.isPublished = true → ∃ outputs, handled.submission.stage = .finished outputs
  storable : NewlyStored handled.submission →
    (EventRepository.insertRow handled.submission.event).storable = true

theorem start_sound (c : Nat) (handler : EventMessageHandler) (received : Event)
    (schema : eventSchema received = true) : Sound { client := c, submission := start handler received } := by
  obtain ⟨_, shape⟩ := prepared_eq handler received
  have event : (start handler received).event = prepared handler received := rfl
  simp only [eventSchema, Bool.and_eq_true] at schema
  constructor
  · rw [event, shape]
    exact schema.1.1.1.1.1
  · rw [event, shape]
    exact schema.1.1.1.1.2
  · exact start_own handler received
  · exact fun published => by cases published
  · intro stored
    obtain ⟨_, _, written, _⟩ := stored
    cases written

theorem advance_unfinished (fates : Fates) (submission advanced : Submission) (before after : EventsTable)
    (moved : Advance fates submission before advanced after) (outputs : Outputs) :
    submission.stage ≠ .finished outputs := by
  cases moved with
  | failed reason stage => simp [stage]
  | deleted stage => simp [stage]
  | written outcome after stage => simp [stage]

theorem advance_sound (handled : ClientSubmission) (fates : Fates) (before after : EventsTable)
    (advanced : Submission) (moved : Advance fates handled.submission before advanced after)
    (sound : Sound handled) : Sound { handled with submission := advanced } := by
  have sameEvent := advance_event fates handled.submission advanced before after moved
  constructor
  · exact sameEvent ▸ sound.id
  · exact sameEvent ▸ sound.pubkey
  · exact advance_own fates handled.submission advanced before after moved
  · intro published
    obtain ⟨outputs, finished⟩ := sound.finished published
    exact (advance_unfinished fates handled.submission advanced before after moved outputs finished).elim
  · intro stored
    cases moved with
    | failed => exact sound.storable stored
    | deleted => exact sound.storable stored
    | written outcome after stage ran =>
      obtain ⟨_, _, written, puts⟩ := stored
      cases written
      apply write_storable fates handled.submission.event before
      rw [ran]
      exact puts

theorem snapshot_accounted (c : Nat) (subscriptionId : JsString) (filters : List SubscriptionFilter)
    (handled : ClientSubmission) (observed reached : Observed) (before client : Client) (i : Nat)
    (rows : List DBEvent) (isClient : observed.cluster.clients[c]? = some before)
    (found : before.adapter.handlings[i]? = some (.querying subscriptionId filters))
    (handlings : client.adapter.handlings =
      before.adapter.handlings.set i (.streaming subscriptionId filters rows))
    (snapshots : snapshotOf observed.cluster (.client c (.snapshot i (.ok rows))) ⊆ reached.snapshots)
    (allowed : answered c subscriptionId observed (.client c (.snapshot i (.ok rows))) = true)
    (member : handled ∈ observed.cluster.submissions)
    (subscribed : isClientSubscribedToEvent filters (asStored handled.submission.event) = true) :
    Accounted reached c subscriptionId filters handled client := by
  have bound : i < before.adapter.handlings.length := (List.getElem?_eq_some_iff.mp found).1
  by_cases shown : ∃ row ∈ observed.cluster.table, row.deletedAt.isNone = true ∧
      toNostrEvent row = asStored handled.submission.event
  · obtain ⟨row, inTable, visible, same⟩ := shown
    simp only [answered, isClient, Option.bind_some, found, decide_true, Bool.and_self, Bool.not_true,
      Bool.false_or, List.all_eq_true, Bool.or_eq_true, decide_eq_true_eq] at allowed
    have isRow : row ∈ rows := by
      rcases allowed row inTable with hidden | isRow
      · simp [visible, same, subscribed] at hidden
      · exact isRow
    exact .streaming rows (handlings ▸ List.mem_set bound _)
      ((mem_deliverable ..).mpr ⟨row, isRow, visible, same ▸ subscribed, same⟩)
  · have recorded : snapshotAt observed.cluster c subscriptionId filters ∈
        snapshotOf observed.cluster (.client c (.snapshot i (.ok rows))) := by
      simp [snapshotOf, isClient, found]
    exact .withdrawn ⟨_, snapshots recorded, rfl, rfl, rfl, member, fun row inTable visible same =>
      shown ⟨row, inTable, visible, same⟩⟩

theorem acted_accounted (settings : Settings) (c : Nat) (subscriptionId : JsString)
    (filters : List SubscriptionFilter) (handled : ClientSubmission) (observed reached : Observed)
    (before : Client) (action : WebSocketAdapter.Action) (adapter : WebSocketAdapter)
    (messages : List OutgoingMessage)
    (stepped : WebSocketAdapter.Step settings before.adapter action adapter messages)
    (grown : Grown observed reached handled.submission.event before
      { before.log observed.cluster.now none messages with adapter := adapter })
    (isClient : observed.cluster.clients[c]? = some before) (attached : OpenAttached before)
    (isOpen : adapter.isOpen = true) (registered : adapter.subscriptions.get subscriptionId = some filters)
    (observes : observed.cluster.observes action = true)
    (allowed : answered c subscriptionId observed (.client c action) = true)
    (snapshots : snapshotOf observed.cluster (.client c action) ⊆ reached.snapshots)
    (member : handled ∈ observed.cluster.submissions)
    (subscribed : isClientSubscribedToEvent filters (asStored handled.submission.event) = true)
    (accounted : before.adapter.isOpen = true →
      before.adapter.subscriptions.get subscriptionId = some filters →
        Accounted observed c subscriptionId filters handled before) :
    Accounted reached c subscriptionId filters handled
      { before.log observed.cluster.now none messages with adapter := adapter } := by
  cases stepped with
  | received frame =>
    apply accounted_mono observed reached c subscriptionId filters handled before _ grown
      (accounted isOpen registered)
    exact fun handling inHandlings _ => List.mem_append_left _ inHandlings
  | turnedAway i limited frame messages found =>
    exact accounted_proceed observed reached c subscriptionId filters handled before _ grown
      (accounted isOpen registered) i _ _ found (by simp [IsFetching]) rfl
  | subscribed i id received accepted found =>
    have wasOpen : before.adapter.isOpen = true := by simpa [WebSocketAdapter.proceed] using isOpen
    have bound : i < before.adapter.handlings.length := (List.getElem?_eq_some_iff.mp found).1
    have handlings : ((before.adapter.emitSubscribe id (uniqWith SubscriptionFilter.equals received)).proceed i
        (.querying id (uniqWith SubscriptionFilter.equals received))).handlings =
          before.adapter.handlings.set i (.querying id (uniqWith SubscriptionFilter.equals received)) := by
      simp [WebSocketAdapter.proceed]
    simp only [WebSocketAdapter.proceed, WebSocketAdapter.emitSubscribe, attached wasOpen, if_true,
      WebSocketAdapter.onSubscribed, InsertionMap.get_set] at registered
    split at registered
    next own =>
      cases registered
      subst own
      apply Accounted.querying
      dsimp only
      rw [handlings]
      exact List.mem_set bound _
    next =>
      exact accounted_proceed observed reached c subscriptionId filters handled before _ grown
        (accounted wasOpen registered) i _ _ found (by simp [IsFetching]) handlings
  | unsubscribed i id accepted found =>
    have wasOpen : before.adapter.isOpen = true := by simpa [WebSocketAdapter.proceed] using isOpen
    simp only [WebSocketAdapter.proceed, WebSocketAdapter.emitUnsubscribe, attached wasOpen, if_true,
      WebSocketAdapter.onUnsubscribed, InsertionMap.get_delete] at registered
    split at registered
    next => cases registered
    next =>
      exact accounted_proceed observed reached c subscriptionId filters handled before _ grown
        (accounted wasOpen registered) i _ .finished found (by simp [IsFetching])
        (by simp [WebSocketAdapter.proceed])
  | found i id received rows found =>
    by_cases own : id = subscriptionId ∧ received = filters
    · obtain ⟨rfl, rfl⟩ := own
      exact snapshot_accounted c id received handled observed reached before _ i rows isClient found rfl
        snapshots allowed member subscribed
    · refine accounted_proceed observed reached c subscriptionId filters handled before _ grown
        (accounted isOpen registered) i _ _ found ?_ rfl
      simpa [IsFetching] using own
  | rejected i id received reason found =>
    have other : id ≠ subscriptionId := by simpa [answered, isClient, found] using allowed
    exact accounted_proceed observed reached c subscriptionId filters handled before _ grown
      (accounted isOpen registered) i _ _ found (by simp [IsFetching, other]) rfl
  | streamed i id received row rows found =>
    by_cases own : id = subscriptionId ∧ received = filters
    · obtain ⟨rfl, rfl⟩ := own
      apply accounted_streamed observed reached c id received handled before _ grown
        (accounted isOpen registered) i row rows found rfl _ (attached isOpen) isOpen
      exact fun message sends => ⟨_, List.mem_append_right _ (List.mem_map_of_mem sends), rfl⟩
    · refine accounted_proceed observed reached c subscriptionId filters handled before _ grown
        (accounted isOpen registered) i _ _ found ?_ rfl
      simpa [IsFetching] using own
  | ended i id received found =>
    apply accounted_elim observed reached c subscriptionId filters handled before _ grown
      (accounted isOpen registered)
    · exact fun querying => .querying (mem_set_of_ne found querying (by simp))
    · intro rows streaming delivers
      have more : rows ≠ [] := by
        intro spent
        subst spent
        cases delivers
      exact .streaming rows (mem_set_of_ne found streaming (by simp [more])) delivers
  | failed i id received rows found =>
    have other : id ≠ subscriptionId := by simpa [answered, isClient, found] using allowed
    exact accounted_proceed observed reached c subscriptionId filters handled before _ grown
      (accounted isOpen registered) i _ _ found (by simp [IsFetching, other]) rfl
  | event event => cases observes
  | closing => cases isOpen
  | closed => cases isOpen

section Broadcasts

variable (cluster : Cluster)

theorem serve_follows (worker : Nat) (broadcast : BroadcastMessage) (c : Nat) (client : Client)
    (found : (cluster.serve worker broadcast).clients[c]? = some client) :
    ∃ before, cluster.clients[c]? = some before ∧ Follows before client := by
  rw [serve, List.getElem?_map] at found
  obtain ⟨before, isBefore, rfl⟩ := Option.map_eq_some_iff.mp found
  refine ⟨before, isBefore, ?_⟩
  split
  next => exact follows_hear before cluster.now broadcast
  next => exact follows_self before

theorem serve_delivers (worker : Nat) (broadcast : BroadcastMessage) (c : Nat) (client : Client)
    (found : (cluster.serve worker broadcast).clients[c]? = some client) (own : client.worker = worker)
    (attached : OpenAttached client) (isOpen : client.adapter.isOpen = true) (subscriptionId : JsString)
    (filters : List SubscriptionFilter)
    (registered : client.adapter.subscriptions.get subscriptionId = some filters)
    (subscribed : isClientSubscribedToEvent filters broadcast.event = true) :
    Delivered client subscriptionId broadcast.event := by
  obtain ⟨before, isBefore, follows⟩ := serve_follows cluster worker broadcast c client found
  rw [serve, List.getElem?_map, isBefore, Option.map_some, if_pos (follows.worker ▸ own),
    Option.some.injEq] at found
  have wasOpen : before.adapter.isOpen = true := follows.adapter ▸ isOpen
  have sends : OutgoingMessage.event subscriptionId broadcast.event ∈
      before.adapter.emitEvent broadcast.event := by
    rw [← follows.adapter, WebSocketAdapter.mem_emitEvent]
    exact ⟨attached isOpen, isOpen, subscriptionId, filters, registered, subscribed, rfl⟩
  rw [Client.hear, if_pos wasOpen] at found
  subst found
  exact ⟨_, List.mem_append_right _ (List.mem_map_of_mem sends), .inl rfl⟩

theorem onBroadcast_owed (worker : Nat) (event : Event) (node : Process) (p : BroadcastMessage → Bool) :
    cluster.hub.owed node p ≤ (cluster.onBroadcast worker event).hub.owed node p := by
  have posted := Hub.owed_post cluster.hub (.worker worker) node
    { number := cluster.issued.length, event := event } p
  exact posted ▸ Nat.le_add_right _ _

theorem onBroadcast_reaches (worker : Nat) (event : Event) (c : Nat) (client : Client)
    (found : (cluster.onBroadcast worker event).clients[c]? = some client) (attached : OpenAttached client)
    (isOpen : client.adapter.isOpen = true) (subscriptionId : JsString) (filters : List SubscriptionFilter)
    (registered : client.adapter.subscriptions.get subscriptionId = some filters)
    (subscribed : isClientSubscribedToEvent filters event = true) :
    Delivered client subscriptionId event ∨
      0 < (cluster.onBroadcast worker event).hub.owed (.worker client.worker) (carriesEvent event) := by
  by_cases own : client.worker = worker
  · exact .inl (serve_delivers cluster worker { number := cluster.issued.length, event := event } c client
      found own attached isOpen subscriptionId filters registered subscribed)
  · have posted := Hub.owed_post cluster.hub (.worker worker) (.worker client.worker)
      { number := cluster.issued.length, event := event } (carriesEvent event)
    have counted : (decide (Process.worker worker ≠ Process.worker client.worker) &&
        carriesEvent event { number := cluster.issued.length, event := event }) = true := by
      simp [carriesEvent, Ne.symm own]
    rw [counted, if_pos rfl] at posted
    right
    show 0 < (cluster.hub.post (.worker worker) { number := cluster.issued.length, event := event }).owed _ _
    omega

theorem emit_follows (i : Nat) (handled : ClientSubmission) (client : Client) (outputs : Outputs)
    (isClient : cluster.clients[handled.client]? = some client) (c : Nat) (after : Client)
    (found : (cluster.emit i handled client outputs).clients[c]? = some after) :
    ∃ before, cluster.clients[c]? = some before ∧ Follows before after := by
  revert found after
  refine emit_induction cluster (fun reached => ∀ after, reached.clients[c]? = some after →
    ∃ before, cluster.clients[c]? = some before ∧ Follows before after) i handled client outputs ?_ ?_
  · intro after found
    rcases getElem?_set_cases found with ⟨rfl, rfl⟩ | ⟨_, old⟩
    · exact ⟨client, isClient, follows_log client _ _ _⟩
    · exact ⟨after, old, follows_self after⟩
  · intro reached holds event _ after found
    obtain ⟨middle, isMiddle, later⟩ := serve_follows reached client.worker _ c after found
    obtain ⟨before, isBefore, earlier⟩ := holds middle isMiddle
    exact ⟨before, isBefore, follows_trans before middle after earlier later⟩

theorem emit_owed (i : Nat) (handled : ClientSubmission) (client : Client) (outputs : Outputs)
    (node : Process) (p : BroadcastMessage → Bool) :
    cluster.hub.owed node p ≤ (cluster.emit i handled client outputs).hub.owed node p := by
  refine emit_induction cluster (fun reached => cluster.hub.owed node p ≤ reached.hub.owed node p) i handled
    client outputs le_rfl ?_
  exact fun reached holds event _ => holds.trans (onBroadcast_owed reached client.worker event node p)

theorem emit_submissions (i : Nat) (handled : ClientSubmission) (client : Client) (outputs : Outputs) :
    (cluster.emit i handled client outputs).submissions = cluster.submissions.set i
      { handled with
        isEmitted := true
        isPublished := client.adapter.isAttached && !outputs.broadcasts.isEmpty } := by
  refine emit_induction cluster (fun reached => reached.submissions = _) i handled client outputs rfl ?_
  exact fun reached holds event _ => holds

theorem emit_reaches (i : Nat) (handled : ClientSubmission) (client : Client) (outputs : Outputs)
    (event : Event) (attached : client.adapter.isAttached = true) (announced : outputs.broadcasts ≠ [])
    (own : ∀ sent ∈ outputs.broadcasts, sent = event) (c : Nat) (after : Client)
    (found : (cluster.emit i handled client outputs).clients[c]? = some after)
    (isAttached : OpenAttached after) (isOpen : after.adapter.isOpen = true) (subscriptionId : JsString)
    (filters : List SubscriptionFilter)
    (registered : after.adapter.subscriptions.get subscriptionId = some filters)
    (subscribed : isClientSubscribedToEvent filters event = true) :
    Delivered after subscriptionId event ∨ 0 < (cluster.emit i handled client outputs).hub.owed
      (.worker after.worker) (carriesEvent event) := by
  unfold Cluster.emit at found ⊢
  rw [← List.dropLast_append_getLast announced, List.foldl_append, List.foldl_cons, List.foldl_nil,
    emitBroadcast, if_pos attached, own _ (List.getLast_mem announced)] at found ⊢
  exact onBroadcast_reaches _ client.worker event c after found isAttached isOpen subscriptionId filters
    registered subscribed

section Ingest

variable (m : Nat) (mirror : MirrorClient) (fates : Fates) (message : OutgoingMessage)

theorem ingest_clients : (cluster.ingest m mirror fates message).clients = cluster.clients := by
  refine ingest_induction cluster (fun reached => reached.clients = cluster.clients) m mirror fates message
    (fun _ => rfl) ?_
  exact fun reached same _ _ _ _ => same

theorem ingest_submissions : (cluster.ingest m mirror fates message).submissions = cluster.submissions := by
  refine ingest_induction cluster (fun reached => reached.submissions = cluster.submissions) m mirror fates
    message (fun _ => rfl) ?_
  exact fun reached same _ _ _ _ => same

theorem ingest_owed (node : Process) (p : BroadcastMessage → Bool) :
    cluster.hub.owed node p ≤ (cluster.ingest m mirror fates message).hub.owed node p := by
  refine ingest_induction cluster (fun reached => cluster.hub.owed node p ≤ reached.hub.owed node p) m mirror
    fates message (fun _ => le_rfl) ?_
  intro reached holds _ received _ _
  have posted := Hub.owed_post reached.hub (.mirror m) node
    { number := reached.issued.length
      event := addExpirationMetadata received
      source := some mirror.mirroring.config.address } p
  exact holds.trans (posted ▸ Nat.le_add_right _ _)

end Ingest

end Broadcasts

structure Covered (c : Nat) (subscriptionId : JsString) (observed : Observed) : Prop where
  sound : ∀ handled ∈ observed.cluster.submissions, Sound handled
  accounted : ∀ client filters, observed.cluster.clients[c]? = some client → client.adapter.isOpen = true →
    client.adapter.subscriptions.get subscriptionId = some filters →
      ∀ handled ∈ observed.cluster.submissions, handled.isPublished = true → NewlyStored handled.submission →
        isClientSubscribedToEvent filters handled.submission.event = true →
          Accounted observed c subscriptionId filters handled client

theorem covered_frame (c : Nat) (subscriptionId : JsString) (observed reached : Observed)
    (sound : ∀ handled ∈ reached.cluster.submissions, Sound handled)
    (submissions : ∀ handled ∈ reached.cluster.submissions, handled.isPublished = true →
      handled ∈ observed.cluster.submissions)
    (clients : ∀ client filters, reached.cluster.clients[c]? = some client →
      client.adapter.subscriptions.get subscriptionId = some filters →
        ∃ before, observed.cluster.clients[c]? = some before ∧ Follows before client)
    (owed : ∀ before, observed.cluster.clients[c]? = some before → ∀ event,
      observed.cluster.hub.owed (.worker before.worker) (carriesEvent event) ≤
        reached.cluster.hub.owed (.worker before.worker) (carriesEvent event))
    (snapshots : observed.snapshots ⊆ reached.snapshots) (covered : Covered c subscriptionId observed) :
    Covered c subscriptionId reached := by
  refine ⟨sound, fun client filters found isOpen registered handled member published stored subscribed => ?_⟩
  obtain ⟨before, isBefore, follows⟩ := clients client filters found registered
  have grown : Grown observed reached handled.submission.event before client :=
    ⟨follows.worker, follows.sent, owed before isBefore _, snapshots⟩
  have accounted := covered.accounted before filters isBefore (follows.adapter ▸ isOpen)
    (follows.adapter ▸ registered) handled (submissions handled member published) published stored subscribed
  apply accounted_mono observed reached c subscriptionId filters handled before client grown accounted
  exact fun handling inHandlings _ => follows.adapter ▸ inHandlings

theorem emit_covered (c : Nat) (subscriptionId : JsString) (observed : Observed) (i : Nat)
    (emitted : ClientSubmission) (client : Client) (outputs : Outputs)
    (found : observed.cluster.submissions[i]? = some emitted)
    (stage : emitted.submission.stage = .finished outputs)
    (isClient : observed.cluster.clients[emitted.client]? = some client)
    (attached : ∀ after ∈ (observed.cluster.emit i emitted client outputs).clients, OpenAttached after)
    (covered : Covered c subscriptionId observed) :
    Covered c subscriptionId { observed with cluster := observed.cluster.emit i emitted client outputs } := by
  have sound := covered.sound emitted (List.mem_of_getElem? found)
  have answered (handled : ClientSubmission)
      (member : handled ∈ (observed.cluster.emit i emitted client outputs).submissions) :
      handled ∈ observed.cluster.submissions ∨ handled = { emitted with
        isEmitted := true
        isPublished := client.adapter.isAttached && !outputs.broadcasts.isEmpty } := by
    rw [emit_submissions] at member
    exact (mem_set_cases member).symm
  constructor
  · intro handled member
    rcases answered handled member with old | rfl
    · exact covered.sound handled old
    · exact ⟨sound.id, sound.pubkey, sound.own, fun _ => ⟨outputs, stage⟩, sound.storable⟩
  · intro after filters isAfter isOpen registered handled member published stored subscribed
    rcases answered handled member with old | rfl
    · obtain ⟨before, isBefore, follows⟩ :=
        emit_follows observed.cluster i emitted client outputs isClient c after isAfter
      have accounted := covered.accounted before filters isBefore (follows.adapter ▸ isOpen)
        (follows.adapter ▸ registered) handled old published stored subscribed
      refine accounted_mono observed _ c subscriptionId filters handled before after
        ⟨follows.worker, follows.sent, ?_, fun _ taken => taken⟩ accounted
        fun handling inHandlings _ => follows.adapter ▸ inHandlings
      exact emit_owed observed.cluster i emitted client outputs _ _
    · rw [Bool.and_eq_true, Bool.not_eq_true', List.isEmpty_eq_false_iff] at published
      rcases emit_reaches observed.cluster i emitted client outputs emitted.submission.event published.1
        published.2 (sound.own outputs stage) c after isAfter (attached after (List.mem_of_getElem? isAfter))
        isOpen subscriptionId filters registered subscribed with delivered | owed
      · exact .delivered delivered
      · exact .underway owed

theorem heard_covered (c : Nat) (subscriptionId : JsString) (observed : Observed) (k worker : Nat)
    (broadcast : BroadcastMessage) (hub : Hub Process BroadcastMessage)
    (took : observed.cluster.hub.take k = some ((.worker worker, broadcast), hub))
    (attached : ∀ client ∈ observed.cluster.clients, OpenAttached client)
    (covered : Covered c subscriptionId observed) :
    Covered c subscriptionId
      { observed with cluster := { observed.cluster with hub := hub }.serve worker broadcast } := by
  refine ⟨covered.sound, fun client filters found isOpen registered handled member published stored subscribed => ?_⟩
  obtain ⟨before, isBefore, follows⟩ :=
    serve_follows { observed.cluster with hub := hub } worker broadcast c client found
  have accounted := covered.accounted before filters isBefore (follows.adapter ▸ isOpen)
    (follows.adapter ▸ registered) handled member published stored subscribed
  by_cases own : client.worker = worker ∧ broadcast.event = handled.submission.event
  · have isAttached : OpenAttached client :=
      serve_clients { observed.cluster with hub := hub } worker broadcast
        (fun adapter _ => adapter.isOpen = true → adapter.isAttached = true) attached client
        (List.mem_of_getElem? found)
    have delivered := serve_delivers { observed.cluster with hub := hub } worker broadcast c client found
      own.1 isAttached isOpen subscriptionId filters registered (own.2 ▸ subscribed)
    exact .delivered (own.2 ▸ delivered)
  · have took := Hub.owed_take observed.cluster.hub hub k _ _ (.worker before.worker) took
      (carriesEvent handled.submission.event)
    have other : (decide (Process.worker worker = Process.worker before.worker) &&
        carriesEvent handled.submission.event broadcast) = false := by
      rw [Bool.and_eq_false_iff, decide_eq_false_iff_not, carriesEvent, decide_eq_false_iff_not,
        ← not_and_or, Process.worker.injEq, ← follows.worker]
      exact fun both => own ⟨both.1.symm, both.2⟩
    rw [other, if_neg (by simp), Nat.add_zero] at took
    have grown : Grown observed
        { observed with cluster := { observed.cluster with hub := hub }.serve worker broadcast }
        handled.submission.event before client :=
      ⟨follows.worker, follows.sent, took.le, fun _ taken => taken⟩
    apply accounted_mono observed _ c subscriptionId filters handled before client grown accounted
    exact fun handling inHandlings _ => follows.adapter ▸ inHandlings

theorem acted_covered (settings : Settings) (c : Nat) (subscriptionId : JsString) (observed : Observed)
    (d : Nat) (action : WebSocketAdapter.Action) (client : Client) (adapter : WebSocketAdapter)
    (messages : List OutgoingMessage) (found : observed.cluster.clients[d]? = some client)
    (observes : observed.cluster.observes action = true)
    (stepped : WebSocketAdapter.Step settings client.adapter action adapter messages)
    (allowed : answered c subscriptionId observed (.client d action) = true)
    (attached : ∀ client ∈ observed.cluster.clients, OpenAttached client)
    (covered : Covered c subscriptionId observed) :
    Covered c subscriptionId
      { cluster := { observed.cluster with
          clients := observed.cluster.clients.set d
            { client.log observed.cluster.now none messages with adapter := adapter } }
        snapshots := observed.snapshots ++ snapshotOf observed.cluster (.client d action) } := by
  refine ⟨covered.sound, fun after filters isAfter isOpen registered handled member published stored subscribed => ?_⟩
  have sound := covered.sound handled member
  have asStored := asStored_subscribed handled.submission.event sound.id sound.pubkey (sound.storable stored) filters
  rcases getElem?_set_cases isAfter with ⟨rfl, rfl⟩ | ⟨_, old⟩
  · refine acted_accounted settings c subscriptionId filters handled observed _ client action adapter messages
      stepped ⟨rfl, fun _ sent => List.mem_append_left _ sent, le_rfl, fun _ taken => List.mem_append_left _ taken⟩
      found (attached client (List.mem_of_getElem? found)) isOpen registered observes allowed
      (fun _ taken => List.mem_append_right _ taken) member (asStored.trans subscribed) ?_
    intro wasOpen wasRegistered
    exact covered.accounted client filters found wasOpen wasRegistered handled member published stored subscribed
  · refine accounted_mono observed _ c subscriptionId filters handled after after
      ⟨rfl, fun _ sent => sent, le_rfl, fun _ taken => List.mem_append_left _ taken⟩ ?_ fun _ inHandlings _ => inHandlings
    exact covered.accounted after filters old isOpen registered handled member published stored subscribed

theorem covered_preserved (settings : Settings) (c : Nat) (subscriptionId : JsString) :
    Preserves (Observed.step settings)
      (fun observed action => permitted c subscriptionId observed action = true)
      fun observed => Tracked observed.cluster ∧ Covered c subscriptionId observed := by
  rintro observed action reached ⟨tracked, covered⟩ allowed taken
  obtain ⟨cluster, stepped, rfl⟩ := Option.map_eq_some_iff.mp taken
  rw [permitted, Bool.and_eq_true] at allowed
  have trackedAfter := tracked_preserved settings observed.cluster action cluster tracked trivial stepped
  refine ⟨trackedAfter, ?_⟩
  have kept : observed.snapshots ⊆ observed.snapshots ++ snapshotOf observed.cluster action :=
    fun _ taken => List.mem_append_left _ taken
  have unchanged (client : Client) (filters : List SubscriptionFilter)
      (found : observed.cluster.clients[c]? = some client)
      (_ : client.adapter.subscriptions.get subscriptionId = some filters) :
      ∃ before, observed.cluster.clients[c]? = some before ∧ Follows before client :=
    ⟨client, found, follows_self client⟩
  cases step_cases settings observed.cluster cluster action stepped with
  | ticked | linked =>
    exact covered_frame c subscriptionId observed _ covered.sound (fun _ member _ => member) unchanged
      (fun _ _ _ => le_rfl) kept covered
  | connected worker bound =>
    refine covered_frame c subscriptionId observed _ covered.sound (fun _ member _ => member) ?_
      (fun _ _ _ => le_rfl) kept covered
    intro client filters found registered
    rcases Nat.lt_or_ge c observed.cluster.clients.length with old | new
    · rw [List.getElem?_append_left old] at found
      exact unchanged client filters found registered
    · rw [List.getElem?_append_right new, List.getElem?_singleton] at found
      split at found
      next =>
        cases found
        cases registered
      next => cases found
  | acted d action client adapter messages found observes moved =>
    exact acted_covered settings c subscriptionId observed d action client adapter messages found observes
      moved allowed.2 tracked.attached covered
  | submitted d handler received bound =>
    refine covered_frame c subscriptionId observed _ ?_ ?_ unchanged (fun _ _ _ => le_rfl) kept covered
    · intro handled member
      rcases List.mem_append.mp member with old | new
      · exact covered.sound handled old
      · rw [List.mem_singleton.mp new]
        exact start_sound d _ received allowed.1
    · intro handled member published
      rcases List.mem_append.mp member with old | new
      · exact old
      · rw [List.mem_singleton.mp new] at published
        cases published
  | advanced i fates handled advanced table found moved =>
    have sound := covered.sound handled (List.mem_of_getElem? found)
    refine covered_frame c subscriptionId observed _ ?_ ?_ unchanged (fun _ _ _ => le_rfl) kept covered
    · intro other member
      rcases mem_set_cases member with rfl | old
      · exact advance_sound handled fates observed.cluster.table table advanced moved sound
      · exact covered.sound other old
    · intro other member published
      rcases mem_set_cases member with rfl | old
      · obtain ⟨outputs, finished⟩ := sound.finished published
        exact (advance_unfinished fates handled.submission advanced _ table moved outputs finished).elim
      · exact old
  | emitted i handled client outputs found fresh stage isClient =>
    have none : observed.snapshots ++ snapshotOf observed.cluster (.emit i) = observed.snapshots :=
      List.append_nil _
    rw [none]
    exact emit_covered c subscriptionId observed i handled client outputs found stage isClient
      trackedAfter.attached covered
  | passed k hub passed =>
    refine covered_frame c subscriptionId observed _ covered.sound (fun _ member _ => member) unchanged
      ?_ kept covered
    intro before found event
    have placed := worker_mem_processes observed.cluster before.worker
      (tracked.placed before (List.mem_of_getElem? found))
    have same := Hub.owed_passOn observed.cluster.processes (processes_nodup observed.cluster)
      observed.cluster.hub hub k (.worker before.worker) placed passed (carriesEvent event)
    exact same.ge
  | heard k worker broadcast hub took =>
    have none : observed.snapshots ++ snapshotOf observed.cluster (.deliver k) = observed.snapshots :=
      List.append_nil _
    rw [none]
    exact heard_covered c subscriptionId observed k worker broadcast hub took tracked.attached covered
  | relayed k m broadcast hub took =>
    refine covered_frame c subscriptionId observed _ covered.sound (fun _ member _ => member) unchanged
      ?_ kept covered
    intro before found event
    have same := Hub.owed_take observed.cluster.hub hub k _ _ (.worker before.worker) took (carriesEvent event)
    exact same.le
  | ingested m fates message mirror found =>
    have clients := ingest_clients observed.cluster m mirror fates message
    have submissions := ingest_submissions observed.cluster m mirror fates message
    refine covered_frame c subscriptionId observed _ (submissions ▸ covered.sound) ?_ ?_ ?_ kept covered
    · exact fun handled member _ => submissions ▸ member
    · exact clients ▸ unchanged
    · exact fun before _ event => ingest_owed observed.cluster m mirror fates message _ _

theorem started_covered (workers : Nat) (mirrors : List StaticMirroringWorker) (table : EventsTable)
    (now : Int) (c : Nat) (subscriptionId : JsString) :
    Covered c subscriptionId { cluster := started workers mirrors table now } :=
  ⟨fun handled member => (by cases member), fun client filters found => (by simp [started] at found)⟩

structure AtRest (observed : Observed) (c : Nat) (subscriptionId : JsString) (client : Client)
    (filters : List SubscriptionFilter) (handled : ClientSubmission) : Prop where
  found : observed.cluster.clients[c]? = some client
  isOpen : client.adapter.isOpen = true
  registered : client.adapter.subscriptions.get subscriptionId = some filters
  fetched : ∀ handling ∈ client.adapter.handlings, ¬ IsFetching subscriptionId filters handling
  member : handled ∈ observed.cluster.submissions
  published : handled.isPublished = true
  subscribed : isClientSubscribedToEvent filters handled.submission.event = true
  processed : observed.cluster.hub.All fun broadcast => carriesEvent handled.submission.event broadcast = false

theorem no_gap (settings : Settings) (workers : Nat) (mirrors : List StaticMirroringWorker)
    (table : EventsTable) (now : Int) (c : Nat) (subscriptionId : JsString) (trace : List Cluster.Action)
    (final : Observed)
    (run : Run (Observed.step settings)
      (fun observed action => permitted c subscriptionId observed action = true)
      { cluster := started workers mirrors table now } trace final)
    (client : Client) (filters : List SubscriptionFilter) (handled : ClientSubmission)
    (atRest : AtRest final c subscriptionId client filters handled) (before after : EventsTable)
    (written : handled.submission.written = some (before, after))
    (puts : Puts handled.submission.event before after) :
    Delivered client subscriptionId handled.submission.event ∨
      (∃ row ∈ after, toNostrEvent row = asStored handled.submission.event) ∧
        Withdrawn final c subscriptionId filters handled := by
  have inv := run.invariant (covered_preserved settings c subscriptionId)
    ⟨started_tracked workers mirrors table now, started_covered workers mirrors table now c subscriptionId⟩
  have accounted := inv.2.accounted client filters atRest.found atRest.isOpen atRest.registered handled
    atRest.member atRest.published ⟨before, after, written, puts⟩ atRest.subscribed
  cases accounted with
  | delivered delivered => exact .inl delivered
  | underway owed =>
    rw [Hub.owed_all _ _ _ atRest.processed] at owed
    cases owed
  | querying inHandlings => exact (atRest.fetched _ inHandlings (.inl rfl)).elim
  | streaming rows inHandlings => exact (atRest.fetched _ inHandlings (.inr ⟨rows, rfl⟩)).elim
  | withdrawn withdrawn => exact .inr ⟨newlyStored_row _ before after puts, withdrawn⟩

def overtaking : List Cluster.Action :=
  [.connect 0, .connect 1] ++ subscribing 1 [{ kinds := some [1] }] notes_accepted ++
    [.submit 0 openHandler note, .client 1 (.snapshot 0 (.ok [])), .advance 0 {}, .client 1 (.next 0), .emit 0,
      .passOn 0, .deliver 0]

def replacing : List Cluster.Action :=
  [.connect 0, .connect 1, .submit 0 openHandler profile, .advance 0 {}, .emit 0, .passOn 0, .deliver 0,
    .submit 0 openHandler laterProfile, .advance 1 {}] ++ subscribing 1 [{ kinds := some [0] }] profiles_accepted ++
    [.client 1 (.snapshot 0 (.ok [(bound (prepared openHandler laterProfile)).stored])), .client 1 (.next 0),
      .client 1 (.next 0)]

def restOf (observed : Observed) (c : Nat) (subscriptionId : JsString) (i : Nat) :
    Option (Client × List SubscriptionFilter × ClientSubmission) :=
  observed.cluster.clients[c]?.bind fun client => observed.cluster.submissions[i]?.bind fun handled =>
    (client.adapter.subscriptions.get subscriptionId).bind fun filters =>
      if client.adapter.isOpen ∧ handled.isPublished ∧
          isClientSubscribedToEvent filters handled.submission.event ∧
          observed.cluster.hub.incoming.length = 0 ∧ observed.cluster.hub.outgoing.length = 0 ∧
          client.adapter.handlings.all fun
            | .finished => true
            | _ => false
      then some (client, filters, handled)
      else none

theorem restOf_atRest (observed : Observed) (c : Nat) (subscriptionId : JsString) (i : Nat) (client : Client)
    (filters : List SubscriptionFilter) (handled : ClientSubmission)
    (rest : restOf observed c subscriptionId i = some (client, filters, handled)) :
    AtRest observed c subscriptionId client filters handled := by
  obtain ⟨_, found, rest⟩ := Option.bind_eq_some_iff.mp rest
  obtain ⟨_, isSubmission, rest⟩ := Option.bind_eq_some_iff.mp rest
  obtain ⟨_, registered, rest⟩ := Option.bind_eq_some_iff.mp rest
  split at rest
  next atRest =>
    cases rest
    obtain ⟨isOpen, published, subscribed, noIncoming, noOutgoing, finished⟩ := atRest
    rw [List.length_eq_zero_iff] at noIncoming noOutgoing
    refine ⟨found, isOpen, registered, fun handling inHandlings fetching => ?_,
      List.mem_of_getElem? isSubmission, published, subscribed, by simp [noIncoming], by simp [noOutgoing]⟩
    have isFinished := List.all_eq_true.mp finished handling inHandlings
    rcases fetching with rfl | ⟨rows, rfl⟩ <;> cases isFinished
  next => cases rest

theorem overtaken_no_gap :
    ∃ final client filters handled, Run (Observed.step unlimitedSettings)
        (fun observed action => permitted 1 (js "s") observed action = true)
        { cluster := started 2 [] [] 1700000000 } overtaking final ∧
      AtRest final 1 (js "s") client filters handled ∧
      client.sent.map SentMessage.message =
        [.endOfStoredEvents (js "s"), .event (js "s") (prepared openHandler note)] ∧
      (Delivered client (js "s") handled.submission.event ∨
        (∃ row ∈ [noteRow], toNostrEvent row = asStored handled.submission.event) ∧
          Withdrawn final 1 (js "s") filters handled) := by
  have ran : ((Runs.execute (Observed.step unlimitedSettings)
        (fun observed action => permitted 1 (js "s") observed action = true)
        { cluster := started 2 [] [] 1700000000 } overtaking).bind fun final =>
          (restOf final 1 (js "s") 0).map fun (client, _, handled) =>
            (client.sent.map SentMessage.message, handled.submission.event, handled.submission.written)) =
      some ([.endOfStoredEvents (js "s"), .event (js "s") (prepared openHandler note)],
        prepared openHandler note, some ([], [noteRow])) := by
    decide +kernel
  obtain ⟨final, executed, ran⟩ := Option.bind_eq_some_iff.mp ran
  obtain ⟨⟨client, filters, handled⟩, rest, facts⟩ := Option.map_eq_some_iff.mp ran
  simp only [Prod.mk.injEq] at facts
  obtain ⟨sent, event, written⟩ := facts
  have run := run_of_execute executed
  have atRest := restOf_atRest final 1 (js "s") 0 client filters handled rest
  refine ⟨final, client, filters, handled, run, atRest, sent, ?_⟩
  refine no_gap unlimitedSettings 2 [] [] 1700000000 1 (js "s") overtaking final run client filters handled
    atRest [] [noteRow] written ?_
  rw [event]
  exact .inserted (by decide) rfl

theorem replaced_not_delivered :
    ¬ ∀ (settings : Settings) (workers : Nat) (mirrors : List StaticMirroringWorker) (table : EventsTable)
        (now : Int) (c : Nat) (subscriptionId : JsString) (trace : List Cluster.Action) (final : Observed),
      Run (Observed.step settings)
          (fun observed action => permitted c subscriptionId observed action = true)
          { cluster := started workers mirrors table now } trace final →
        ∀ client filters handled, AtRest final c subscriptionId client filters handled →
          NewlyStored handled.submission → Delivered client subscriptionId handled.submission.event := by
  intro claim
  have ran : ((Runs.execute (Observed.step unlimitedSettings)
        (fun observed action => permitted 1 (js "s") observed action = true)
        { cluster := started 2 [] [] 1700000000 } replacing).bind fun final =>
          (restOf final 1 (js "s") 0).map fun (client, _, handled) =>
            (client.sent.map SentMessage.message, handled.submission.event, handled.submission.written)) =
      some ([.event (js "s") (asStored (prepared openHandler laterProfile)), .endOfStoredEvents (js "s")],
        prepared openHandler profile, some ([], [(bound (prepared openHandler profile)).stored])) := by
    decide +kernel
  obtain ⟨final, executed, ran⟩ := Option.bind_eq_some_iff.mp ran
  obtain ⟨⟨client, filters, handled⟩, rest, facts⟩ := Option.map_eq_some_iff.mp ran
  simp only [Prod.mk.injEq] at facts
  obtain ⟨sent, event, written⟩ := facts
  have atRest := restOf_atRest final 1 (js "s") 0 client filters handled rest
  have stored : NewlyStored handled.submission := by
    refine ⟨_, _, written, ?_⟩
    rw [event]
    exact .appended (by decide) rfl rfl
  have delivered := claim unlimitedSettings 2 [] [] 1700000000 1 (js "s") replacing final
    (run_of_execute executed) client filters handled atRest stored
  obtain ⟨message, member, isEvent⟩ := delivered
  have isSent := List.mem_map_of_mem (f := SentMessage.message) member
  rw [sent] at isSent
  rw [event] at isEvent
  rcases isEvent with isEvent | isEvent <;> rw [isEvent] at isSent <;> revert isSent <;> decide +kernel

end Nostream.NoGap
