import Nostream.App.Cluster

set_option autoImplicit false

namespace Nostream.BroadcastReach

open Utf16 SubscribeMessageHandler MessageStages WebSocketAdapter Cluster Slots
open Runs hiding execute

def deliveries (client : Client) (number : Nat) : List OutgoingMessage :=
  (client.sent.filter fun sent => sent.broadcast = some number).map SentMessage.message

def heard (event : Event) (client : Client) : List OutgoingMessage :=
  if client.adapter.isOpen then client.adapter.emitEvent event else []

def isProcessing (worker number : Nat) (processing : Processing) : Bool :=
  processing.worker = worker && processing.broadcast.number = number

def caused (c : Nat) (processing : Processing) : List OutgoingMessage :=
  (processing.clients[c]?.map (heard processing.broadcast.event)).getD []

def isNumber (number : Nat) (broadcast : BroadcastMessage) : Bool := broadcast.number = number

-- The handlings of a broadcast by a worker, and the messages that will bring about another.
def tokens (cluster : Cluster) (worker number : Nat) : Nat :=
  cluster.processed.countP (isProcessing worker number) + cluster.hub.owed (.worker worker) (isNumber number)

def OpenAttached (client : Client) : Prop := client.adapter.isOpen = true → client.adapter.isAttached = true

def Delivered (cluster : Cluster) : Prop :=
  ∀ (c : Nat) (client : Client), cluster.clients[c]? = some client → ∀ number,
    deliveries client number =
      (cluster.processed.filter (isProcessing client.worker number)).flatMap (caused c)

structure Tracked (cluster : Cluster) : Prop where
  placed : ∀ client ∈ cluster.clients, client.worker < cluster.workers
  attached : ∀ client ∈ cluster.clients, OpenAttached client
  recorded : ∀ processing ∈ cluster.processed, processing.clients.length ≤ cluster.clients.length ∧
    (∀ client ∈ processing.clients, OpenAttached client) ∧
    cluster.issued[processing.broadcast.number]? = some processing.broadcast.event
  underway : cluster.hub.All fun broadcast => cluster.issued[broadcast.number]? = some broadcast.event
  conserved : ∀ number, ∀ worker < cluster.workers,
    tokens cluster worker number = if number < cluster.issued.length then 1 else 0
  delivered : Delivered cluster

theorem deliveries_log (client : Client) (now : Int) (broadcast : Option Nat)
    (messages : List OutgoingMessage) (number : Nat) :
    deliveries (client.log now broadcast messages) number =
      deliveries client number ++ if broadcast = some number then messages else [] := by
  unfold deliveries Client.log
  rw [List.filter_append, List.map_append, List.filter_map]
  split
  next same => simp [same, Function.comp_def]
  next other => simp [other, Function.comp_def]

theorem deliveries_hear (client : Client) (now : Int) (broadcast : BroadcastMessage) (number : Nat) :
    deliveries (client.hear now broadcast) number =
      deliveries client number ++ if broadcast.number = number then heard broadcast.event client else [] := by
  unfold Client.hear heard
  split
  next => rw [deliveries_log]; simp
  next => simp

theorem hear_adapter (now : Int) (broadcast : BroadcastMessage) (client : Client) :
    (client.hear now broadcast).adapter = client.adapter ∧
      (client.hear now broadcast).worker = client.worker := by
  unfold Client.hear
  split <;> exact ⟨rfl, rfl⟩

section Serve

variable (cluster : Cluster) (worker : Nat) (broadcast : BroadcastMessage)

theorem serve_client (c : Nat) (client : Client)
    (found : (cluster.serve worker broadcast).clients[c]? = some client) :
    ∃ before, cluster.clients[c]? = some before ∧ client.adapter = before.adapter ∧
      client.worker = before.worker ∧ ∀ number, deliveries client number =
        deliveries before number ++
          if before.worker = worker ∧ broadcast.number = number then heard broadcast.event before else [] := by
  rw [serve, List.getElem?_map] at found
  obtain ⟨before, isBefore, rfl⟩ := Option.map_eq_some_iff.mp found
  refine ⟨before, isBefore, ?_⟩
  split
  next same =>
    obtain ⟨adapter, sameWorker⟩ := hear_adapter cluster.now broadcast before
    refine ⟨adapter, sameWorker, fun number => ?_⟩
    rw [deliveries_hear]
    simp [same]
  next other => exact ⟨rfl, rfl, fun number => by simp [other]⟩

theorem serve_clients (P : WebSocketAdapter → Nat → Prop)
    (all : ∀ client ∈ cluster.clients, P client.adapter client.worker) :
    ∀ client ∈ (cluster.serve worker broadcast).clients, P client.adapter client.worker := by
  intro client member
  obtain ⟨c, found⟩ := List.getElem?_of_mem member
  obtain ⟨before, isBefore, adapter, sameWorker, _⟩ := serve_client cluster worker broadcast c client found
  rw [adapter, sameWorker]
  exact all before (List.mem_of_getElem? isBefore)

theorem serve_delivered (delivered : Delivered cluster) : Delivered (cluster.serve worker broadcast) := by
  intro c client found number
  obtain ⟨before, isBefore, _, sameWorker, sent⟩ := serve_client cluster worker broadcast c client found
  rw [sent, delivered c before isBefore number, sameWorker]
  simp only [serve, List.filter_append, List.flatMap_append, List.filter_singleton, isProcessing]
  congr 1
  by_cases both : before.worker = worker ∧ broadcast.number = number
  · simp [both.1, both.2, caused, isBefore]
  · rw [if_neg both]
    rw [not_and_or] at both
    rcases both with other | other
    · simp [Ne.symm other]
    · simp [other]

theorem serve_processed (other number : Nat) :
    (cluster.serve worker broadcast).processed.countP (isProcessing other number) =
      cluster.processed.countP (isProcessing other number) +
        if worker = other ∧ broadcast.number = number then 1 else 0 := by
  simp [serve, List.countP_append, List.countP_singleton, isProcessing]

theorem serve_recorded (issued : List Event)
    (attached : ∀ client ∈ cluster.clients, OpenAttached client)
    (isIssued : issued[broadcast.number]? = some broadcast.event)
    (recorded : ∀ processing ∈ cluster.processed, processing.clients.length ≤ cluster.clients.length ∧
      (∀ client ∈ processing.clients, OpenAttached client) ∧
      issued[processing.broadcast.number]? = some processing.broadcast.event) :
    ∀ processing ∈ (cluster.serve worker broadcast).processed,
      processing.clients.length ≤ (cluster.serve worker broadcast).clients.length ∧
      (∀ client ∈ processing.clients, OpenAttached client) ∧
      issued[processing.broadcast.number]? = some processing.broadcast.event := by
  intro processing member
  simp only [serve, List.length_map]
  rcases List.mem_append.mp member with old | new
  · exact recorded processing old
  · rw [List.mem_singleton.mp new]
    exact ⟨le_refl _, attached, isIssued⟩

end Serve

theorem issued_append (cluster : Cluster) (event : Event) (number : Nat) (found : Event)
    (isIssued : cluster.issued[number]? = some found) :
    (cluster.issued ++ [event])[number]? = some found := by
  obtain ⟨bound, _⟩ := List.getElem?_eq_some_iff.mp isIssued
  rw [List.getElem?_append_left bound, isIssued]

theorem heard_tracked (cluster : Cluster) (k worker : Nat) (broadcast : BroadcastMessage)
    (hub : Hub Process BroadcastMessage)
    (taken : cluster.hub.take k = some ((.worker worker, broadcast), hub)) (tracked : Tracked cluster) :
    Tracked ({ cluster with hub := hub }.serve worker broadcast) := by
  obtain ⟨isIssued, rest⟩ := Hub.all_take cluster.hub hub k _ _ tracked.underway taken
  constructor
  · exact serve_clients { cluster with hub := hub } worker broadcast (fun _ w => w < cluster.workers) tracked.placed
  · exact serve_clients { cluster with hub := hub } worker broadcast
      (fun adapter _ => adapter.isOpen = true → adapter.isAttached = true) tracked.attached
  · exact serve_recorded { cluster with hub := hub } worker broadcast cluster.issued tracked.attached isIssued
      tracked.recorded
  · exact rest
  · intro number other bound
    have before := tracked.conserved number other bound
    have counted := serve_processed { cluster with hub := hub } worker broadcast other number
    have took := Hub.owed_take cluster.hub hub k _ _ (.worker other) taken (isNumber number)
    simp only [isNumber, Process.worker.injEq, Bool.and_eq_true, decide_eq_true_eq] at took
    unfold tokens at before ⊢
    show _ + hub.owed (.worker other) (isNumber number) = if number < cluster.issued.length then 1 else 0
    rw [counted, ← before, took]
    dsimp only
    omega
  · exact serve_delivered { cluster with hub := hub } worker broadcast tracked.delivered

theorem onBroadcast_tracked (cluster : Cluster) (worker : Nat) (event : Event) (tracked : Tracked cluster) :
    Tracked (cluster.onBroadcast worker event) := by
  let broadcast : BroadcastMessage := { number := cluster.issued.length, event := event }
  have isIssued : (cluster.issued ++ [event])[broadcast.number]? = some broadcast.event := by
    simp [broadcast]
  constructor
  · exact serve_clients cluster worker broadcast (fun _ w => w < cluster.workers) tracked.placed
  · exact serve_clients cluster worker broadcast
      (fun adapter _ => adapter.isOpen = true → adapter.isAttached = true) tracked.attached
  · apply serve_recorded cluster worker broadcast (cluster.issued ++ [event]) tracked.attached isIssued
    intro processing member
    obtain ⟨shorter, attached, earlier⟩ := tracked.recorded processing member
    exact ⟨shorter, attached, issued_append cluster event _ _ earlier⟩
  · have later := tracked.underway.imp fun message => issued_append cluster event message.number message.event
    exact Hub.all_post cluster.hub (.worker worker) broadcast later isIssued
  · intro number other bound
    have before := tracked.conserved number other bound
    have counted := serve_processed cluster worker broadcast other number
    have posted := Hub.owed_post cluster.hub (.worker worker) (.worker other) broadcast (isNumber number)
    simp only [isNumber, ne_eq, Process.worker.injEq, Bool.and_eq_true, decide_eq_true_eq, broadcast]
      at counted posted
    unfold tokens at before ⊢
    show (cluster.serve worker broadcast).processed.countP _ +
        (cluster.hub.post (.worker worker) broadcast).owed _ _ =
      if number < (cluster.issued ++ [event]).length then 1 else 0
    rw [counted, posted, List.length_append, List.length_singleton]
    split_ifs at * <;> omega
  · exact serve_delivered cluster worker broadcast tracked.delivered

theorem send_tracked (cluster : Cluster) (m : Nat) (event : Event) (source : Option JsString)
    (tracked : Tracked cluster) : Tracked (cluster.send (.mirror m) event source) := by
  let broadcast : BroadcastMessage := { number := cluster.issued.length, event := event, source := source }
  have isIssued : (cluster.issued ++ [event])[broadcast.number]? = some broadcast.event := by
    simp [broadcast]
  constructor
  · exact tracked.placed
  · exact tracked.attached
  · intro processing member
    obtain ⟨shorter, attached, earlier⟩ := tracked.recorded processing member
    exact ⟨shorter, attached, issued_append cluster event _ _ earlier⟩
  · have later := tracked.underway.imp fun message => issued_append cluster event message.number message.event
    exact Hub.all_post cluster.hub (.mirror m) broadcast later isIssued
  · intro number other bound
    have before := tracked.conserved number other bound
    have posted := Hub.owed_post cluster.hub (.mirror m) (.worker other) broadcast (isNumber number)
    simp only [isNumber, ne_eq, reduceCtorEq, not_false_eq_true, decide_true, Bool.true_and,
      decide_eq_true_eq, broadcast] at posted
    unfold tokens at before ⊢
    show cluster.processed.countP _ + (cluster.hub.post (.mirror m) broadcast).owed _ _ =
      if number < (cluster.issued ++ [event]).length then 1 else 0
    rw [posted, List.length_append, List.length_singleton]
    split_ifs at * <;> omega
  · exact tracked.delivered

theorem setClient_tracked (cluster : Cluster) (c : Nat) (client new : Client)
    (found : cluster.clients[c]? = some client) (sameWorker : new.worker = client.worker)
    (attached : OpenAttached new) (same : ∀ number, deliveries new number = deliveries client number)
    (tracked : Tracked cluster) : Tracked { cluster with clients := cluster.clients.set c new } := by
  constructor
  · intro other member
    rcases mem_set_cases member with rfl | old
    · rw [sameWorker]
      exact tracked.placed client (List.mem_of_getElem? found)
    · exact tracked.placed other old
  · intro other member
    rcases mem_set_cases member with rfl | old
    · exact attached
    · exact tracked.attached other old
  · intro processing member
    rw [List.length_set]
    exact tracked.recorded processing member
  · exact tracked.underway
  · exact tracked.conserved
  · intro d other isOther number
    rcases getElem?_set_cases isOther with ⟨rfl, rfl⟩ | ⟨_, old⟩
    · rw [same, sameWorker]
      exact tracked.delivered d client found number
    · exact tracked.delivered d other old number

theorem step_openAttached (settings : Settings) (adapter reached : WebSocketAdapter)
    (action : WebSocketAdapter.Action) (messages : List OutgoingMessage)
    (stepped : WebSocketAdapter.Step settings adapter action reached messages)
    (attached : adapter.isOpen = true → adapter.isAttached = true) :
    reached.isOpen = true → reached.isAttached = true := by
  cases stepped with
  | subscribed => simpa [proceed] using attached
  | unsubscribed => simpa [proceed] using attached
  | closing => exact fun isOpen => by cases isOpen
  | closed => exact fun isOpen => by cases isOpen
  | received | turnedAway | found | rejected | streamed | ended | failed | event => exact attached

theorem emit_tracked (cluster : Cluster) (i : Nat) (handled : ClientSubmission) (client : Client)
    (outputs : Outputs) (isClient : cluster.clients[handled.client]? = some client)
    (tracked : Tracked cluster) : Tracked (cluster.emit i handled client outputs) := by
  have answered := setClient_tracked cluster handled.client client
    (client.log cluster.now none (outputs.messages.flatMap client.adapter.emitMessage)) isClient rfl
    (tracked.attached client (List.mem_of_getElem? isClient))
    (fun number => by rw [deliveries_log]; simp) tracked
  apply emit_induction
  · exact ⟨answered.placed, answered.attached, answered.recorded, answered.underway, answered.conserved,
      answered.delivered⟩
  · exact fun reached tracked event _ => onBroadcast_tracked reached client.worker event tracked

theorem processes_nodup (cluster : Cluster) : cluster.processes.Nodup := by
  apply List.Nodup.append
  · exact List.nodup_range.map fun _ _ same => Process.worker.inj same
  · exact List.nodup_range.map fun _ _ same => Process.mirror.inj same
  · intro process isWorker isMirror
    obtain ⟨w, _, rfl⟩ := List.mem_map.mp isWorker
    obtain ⟨m, _, same⟩ := List.mem_map.mp isMirror
    cases same

theorem worker_mem_processes (cluster : Cluster) (worker : Nat) (bound : worker < cluster.workers) :
    .worker worker ∈ cluster.processes :=
  List.mem_append_left _ (List.mem_map_of_mem (List.mem_range.mpr bound))

theorem tracked_preserved (settings : Settings) :
    Preserves (Cluster.step settings) (fun _ _ => True) Tracked := by
  intro cluster action reached tracked _ taken
  cases step_cases settings cluster reached action taken with
  | ticked | linked | submitted | advanced =>
    exact ⟨tracked.placed, tracked.attached, tracked.recorded, tracked.underway, tracked.conserved,
      tracked.delivered⟩
  | connected worker bound =>
    constructor
    · intro client member
      rcases List.mem_append.mp member with old | new
      · exact tracked.placed client old
      · rw [List.mem_singleton.mp new]
        exact bound
    · intro client member
      rcases List.mem_append.mp member with old | new
      · exact tracked.attached client old
      · rw [List.mem_singleton.mp new]
        exact fun _ => rfl
    · intro processing member
      obtain ⟨shorter, rest⟩ := tracked.recorded processing member
      rw [List.length_append]
      exact ⟨Nat.le_add_right_of_le shorter, rest⟩
    · exact tracked.underway
    · exact tracked.conserved
    · intro c client found number
      rcases Nat.lt_or_ge c cluster.clients.length with old | new
      · rw [List.getElem?_append_left old] at found
        exact tracked.delivered c client found number
      · rw [List.getElem?_append_right new, List.getElem?_singleton] at found
        split at found
        next =>
          cases found
          have unseen : ((cluster.processed.filter (isProcessing worker number)).flatMap (caused c)) = [] := by
            rw [List.flatMap_eq_nil_iff]
            intro processing member
            have shorter := (tracked.recorded processing (List.mem_of_mem_filter member)).1
            rw [caused, List.getElem?_eq_none (shorter.trans new)]
            rfl
          rw [unseen]
          rfl
        next => cases found
  | acted c action client adapter messages found observed stepped =>
    refine setClient_tracked cluster c client
      { client.log cluster.now none messages with adapter := adapter } found rfl ?_ ?_ tracked
    · exact step_openAttached settings client.adapter adapter action messages stepped
        (tracked.attached client (List.mem_of_getElem? found))
    · intro number
      have logged := deliveries_log client cluster.now none messages number
      rw [if_neg (by simp), List.append_nil] at logged
      exact logged
  | emitted i handled client outputs _ _ _ isClient =>
    exact emit_tracked cluster i handled client outputs isClient tracked
  | passed k hub passed =>
    refine ⟨tracked.placed, tracked.attached, tracked.recorded,
      Hub.all_passOn cluster.processes cluster.hub hub k tracked.underway passed, ?_, tracked.delivered⟩
    intro number worker bound
    have same := Hub.owed_passOn cluster.processes (processes_nodup cluster) cluster.hub hub k (.worker worker)
      (worker_mem_processes cluster worker bound) passed (isNumber number)
    have before := tracked.conserved number worker bound
    unfold tokens at before ⊢
    rwa [← same] at before
  | heard k worker broadcast hub took => exact heard_tracked cluster k worker broadcast hub took tracked
  | relayed k m broadcast hub took =>
    refine ⟨tracked.placed, tracked.attached, tracked.recorded,
      (Hub.all_take cluster.hub hub k _ _ tracked.underway took).2, ?_, tracked.delivered⟩
    intro number worker bound
    have same := Hub.owed_take cluster.hub hub k _ _ (.worker worker) took (isNumber number)
    have before := tracked.conserved number worker bound
    unfold tokens at before ⊢
    rwa [same] at before
  | ingested m fates message mirror found =>
    apply ingest_induction
    · exact fun table => ⟨tracked.placed, tracked.attached, tracked.recorded, tracked.underway,
        tracked.conserved, tracked.delivered⟩
    · exact fun reached tracked _ received _ _ => send_tracked reached m _ _ tracked

theorem started_tracked (workers : Nat) (mirrors : List StaticMirroringWorker) (table : EventsTable)
    (now : Int) : Tracked (started workers mirrors table now) :=
  ⟨by simp [started], by simp [started], by simp [started], ⟨by simp [started], by simp [started]⟩,
    by simp [tokens, started, Hub.owed], fun c client found => by simp [started] at found⟩

def Eligible (clients : List Client) (c : Nat) (subscriptionId : JsString) (event : Event) : Prop :=
  ∃ client filters, clients[c]? = some client ∧ client.adapter.isOpen = true ∧
    client.adapter.subscriptions.get subscriptionId = some filters ∧
    isClientSubscribedToEvent filters event = true

theorem caused_correct (processing : Processing) (c : Nat)
    (attached : ∀ client ∈ processing.clients, OpenAttached client) :
    (caused c processing).Nodup ∧ ∀ message, message ∈ caused c processing ↔ ∃ subscriptionId,
      Eligible processing.clients c subscriptionId processing.broadcast.event ∧
        message = .event subscriptionId processing.broadcast.event := by
  unfold caused Eligible
  cases found : processing.clients[c]? with
  | none => simp
  | some client =>
    rw [Option.map_some, Option.getD_some, heard]
    cases isOpen : client.adapter.isOpen with
    | false =>
      refine ⟨List.nodup_nil, fun message => ?_⟩
      simp [isOpen]
    | true =>
      refine ⟨emitEvent_nodup _ _, fun message => ?_⟩
      rw [if_pos rfl, mem_emitEvent]
      have isAttached := attached client (List.mem_of_getElem? found) isOpen
      constructor
      · rintro ⟨_, _, subscriptionId, filters, registered, subscribed, rfl⟩
        exact ⟨subscriptionId, ⟨client, filters, rfl, isOpen, registered, subscribed⟩, rfl⟩
      · rintro ⟨subscriptionId, ⟨_, filters, ⟨⟩, _, registered, subscribed⟩, rfl⟩
        exact ⟨isAttached, isOpen, subscriptionId, filters, registered, subscribed, rfl⟩

structure ReachedOnce (cluster : Cluster) (number : Nat) (event : Event) (worker : Nat)
    (processing : Processing) : Prop where
  once : cluster.processed.filter (isProcessing worker number) = [processing]
  broadcast : processing.broadcast.event = event
  sent : ∀ (c : Nat) (client : Client), cluster.clients[c]? = some client → client.worker = worker →
    (deliveries client number).Nodup ∧ ∀ message, message ∈ deliveries client number ↔
      ∃ subscriptionId, Eligible processing.clients c subscriptionId event ∧
        message = .event subscriptionId event

theorem broadcast_reaches_once (settings : Settings) (workers : Nat) (mirrors : List StaticMirroringWorker)
    (table : EventsTable) (now : Int) (trace : List Cluster.Action) (final : Cluster)
    (run : Run (Cluster.step settings) (fun _ _ => True) (started workers mirrors table now) trace final)
    (number : Nat) (event : Event) (issued : final.issued[number]? = some event)
    (processed : final.hub.All fun broadcast => isNumber number broadcast = false) (worker : Nat)
    (bound : worker < final.workers) : ∃ processing, ReachedOnce final number event worker processing := by
  have tracked := run.invariant (tracked_preserved settings) (started_tracked workers mirrors table now)
  have single := tracked.conserved number worker bound
  have known : number < final.issued.length := (List.getElem?_eq_some_iff.mp issued).1
  rw [tokens, Hub.owed_all _ _ _ processed, if_pos known, Nat.add_zero, List.countP_eq_length_filter,
    List.length_eq_one_iff] at single
  obtain ⟨processing, once⟩ := single
  have member : processing ∈ final.processed.filter (isProcessing worker number) :=
    once ▸ List.mem_singleton_self processing
  obtain ⟨inProcessed, isOwn⟩ := List.mem_filter.mp member
  simp only [isProcessing, Bool.and_eq_true, decide_eq_true_eq] at isOwn
  obtain ⟨_, attached, isEvent⟩ := tracked.recorded processing inProcessed
  rw [isOwn.2, issued, Option.some.injEq] at isEvent
  refine ⟨processing, once, isEvent.symm, fun c client found sameWorker => ?_⟩
  have sent := tracked.delivered c client found number
  rw [sameWorker, once, List.flatMap_singleton] at sent
  rw [sent, isEvent]
  exact caused_correct processing c attached

def subscribing (c : Nat) (filters : List SubscriptionFilter)
    (accepted : messageSchema (.subscribe (js "s") filters) = true := by decide) : List Cluster.Action :=
  [.client c (.receive (reqFrame (js "s") filters accepted)), .client c (.checked 0 (.ok false))]

theorem notes_accepted : messageSchema (.subscribe (js "s") [{ kinds := some [1] }]) = true := by decide

theorem profiles_accepted : messageSchema (.subscribe (js "s") [{ kinds := some [0] }]) = true := by decide

def crossing : List Cluster.Action :=
  [.connect 0, .connect 1, .connect 1] ++ subscribing 0 [{ kinds := some [1] }] ++
    subscribing 1 [{ kinds := some [1] }] ++ subscribing 2 [{ kinds := some [0] }] ++
    [.submit 0 openHandler note, .advance 0 {}, .emit 0, .passOn 0, .deliver 0]

theorem crossing_reaches_once :
    ∃ final, Run (Cluster.step unlimitedSettings) (fun _ _ => True) (started 2 [] [] 1700000000) crossing final ∧
      final.clients.map (fun client => deliveries client 0) =
        [[.event (js "s") (prepared openHandler note)],
          [.event (js "s") (prepared openHandler note)], []] ∧
      ∃ processing, ReachedOnce final 0 (prepared openHandler note) 1 processing := by
  have ran : (Runs.execute (Cluster.step unlimitedSettings) (fun _ _ => True)
        (started 2 [] [] 1700000000) crossing).map
      (fun final => (final.clients.map fun client => deliveries client 0, final.issued, final.workers,
        final.hub.incoming.length, final.hub.outgoing.length)) =
      some ([[.event (js "s") (prepared openHandler note)],
        [.event (js "s") (prepared openHandler note)], []],
        [prepared openHandler note], 2, 0, 0) := by
    decide +kernel
  obtain ⟨final, executed, answers⟩ := Option.map_eq_some_iff.mp ran
  have run := run_of_execute executed
  simp only [Prod.mk.injEq, List.length_eq_zero_iff] at answers
  obtain ⟨delivered, issued, workers, noIncoming, noOutgoing⟩ := answers
  refine ⟨final, run, delivered, broadcast_reaches_once unlimitedSettings 2 [] [] 1700000000 crossing final
    run 0 _ (by rw [issued]; rfl) ⟨by simp [noIncoming], by simp [noOutgoing]⟩ 1 (by rw [workers]; decide)⟩

end Nostream.BroadcastReach
