import Nostream.Adapters.WebSocketAdapter
import Nostream.App.StaticMirroringWorker
import Nostream.Handlers.SubmissionPool
import Nostream.Shared.Hub

set_option autoImplicit false

namespace Nostream

open Utf16 SubmissionStages SubmissionPool

inductive Process where
  | worker (index : Nat)
  | mirror (index : Nat)
  deriving DecidableEq

/-- A message between processes with the event name of a broadcast; the number tells broadcasts apart. -/
structure BroadcastMessage where
  number : Nat
  event : Event
  source : Option JsString := none

structure SentMessage where
  message : OutgoingMessage
  time : Int
  broadcast : Option Nat := none

structure Client where
  worker : Nat
  adapter : WebSocketAdapter := {}
  sent : List SentMessage := []

structure MirrorClient where
  mirroring : StaticMirroringWorker
  isConnected : Bool := false
  -- The events of the relayed EVENT messages sent to the mirrored relay.
  relayed : List Event := []

structure ClientSubmission where
  client : Nat
  submission : Submission
  isEmitted : Bool := false
  isPublished : Bool := false

structure Processing where
  worker : Nat
  broadcast : BroadcastMessage
  clients : List Client

structure Cluster where
  workers : Nat
  now : Int := 0
  table : EventsTable := []
  clients : List Client := []
  mirrors : List MirrorClient := []
  submissions : List ClientSubmission := []
  hub : Hub Process BroadcastMessage := {}
  issued : List Event := []
  processed : List Processing := []

namespace Client

def log (client : Client) (now : Int) (broadcast : Option Nat) (messages : List OutgoingMessage) : Client :=
  { client with
    sent := client.sent ++ messages.map fun message =>
      { message := message, time := now, broadcast := broadcast } }

-- What WebSocketServerAdapter.onBroadcast does for one of its clients.
def hear (now : Int) (broadcast : BroadcastMessage) (client : Client) : Client :=
  if client.adapter.isOpen then
    client.log now (some broadcast.number) (client.adapter.emitEvent broadcast.event)
  else client

end Client

-- StaticMirroringWorker.onMessage, for messages of the primary.
def MirrorClient.onMessage (broadcast : BroadcastMessage) (mirror : MirrorClient) : MirrorClient :=
  if broadcast.source = some mirror.mirroring.config.address ∨ mirror.isConnected = false then mirror
  else { mirror with relayed := mirror.relayed ++ [broadcast.event] }

namespace Cluster

def started (workers : Nat) (mirrors : List StaticMirroringWorker) (table : EventsTable) (now : Int) :
    Cluster :=
  { workers := workers
    now := now
    table := table
    mirrors := mirrors.map fun mirroring => { mirroring := mirroring } }

def processes (cluster : Cluster) : List Process :=
  (List.range cluster.workers).map .worker ++ (List.range cluster.mirrors.length).map .mirror

-- WebSocketServerAdapter.onBroadcast
def serve (cluster : Cluster) (worker : Nat) (broadcast : BroadcastMessage) : Cluster :=
  { cluster with
    clients := cluster.clients.map fun client =>
      if client.worker = worker then client.hear cluster.now broadcast else client
    processed := cluster.processed ++
      [{ worker := worker, broadcast := broadcast, clients := cluster.clients }] }

def send (cluster : Cluster) (process : Process) (event : Event) (source : Option JsString) : Cluster :=
  { cluster with
    hub := cluster.hub.post process { number := cluster.issued.length, event := event, source := source }
    issued := cluster.issued ++ [event] }

-- WebSocketAdapter.onBroadcast: first to the worker's own clients, then to the primary.
def onBroadcast (cluster : Cluster) (worker : Nat) (event : Event) : Cluster :=
  (cluster.serve worker { number := cluster.issued.length, event := event }).send (.worker worker) event none

def emitBroadcast (cluster : Cluster) (client : Client) (event : Event) : Cluster :=
  if client.adapter.isAttached then cluster.onBroadcast client.worker event else cluster

def answer (cluster : Cluster) (i : Nat) (handled : ClientSubmission) (client : Client) (outputs : Outputs) :
    Cluster :=
  { cluster with
    clients := cluster.clients.set handled.client
      (client.log cluster.now none (outputs.messages.flatMap client.adapter.emitMessage))
    submissions := cluster.submissions.set i
      { handled with
        isEmitted := true
        isPublished := client.adapter.isAttached && !outputs.broadcasts.isEmpty } }

def emit (cluster : Cluster) (i : Nat) (handled : ClientSubmission) (client : Client) (outputs : Outputs) :
    Cluster :=
  outputs.broadcasts.foldl (fun reached event => reached.emitBroadcast client event)
    (cluster.answer i handled client outputs)

-- StaticMirroringWorker's handling of a message from the mirrored relay.
def ingest (cluster : Cluster) (m : Nat) (mirror : MirrorClient) (fates : Fates)
    (message : OutgoingMessage) : Cluster :=
  let worker := { mirror.mirroring with repository := eventRepository fates, expiryClock := cluster.now }
  let world := ((worker.onMessage message).run { table := cluster.table }).2
  world.broadcasts.foldl
    (fun reached event => reached.send (.mirror m) event (some mirror.mirroring.config.address))
    { cluster with table := world.table }

section Inductions

variable (cluster : Cluster) (P : Cluster → Prop)

theorem emit_induction (i : Nat) (handled : ClientSubmission) (client : Client) (outputs : Outputs)
    (answered : P (cluster.answer i handled client outputs))
    (broadcast : ∀ reached, P reached → ∀ event ∈ outputs.broadcasts,
      P (reached.onBroadcast client.worker event)) :
    P (cluster.emit i handled client outputs) := by
  apply List.foldlRecOn _ _ answered
  intro reached holds event member
  unfold emitBroadcast
  split
  next => exact broadcast reached holds event member
  next => exact holds

theorem ingest_induction (m : Nat) (mirror : MirrorClient) (fates : Fates) (message : OutgoingMessage)
    (stored : ∀ table, P { cluster with table := table })
    (sent : ∀ reached, P reached → ∀ subscriptionId received, message = .event subscriptionId received →
      isExpiredEvent cluster.now received = false →
        P (reached.send (.mirror m) (addExpirationMetadata received)
          (some mirror.mirroring.config.address))) :
    P (cluster.ingest m mirror fates message) := by
  apply List.foldlRecOn _ _ (stored _)
  intro reached holds event member
  rcases StaticMirroringWorker.onMessage_broadcasts _ message _ event member with
    old | ⟨subscriptionId, received, isMessage, accepted, rfl⟩
  · cases old
  · exact sent reached holds subscriptionId received isMessage
      (StaticMirroringWorker.accepts_ok _ received accepted).unexpired

end Inductions

inductive Action where
  | tick (now : Int)
  | connect (worker : Nat)
  | link (m : Nat) (isConnected : Bool)
  | client (c : Nat) (action : WebSocketAdapter.Action)
  | submit (c : Nat) (handler : EventMessageHandler) (received : Event)
  | advance (i : Nat) (fates : Fates)
  | emit (i : Nat)
  | passOn (k : Nat)
  | deliver (k : Nat)
  | ingest (m : Nat) (fates : Fates) (message : OutgoingMessage)

-- A snapshot shows rows of the table, and events come from the server only.
def observes (cluster : Cluster) : WebSocketAdapter.Action → Bool
  | .event _ => false
  | .snapshot _ (.ok rows) => rows.all fun row => row ∈ cluster.table
  | _ => true

def step (settings : Settings) (cluster : Cluster) : Action → Option Cluster
  | .tick now => if cluster.now ≤ now then some { cluster with now := now } else none
  | .connect worker =>
    if worker < cluster.workers then
      some { cluster with clients := cluster.clients ++ [{ worker := worker }] }
    else none
  | .link m isConnected =>
    some { cluster with
      mirrors := cluster.mirrors.modify m fun mirror => { mirror with isConnected := isConnected } }
  | .client c action =>
    match cluster.clients[c]?, cluster.observes action with
    | some client, true =>
      (client.adapter.step settings action).map fun (reached, messages) =>
        { cluster with
          clients := cluster.clients.set c { client.log cluster.now none messages with adapter := reached } }
    | _, _ => none
  | .submit c handler received =>
    if c < cluster.clients.length then
      some { cluster with
        submissions := cluster.submissions ++
          [{ client := c, submission := start { handler with expiryClock := cluster.now } received }] }
    else none
  | .advance i fates =>
    cluster.submissions[i]?.bind fun handled =>
      (handled.submission.advance fates cluster.table).map fun (advanced, table) =>
        { cluster with
          table := table
          submissions := cluster.submissions.set i { handled with submission := advanced } }
  | .emit i =>
    cluster.submissions[i]?.bind fun handled =>
      match handled.isEmitted, handled.submission.stage, cluster.clients[handled.client]? with
      | false, .finished outputs, some client => some (cluster.emit i handled client outputs)
      | _, _, _ => none
  | .passOn k => (cluster.hub.passOn cluster.processes k).map fun hub => { cluster with hub := hub }
  | .deliver k =>
    match cluster.hub.take k with
    | some ((.worker worker, broadcast), hub) => some ({ cluster with hub := hub }.serve worker broadcast)
    | some ((.mirror m, broadcast), hub) =>
      some { cluster with hub := hub, mirrors := cluster.mirrors.modify m (·.onMessage broadcast) }
    | none => none
  | .ingest m fates message =>
    cluster.mirrors[m]?.map fun mirror => cluster.ingest m mirror fates message

inductive Step (settings : Settings) (cluster : Cluster) : Action → Cluster → Prop
  | ticked (now : Int) (later : cluster.now ≤ now) : Step settings cluster (.tick now) { cluster with now := now }
  | connected (worker : Nat) (bound : worker < cluster.workers) :
      Step settings cluster (.connect worker)
        { cluster with clients := cluster.clients ++ [{ worker := worker }] }
  | linked (m : Nat) (isConnected : Bool) :
      Step settings cluster (.link m isConnected) { cluster with
        mirrors := cluster.mirrors.modify m fun mirror => { mirror with isConnected := isConnected } }
  | acted (c : Nat) (action : WebSocketAdapter.Action) (client : Client) (reached : WebSocketAdapter)
      (messages : List OutgoingMessage) (found : cluster.clients[c]? = some client)
      (observed : cluster.observes action = true)
      (stepped : WebSocketAdapter.Step settings client.adapter action reached messages) :
      Step settings cluster (.client c action) { cluster with
        clients := cluster.clients.set c { client.log cluster.now none messages with adapter := reached } }
  | submitted (c : Nat) (handler : EventMessageHandler) (received : Event)
      (bound : c < cluster.clients.length) :
      Step settings cluster (.submit c handler received) { cluster with
        submissions := cluster.submissions ++
          [{ client := c, submission := start { handler with expiryClock := cluster.now } received }] }
  | advanced (i : Nat) (fates : Fates) (handled : ClientSubmission) (advanced : Submission)
      (table : EventsTable) (found : cluster.submissions[i]? = some handled)
      (moved : Advance fates handled.submission cluster.table advanced table) :
      Step settings cluster (.advance i fates) { cluster with
        table := table
        submissions := cluster.submissions.set i { handled with submission := advanced } }
  | emitted (i : Nat) (handled : ClientSubmission) (client : Client) (outputs : Outputs)
      (found : cluster.submissions[i]? = some handled) (fresh : handled.isEmitted = false)
      (stage : handled.submission.stage = .finished outputs)
      (isClient : cluster.clients[handled.client]? = some client) :
      Step settings cluster (.emit i) (cluster.emit i handled client outputs)
  | passed (k : Nat) (hub : Hub Process BroadcastMessage)
      (passed : cluster.hub.passOn cluster.processes k = some hub) :
      Step settings cluster (.passOn k) { cluster with hub := hub }
  | heard (k worker : Nat) (broadcast : BroadcastMessage) (hub : Hub Process BroadcastMessage)
      (taken : cluster.hub.take k = some ((.worker worker, broadcast), hub)) :
      Step settings cluster (.deliver k) ({ cluster with hub := hub }.serve worker broadcast)
  | relayed (k m : Nat) (broadcast : BroadcastMessage) (hub : Hub Process BroadcastMessage)
      (taken : cluster.hub.take k = some ((.mirror m, broadcast), hub)) :
      Step settings cluster (.deliver k)
        { cluster with hub := hub, mirrors := cluster.mirrors.modify m (·.onMessage broadcast) }
  | ingested (m : Nat) (fates : Fates) (message : OutgoingMessage) (mirror : MirrorClient)
      (found : cluster.mirrors[m]? = some mirror) :
      Step settings cluster (.ingest m fates message) (cluster.ingest m mirror fates message)

theorem step_cases (settings : Settings) (cluster reached : Cluster) (action : Action)
    (taken : cluster.step settings action = some reached) : Step settings cluster action reached := by
  unfold step at taken
  split at taken
  · split at taken
    next later =>
      cases taken
      exact .ticked _ later
    next => cases taken
  · split at taken
    next bound =>
      cases taken
      exact .connected _ bound
    next => cases taken
  · cases taken
    exact .linked _ _
  · split at taken
    next found observed =>
      obtain ⟨⟨adapter, messages⟩, stepped, rfl⟩ := Option.map_eq_some_iff.mp taken
      exact .acted _ _ _ adapter messages found observed
        (WebSocketAdapter.step_cases settings _ _ _ _ stepped)
    next => cases taken
  · split at taken
    next bound =>
      cases taken
      exact .submitted _ _ _ bound
    next => cases taken
  · obtain ⟨handled, found, continued⟩ := Option.bind_eq_some_iff.mp taken
    obtain ⟨⟨advanced, table⟩, moved, rfl⟩ := Option.map_eq_some_iff.mp continued
    exact .advanced _ _ handled advanced table found (advance_cases _ _ _ _ _ moved)
  · obtain ⟨handled, found, continued⟩ := Option.bind_eq_some_iff.mp taken
    split at continued
    next fresh stage isClient =>
      cases continued
      exact .emitted _ handled _ _ found fresh stage isClient
    next => cases continued
  · obtain ⟨hub, passed, rfl⟩ := Option.map_eq_some_iff.mp taken
    exact .passed _ hub passed
  · split at taken
    next took =>
      cases taken
      exact .heard _ _ _ _ took
    next took =>
      cases taken
      exact .relayed _ _ _ _ took
    next => cases taken
  · obtain ⟨mirror, found, rfl⟩ := Option.map_eq_some_iff.mp taken
    exact .ingested _ _ _ mirror found

end Cluster

end Nostream
