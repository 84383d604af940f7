import Nostream.App.MirrorWire

set_option autoImplicit false

namespace Nostream.Reconnection

open Utf16 Json MirroredMessages MirrorWire Slots
open Runs hiding execute

structure Setup where
  config : Mirror
  uuid : Nat → JsString
  uuid_length : ∀ k, (uuid k).length = 36

inductive Written where
  | request (subscriptionId : JsString) (filters : List SubscriptionFilter)
  | relayed (text : JsString)
  deriving DecidableEq

inductive ReadyState where
  | connecting
  | opened
  | closed
  deriving DecidableEq

structure Socket where
  readyState : ReadyState := .connecting
  attached : Bool := true
  written : List Written := []
  deriving DecidableEq

namespace Socket

variable (socket : Socket)

def opens (asked : List Written) : Socket :=
  { socket with readyState := .opened, written := socket.written ++ if socket.attached then asked else [] }

def closes : Socket := { socket with readyState := .closed }

def removeAllListeners : Socket := { socket with attached := false }

def send (text : Written) : Socket := { socket with written := socket.written ++ [text] }

end Socket

/-- The clock and the timers count milliseconds. -/
structure MirrorConnection where
  now : Int
  since : Int
  sockets : List Socket
  timers : List Int := []
  -- The events whose checks are under way, and when those of the others have let them in.
  handling : List Event := []
  accepted : List Int := []

inductive Action where
  | opened (k : Nat)
  | frame (k : Nat) (raw : JsString)
  | checked (i : Nat) (worker : StaticMirroringWorker)
  | closed (k : Nat)
  | wait (milliseconds : Nat)
  | fire (i : Nat)
  | relay (source : Option JsString) (event : JsonValue)

def seconds (milliseconds : Int) : Int := milliseconds / 1000

namespace Setup

variable (setup : Setup)

def subscriptionId (k : Nat) : JsString := js "mirror-" ++ setup.uuid k

def asks (k : Nat) (since : Int) : List Written :=
  match setup.config.filters with
  | some (first :: rest) =>
    [.request (setup.subscriptionId k) ((first :: rest).map fun filter => { filter with since := some since })]
  | _ => []

end Setup

def run (now : Int) : MirrorConnection := { now := now, since := seconds now - 60 * 10, sockets := [{}] }

namespace MirrorConnection

variable (setup : Setup) (connection : MirrorConnection)

def onOpen (k : Nat) (socket : Socket) : MirrorConnection :=
  { connection with sockets := connection.sockets.set k (socket.opens (setup.asks k connection.since)) }

def onClose (k : Nat) (socket : Socket) : MirrorConnection :=
  { connection with
    sockets := connection.sockets.set k socket.closes
    timers := connection.timers ++ if socket.attached then [connection.now + 5000] else [] }

def reconnect (i : Nat) (client : Socket) : MirrorConnection :=
  { connection with
    sockets := connection.sockets.set (connection.sockets.length - 1) client.removeAllListeners ++ [{}]
    timers := connection.timers.eraseIdx i }

def onAccepted : MirrorConnection :=
  { connection with since := seconds connection.now - 30, accepted := connection.accepted ++ [connection.now] }

def onMessage (source : Option JsString) (event : JsonValue) (client : Socket) : MirrorConnection :=
  if source = some setup.config.address ∨ client.readyState ≠ .opened then connection
  else { connection with
    sockets := connection.sockets.set (connection.sockets.length - 1)
      (client.send (.relayed (outboundMessage event setup.config.secret))) }

def step : Action → Option MirrorConnection
  | .opened k => (connection.sockets[k]?.filter fun socket => socket.readyState == .connecting).map
      (connection.onOpen setup k)
  | .frame k raw => (connection.sockets[k]?.filter fun socket => socket.readyState == .opened).map fun socket =>
      { connection with
        handling := connection.handling ++
          if socket.attached then (eventFor (setup.subscriptionId k) raw).toList else [] }
  | .checked i worker => connection.handling[i]?.map fun event =>
      let checked := { connection with handling := connection.handling.eraseIdx i }
      match ({ worker with config := setup.config } : StaticMirroringWorker).accepts event with
      | .ok true => checked.onAccepted
      | _ => checked
  | .closed k => (connection.sockets[k]?.filter fun socket => socket.readyState != .closed).map
      (connection.onClose k)
  | .wait milliseconds => some { connection with now := connection.now + milliseconds }
  | .fire i => (connection.timers[i]?.filter fun due => due ≤ connection.now).bind fun _ =>
      connection.sockets.getLast?.map (connection.reconnect i)
  | .relay source event => connection.sockets.getLast?.map (connection.onMessage setup source event)

end MirrorConnection

-- What a socket that opens now asks for: from 30 seconds before the last acceptance, or from ten minutes
-- before the start.
def sinceOf (started : Int) (accepted : List Int) : Int :=
  match accepted.getLast? with
  | none => seconds started - 60 * 10
  | some time => seconds time - 30

def Asked (setup : Setup) (started : Int) (accepted : List Int) (k : Nat) (written : List Written) : Prop :=
  ∃ (known : List Int) (relayed : List JsString), known <+: accepted ∧
    written = setup.asks k (sinceOf started known) ++ relayed.map Written.relayed

structure Spoken (setup : Setup) (started : Int) (accepted : List Int) (k : Nat) (socket : Socket) : Prop where
  asked : socket.written = [] ∨ Asked setup started accepted k socket.written
  connecting : socket.readyState = .connecting → socket.written = []
  opened : socket.readyState = .opened → Asked setup started accepted k socket.written

inductive Alive (now : Int) (timers : List Int) (client : Socket) : Prop
  | live (state : client.readyState ≠ .closed) (idle : timers = [])
  | waiting (state : client.readyState = .closed) (due : Int) (pending : timers = [due]) (soon : due ≤ now + 5000)

structure Watched (setup : Setup) (started : Int) (connection : MirrorConnection) : Prop where
  single : ∃ earlier client, connection.sockets = earlier ++ [client] ∧ client.attached = true ∧
    (∀ socket ∈ earlier, socket.readyState = .closed ∧ socket.attached = false) ∧
      Alive connection.now connection.timers client
  since : connection.since = sinceOf started connection.accepted
  spoken : ∀ k socket, connection.sockets[k]? = some socket → Spoken setup started connection.accepted k socket
  times : started ≤ connection.now ∧ ∀ time ∈ connection.accepted, started ≤ time ∧ time ≤ connection.now

section Sockets

variable (earlier : List Socket) (client : Socket)

theorem live_client (closed : ∀ socket ∈ earlier, socket.readyState = .closed ∧ socket.attached = false) (k : Nat)
    (socket : Socket) (found : (earlier ++ [client])[k]? = some socket) (live : socket.readyState ≠ .closed) :
    k = earlier.length ∧ socket = client := by
  rw [List.getElem?_append] at found
  split at found
  next => exact (live (closed socket (List.mem_of_getElem? found)).1).elim
  next beyond =>
    obtain ⟨inside, rfl⟩ := List.getElem?_eq_some_iff.mp found
    rw [List.length_singleton] at inside
    have last : k = earlier.length := by omega
    exact ⟨last, by simp⟩

theorem set_client (replaced : Socket) : (earlier ++ [client]).set earlier.length replaced = earlier ++ [replaced] := by
  simp

end Sockets

theorem sinceOf_append (started time : Int) (accepted : List Int) :
    sinceOf started (accepted ++ [time]) = seconds time - 30 := by
  simp [sinceOf]

section Steps

variable (setup : Setup) (started : Int)

theorem asked_grows (accepted more : List Int) (k : Nat) (written : List Written)
    (asked : Asked setup started accepted k written) : Asked setup started (accepted ++ more) k written := by
  obtain ⟨known, relayed, before, shape⟩ := asked
  exact ⟨known, relayed, before.trans (List.prefix_append accepted more), shape⟩

theorem spoken_grows (accepted more : List Int) (k : Nat) (socket : Socket)
    (spoken : Spoken setup started accepted k socket) : Spoken setup started (accepted ++ more) k socket where
  asked := spoken.asked.imp id (asked_grows setup started accepted more k socket.written)
  connecting := spoken.connecting
  opened := fun state => asked_grows setup started accepted more k socket.written (spoken.opened state)

theorem onOpen_watched (connection : MirrorConnection) (watched : Watched setup started connection) (k : Nat)
    (socket : Socket) (found : connection.sockets[k]? = some socket) (state : socket.readyState = .connecting) :
    Watched setup started (connection.onOpen setup k socket) := by
  obtain ⟨earlier, client, shape, attached, closed, alive⟩ := watched.single
  have live : socket.readyState ≠ .closed := by rw [state]; decide
  obtain ⟨rfl, rfl⟩ := live_client earlier client closed k socket (shape ▸ found) live
  have silent := (watched.spoken _ _ found).connecting state
  refine ⟨⟨earlier, socket.opens (setup.asks earlier.length connection.since), ?_, attached, closed, ?_⟩,
    watched.since, ?_, watched.times⟩
  · rw [MirrorConnection.onOpen, shape, set_client]
  · cases alive with
    | live _ idle => exact .live (by simp [Socket.opens]) idle
    | waiting state' => exact (live state').elim
  · intro j other at_j
    rcases getElem?_set_cases at_j with ⟨rfl, rfl⟩ | ⟨_, old⟩
    · have asked : Asked setup started connection.accepted earlier.length
          (socket.opens (setup.asks earlier.length connection.since)).written := by
        refine ⟨connection.accepted, [], List.prefix_refl _, ?_⟩
        rw [Socket.opens, silent, attached, watched.since]
        simp
      exact ⟨.inr asked, by simp [Socket.opens], fun _ => asked⟩
    · exact watched.spoken j other old

theorem onClose_watched (connection : MirrorConnection) (watched : Watched setup started connection) (k : Nat)
    (socket : Socket) (found : connection.sockets[k]? = some socket) (state : socket.readyState ≠ .closed) :
    Watched setup started (connection.onClose k socket) := by
  obtain ⟨earlier, client, shape, attached, closed, alive⟩ := watched.single
  obtain ⟨rfl, rfl⟩ := live_client earlier client closed k socket (shape ▸ found) state
  refine ⟨⟨earlier, socket.closes, ?_, attached, closed, ?_⟩, watched.since, ?_, watched.times⟩
  · rw [MirrorConnection.onClose, shape, set_client]
  · cases alive with
    | live _ idle =>
      refine .waiting rfl (connection.now + 5000) ?_ le_rfl
      rw [MirrorConnection.onClose, idle, attached]
      rfl
    | waiting state' => exact (state state').elim
  · intro j other at_j
    rcases getElem?_set_cases at_j with ⟨rfl, rfl⟩ | ⟨_, old⟩
    · exact ⟨(watched.spoken _ _ found).asked, by simp [Socket.closes], by simp [Socket.closes]⟩
    · exact watched.spoken j other old

theorem reconnect_watched (connection : MirrorConnection) (watched : Watched setup started connection) (i : Nat)
    (due : Int) (pending : connection.timers[i]? = some due) (client : Socket)
    (last : connection.sockets.getLast? = some client) : Watched setup started (connection.reconnect i client) := by
  obtain ⟨earlier, other, shape, attached, closed, alive⟩ := watched.single
  rw [shape, List.getLast?_concat, Option.some.injEq] at last
  subst last
  have length : connection.sockets.length - 1 = earlier.length := by rw [shape]; simp
  cases alive with
  | live _ idle => rw [idle] at pending; cases pending
  | waiting state timer timers _ =>
    have first : i = 0 := by
      rw [timers] at pending
      have inside := (List.getElem?_eq_some_iff.mp pending).1
      simpa using inside
    refine ⟨⟨earlier ++ [other.removeAllListeners], {}, ?_, rfl, ?_, ?_⟩, watched.since, ?_, watched.times⟩
    · rw [MirrorConnection.reconnect, length, shape, set_client]
    · intro socket member
      rcases List.mem_append.mp member with old | new
      · exact closed socket old
      · rw [List.mem_singleton.mp new]
        exact ⟨state, rfl⟩
    · refine .live (by decide) ?_
      rw [MirrorConnection.reconnect, first, timers]
      rfl
    · intro j socket at_j
      rw [MirrorConnection.reconnect, List.getElem?_append] at at_j
      split at at_j
      next =>
        rcases getElem?_set_cases at_j with ⟨rfl, rfl⟩ | ⟨_, old⟩
        · have spoken := watched.spoken (connection.sockets.length - 1) other (by rw [length, shape]; simp)
          exact ⟨spoken.asked, spoken.connecting, spoken.opened⟩
        · exact watched.spoken j socket old
      next =>
        rw [List.mem_singleton.mp (List.mem_of_getElem? at_j)]
        exact ⟨.inl rfl, fun _ => rfl, by simp⟩

theorem onMessage_watched (connection : MirrorConnection) (watched : Watched setup started connection)
    (source : Option JsString) (event : JsonValue) (client : Socket)
    (last : connection.sockets.getLast? = some client) :
    Watched setup started (connection.onMessage setup source event client) := by
  unfold MirrorConnection.onMessage
  split
  next => exact watched
  next sends =>
    rw [not_or, not_not] at sends
    obtain ⟨earlier, other, shape, attached, closed, alive⟩ := watched.single
    rw [shape, List.getLast?_concat, Option.some.injEq] at last
    subst last
    have length : connection.sockets.length - 1 = earlier.length := by rw [shape]; simp
    have found : connection.sockets[earlier.length]? = some other := by rw [shape]; simp
    refine ⟨⟨earlier, other.send (.relayed (outboundMessage event setup.config.secret)), ?_, attached, closed, ?_⟩,
      watched.since, ?_, watched.times⟩
    · rw [length, shape, set_client]
    · cases alive with
      | live state idle => exact .live state idle
      | waiting state due pending soon => exact .waiting state due pending soon
    · intro j socket at_j
      rcases getElem?_set_cases at_j with ⟨rfl, rfl⟩ | ⟨_, old⟩
      · rw [length]
        obtain ⟨known, relayed, before, written⟩ := (watched.spoken _ _ found).opened sends.2
        have asked : Asked setup started connection.accepted earlier.length
            (other.send (.relayed (outboundMessage event setup.config.secret))).written := by
          refine ⟨known, relayed ++ [outboundMessage event setup.config.secret], before, ?_⟩
          rw [Socket.send, written]
          simp
        refine ⟨.inr asked, fun state => ?_, fun _ => asked⟩
        rw [show other.readyState = .connecting from state] at sends
        cases sends.2
      · exact watched.spoken j socket old

theorem onAccepted_watched (connection : MirrorConnection) (watched : Watched setup started connection) :
    Watched setup started connection.onAccepted where
  single := watched.single
  since := (sinceOf_append started connection.now connection.accepted).symm
  spoken := fun k socket found => spoken_grows setup started _ _ k socket (watched.spoken k socket found)
  times := by
    refine ⟨watched.times.1, fun time member => ?_⟩
    rcases List.mem_append.mp member with old | new
    · exact watched.times.2 time old
    · rw [List.mem_singleton.mp new]
      exact ⟨watched.times.1, le_rfl⟩

theorem step_watched : Preserves (MirrorConnection.step setup) (fun _ _ => True) (Watched setup started) := by
  intro connection action reached watched _ taken
  cases action with
  | opened k =>
    obtain ⟨socket, found, rfl⟩ := Option.map_eq_some_iff.mp taken
    obtain ⟨found, state⟩ := Option.filter_eq_some_iff.mp found
    exact onOpen_watched setup started connection watched k socket found (by simpa using state)
  | frame k raw =>
    obtain ⟨socket, _, rfl⟩ := Option.map_eq_some_iff.mp taken
    exact ⟨watched.single, watched.since, watched.spoken, watched.times⟩
  | checked i worker =>
    obtain ⟨event, _, rfl⟩ := Option.map_eq_some_iff.mp taken
    have erased : Watched setup started { connection with handling := connection.handling.eraseIdx i } :=
      ⟨watched.single, watched.since, watched.spoken, watched.times⟩
    dsimp only
    split
    next => exact onAccepted_watched setup started _ erased
    next => exact erased
  | closed k =>
    obtain ⟨socket, found, rfl⟩ := Option.map_eq_some_iff.mp taken
    obtain ⟨found, state⟩ := Option.filter_eq_some_iff.mp found
    exact onClose_watched setup started connection watched k socket found (by simpa using state)
  | wait milliseconds =>
    cases taken
    have later : connection.now ≤ connection.now + milliseconds := by omega
    obtain ⟨earlier, client, shape, attached, closed, alive⟩ := watched.single
    refine ⟨⟨earlier, client, shape, attached, closed, ?_⟩, watched.since, watched.spoken,
      watched.times.1.trans later, fun time member => ?_⟩
    · cases alive with
      | live state idle => exact .live state idle
      | waiting state due pending soon => exact .waiting state due pending (by dsimp only; omega)
    · exact ⟨(watched.times.2 time member).1, (watched.times.2 time member).2.trans later⟩
  | fire i =>
    obtain ⟨due, pending, replaced⟩ := Option.bind_eq_some_iff.mp taken
    obtain ⟨pending, _⟩ := Option.filter_eq_some_iff.mp pending
    obtain ⟨client, last, rfl⟩ := Option.map_eq_some_iff.mp replaced
    exact reconnect_watched setup started connection watched i due pending client last
  | relay source event =>
    obtain ⟨client, last, rfl⟩ := Option.map_eq_some_iff.mp taken
    exact onMessage_watched setup started connection watched source event client last

theorem run_watched : Watched setup started (run started) where
  single := ⟨[], {}, rfl, rfl, by simp, .live (by decide) rfl⟩
  since := rfl
  spoken := by
    intro k socket found
    rw [List.mem_singleton.mp (List.mem_of_getElem? found)]
    exact ⟨.inl rfl, fun _ => rfl, by simp⟩
  times := ⟨le_rfl, by simp [Reconnection.run]⟩

end Steps

structure Askable (setup : Setup) (started now : Int) : Prop where
  filters : ∀ filter ∈ setup.config.filters.getD [], filterSchema filter = true
  few : (setup.config.filters.getD []).length ≤ 10
  began : 600000 ≤ started
  bound : now < 10000000000000

theorem subscriptionId_length (setup : Setup) (k : Nat) : (setup.subscriptionId k).length = 43 := by
  rw [Setup.subscriptionId, List.length_append, setup.uuid_length]
  rfl

theorem asks_accepted (setup : Setup) (k : Nat) (since : Int)
    (filters : ∀ filter ∈ setup.config.filters.getD [], filterSchema filter = true)
    (few : (setup.config.filters.getD []).length ≤ 10) (inRange : createdAtSchema since = true)
    (subscriptionId : JsString) (asked : List SubscriptionFilter)
    (request : .request subscriptionId asked ∈ setup.asks k since) : reqMessageSchema subscriptionId asked = true := by
  unfold Setup.asks at request
  split at request
  next first rest configured =>
    rw [List.mem_singleton] at request
    cases request
    rw [configured, Option.getD_some] at filters few
    have length := subscriptionId_length setup k
    have nonempty : (setup.subscriptionId k).isEmpty = false := by
      rw [List.isEmpty_eq_false_iff_exists_mem]
      exact List.exists_mem_of_length_pos (by omega)
    have valid : ((first :: rest).map fun filter => { filter with since := some since }).all filterSchema = true := by
      rw [List.all_map, List.all_eq_true]
      intro filter member
      have known := filters filter member
      simp only [filterSchema, Bool.and_eq_true] at known
      simp [filterSchema, known, inRange]
    simp only [reqMessageSchema, nonempty, length, valid, List.length_map]
    rw [List.length_cons] at few
    simp
    omega
  next => cases request

theorem sinceOf_inRange (started now : Int) (accepted : List Int) (began : 600000 ≤ started) (bound : now < 10000000000000)
    (known : started ≤ now) (times : ∀ time ∈ accepted, started ≤ time ∧ time ≤ now) :
    createdAtSchema (sinceOf started accepted) = true := by
  have range : 0 ≤ sinceOf started accepted ∧ sinceOf started accepted < 10000000000 := by
    unfold sinceOf seconds
    cases last : accepted.getLast? with
    | none =>
      dsimp only
      omega
    | some time =>
      have between := times time (List.mem_of_getLast? last)
      dsimp only
      omega
  simpa [createdAtSchema] using range

theorem mirror_reconnects (setup : Setup) (started : Int) (trace : List Action) (final : MirrorConnection)
    (ran : Run (MirrorConnection.step setup) (fun _ _ => True) (run started) trace final) :
    Watched setup started final ∧
      (∀ k reached, MirrorConnection.step setup final (.opened k) = some reached →
        reached.sockets[k]?.map Socket.written = some (setup.asks k (sinceOf started final.accepted))) ∧
      (Askable setup started final.now → ∀ socket ∈ final.sockets, ∀ subscriptionId filters,
        .request subscriptionId filters ∈ socket.written → reqMessageSchema subscriptionId filters = true) := by
  have watched := ran.invariant (step_watched setup started) (run_watched setup started)
  refine ⟨watched, fun k reached taken => ?_, fun askable socket member subscriptionId filters request => ?_⟩
  · obtain ⟨socket, found, rfl⟩ := Option.map_eq_some_iff.mp taken
    obtain ⟨found, state⟩ := Option.filter_eq_some_iff.mp found
    obtain ⟨earlier, client, shape, attached, closed, _⟩ := watched.single
    have connecting : socket.readyState = .connecting := by simpa using state
    obtain ⟨rfl, rfl⟩ := live_client earlier client closed k socket (shape ▸ found) (by rw [connecting]; decide)
    have silent := (watched.spoken _ _ found).connecting connecting
    rw [MirrorConnection.onOpen, shape, set_client]
    simp [Socket.opens, silent, attached, watched.since]
  · obtain ⟨k, found⟩ := List.getElem?_of_mem member
    rcases (watched.spoken k socket found).asked with nothing | ⟨known, relayed, before, written⟩
    · rw [nothing] at request
      cases request
    · rw [written] at request
      rcases List.mem_append.mp request with asked | later
      · have inRange := sinceOf_inRange started final.now known askable.began askable.bound watched.times.1
          fun time member => watched.times.2 time (before.subset member)
        exact asks_accepted setup k _ askable.filters askable.few inRange subscriptionId filters asked
      · obtain ⟨text, _, relay⟩ := List.mem_map.mp later
        cases relay

def mirrorSetup : Setup :=
  { config := MirrorAgreement.mirrorWorker.config
    uuid := fun _ => List.replicate 36 48
    uuid_length := fun _ => List.length_replicate }

def interrupted : List Action :=
  [.opened 0,
    .frame 0 (stringify (.array [.string (js "EVENT"), .string (mirrorSetup.subscriptionId 0), noteObject])),
    .wait 4000, .checked 0 MirrorAgreement.mirrorWorker, .closed 0, .wait 5000, .fire 0, .opened 1]

theorem interrupted_mirror_reconnects :
    ∃ final, Run (MirrorConnection.step mirrorSetup) (fun _ _ => True) (run 1700000000000) interrupted final ∧
      final.sockets.map Socket.written = [mirrorSetup.asks 0 1699999400, mirrorSetup.asks 1 1699999974] ∧
      Watched mirrorSetup 1700000000000 final ∧
      ∀ socket ∈ final.sockets, ∀ subscriptionId filters,
        .request subscriptionId filters ∈ socket.written → reqMessageSchema subscriptionId filters = true := by
  have executed : (Runs.execute (MirrorConnection.step mirrorSetup) (fun _ _ => True) (run 1700000000000)
      interrupted).map (fun final => (final.sockets.map Socket.written, final.now)) =
        some ([mirrorSetup.asks 0 1699999400, mirrorSetup.asks 1 1699999974], 1700000009000) := by decide +kernel
  obtain ⟨final, isFinal, reached⟩ := Option.map_eq_some_iff.mp executed
  obtain ⟨written, now⟩ := Prod.mk.inj reached
  have askable : Askable mirrorSetup 1700000000000 final.now := by
    refine ⟨?_, ?_, by decide, by rw [now]; decide⟩
    · show ∀ filter ∈ [({} : SubscriptionFilter)], filterSchema filter = true
      decide +kernel
    · decide
  have ran := run_of_execute isFinal
  have reconnects := mirror_reconnects mirrorSetup 1700000000000 interrupted final ran
  exact ⟨final, ran, written, reconnects.1, reconnects.2.2 askable⟩

end Nostream.Reconnection
