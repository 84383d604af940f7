import Nostream.App.MirrorAgreement
import Nostream.App.RelayedOnce
import Nostream.Schemas.MessageSchema

set_option autoImplicit false

namespace Nostream.MutualMirrors

open Utf16 Hex Json MessageStages AnnouncedOnce Cluster MirrorAgreement RelayedOnce
open Runs hiding execute

inductive Side where
  | left
  | right
  deriving DecidableEq

def Side.other : Side → Side
  | .left => .right
  | .right => .left

structure Link where
  -- The place of the mirror among the clients of the other relay.
  client : Nat
  -- How many relayed events have arrived there, and how many messages from there here.
  arrived : Nat
  heard : Nat := 0

structure Relay where
  cluster : Cluster
  link : Option Link := none

structure Pair where
  settings : Side → Settings
  address : Side → JsString
  workers : Side → Nat
  mirrors : Side → List StaticMirroringWorker
  mirror : Side → Nat
  facing : ∀ side, ((mirrors side)[mirror side]?.map fun mirroring => mirroring.config.address) =
    some (address side.other)

-- The Symbol keys of an event are not part of its JSON.
def onWire (event : Event) : Event := { event with remoteAddress := none, expirationTime := none }

def messageOnWire : OutgoingMessage → OutgoingMessage
  | .event subscriptionId event => .event subscriptionId (onWire event)
  | message => message

inductive Action where
  | act (side : Side) (action : Cluster.Action)
  | dial (side : Side) (worker : Nat)
  | hangUp (side : Side)
  | arrive (side : Side) (handler : EventMessageHandler)
  | hear (side : Side) (fates : Fates)

namespace Pair

variable (pair : Pair)

def started (table : Side → EventsTable) (now : Side → Int) (side : Side) : Relay :=
  { cluster := Cluster.started (pair.workers side) (pair.mirrors side) (table side) (now side) }

def moved (relays : Side → Relay) (side : Side) (action : Cluster.Action) : Option (Side → Relay) :=
  ((relays side).cluster.step (pair.settings side) action).map fun cluster =>
    Function.update relays side { relays side with cluster := cluster }

def linked (relays : Side → Relay) (side : Side) (link : Option Link) : Side → Relay :=
  Function.update relays side { relays side with link := link }

def secret (side : Side) : Option JsString :=
  (pair.mirrors side)[pair.mirror side]?.bind fun mirroring => mirroring.config.secret

def relayedMessage (side : Side) (event : Event) : JsonValue :=
  createRelayedEventMessage (.object (MessageSchema.eventMembers event)) (pair.secret side)

def sentBy (relays : Side → Relay) (side : Side) : List Event :=
  relayedOf (relays side).cluster (pair.mirror side)

def step (relays : Side → Relay) : Action → Option (Side → Relay)
  | .act side action => pair.moved relays side action
  | .dial side worker =>
    (pair.moved relays side.other (.connect worker)).bind fun answered =>
      (pair.moved answered side (.link (pair.mirror side) true)).map fun dialled =>
        linked dialled side (some {
          client := (relays side.other).cluster.clients.length
          arrived := (pair.sentBy relays side).length })
  | .hangUp side =>
    (pair.moved relays side (.link (pair.mirror side) false)).map fun closed => linked closed side none
  | .arrive side handler =>
    (relays side).link.bind fun link => (pair.sentBy relays side)[link.arrived]?.bind fun event =>
      let rest := linked relays side (some { link with arrived := link.arrived + 1 })
      if MessageSchema.messageSchema (pair.relayedMessage side event) then
        pair.moved rest side.other (.submit link.client handler (onWire event))
      else some rest
  | .hear side fates =>
    (relays side).link.bind fun link =>
      (relays side.other).cluster.clients[link.client]?.bind fun client =>
        client.sent[link.heard]?.bind fun sent =>
          pair.moved (linked relays side (some { link with heard := link.heard + 1 })) side
            (.ingest (pair.mirror side) fates (messageOnWire sent.message))

end Pair

-- A client submits the event once to one of the relays, and no third relay brings it in.
def once (event : Event) (relays : Side → Relay) : Action → Bool
  | .act _ (.submit _ _ received) => received.id ≠ event.id ||
      (received = event && [Side.left, Side.right].all fun side =>
        (relays side).cluster.submissions.all fun handled => handled.submission.event.id ≠ event.id)
  | .act _ (.ingest _ _ (.event _ received)) => received.id ≠ event.id
  | _ => true

section Containment

variable (pair : Pair) (event : Event)

def AllContained (relays : Side → Relay) : Prop :=
  ∀ side, Contained event (pair.mirror side) (pair.address side.other) (relays side).cluster

theorem linked_contained (relays : Side → Relay) (side : Side) (link : Option Link)
    (all : AllContained pair event relays) : AllContained pair event (Pair.linked relays side link) := by
  intro other
  unfold Pair.linked
  rw [Function.update_apply]
  split
  next same =>
    subst same
    exact all other
  next => exact all other

theorem moved_contained (durable : isEphemeralEvent event = false) (relays reached : Side → Relay) (side : Side)
    (action : Cluster.Action) (expected : Expected event (pair.mirror side) action)
    (taken : pair.moved relays side action = some reached) (all : AllContained pair event relays) :
    AllContained pair event reached := by
  obtain ⟨cluster, stepped, rfl⟩ := Option.map_eq_some_iff.mp taken
  intro other
  rw [Function.update_apply]
  split
  next same =>
    subst same
    exact contained_preserved event durable (pair.mirror other) _ (pair.settings other) _ action cluster
      (all other) expected stepped
  next => exact all other

theorem once_expected (relays : Side → Relay) (side : Side) (action : Cluster.Action) (m : Nat)
    (allowed : once event relays (.act side action) = true) : Expected event m action := by
  cases action with
  | submit c handler received =>
    intro own
    simp only [once, own, ne_eq, not_true_eq_false, decide_false, Bool.false_or, Bool.and_eq_true,
      decide_eq_true_eq] at allowed
    rw [allowed.1]
    exact ⟨rfl, rfl, rfl, rfl, rfl⟩
  | ingest k fates message =>
    cases message with
    | event subscriptionId received => exact fun _ => of_decide_eq_true allowed
    | ok | endOfStoredEvents | notice => trivial
  | tick | connect | link | client | advance | emit | passOn | deliver => trivial

theorem arrived_expected (relays : Side → Relay) (side : Side) (link : Link) (handler : EventMessageHandler)
    (sent : Event) (m : Nat) (found : (pair.sentBy relays side)[link.arrived]? = some sent)
    (all : AllContained pair event relays) : Expected event m (.submit link.client handler (onWire sent)) := by
  intro own
  obtain ⟨pubkey, createdAt, kind, tags, content⟩ :=
    (all side).relayed sent (List.mem_of_getElem? found) own
  exact ⟨pubkey, createdAt, kind, tags, content⟩

theorem heard_expected (m : Nat) (fates : Fates) (message : OutgoingMessage) :
    Expected event m (.ingest m fates message) := by
  cases message with
  | event => exact fun other => (other rfl).elim
  | ok | endOfStoredEvents | notice => trivial

theorem contained_step (durable : isEphemeralEvent event = false) :
    Preserves pair.step (fun relays action => once event relays action = true) (AllContained pair event) := by
  intro relays action reached all allowed taken
  cases action with
  | act side action =>
    exact moved_contained pair event durable relays reached side action
      (once_expected event relays side action _ allowed) taken all
  | dial side worker =>
    obtain ⟨answered, connected, continued⟩ := Option.bind_eq_some_iff.mp taken
    obtain ⟨dialled, linked, rfl⟩ := Option.map_eq_some_iff.mp continued
    apply linked_contained
    apply moved_contained pair event durable answered dialled side (.link (pair.mirror side) true) trivial linked
    exact moved_contained pair event durable relays answered side.other (.connect worker) trivial connected all
  | hangUp side =>
    simp only [Pair.step] at taken
    obtain ⟨closed, unlinked, rfl⟩ := Option.map_eq_some_iff.mp taken
    apply linked_contained
    exact moved_contained pair event durable relays closed side (.link (pair.mirror side) false) trivial
      unlinked all
  | arrive side handler =>
    obtain ⟨link, isLink, continued⟩ := Option.bind_eq_some_iff.mp taken
    obtain ⟨sent, found, continued⟩ := Option.bind_eq_some_iff.mp continued
    have rest := linked_contained pair event relays side (some { link with arrived := link.arrived + 1 }) all
    dsimp only at continued
    split at continued
    next =>
      exact moved_contained pair event durable _ reached side.other _
        (arrived_expected pair event relays side link handler sent _ found all) continued rest
    next =>
      cases continued
      exact rest
  | hear side fates =>
    obtain ⟨link, isLink, continued⟩ := Option.bind_eq_some_iff.mp taken
    obtain ⟨client, isClient, continued⟩ := Option.bind_eq_some_iff.mp continued
    obtain ⟨sent, isSent, continued⟩ := Option.bind_eq_some_iff.mp continued
    have rest := linked_contained pair event relays side (some { link with heard := link.heard + 1 }) all
    exact moved_contained pair event durable _ reached side _ (heard_expected event _ fates _) continued rest

theorem started_contained (table : Side → EventsTable) (now : Side → Int) :
    AllContained pair event (pair.started table now) := by
  intro side
  have facing := pair.facing side
  have silent : relayedOf (pair.started table now side).cluster (pair.mirror side) = [] := by
    simp only [relayedOf, Pair.started, Cluster.started, List.getElem?_map, Option.map_map]
    cases (pair.mirrors side)[pair.mirror side]? <;> rfl
  constructor
  · exact ⟨by simp [pool, Pair.started, Cluster.started], by simp [pool, Pair.started, Cluster.started],
      by simp [pool, Pair.started, Cluster.started], by simp [pool, Pair.started, Cluster.started],
      by simp [pool, Pair.started, Cluster.started]⟩
  · simpa [Pair.started, Cluster.started, Function.comp_def] using facing
  · exact ⟨fun entry member => (by cases member), fun entry member => (by cases member)⟩
  · rw [silent]
    exact fun sent member => by cases member
  · rw [silent]
    exact Nat.zero_le _

def relayCount (relays : Side → Relay) : Nat :=
  (pair.sentBy relays .left).countP (hasId event) + (pair.sentBy relays .right).countP (hasId event)

end Containment

theorem relayed_at_most_twice (pair : Pair) (table : Side → EventsTable) (now : Side → Int) (event : Event)
    (durable : isEphemeralEvent event = false) (trace : List Action) (final : Side → Relay)
    (run : Run pair.step (fun relays action => once event relays action = true) (pair.started table now)
      trace final) :
    relayCount pair event final ≤ 2 := by
  have all := run.invariant (contained_step pair event durable) (started_contained pair event table now)
  have left := contained_once event _ _ _ (all .left)
  have right := contained_once event _ _ _ (all .right)
  exact Nat.add_le_add left right

def mirroring (address : JsString) : StaticMirroringWorker :=
  { mirrorWorker with config := { address := address, filters := some [{}], limits := some {} } }

def addressOf : Side → JsString
  | .left => js "ws://left"
  | .right => js "ws://right"

def neighbours : Pair :=
  { settings := fun _ => {}
    address := addressOf
    workers := fun _ => 1
    mirrors := fun side => [mirroring (addressOf side.other)]
    mirror := fun _ => 0
    facing := fun _ => rfl }

def opened : Side → Relay := neighbours.started (fun _ => []) fun _ => 1700000000

def passOn (side : Side) (i : Nat) : List Action :=
  [.act side (.emit i), .act side (.passOn 0), .act side (.deliver 0)]

def crossing : List Action :=
  [.dial .left 0, .dial .right 0, .act .left (.connect 0), .act .left (.submit 1 openHandler note),
    .act .left (.advance 0 {})] ++ passOn .left 0 ++
    [.arrive .left openHandler, .act .right (.advance 0 {})] ++ passOn .right 0 ++
    [.arrive .right openHandler, .act .left (.advance 1 {}), .act .left (.emit 1)]

def echoing : List Action :=
  [.dial .left 0, .dial .right 0, .act .left (.connect 0), .act .left (.submit 1 openHandler fleetingNote)] ++
    passOn .left 0 ++ [.arrive .left openHandler] ++ passOn .right 0 ++ [.arrive .right openHandler] ++
    passOn .left 1

theorem note_relayed_twice :
    ∃ final, Run neighbours.step (fun relays action => once note relays action = true) opened crossing final ∧
      neighbours.sentBy final .left = [prepared openHandler note] ∧
      neighbours.sentBy final .right = [prepared openHandler note] ∧ relayCount neighbours note final ≤ 2 := by
  have ran : (Runs.execute neighbours.step (fun relays action => once note relays action = true) opened
        crossing).map (fun final => (neighbours.sentBy final .left, neighbours.sentBy final .right)) =
      some ([prepared openHandler note], [prepared openHandler note]) := by
    decide +kernel
  obtain ⟨final, executed, relayed⟩ := Option.map_eq_some_iff.mp ran
  rw [Prod.mk.injEq] at relayed
  have run := run_of_execute executed
  exact ⟨final, run, relayed.1, relayed.2,
    relayed_at_most_twice neighbours _ _ note (by decide) crossing final run⟩

theorem fleeting_note_echoes :
    ¬ ∀ (pair : Pair) (table : Side → EventsTable) (now : Side → Int) (event : Event) (trace : List Action)
        (final : Side → Relay),
      Run pair.step (fun relays action => once event relays action = true) (pair.started table now) trace final →
        relayCount pair event final ≤ 2 := by
  intro claim
  have ran : (Runs.execute neighbours.step (fun relays action => once fleetingNote relays action = true) opened
        echoing).map (relayCount neighbours fleetingNote) = some 3 := by
    decide +kernel
  obtain ⟨final, executed, count⟩ := Option.map_eq_some_iff.mp ran
  have bounded := claim neighbours _ _ fleetingNote echoing final (run_of_execute executed)
  rw [count] at bounded
  exact absurd bounded (by decide)

end Nostream.MutualMirrors
