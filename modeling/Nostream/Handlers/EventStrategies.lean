import Nostream.Repositories.EventRepository
import Nostream.Schemas
import Nostream.Utils.Event
import Nostream.Utils.Messages

set_option autoImplicit false

namespace Nostream

open Utf16 Hex Effects

/-- Every message is kept with the events table as it was when the message went out. -/
structure World where
  table : EventsTable
  sent : List (OutgoingMessage × EventsTable) := []
  broadcasts : List Event := []

namespace World

def send (world : World) (message : OutgoingMessage) : World :=
  { world with sent := world.sent ++ [(message, world.table)] }

def broadcast (world : World) (event : Event) : World :=
  { world with broadcasts := world.broadcasts ++ [event] }

def withTable (table : EventsTable) (world : World) : World := { world with table := table }

end World

abbrev Handling (α : Type) := Effect World Thrown α

def onTable {α : Type} (statement : Effect EventsTable Thrown α) : Handling α :=
  zoom World.table World.withTable statement

structure IWebSocketAdapter where
  clientAddress : JsString := []
  broadcastFailure : Option Thrown := none

namespace IWebSocketAdapter

def emitMessage (_ : IWebSocketAdapter) (message : OutgoingMessage) : Handling Unit :=
  update fun world => world.send message

def emitBroadcast (webSocket : IWebSocketAdapter) (event : Event) : Handling Unit :=
  match webSocket.broadcastFailure with
  | some reason => raise reason
  | none => update fun world => world.broadcast event

end IWebSocketAdapter

def acknowledge (webSocket : IWebSocketAdapter) (event : Event) (count : Nat) : Handling Unit := do
  webSocket.emitMessage
    (createCommandResult event.id true (if count ≠ 0 then [] else js "duplicate:"))
  if count ≠ 0 then
    webSocket.emitBroadcast event

section Acknowledging

variable (webSocket : IWebSocketAdapter) (event : Event) (world : World)

theorem acknowledge_zero : (acknowledge webSocket event 0).run world =
    (.ok (), world.send (createCommandResult event.id true (js "duplicate:"))) := rfl

theorem acknowledge_counted (count : Nat) (counted : count ≠ 0) : (acknowledge webSocket event count).run world =
    match webSocket.broadcastFailure with
    | some reason => (.error reason, world.send (createCommandResult event.id true []))
    | none => (.ok (), (world.send (createCommandResult event.id true [])).broadcast event) := by
  unfold acknowledge IWebSocketAdapter.emitMessage IWebSocketAdapter.emitBroadcast
  rw [bind_update, if_pos counted, if_pos counted]
  cases webSocket.broadcastFailure <;> rfl

end Acknowledging

def DefaultEventStrategy.execute (webSocket : IWebSocketAdapter) (repository : IEventRepository)
    (event : Event) : Handling Unit := do
  let count ← onTable (repository.create event)
  acknowledge webSocket event count

namespace DeleteEventStrategy

def isValidETag : Tag → Bool
  | name :: value :: _ => name == EventTags.event && isLowerHex value && value.length == 64
  | _ => false

def eventIdsToDelete (event : Event) : List JsString :=
  (event.tags.filter isValidETag).map fun tag => tag[1]?.getD []

def execute (webSocket : IWebSocketAdapter) (repository : IEventRepository) (event : Event) :
    Handling Unit := do
  if eventIdsToDelete event ≠ [] then
    let _ ← onTable (repository.deleteByPubkeyAndIds event.pubkey (eventIdsToDelete event))
  let count ← onTable (repository.create event)
  acknowledge webSocket event count

end DeleteEventStrategy

def EphemeralEventStrategy.execute (webSocket : IWebSocketAdapter) (event : Event) :
    Handling Unit := do
  webSocket.emitMessage (createCommandResult event.id true [])
  webSocket.emitBroadcast event

namespace ParameterizedReplaceableEventStrategy

def deduplication (event : Event) : List JsString :=
  match event.tags.find? fun tag => tag.length ≥ 2 && tag.head? == some EventTags.deduplication with
  | some tag => tag.tail
  | none => [[]]

def execute (webSocket : IWebSocketAdapter) (repository : IEventRepository) (event : Event) :
    Handling Unit := do
  let count ← onTable (repository.upsert event (some (deduplication event)))
  acknowledge webSocket event count

end ParameterizedReplaceableEventStrategy

namespace ReplaceableEventStrategy

def duplicateKey : String :=
  "duplicate key value violates unique constraint \"events_event_id_unique\""

def onError (webSocket : IWebSocketAdapter) (event : Event) : Thrown → Handling Unit
  | .error message =>
    if duplicateKey.toList.isSuffixOf message.toList then
      webSocket.emitMessage (createCommandResult event.id false (js "rejected: event already exists"))
    else
      webSocket.emitMessage (createCommandResult event.id false (js "error: "))
  | .other => pure ()

def execute (webSocket : IWebSocketAdapter) (repository : IEventRepository) (event : Event) :
    Handling Unit :=
  handle
    (do
      let count ← onTable (repository.upsert event none)
      acknowledge webSocket event count)
    (onError webSocket event)

end ReplaceableEventStrategy

inductive EventStrategy where
  | replaceable
  | ephemeral
  | delete
  | parameterizedReplaceable
  | default
  deriving DecidableEq

def eventStrategyFactory (event : Event) : EventStrategy :=
  if isReplaceableEvent event then .replaceable
  else if isEphemeralEvent event then .ephemeral
  else if isDeleteEvent event then .delete
  else if isParameterizedReplaceableEvent event then .parameterizedReplaceable
  else .default

def EventStrategy.execute (webSocket : IWebSocketAdapter) (repository : IEventRepository)
    (event : Event) : EventStrategy → Handling Unit
  | .replaceable => ReplaceableEventStrategy.execute webSocket repository event
  | .ephemeral => EphemeralEventStrategy.execute webSocket event
  | .delete => DeleteEventStrategy.execute webSocket repository event
  | .parameterizedReplaceable =>
    ParameterizedReplaceableEventStrategy.execute webSocket repository event
  | .default => DefaultEventStrategy.execute webSocket repository event

def isReplacing (event : Event) : Bool :=
  isReplaceableEvent event || isParameterizedReplaceableEvent event

-- The deduplication that the event's strategy hands to upsert.
def replacementDeduplication (event : Event) : Option (List JsString) :=
  if isReplaceableEvent event then none
  else some (ParameterizedReplaceableEventStrategy.deduplication event)

structure Dispatch (event : Event) (strategy : EventStrategy) : Prop where
  replaceable : isReplaceableEvent event = true ↔ strategy = .replaceable
  ephemeral : isEphemeralEvent event = true ↔ strategy = .ephemeral
  delete : isDeleteEvent event = true ↔ strategy = .delete
  parameterizedReplaceable :
    isParameterizedReplaceableEvent event = true ↔ strategy = .parameterizedReplaceable

/-- The kinds of the strategies do not overlap, so the order of the tests is immaterial. -/
theorem eventStrategyFactory_correct (event : Event) : Dispatch event (eventStrategyFactory event) := by
  constructor <;>
    simp only [eventStrategyFactory, isReplaceableEvent_iff, isEphemeralEvent_iff, isDeleteEvent_iff,
      isParameterizedReplaceableEvent_iff] <;>
    split_ifs <;> simp only [iff_true, iff_false] <;> omega

theorem isReplacing_iff (event : Event) :
    isReplacing event = true ↔
      eventStrategyFactory event = .replaceable ∨ eventStrategyFactory event = .parameterizedReplaceable := by
  have dispatch := eventStrategyFactory_correct event
  rw [isReplacing, Bool.or_eq_true, dispatch.replaceable, dispatch.parameterizedReplaceable]

theorem replacing_kind (event : Event) : isReplacing event = replaceableEventsIdx event.kind := by
  rw [Bool.eq_iff_iff, isReplacing, Bool.or_eq_true, isReplaceableEvent_iff,
    isParameterizedReplaceableEvent_iff]
  simp only [replaceableEventsIdx, Bool.or_eq_true, Bool.and_eq_true, beq_iff_eq, decide_eq_true_eq]
  omega

end Nostream
