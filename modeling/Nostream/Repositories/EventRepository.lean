import Nostream.Repositories.EventsTable
import Nostream.Shared.Effects

set_option autoImplicit false

namespace Nostream

open Utf16 Hex Sql Effects

structure IEventRepository where
  create : Event → Effect EventsTable Thrown Nat
  -- The second argument is the value under EventDeduplicationMetadataKey.
  upsert : Event → Option (List JsString) → Effect EventsTable Thrown Nat
  deleteByPubkeyAndIds : JsString → List JsString → Effect EventsTable Thrown Nat

inductive Fate where
  | completes
  | rejected (reason : Thrown)
  | lostReply (reason : Thrown)
  deriving DecidableEq

abbrev Statement := EventsTable → Except Thrown (Nat × EventsTable)

def Statement.outcome (statement : Statement) (fate : Fate) (table : EventsTable) :
    Except Thrown Nat × EventsTable :=
  match fate, statement table with
  | .rejected reason, _ => (.error reason, table)
  | .completes, .ok (rowCount, written) => (.ok rowCount, written)
  | .lostReply reason, .ok (_, written) => (.error reason, written)
  | _, .error reason => (.error reason, table)

def Statement.execute (statement : Statement) (fate : Fate) : Effect EventsTable Thrown Nat :=
  ⟨statement.outcome fate⟩

namespace EventRepository

def insertRow (event : Event) : EventRow :=
  { eventId := ofHex event.id
    eventPubkey := ofHex event.pubkey
    eventCreatedAt := event.createdAt
    eventKind := event.kind
    eventTags := event.tags
    eventContent := event.content
    eventSignature := ofHex event.sig
    eventDeduplication := none
    remoteAddress := event.remoteAddress
    expiresAt := event.expirationTime }

def upsertRow (event : Event) (deduplication : Option (List JsString)) : EventRow :=
  { insertRow event with
    eventDeduplication := some (match deduplication with
      | none => [.string event.pubkey, .number event.kind]
      | some values => values.map .string) }

def insert (fate : Fate) (event : Event) : Effect EventsTable Thrown Nat :=
  Statement.execute (insertIgnore (insertRow event)) fate

def create (fate : Fate) (event : Event) : Effect EventsTable Thrown Nat :=
  handle (insert fate event) fun _ => pure 0

-- The predicate in the conflict target of the upsert; see upsertConflictTarget_correct.
def upsertConflictTarget (eventKind : Int) : Bool :=
  (eventKind == 0 || eventKind == 3 || eventKind == 41 ||
    (eventKind ≥ 10000 && eventKind < 20000)) || (eventKind ≥ 30000 && eventKind < 40000)

theorem upsertConflictTarget_correct : upsertConflictTarget = replaceableEventsIdx := rfl

def upsert (fate : Fate) (event : Event) (deduplication : Option (List JsString)) :
    Effect EventsTable Thrown Nat :=
  Statement.execute (insertMerge (upsertRow event deduplication)) fate

def deleteByPubkeyAndIds (fate : Fate) (now : Int) (pubkey : JsString)
    (eventIdsToDelete : List JsString) : Effect EventsTable Thrown Nat :=
  Statement.execute (markDeleted (ofHex pubkey) (eventIdsToDelete.map ofHex) now) fate

end EventRepository

structure Fates where
  insert : Fate := .completes
  upsert : Fate := .completes
  update : Fate := .completes
  now : Int := 0

def eventRepository (fates : Fates) : IEventRepository :=
  { create := EventRepository.create fates.insert
    upsert := EventRepository.upsert fates.upsert
    deleteByPubkeyAndIds := EventRepository.deleteByPubkeyAndIds fates.update fates.now }

end Nostream
