import Nostream.Types
import Nostream.Shared.Sql

set_option autoImplicit false

namespace Nostream

open Utf16 Hex Sql

inductive Thrown where
  | error (message : String)
  -- A thrown value that is not an instance of Error.
  | other
  deriving DecidableEq

inductive JsonScalar (σ : Type) where
  | string (text : σ)
  | number (value : Int)
  deriving DecidableEq

def JsonScalar.map {σ ρ : Type} (f : σ → ρ) : JsonScalar σ → JsonScalar ρ
  | .string text => .string (f text)
  | .number value => .number value

def JsonScalar.all {σ : Type} (p : σ → Bool) : JsonScalar σ → Bool
  | .string text => p text
  | .number _ => true

/-- The values bound by an INSERT; tags and deduplication are bound as JSON texts. -/
structure EventRow where
  eventId : Bytes
  eventPubkey : Bytes
  eventCreatedAt : Int
  eventKind : Int
  eventTags : List Tag
  eventContent : JsString
  eventSignature : Bytes
  eventDeduplication : Option (List (JsonScalar JsString))
  remoteAddress : Option JsString
  expiresAt : Option Int

structure DBEvent where
  eventId : Bytes
  eventPubkey : Bytes
  eventCreatedAt : Int
  eventKind : Int
  eventTags : List (List (List Char))
  eventContent : List Char
  eventSignature : Bytes
  eventDeduplication : Option (List (JsonScalar (List Char)))
  remoteAddress : Option JsString
  expiresAt : Option Int
  deletedAt : Option Int
  deriving DecidableEq

abbrev EventsTable := List DBEvent

-- jsonb refuses a lone surrogate and U+0000; text only refuses U+0000.
def jsonbStorable (s : JsString) : Bool := wellFormed s && storable (decode s)

def EventRow.storable (row : EventRow) : Bool :=
  int4Range row.eventCreatedAt && int4Range row.eventKind && row.expiresAt.all int4Range &&
    row.eventTags.all (·.all jsonbStorable) && Sql.storable (decode row.eventContent) &&
    row.eventDeduplication.all (·.all (·.all jsonbStorable))

def EventRow.stored (row : EventRow) : DBEvent :=
  { eventId := row.eventId
    eventPubkey := row.eventPubkey
    eventCreatedAt := row.eventCreatedAt
    eventKind := row.eventKind
    eventTags := row.eventTags.map (·.map decode)
    eventContent := decode row.eventContent
    eventSignature := row.eventSignature
    eventDeduplication := row.eventDeduplication.map (·.map (·.map decode))
    remoteAddress := row.remoteAddress
    expiresAt := row.expiresAt
    deletedAt := none }

-- migrations: the predicate of replaceable_events_idx.
def replaceableEventsIdx (eventKind : Int) : Bool :=
  (eventKind == 0 || eventKind == 3 || eventKind == 41 ||
    (eventKind ≥ 10000 && eventKind < 20000)) || (eventKind ≥ 30000 && eventKind < 40000)

-- A null deduplication never equals another one in a unique index.
def sameIndexKey (a b : DBEvent) : Bool :=
  replaceableEventsIdx a.eventKind && replaceableEventsIdx b.eventKind &&
    a.eventPubkey == b.eventPubkey && a.eventKind == b.eventKind &&
    a.eventDeduplication.isSome && a.eventDeduplication == b.eventDeduplication

def uniqueViolation : Thrown :=
  .error "duplicate key value violates unique constraint \"events_event_id_unique\""

def invalidValue : Thrown := .error "value cannot be stored in its column"

def insertIgnore (row : EventRow) (table : EventsTable) : Except Thrown (Nat × EventsTable) :=
  if !row.storable then .error invalidValue
  else if table.any fun r => r.eventId == row.eventId || sameIndexKey r row.stored then .ok (0, table)
  else .ok (1, table ++ [row.stored])

-- knex leaves an undefined value out of the SET list.
def mergeRow (existing row : DBEvent) : DBEvent :=
  { row with
    eventPubkey := existing.eventPubkey
    eventKind := existing.eventKind
    eventDeduplication := existing.eventDeduplication
    remoteAddress := row.remoteAddress.orElse fun _ => existing.remoteAddress }

def insertMerge (row : EventRow) (table : EventsTable) : Except Thrown (Nat × EventsTable) :=
  if !row.storable then .error invalidValue
  else match table.find? fun r => sameIndexKey r row.stored with
  | some existing =>
    if existing.eventCreatedAt < row.eventCreatedAt then
      if table.any fun r => !sameIndexKey r row.stored && r.eventId == row.eventId then
        .error uniqueViolation
      else .ok (1, table.map fun r => if sameIndexKey r row.stored then mergeRow r row.stored else r)
    else .ok (0, table)
  | none =>
    if table.any fun r => r.eventId == row.eventId then .error uniqueViolation
    else .ok (1, table ++ [row.stored])

def isDeletable (pubkey : Bytes) (ids : List Bytes) (r : DBEvent) : Bool :=
  r.eventPubkey == pubkey && ids.contains r.eventId && r.deletedAt.isNone

def markDeleted (pubkey : Bytes) (ids : List Bytes) (now : Int) (table : EventsTable) :
    Except Thrown (Nat × EventsTable) :=
  .ok ((table.filter (isDeletable pubkey ids)).length,
    table.map fun r => if isDeletable pubkey ids r then { r with deletedAt := some now } else r)

def toNostrEvent (row : DBEvent) : Event :=
  { id := toHex row.eventId
    kind := row.eventKind
    pubkey := toHex row.eventPubkey
    createdAt := row.eventCreatedAt
    content := encode row.eventContent
    tags := row.eventTags.map (·.map encode)
    sig := toHex row.eventSignature }

end Nostream
