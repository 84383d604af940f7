import Nostream.Repositories.Writes
import Nostream.Schemas
import Nostream.Shared.JsonRoundTrip
import Nostream.Utils.RecordedCrypto

set_option autoImplicit false

namespace Nostream

open Utf16 Hex Json

-- toJSON of the tags, the text that is bound to event_tags.
def tagsJson (tags : List Tag) : JsString := stringify (.array (tags.map fun tag => .array (tag.map .string)))

def readStrings : List JsonValue → Option Tag
  | [] => some []
  | .string value :: rest => (readStrings rest).map fun values => value :: values
  | _ :: _ => none

def readTags : List JsonValue → Option (List Tag)
  | [] => some []
  | .array items :: rest => (readStrings items).bind fun tag => (readTags rest).map fun tags => tag :: tags
  | _ :: _ => none

-- What a client reads in event_tags: jsonb gives the parsed text back.
def parseTags (text : JsString) : Option (List Tag) :=
  match parse text with
  | some (.array items) => readTags items
  | _ => none

/-- The columns of a row that toNostrEvent reads, as a query returns them. -/
structure ReturnedRow where
  eventId : Bytes
  eventPubkey : Bytes
  eventCreatedAt : Int
  eventKind : Int
  eventTags : List Tag
  eventContent : JsString
  eventSignature : Bytes

def ReturnedRow.toNostrEvent (row : ReturnedRow) : Event :=
  { id := toHex row.eventId
    kind := row.eventKind
    pubkey := toHex row.eventPubkey
    createdAt := row.eventCreatedAt
    content := row.eventContent
    tags := row.eventTags
    sig := toHex row.eventSignature }

def EventRow.returned (row : EventRow) : Option ReturnedRow :=
  (parseTags (tagsJson row.eventTags)).map fun tags =>
    { eventId := row.eventId
      eventPubkey := row.eventPubkey
      eventCreatedAt := row.eventCreatedAt
      eventKind := row.eventKind
      eventTags := tags
      eventContent := row.eventContent
      eventSignature := row.eventSignature }

def DBEvent.returned (row : DBEvent) : ReturnedRow :=
  { eventId := row.eventId
    eventPubkey := row.eventPubkey
    eventCreatedAt := row.eventCreatedAt
    eventKind := row.eventKind
    eventTags := row.eventTags.map (·.map encode)
    eventContent := encode row.eventContent
    eventSignature := row.eventSignature }

namespace ReturnedRows

open EventRepository

theorem toNostrEvent_returned (row : DBEvent) : toNostrEvent row = row.returned.toNostrEvent := rfl

theorem readStrings_map (tag : Tag) : readStrings (tag.map .string) = some tag := by
  induction tag with
  | nil => rfl
  | cons value rest ih =>
    rw [List.map_cons, readStrings, ih]
    rfl

theorem readTags_map (tags : List Tag) :
    readTags (tags.map fun tag => .array (tag.map .string)) = some tags := by
  induction tags with
  | nil => rfl
  | cons tag rest ih =>
    rw [List.map_cons, readTags, readStrings_map, Option.bind_some, ih]
    rfl

theorem tags_wellFormed (tags : List Tag) :
    WellFormed (.array (tags.map fun tag => .array (tag.map .string))) := by
  refine .array _ fun item member => ?_
  obtain ⟨tag, _, rfl⟩ := List.mem_map.mp member
  refine .array _ fun text inTag => ?_
  obtain ⟨value, _, rfl⟩ := List.mem_map.mp inTag
  exact .string value

theorem parseTags_tagsJson (tags : List Tag) : parseTags (tagsJson tags) = some tags := by
  rw [parseTags, tagsJson, parse_stringify _ (tags_wellFormed tags)]
  exact readTags_map tags

theorem stored_returned (row : EventRow) (storable : row.storable = true) :
    row.returned.map (fun returned => { returned with eventContent := toWellFormed row.eventContent }) =
      some row.stored.returned := by
  simp only [EventRow.storable, Bool.and_eq_true] at storable
  have tags := Writes.encode_decode_tags row.eventTags storable.1.1.2
  rw [EventRow.returned, parseTags_tagsJson, DBEvent.returned, Option.map_some, Option.map_some]
  simp only [EventRow.stored, tags, toWellFormed]

theorem toNostrEvent_insertRow (event : Event) (storable : (insertRow event).storable = true)
    (id : isLowerHex event.id = true ∧ event.id.length % 2 = 0)
    (pubkey : isLowerHex event.pubkey = true ∧ event.pubkey.length % 2 = 0) :
    toNostrEvent (insertRow event).stored =
      { event with
        content := toWellFormed event.content
        sig := toHex (ofHex event.sig)
        remoteAddress := none
        expirationTime := none } := by
  have returned := stored_returned (insertRow event) storable
  rw [EventRow.returned, parseTags_tagsJson, Option.map_some, Option.map_some, Option.some.injEq] at returned
  rw [toNostrEvent_returned, ← returned]
  simp only [ReturnedRow.toNostrEvent, insertRow, toHex_ofHex event.id id.1 id.2,
    toHex_ofHex event.pubkey pubkey.1 pubkey.2]

theorem insertRow_returned (event : Event) (schema : eventSchema event = true) :
    (insertRow event).returned.map ReturnedRow.toNostrEvent =
      some { event with remoteAddress := none, expirationTime := none } := by
  simp only [eventSchema, idSchema, pubkeySchema, signatureSchema, Bool.and_eq_true, beq_iff_eq] at schema
  obtain ⟨⟨⟨⟨⟨⟨id, idLength⟩, pubkey, pubkeyLength⟩, _⟩, _⟩, _⟩, sig, sigLength⟩ := schema
  rw [EventRow.returned, parseTags_tagsJson, Option.map_some, Option.map_some]
  simp only [ReturnedRow.toNostrEvent, insertRow, toHex_ofHex event.id id (by rw [idLength]),
    toHex_ofHex event.pubkey pubkey (by rw [pubkeyLength]), toHex_ofHex event.sig sig (by rw [sigLength])]

theorem upsertRow_returned (event : Event) (deduplication : Option (List JsString)) :
    (upsertRow event deduplication).returned = (insertRow event).returned := rfl

theorem rows_round_trip (event : Event) (schema : eventSchema event = true)
    (deduplication : Option (List JsString)) :
    (insertRow event).returned.map ReturnedRow.toNostrEvent =
        some { event with remoteAddress := none, expirationTime := none } ∧
      (upsertRow event deduplication).returned.map ReturnedRow.toNostrEvent =
        some { event with remoteAddress := none, expirationTime := none } := by
  have inserted := insertRow_returned event schema
  refine ⟨inserted, ?_⟩
  rw [upsertRow_returned, inserted]

theorem note_round_trips :
    (insertRow note).returned.map ReturnedRow.toNostrEvent = some note ∧
      (upsertRow note (some [js "a"])).returned.map ReturnedRow.toNostrEvent = some note :=
  rows_round_trip note (by decide +kernel) (some [js "a"])

end ReturnedRows

end Nostream
