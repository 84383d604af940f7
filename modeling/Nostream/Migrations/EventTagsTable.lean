import Nostream.Repositories.FilterAgreement
import Nostream.Repositories.Writes
import Nostream.Shared.JsonText

set_option autoImplicit false

namespace Nostream

open Utf16 Hex EventRepository Writes JsonText

-- trim((tag_element->i)::text, '"'), null when the array has no such element.
def tagText (tagElement : List (List Char)) (i : Nat) : Option (List Char) :=
  tagElement[i]?.map fun text => trimQuotes (quoted text)

def triggerPair (tagElement : List (List Char)) : Option (List Char × List Char) :=
  match tagText tagElement 0, tagText tagElement 1 with
  | some tagName, some tagValue =>
    if tagName.length = 1 ∧ tagValue ≠ [] then some (tagName, tagValue) else none
  | _, _ => none

def eventTag (row : DBEvent) (pair : List Char × List Char) : EventTag :=
  { eventId := row.eventId, tagName := pair.1, tagValue := pair.2 }

def triggerRows (new : DBEvent) : List EventTag :=
  (new.eventTags.filterMap triggerPair).map (eventTag new)

inductive RowChange where
  | insert (new : DBEvent)
  | update (old new : DBEvent)
  | delete (old : DBEvent)

def without (eventTags : List EventTag) (eventId : Bytes) : List EventTag :=
  eventTags.filter fun tag => tag.eventId != eventId

-- OLD is null for an insert, so that its DELETE finds no row.
def processEventTags (eventTags : List EventTag) : RowChange → List EventTag
  | .insert new => eventTags ++ triggerRows new
  | .update old new => without eventTags old.eventId ++ triggerRows new
  | .delete old => without eventTags old.eventId

structure TagStore where
  events : EventsTable
  eventTags : List EventTag

namespace TagStore

inductive Operation where
  | insert (event : Event)
  | upsert (event : Event) (deduplication : Option (List JsString))
  | softDelete (pubkey : Bytes) (ids : List Bytes) (now : Int)
  | remove (selected : DBEvent → Bool)

def statement : Operation → EventsTable → Except Thrown (Nat × EventsTable)
  | .insert event => insertIgnore (insertRow event)
  | .upsert event deduplication => insertMerge (upsertRow event deduplication)
  | .softDelete pubkey ids now => markDeleted pubkey ids now
  | .remove selected => fun events =>
    .ok ((events.filter selected).length, events.filter fun r => !selected r)

def upsertChanges (row : EventRow) (events : EventsTable) : List RowChange :=
  match events.filter (sameKey row) with
  | [] => [.insert row.stored]
  | found => found.map fun old => .update old (mergeRow old row.stored)

def changes (events : EventsTable) (rowCount : Nat) : Operation → List RowChange
  | .insert event => if rowCount = 0 then [] else [.insert (insertRow event).stored]
  | .upsert event deduplication =>
    if rowCount = 0 then [] else upsertChanges (upsertRow event deduplication) events
  | .softDelete pubkey ids now =>
    (events.filter (isDeletable pubkey ids)).map fun old => .update old { old with deletedAt := some now }
  | .remove selected => (events.filter selected).map .delete

-- The changes for which the trigger fires.
def fired (events : EventsTable) (operation : Operation) : List RowChange :=
  match statement operation events with
  | .ok (rowCount, _) => changes events rowCount operation
  | .error _ => []

def written (events : EventsTable) (operation : Operation) : EventsTable :=
  match statement operation events with
  | .ok (_, written) => written
  | .error _ => events

def apply (store : TagStore) (operation : Operation) : TagStore :=
  { events := written store.events operation
    eventTags := (fired store.events operation).foldl processEventTags store.eventTags }

def run (store : TagStore) (operations : List Operation) : TagStore := operations.foldl apply store

end TagStore

namespace Backfill

-- The migration's loop over the tags of one event; a tag without a name makes it throw.
def backfillTags (row : DBEvent) : List (List (List Char)) → List EventTag → Except Thrown (List EventTag)
  | [], eventTags => .ok eventTags
  | [] :: _, _ => .error (.error "Cannot read properties of undefined (reading 'length')")
  | [_] :: rest, eventTags => backfillTags row rest eventTags
  | (tagName :: tagValue :: _) :: rest, eventTags =>
    if (encode tagName).length = 1 ∧ tagValue ≠ [] then
      backfillTags row rest (eventTags ++ [eventTag row (tagName, tagValue)])
    else backfillTags row rest eventTags

def backfill : EventsTable → List EventTag → Except Thrown (List EventTag)
  | [], eventTags => .ok eventTags
  | event :: rest, eventTags =>
    if eventTags.any fun tag => tag.eventId == event.eventId then backfill rest eventTags
    else match backfillTags event event.eventTags eventTags with
    | .error reason => .error reason
    | .ok written => backfill rest written

end Backfill

end Nostream
