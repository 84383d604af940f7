import Nostream.Repositories.EventsTable
import Nostream.Utils.Event

set_option autoImplicit false

namespace Nostream

open Utf16 Hex Sql

inductive TableName where
  | events
  | eventTags
  deriving DecidableEq

inductive Column where
  | id | eventId | eventPubkey | eventKind | eventCreatedAt | eventContent | eventTags
  | eventSignature | firstSeen | deletedAt | eventDeduplication | remoteAddress | expiresAt
  | tagName | tagValue
  deriving DecidableEq

abbrev Condition := Cond TableName Column

def eventsSource : Source TableName Column :=
  { table := .events
    columns := [(.id, .other), (.eventId, .bytea), (.eventPubkey, .bytea), (.eventKind, .int4),
      (.eventCreatedAt, .int4), (.eventContent, .text), (.eventTags, .other),
      (.eventSignature, .bytea), (.firstSeen, .other), (.deletedAt, .other),
      (.eventDeduplication, .other), (.remoteAddress, .other), (.expiresAt, .int4)] }

def eventTagsSource : Source TableName Column :=
  { table := .eventTags
    columns := [(.id, .other), (.eventId, .bytea), (.tagName, .text), (.tagValue, .text)] }

structure EventTag where
  eventId : Bytes
  tagName : List Char
  tagValue : List Char
  deriving DecidableEq

def eventColumn (event : DBEvent) : Column → Value
  | .eventId => .bytea event.eventId
  | .eventPubkey => .bytea event.eventPubkey
  | .eventKind => .integer event.eventKind
  | .eventCreatedAt => .integer event.eventCreatedAt
  | .eventContent => .text event.eventContent
  | .eventSignature => .bytea event.eventSignature
  | .expiresAt => (event.expiresAt.map Value.integer).getD .null
  | _ => .null

def tagColumn (tag : EventTag) : Column → Value
  | .eventId => .bytea tag.eventId
  | .tagName => .text tag.tagName
  | .tagValue => .text tag.tagValue
  | _ => .null

def joinedRow (event : DBEvent) (tag : Option EventTag) : TableName → Column → Value
  | .events => eventColumn event
  | .eventTags => match tag with
    | some tag => tagColumn tag
    | none => fun _ => .null

inductive LengthGroup where
  | exact
  | even
  | odd
  deriving DecidableEq

def lengthGroup (s : JsString) : LengthGroup :=
  if s.length = 64 then .exact else if s.length % 2 = 0 then .even else .odd

def groupByLengthSpec (values : List JsString) : List (LengthGroup × List JsString) :=
  (values.map lengthGroup).eraseDups.map fun group => (group, values.filter (lengthGroup · = group))

def lengthConditions (tableFields : List Column) : LengthGroup × List JsString → List Condition
  | (.exact, values) => tableFields.map fun tableField =>
      .oneOf (.column (.bare tableField)) (values.map fun value => .bytea (ofHex value))
  | (.even, values) => values.flatMap fun start => tableFields.map fun tableField =>
      .compare (.leading (.bare tableField) (start.length / 2)) .equal (.bytea (ofHex start))
  | (.odd, values) => values.flatMap fun start => tableFields.map fun tableField =>
      .between (.leading (.bare tableField) (start.length / 2 + 1))
        (.bytea (ofHex (start ++ js "0"))) (.bytea (ofHex (start ++ js "f")))

-- A where group with nothing in it is not written out.
def orGroup : List Condition → List Condition
  | [] => []
  | first :: rest => [.disjunction first rest]

def hexCriteria (tableFields : List Column) : Option (List JsString) → List Condition
  | none => []
  | some [] => [.never]
  | some values => orGroup ((groupByLengthSpec values).flatMap (lengthConditions tableFields))

def kindCriteria : Option (List Int) → List Condition
  | none => []
  | some [] => [.never]
  | some kinds => [.oneOf (.column (.bare .eventKind)) (kinds.map Value.integer)]

def timeCriteria (operator : Operator) : Option Int → List Condition
  | none => []
  | some time => [.compare (.column (.bare .eventCreatedAt)) operator (.integer time)]

def letterOf (filterName : JsString) : JsString := filterName[1]?.toList

def tagCondition (filterName criterion : JsString) : Condition :=
  .both
    (.compare (.column (.qualified .eventTags .tagName)) .equal (.text (decode (letterOf filterName))))
    (.compare (.column (.qualified .eventTags .tagValue)) .equal (.text (decode criterion)))

def tagCriteria : JsString × List JsString → List Condition
  | (_, []) => [.never]
  | (filterName, criteria) => orGroup (criteria.map (tagCondition filterName))

inductive Direction where
  | ascending
  | descending
  deriving DecidableEq

structure Query where
  isTagQuery : Bool
  wheres : List Condition
  orderBy : Direction
  limit : Nat

def tagQueries (filter : SubscriptionFilter) : List (JsString × List JsString) :=
  filter.criteria.filter fun (filterName, _) => isGenericTagQuery filterName

def findByFilter (currentFilter : SubscriptionFilter) : Query :=
  { isTagQuery := !(tagQueries currentFilter).isEmpty
    wheres :=
      hexCriteria [.eventPubkey] currentFilter.authors ++ hexCriteria [.eventId] currentFilter.ids ++
        kindCriteria currentFilter.kinds ++ timeCriteria .atLeast currentFilter.since ++
        timeCriteria .atMost currentFilter.untilTime ++
        (tagQueries currentFilter).flatMap tagCriteria
    orderBy := if currentFilter.limit.isSome then .descending else .ascending
    limit := match currentFilter.limit with
      | some limit => limit.toNat
      | none => 500 }

namespace Query

def sources (query : Query) : List (Source TableName Column) :=
  if query.isTagQuery then [eventsSource, eventTagsSource] else [eventsSource]

def valid (query : Query) : Bool :=
  query.wheres.all (·.valid query.sources) &&
    (resolve query.sources (.bare .eventCreatedAt)).isSome

def joined (query : Query) (eventTags : List EventTag) (event : DBEvent) : List (Option EventTag) :=
  if query.isTagQuery then
    leftJoin (fun event tag => event.eventId == tag.eventId) event eventTags
  else [none]

def accepts (query : Query) (event : DBEvent) (tag : Option EventTag) : Bool :=
  query.wheres.all (·.holds query.sources (joinedRow event tag))

def selects (query : Query) (eventTags : List EventTag) (event : DBEvent) : Bool :=
  (query.joined eventTags event).any (query.accepts event)

end Query

end Nostream
