import Nostream.Schemas.MessageSchema
import Nostream.Shared.JsonParsed
import Nostream.Shared.JsonTexts

set_option autoImplicit false

namespace Nostream.AcceptedMessages

open Utf16 Json Numeric MessageSchema

section Readers

def readText : JsonValue → Option JsString
  | .string text => some text
  | _ => none

def readInteger : JsonValue → Option Int
  | .number text => safeInteger text
  | _ => none

def readArray {α : Type} (read : JsonValue → Option α) : JsonValue → Option (List α)
  | .array items => items.mapM read
  | _ => none

variable {α : Type} (value : JsonValue) (key : String) (read : JsonValue → Option α)

def requiredMember : Option α := (value.member (js key)).bind read

-- A key that is left out is no failure.
def optionalMember : Option (Option α) :=
  match value.member (js key) with
  | none => some none
  | some field => (read field).map some

end Readers

section Objects

variable (value : JsonValue)

def readEvent : Option Event := do
  let id ← requiredMember value "id" readText
  let pubkey ← requiredMember value "pubkey" readText
  let createdAt ← requiredMember value "created_at" readInteger
  let kind ← requiredMember value "kind" readInteger
  let tags ← requiredMember value "tags" (readArray (readArray readText))
  let content ← requiredMember value "content" readText
  let sig ← requiredMember value "sig" readText
  return { id, pubkey, createdAt, kind, tags, content, sig }

def readCriterion (member : JsString × JsonValue) : Option (JsString × List JsString) :=
  (readArray readText member.2).map fun values => (member.1, values)

def readCriteria : JsonValue → Option (List (JsString × List JsString))
  | .object members =>
    (members.filter fun member => isLowerCaseTagKey member.1).mapM readCriterion
  | _ => none

def readFilter : Option SubscriptionFilter := do
  let ids ← optionalMember value "ids" (readArray readText)
  let authors ← optionalMember value "authors" (readArray readText)
  let kinds ← optionalMember value "kinds" (readArray readInteger)
  let since ← optionalMember value "since" readInteger
  let untilTime ← optionalMember value "until" readInteger
  let limit ← optionalMember value "limit" readInteger
  let criteria ← readCriteria value
  if distinct : (criteria.map Prod.fst).Nodup then
    return { ids, kinds, since, untilTime, authors, limit, criteria, distinct }
  else none

def hasOnly (isKnown : JsString → Bool) : JsonValue → Bool
  | .object members => members.all fun member => isKnown member.1
  | _ => false

def isEventKey (key : JsString) : Bool :=
  [js "id", js "pubkey", js "created_at", js "kind", js "tags", js "content", js "sig"].contains key

def isNamed (key : JsString) : Bool :=
  [js "ids", js "authors", js "kinds", js "since", js "until", js "limit"].contains key

def isFilterKey (key : JsString) : Bool := isNamed key || isLowerCaseTagKey key

def acceptedEvent : Option Event := if hasOnly isEventKey value then readEvent value else none

def acceptedFilter : Option SubscriptionFilter := if hasOnly isFilterKey value then readFilter value else none

end Objects

inductive Message where
  | event (event : Event)
  | subscription (message : IncomingMessage)

def isAccepted : Message → Bool
  | .event event => Nostream.eventSchema event
  | .subscription message => Nostream.messageSchema message

def readMessage : JsonValue → Option Message
  | .array (.string type :: rest) =>
    if type = js "EVENT" then
      match rest with
      | [object] => (acceptedEvent object).map .event
      | _ => none
    else if type = js "REQ" then
      match rest with
      | .string subscriptionId :: filters =>
        (filters.mapM acceptedFilter).map fun filters => .subscription (.subscribe subscriptionId filters)
      | _ => none
    else if type = js "CLOSE" then
      match rest with
      | [.string subscriptionId] => some (.subscription (.unsubscribe subscriptionId))
      | _ => none
    else none
  | _ => none

section Verdicts

theorem string_reads (rule : JsString → Bool) (value : JsonValue) :
    Joi.string rule value = (readText value).any rule := by
  cases value <;> rfl

theorem number_reads (rule : Int → Bool) (value : JsonValue) :
    Joi.number rule value = (readInteger value).any rule := by
  cases value <;> rfl

variable {α : Type} (schema : Joi.Schema) (read : JsonValue → Option α) (rule : α → Bool)

theorem mapM_reads (values : List JsonValue) (agrees : ∀ value ∈ values, schema value = (read value).any rule) :
    values.all schema = (values.mapM read).any (·.all rule) := by
  induction values with
  | nil => rfl
  | cons value rest ih =>
    rw [List.all_cons, agrees value (List.mem_cons_self ..), List.mapM_cons,
      ih fun other inRest => agrees other (List.mem_cons_of_mem value inRest)]
    cases read value with
    | none => rfl
    | some first =>
      cases rest.mapM read with
      | none => simp
      | some others => simp

theorem arrayOf_reads (agrees : ∀ value, schema value = (read value).any rule) (value : JsonValue) :
    arrayOf schema value = (readArray read value).any (·.all rule) := by
  cases value with
  | array items =>
    rw [arrayOf_apply]
    exact mapM_reads schema read rule items fun item _ => agrees item
  | _ => rfl

end Verdicts

theorem tagSchema_reads (value : JsonValue) :
    MessageSchema.tagSchema value = (readArray readText value).any Nostream.tagSchema := by
  cases value with
  | array items =>
    cases items with
    | nil => rfl
    | cons first rest =>
      have texts := mapM_reads (Joi.string fun _ => true) readText (fun _ => true) rest fun value _ =>
        string_reads (fun _ => true) value
      have head := string_reads isNonempty first
      simp only [MessageSchema.tagSchema, Joi.array, Joi.ArrayRules.acceptsRest, MessageSchema.required,
        MessageSchema.optional, readArray, List.mapM_cons]
      simp [texts, head]
      cases readText first with
      | none => rfl
      | some identifier =>
        cases rest.mapM readText with
        | none => simp
        | some values => simp [isNonempty, Nostream.tagSchema]
  | _ => rfl

def fieldAccepts (value : JsonValue) (key : JsString) (entry : Joi.Entry) : Bool :=
  match value.member key with
  | some field => entry.schema field
  | none => !entry.required

theorem member_lookup (members : List (JsString × JsonValue)) (key : JsString) :
    (JsonValue.object members).member key = members.lookup key := by
  induction members with
  | nil => rfl
  | cons first rest ih =>
    rw [JsonValue.member] at ih ⊢
    rw [List.find?_cons, List.lookup_cons, ← ih, BEq.comm]
    cases key == first.1 <;> rfl

theorem object_fields (keys : List (JsString × Joi.Entry)) (pattern : Option Joi.Pattern)
    (members : List (JsString × JsonValue)) :
    Joi.object keys pattern (.object members) =
      (keys.all (fun (key, entry) => fieldAccepts (.object members) key entry) &&
        members.all fun (key, value) => (keys.map Prod.fst).contains key ||
          pattern.any fun pattern => pattern.isMatch key && pattern.schema value) := by
  simp only [fieldAccepts, member_lookup]
  rfl

section Fields

variable {α : Type} (schema : Joi.Schema) (read : JsonValue → Option α) (rule : α → Bool)
  (agrees : ∀ value, schema value = (read value).any rule) (value : JsonValue) (key : String)

include agrees

theorem required_reads : fieldAccepts value (js key) (MessageSchema.required schema) =
    (requiredMember value key read).any rule := by
  unfold fieldAccepts requiredMember
  cases value.member (js key) with
  | none => rfl
  | some field => exact agrees field

theorem optional_reads : fieldAccepts value (js key) (MessageSchema.optional schema) =
    (optionalMember value key read).any fun field => field.all rule := by
  unfold fieldAccepts optionalMember
  cases value.member (js key) with
  | none => rfl
  | some field =>
    change schema field = ((read field).map some).any fun field => field.all rule
    rw [agrees field]
    cases read field <;> rfl

end Fields

theorem readEvent_verdict (value : JsonValue) : (readEvent value).any Nostream.eventSchema =
    ((requiredMember value "id" readText).any idSchema &&
      ((requiredMember value "pubkey" readText).any pubkeySchema &&
      ((requiredMember value "created_at" readInteger).any createdAtSchema &&
      ((requiredMember value "kind" readInteger).any kindSchema &&
      ((requiredMember value "tags" (readArray (readArray readText))).any (·.all Nostream.tagSchema) &&
      ((requiredMember value "content" readText).any (fun _ => true) &&
      (requiredMember value "sig" readText).any signatureSchema)))))) := by
  unfold readEvent
  rcases requiredMember value "id" readText with _ | id
  · rfl
  rcases requiredMember value "pubkey" readText with _ | pubkey
  · simp
  rcases requiredMember value "created_at" readInteger with _ | createdAt
  · simp
  rcases requiredMember value "kind" readInteger with _ | kind
  · simp
  rcases requiredMember value "tags" (readArray (readArray readText)) with _ | tags
  · simp
  rcases requiredMember value "content" readText with _ | content
  · simp
  rcases requiredMember value "sig" readText with _ | sig
  · simp
  simp [Nostream.eventSchema, Bool.and_assoc]

theorem eventSchema_reads (value : JsonValue) :
    MessageSchema.eventSchema value = (acceptedEvent value).any Nostream.eventSchema := by
  have guarded : (acceptedEvent value).any Nostream.eventSchema =
      (hasOnly isEventKey value && (readEvent value).any Nostream.eventSchema) := by
    unfold acceptedEvent
    cases hasOnly isEventKey value <;> rfl
  rw [guarded]
  cases value with
  | object members =>
    have tags := arrayOf_reads MessageSchema.tagSchema (readArray readText) Nostream.tagSchema tagSchema_reads
    rw [MessageSchema.eventSchema, object_fields, readEvent_verdict]
    simp only [List.all_cons, List.all_nil, Bool.and_true, required_reads _ readText _ (string_reads _),
      required_reads _ readInteger _ (number_reads _), required_reads _ _ _ tags, Option.any_none, Bool.or_false]
    exact Bool.and_comm _ _
  | _ => rfl

section Criteria

def criterionSchema : Joi.Schema := arrayOf (Joi.string fun value => isNonempty value && value.length ≤ 1024)

theorem isNamed_tagKey (key : JsString) (tagKey : isLowerCaseTagKey key = true) : isNamed key = false := by
  rw [← Bool.not_eq_true, isNamed, List.contains_iff_mem]
  intro named
  simp only [List.mem_cons, List.not_mem_nil, or_false] at named
  rcases named with rfl | rfl | rfl | rfl | rfl | rfl <;> exact absurd tagKey (by decide)

def criterionRule (criterion : JsString × List JsString) : Bool :=
  isLowerCaseTagKey criterion.1 && criterion.2.all fun value => !value.isEmpty && value.length ≤ 1024

theorem readCriteria_verdict (members : List (JsString × JsonValue)) :
    (members.all fun (key, value) => isNamed key || (isLowerCaseTagKey key && criterionSchema value)) =
      (hasOnly isFilterKey (.object members) && (readCriteria (.object members)).any (·.all criterionRule)) := by
  have agrees := arrayOf_reads _ readText _ (string_reads fun value => isNonempty value && value.length ≤ 1024)
  induction members with
  | nil => rfl
  | cons first rest ih =>
    rw [List.all_cons, ih]
    simp only [hasOnly, readCriteria, List.all_cons, List.filter_cons, isFilterKey]
    by_cases tagKey : isLowerCaseTagKey first.1 = true
    · have verdict := agrees first.2
      rw [if_pos tagKey, List.mapM_cons, readCriterion, criterionSchema, verdict, isNamed_tagKey first.1 tagKey, tagKey]
      cases readArray readText first.2 with
      | none => simp
      | some values =>
        generalize (rest.filter fun member => isLowerCaseTagKey member.1).mapM readCriterion = others
        cases others with
        | none => simp
        | some criteria =>
          simp [criterionRule, tagKey, isNonempty, Bool.and_left_comm]
    · rw [if_neg tagKey]
      simp [tagKey, Bool.and_assoc]

end Criteria

section Filters

theorem mapM_map {α β γ : Type} (read : α → Option β) (before : α → γ) (after : β → γ)
    (keeps : ∀ item value, read item = some value → after value = before item) (items : List α) (values : List β)
    (ran : items.mapM read = some values) : values.map after = items.map before := by
  induction items generalizing values with
  | nil =>
    cases ran
    rfl
  | cons first rest ih =>
    rw [List.mapM_cons] at ran
    obtain ⟨value, readFirst, others⟩ := Option.bind_eq_some_iff.mp ran
    obtain ⟨later, readRest, same⟩ := Option.bind_eq_some_iff.mp others
    cases same
    rw [List.map_cons, List.map_cons, keeps first value readFirst, ih later readRest]

theorem readCriteria_distinct (members : List (JsString × JsonValue)) (distinct : (members.map Prod.fst).Nodup)
    (criteria : List (JsString × List JsString)) (read : readCriteria (.object members) = some criteria) :
    (criteria.map Prod.fst).Nodup := by
  have keeps (member : JsString × JsonValue) (criterion : JsString × List JsString)
      (ran : readCriterion member = some criterion) : criterion.1 = member.1 := by
    obtain ⟨values, _, rfl⟩ := Option.map_eq_some_iff.mp ran
    rfl
  rw [mapM_map readCriterion Prod.fst Prod.fst keeps _ criteria read]
  exact distinct.sublist (List.filter_sublist.map Prod.fst)

theorem filterSchema_eq (filter : SubscriptionFilter) : Nostream.filterSchema filter =
    (filter.ids.all (·.all prefixSchema) && (filter.authors.all (·.all prefixSchema) &&
      (filter.kinds.all (·.all kindSchema) && (filter.since.all createdAtSchema &&
      (filter.untilTime.all createdAtSchema && (filter.limit.all kindSchema &&
      filter.criteria.all criterionRule)))))) := by
  have listed {α : Type} (values : Option (List α)) (rule : α → Bool) :
      (values.getD []).all rule = values.all (·.all rule) := by cases values <;> rfl
  simp only [Nostream.filterSchema, listed, Bool.and_assoc]
  rfl

theorem readFilter_verdict (members : List (JsString × JsonValue)) (distinct : (members.map Prod.fst).Nodup) :
    (readFilter (.object members)).any Nostream.filterSchema =
      ((optionalMember (.object members) "ids" (readArray readText)).any (·.all (·.all prefixSchema)) &&
        ((optionalMember (.object members) "authors" (readArray readText)).any (·.all (·.all prefixSchema)) &&
        ((optionalMember (.object members) "kinds" (readArray readInteger)).any (·.all (·.all kindSchema)) &&
        ((optionalMember (.object members) "since" readInteger).any (·.all createdAtSchema) &&
        ((optionalMember (.object members) "until" readInteger).any (·.all createdAtSchema) &&
        ((optionalMember (.object members) "limit" readInteger).any (·.all kindSchema) &&
        (readCriteria (.object members)).any (·.all criterionRule))))))) := by
  unfold readFilter
  rcases optionalMember (.object members) "ids" (readArray readText) with _ | ids
  · rfl
  rcases optionalMember (.object members) "authors" (readArray readText) with _ | authors
  · simp
  rcases optionalMember (.object members) "kinds" (readArray readInteger) with _ | kinds
  · simp
  rcases optionalMember (.object members) "since" readInteger with _ | since
  · simp
  rcases optionalMember (.object members) "until" readInteger with _ | untilTime
  · simp
  rcases optionalMember (.object members) "limit" readInteger with _ | limit
  · simp
  cases read : readCriteria (.object members) with
  | none => simp
  | some criteria =>
    have keys := readCriteria_distinct members distinct criteria read
    simp [keys, filterSchema_eq]

theorem filterSchema_reads (value : JsonValue) (wf : WellFormed value) :
    MessageSchema.filterSchema value = (acceptedFilter value).any Nostream.filterSchema := by
  have guarded : (acceptedFilter value).any Nostream.filterSchema =
      (hasOnly isFilterKey value && (readFilter value).any Nostream.filterSchema) := by
    unfold acceptedFilter
    cases hasOnly isFilterKey value <;> rfl
  rw [guarded]
  cases wf with
  | object members distinct =>
    have prefixes := arrayOf_reads _ readText _ (string_reads prefixSchema)
    have kinds := arrayOf_reads _ readInteger _ (number_reads kindSchema)
    have others := readCriteria_verdict members
    rw [MessageSchema.filterSchema, object_fields, readFilter_verdict members distinct]
    simp only [List.all_cons, List.all_nil, Bool.and_true, optional_reads _ _ _ prefixes, optional_reads _ _ _ kinds,
      optional_reads _ readInteger _ (number_reads _), Option.any_some]
    refine (congrArg (and _) others).trans ?_
    simp only [Bool.and_assoc, Bool.and_left_comm (hasOnly isFilterKey (.object members))]
  | _ => rfl

end Filters

section Messages

theorem isMessageOf_array (type : JsString) (items : List JsonValue) :
    isMessageOf type (.array items) = match items with
      | [] => true
      | first :: _ => equal type first := by
  cases items <;> simp [isMessageOf, Joi.array, Joi.ArrayRules.acceptsRest, MessageSchema.optional, Joi.any]

theorem eventMessage_reads (rest : List JsonValue) :
    eventMessageSchema (.array (.string (js "EVENT") :: rest)) =
      (readMessage (.array (.string (js "EVENT") :: rest))).any isAccepted := by
  rcases rest with _ | ⟨object, _ | ⟨other, rest⟩⟩
  · rfl
  · have verdict : eventMessageSchema (.array [.string (js "EVENT"), object]) = MessageSchema.eventSchema object := by
      simp [eventMessageSchema, Joi.array, Joi.ArrayRules.acceptsRest, MessageSchema.required, equal]
    have reading : readMessage (.array [.string (js "EVENT"), object]) = (acceptedEvent object).map .event := by
      simp [readMessage]
    rw [verdict, reading, eventSchema_reads]
    cases acceptedEvent object <;> rfl
  · simp [eventMessageSchema, Joi.array, Joi.ArrayRules.acceptsRest, MessageSchema.required, readMessage]

theorem closeMessage_reads (rest : List JsonValue) :
    MessageSchema.closeMessageSchema (.array (.string (js "CLOSE") :: rest)) =
      (readMessage (.array (.string (js "CLOSE") :: rest))).any isAccepted := by
  have isClose : js "CLOSE" ≠ js "EVENT" ∧ js "CLOSE" ≠ js "REQ" := by decide
  rcases rest with _ | ⟨subscriptionId, _ | ⟨other, rest⟩⟩
  · simp [MessageSchema.closeMessageSchema, Joi.array, MessageSchema.required, readMessage, isClose]
  · cases subscriptionId <;>
      simp [MessageSchema.closeMessageSchema, Joi.array, Joi.ArrayRules.acceptsRest, MessageSchema.required, equal,
        readMessage, isClose, isAccepted, Nostream.messageSchema, Nostream.closeMessageSchema, isNonempty, Joi.string]
  · simp [MessageSchema.closeMessageSchema, Joi.array, Joi.ArrayRules.acceptsRest, MessageSchema.required, readMessage,
      isClose]

theorem reqMessage_reads (rest : List JsonValue) (each : ∀ item ∈ rest, WellFormed item) :
    MessageSchema.reqMessageSchema (.array (.string (js "REQ") :: rest)) =
      (readMessage (.array (.string (js "REQ") :: rest))).any isAccepted := by
  have isReq : js "REQ" ≠ js "EVENT" := by decide
  cases rest with
  | nil => simp [MessageSchema.reqMessageSchema, Joi.array, MessageSchema.required, readMessage, isReq]
  | cons subscriptionId filters =>
    cases subscriptionId with
    | string id =>
      have verdict : MessageSchema.reqMessageSchema (.array (.string (js "REQ") :: .string id :: filters)) =
          (isNonempty id && id.length ≤ 256 && !filters.isEmpty && filters.all MessageSchema.filterSchema &&
            filters.length + 2 ≤ 12) := by
        have size : decide (filters.length + 1 < 12) = decide (filters.length ≤ 10) := decide_eq_decide.mpr (by omega)
        simp [MessageSchema.reqMessageSchema, Joi.array, Joi.ArrayRules.acceptsRest, MessageSchema.required, equal, size,
          Bool.and_assoc, Bool.and_left_comm, Bool.and_comm]
      have reading : readMessage (.array (.string (js "REQ") :: .string id :: filters)) =
          (filters.mapM acceptedFilter).map fun filters => .subscription (.subscribe id filters) := by
        simp [readMessage, isReq]
      have verdicts := mapM_reads MessageSchema.filterSchema acceptedFilter Nostream.filterSchema filters
        fun filter inFilters => filterSchema_reads filter (each filter (List.mem_cons_of_mem _ inFilters))
      rw [verdict, reading, verdicts]
      cases read : filters.mapM acceptedFilter with
      | none => simp
      | some values =>
        have units := mapM_map acceptedFilter (fun _ => ()) (fun _ => ()) (fun _ _ _ => rfl) filters values read
        have length : values.length = filters.length := by simpa using congrArg List.length units
        have empty : values.isEmpty = filters.isEmpty := by
          rw [Bool.eq_iff_iff, List.isEmpty_iff_length_eq_zero, List.isEmpty_iff_length_eq_zero, length]
        rw [Option.any_some, Option.map_some, Option.any_some, isAccepted, Nostream.messageSchema,
          Nostream.reqMessageSchema, length, empty]
        rfl
    | _ => simp [MessageSchema.reqMessageSchema, Joi.array, MessageSchema.required, readMessage, isReq, Joi.string]

theorem messageSchema_reads (value : JsonValue) (wf : WellFormed value) :
    MessageSchema.messageSchema value = (readMessage value).any isAccepted := by
  cases wf with
  | array items each =>
    cases items with
    | nil => rfl
    | cons first rest =>
      have inRest (item : JsonValue) (member : item ∈ rest) := each item (List.mem_cons_of_mem first member)
      cases first with
      | string type =>
        have first : MessageSchema.messageSchema (.array (.string type :: rest)) =
            if type = js "EVENT" then eventMessageSchema (.array (.string type :: rest))
            else if type = js "REQ" then MessageSchema.reqMessageSchema (.array (.string type :: rest))
            else if type = js "CLOSE" then MessageSchema.closeMessageSchema (.array (.string type :: rest))
            else false := by
          simp only [MessageSchema.messageSchema, Joi.switch, List.find?_cons, isMessageOf_array, equal, string_apply]
          split_ifs with isEvent isReq isClose
          · simp only [beq_iff_eq.mpr isEvent]
          · simp only [beq_eq_false_iff_ne.mpr isEvent, beq_iff_eq.mpr isReq]
          · simp only [beq_eq_false_iff_ne.mpr isEvent, beq_eq_false_iff_ne.mpr isReq, beq_iff_eq.mpr isClose]
          · simp only [beq_eq_false_iff_ne.mpr isEvent, beq_eq_false_iff_ne.mpr isReq, beq_eq_false_iff_ne.mpr isClose,
              List.find?_nil]
        rw [first]
        split_ifs with isEvent isReq isClose
        · rw [isEvent]
          exact eventMessage_reads rest
        · rw [isReq]
          exact reqMessage_reads rest inRest
        · rw [isClose]
          exact closeMessage_reads rest
        · simp [readMessage, isEvent, isReq, isClose]
      | _ => rfl
  | _ => rfl

end Messages

section Written

def texts (values : List JsString) : JsonValue := .array (values.map .string)

def numbers (values : List Int) : JsonValue := .array (values.map fun n => .number (integer n))

def namedFields (filter : SubscriptionFilter) : List (JsString × Option JsonValue) :=
  [(js "ids", filter.ids.map texts), (js "authors", filter.authors.map texts), (js "kinds", filter.kinds.map numbers),
    (js "since", filter.since.map fun since => .number (integer since)),
    (js "until", filter.untilTime.map fun untilTime => .number (integer untilTime)),
    (js "limit", filter.limit.map fun limit => .number (integer limit))]

def criteriaMembers (filter : SubscriptionFilter) : List (JsString × JsonValue) :=
  filter.criteria.map fun criterion => (criterion.1, texts criterion.2)

def filterMembers (filter : SubscriptionFilter) : List (JsString × JsonValue) :=
  (namedFields filter).filterMap (fun field => field.2.map fun value => (field.1, value)) ++ criteriaMembers filter

inductive IsFilterObject (filter : SubscriptionFilter) : JsonValue → Prop
  | keys (members : List (JsString × JsonValue)) (same : members.Perm (filterMembers filter))
      (criteria : members.filter (fun member => isLowerCaseTagKey member.1) = criteriaMembers filter) :
    IsFilterObject filter (.object members)

inductive IsWritten : Message → JsonValue → Prop
  | event (event : Event) (object : JsonValue) (isObject : IsObjectOf event object) :
    IsWritten (.event event) (.array [.string (js "EVENT"), object])
  | subscribe (subscriptionId : JsString) (filters : List SubscriptionFilter) (objects : List JsonValue)
      (areObjects : List.Forall₂ IsFilterObject filters objects) :
    IsWritten (.subscription (.subscribe subscriptionId filters))
      (.array (.string (js "REQ") :: .string subscriptionId :: objects))
  | unsubscribe (subscriptionId : JsString) :
    IsWritten (.subscription (.unsubscribe subscriptionId)) (.array [.string (js "CLOSE"), .string subscriptionId])

-- The symbol-keyed metadata of an event is not written.
def Message.onWire : Message → Message
  | .event sent => .event { sent with remoteAddress := none, expirationTime := none }
  | message => message

theorem mapM_written {α β : Type} (read : β → Option α) (write : α → β) (values : List α)
    (reads : ∀ value ∈ values, read (write value) = some value) : (values.map write).mapM read = some values := by
  induction values with
  | nil => rfl
  | cons value rest ih =>
    rw [List.map_cons, List.mapM_cons, reads value (List.mem_cons_self ..),
      ih fun other inRest => reads other (List.mem_cons_of_mem value inRest)]
    rfl

theorem readArray_texts (values : List JsString) : readArray readText (texts values) = some values :=
  mapM_written readText .string values fun _ _ => rfl

theorem readInteger_integer (n : Int) (natural : 0 ≤ n) (small : n ≤ maxSafeInteger) :
    readInteger (.number (integer n)) = some n := by
  obtain ⟨m, rfl⟩ := Int.eq_ofNat_of_zero_le natural
  exact safeInteger_integer m small

theorem readArray_numbers (values : List Int) (each : values.all kindSchema = true) :
    readArray readInteger (numbers values) = some values := by
  refine mapM_written readInteger _ values fun n member => ?_
  have bounds := List.all_eq_true.mp each n member
  simp only [kindSchema, Bool.and_eq_true, decide_eq_true_eq] at bounds
  exact readInteger_integer n bounds.1 bounds.2

theorem member_iff (members : List (JsString × JsonValue)) (distinct : (members.map Prod.fst).Nodup) (key : JsString)
    (value : JsonValue) : (JsonValue.object members).member key = some value ↔ (key, value) ∈ members := by
  rw [member_lookup]
  constructor
  · intro found
    obtain ⟨before, after, rfl, _⟩ := List.lookup_eq_some_iff.mp found
    exact List.mem_append_right before (List.mem_cons_self ..)
  · exact Joi.lookup_of_mem members distinct key value

theorem optionalMember_written {α : Type} (value : JsonValue) (key : String) (read : JsonValue → Option α)
    (write : α → JsonValue) (field : Option α) (written : value.member (js key) = field.map write)
    (reads : ∀ x ∈ field, read (write x) = some x) : optionalMember value key read = some field := by
  unfold optionalMember
  rw [written]
  cases field with
  | none => rfl
  | some x => exact congrArg (Option.map some) (reads x rfl)

section Filter

variable (filter : SubscriptionFilter)

theorem namedFields_distinct : (namedFields filter).Pairwise fun a b => a.1 ≠ b.1 := by
  refine List.pairwise_map.mp (?_ : ((namedFields filter).map Prod.fst).Pairwise (· ≠ ·))
  simp only [namedFields, List.map_cons, List.map_nil]
  decide

theorem namedFields_single (key : JsString) (a b : Option JsonValue) (inA : (key, a) ∈ namedFields filter)
    (inB : (key, b) ∈ namedFields filter) : a = b := by
  have same := List.inj_on_of_nodup_map (List.pairwise_map.mpr (namedFields_distinct filter)) inA inB rfl
  rw [Prod.mk.injEq] at same
  exact same.2

theorem namedFields_key (key : JsString) (field : Option JsonValue) (member : (key, field) ∈ namedFields filter) :
    isNamed key = true := by
  have listed : key ∈ (namedFields filter).map Prod.fst := List.mem_map_of_mem member
  exact List.contains_iff_mem.mpr listed

variable (accepted : Nostream.filterSchema filter = true)

include accepted

theorem criteriaMembers_key (member : JsString × JsonValue) (listed : member ∈ criteriaMembers filter) :
    isLowerCaseTagKey member.1 = true := by
  obtain ⟨criterion, inCriteria, rfl⟩ := List.mem_map.mp listed
  rw [filterSchema_eq] at accepted
  simp only [Bool.and_eq_true] at accepted
  have rule := List.all_eq_true.mp accepted.2.2.2.2.2.2 criterion inCriteria
  rw [criterionRule, Bool.and_eq_true] at rule
  exact rule.1

theorem mem_filterMembers (key : JsString) (field : Option JsonValue) (member : (key, field) ∈ namedFields filter)
    (value : JsonValue) : (key, value) ∈ filterMembers filter ↔ field = some value := by
  rw [filterMembers, List.mem_append]
  constructor
  · rintro (named | criterion)
    · obtain ⟨⟨other, found⟩, listed, same⟩ := List.mem_filterMap.mp named
      obtain ⟨written, rfl, same⟩ := Option.map_eq_some_iff.mp same
      cases same
      exact namedFields_single filter _ _ _ member listed
    · have tagKey := criteriaMembers_key filter accepted (key, value) criterion
      exact absurd (namedFields_key filter key field member) (by rw [isNamed_tagKey key tagKey]; decide)
  · rintro rfl
    exact .inl (List.mem_filterMap.mpr ⟨_, member, rfl⟩)

theorem filterMembers_distinct : ((filterMembers filter).map Prod.fst).Nodup := by
  rw [List.Nodup, List.pairwise_map, filterMembers, List.pairwise_append]
  refine ⟨?_, ?_, ?_⟩
  · refine (namedFields_distinct filter).filterMap _ ?_
    intro a b apart member isMember other isOther
    obtain ⟨_, _, rfl⟩ := Option.map_eq_some_iff.mp isMember
    obtain ⟨_, _, rfl⟩ := Option.map_eq_some_iff.mp isOther
    exact apart
  · exact List.pairwise_map.mpr (List.pairwise_map.mp filter.distinct)
  · intro member named criterion listed same
    obtain ⟨⟨key, field⟩, inFields, isMember⟩ := List.mem_filterMap.mp named
    obtain ⟨_, _, rfl⟩ := Option.map_eq_some_iff.mp isMember
    have tagKey := criteriaMembers_key filter accepted criterion listed
    rw [← same] at tagKey
    exact absurd (namedFields_key filter key field inFields) (by rw [isNamed_tagKey key tagKey]; decide)

theorem filterObject_member (members : List (JsString × JsonValue)) (same : members.Perm (filterMembers filter))
    (key : JsString) (field : Option JsonValue) (listed : (key, field) ∈ namedFields filter) :
    (JsonValue.object members).member key = field := by
  have distinct : (members.map Prod.fst).Nodup :=
    (same.map Prod.fst).nodup_iff.mpr (filterMembers_distinct filter accepted)
  ext value
  rw [member_iff members distinct, same.mem_iff, mem_filterMembers filter accepted key field listed]

theorem acceptedFilter_written (value : JsonValue) (object : IsFilterObject filter value) :
    acceptedFilter value = some filter := by
  obtain ⟨members, same, criteria⟩ := object
  have known : hasOnly isFilterKey (.object members) = true := by
    refine List.all_eq_true.mpr fun member inMembers => ?_
    rcases List.mem_append.mp (same.mem_iff.mp inMembers) with named | criterion
    · obtain ⟨⟨key, field⟩, listed, isMember⟩ := List.mem_filterMap.mp named
      obtain ⟨_, _, rfl⟩ := Option.map_eq_some_iff.mp isMember
      rw [isFilterKey, namedFields_key filter key field listed, Bool.true_or]
    · rw [isFilterKey, criteriaMembers_key filter accepted member criterion, Bool.or_true]
  have member := filterObject_member filter accepted members same
  have schema := accepted
  rw [filterSchema_eq] at schema
  simp only [Bool.and_eq_true] at schema
  obtain ⟨_, _, kindsRule, sinceRule, untilRule, limitRule, _⟩ := schema
  have seconds (n : Int) (rule : createdAtSchema n = true) : readInteger (.number (integer n)) = some n := by
    have bound : (10000000000 : Int) ≤ maxSafeInteger := by decide
    simp only [createdAtSchema, Bool.and_eq_true, decide_eq_true_eq] at rule
    exact readInteger_integer n rule.1 (by omega)
  have ids := optionalMember_written (.object members) "ids" (readArray readText) texts filter.ids
    (member _ _ (by simp [namedFields])) fun ids _ => readArray_texts ids
  have authors := optionalMember_written (.object members) "authors" (readArray readText) texts filter.authors
    (member _ _ (by simp [namedFields])) fun authors _ => readArray_texts authors
  have kinds := optionalMember_written (.object members) "kinds" (readArray readInteger) numbers filter.kinds
    (member _ _ (by simp [namedFields])) fun kinds given => readArray_numbers kinds ((Option.all_eq_true _ _).mp kindsRule kinds given)
  have since := optionalMember_written (.object members) "since" readInteger (fun n => .number (integer n)) filter.since
    (member _ _ (by simp [namedFields])) fun n given => seconds n ((Option.all_eq_true _ _).mp sinceRule n given)
  have untilTime := optionalMember_written (.object members) "until" readInteger (fun n => .number (integer n))
    filter.untilTime (member _ _ (by simp [namedFields])) fun n given => seconds n ((Option.all_eq_true _ _).mp untilRule n given)
  have limit := optionalMember_written (.object members) "limit" readInteger (fun n => .number (integer n)) filter.limit
    (member _ _ (by simp [namedFields])) fun n given => by
      have rule : kindSchema n = true := (Option.all_eq_true _ _).mp limitRule n given
      simp only [kindSchema, Bool.and_eq_true, decide_eq_true_eq] at rule
      exact readInteger_integer n rule.1 rule.2
  have read : readCriteria (.object members) = some filter.criteria := by
    rw [readCriteria, criteria]
    refine mapM_written readCriterion (fun criterion => (criterion.1, texts criterion.2)) filter.criteria ?_
    intro criterion _
    rw [readCriterion, readArray_texts, Option.map_some]
  simp only [acceptedFilter, known, if_true, readFilter, ids, authors, kinds, since, untilTime, limit, read,
    Option.bind_eq_bind, Option.bind_some, dif_pos filter.distinct]
  rfl

theorem IsFilterObject.wellFormed (value : JsonValue) (object : IsFilterObject filter value) : WellFormed value := by
  obtain ⟨members, same, _⟩ := object
  have distinct : (members.map Prod.fst).Nodup :=
    (same.map Prod.fst).nodup_iff.mpr (filterMembers_distinct filter accepted)
  have textsFit (values : List JsString) : WellFormed (texts values) := by
    refine .array _ fun item member => ?_
    obtain ⟨text, _, rfl⟩ := List.mem_map.mp member
    exact .string text
  have schema := accepted
  rw [filterSchema_eq] at schema
  simp only [Bool.and_eq_true, Option.all_eq_true, List.all_eq_true, createdAtSchema, kindSchema, decide_eq_true_eq] at schema
  obtain ⟨_, _, kindsRule, sinceRule, untilRule, limitRule, _⟩ := schema
  have fields : ∀ field ∈ namedFields filter, ∀ written, field.2 = some written → WellFormed written := by
    simp only [namedFields, List.forall_mem_cons, Option.map_eq_some_iff]
    refine ⟨?_, ?_, ?_, ?_, ?_, ?_, by simp⟩
    · rintro _ ⟨ids, _, rfl⟩
      exact textsFit ids
    · rintro _ ⟨authors, _, rfl⟩
      exact textsFit authors
    · rintro _ ⟨kinds, given, rfl⟩
      refine .array _ fun item member => ?_
      obtain ⟨n, inKinds, rfl⟩ := List.mem_map.mp member
      exact integer_wellFormed n (kindsRule kinds given n inKinds).1
    · rintro _ ⟨n, given, rfl⟩
      exact integer_wellFormed n (sinceRule n given).1
    · rintro _ ⟨n, given, rfl⟩
      exact integer_wellFormed n (untilRule n given).1
    · rintro _ ⟨n, given, rfl⟩
      exact integer_wellFormed n (limitRule n given).1
  refine .object members distinct fun member inMembers => ?_
  rcases List.mem_append.mp (same.mem_iff.mp inMembers) with named | criterion
  · obtain ⟨field, inFields, isMember⟩ := List.mem_filterMap.mp named
    obtain ⟨written, given, rfl⟩ := Option.map_eq_some_iff.mp isMember
    exact fields field inFields written given
  · obtain ⟨_, _, rfl⟩ := List.mem_map.mp criterion
    exact textsFit _

end Filter

theorem readEvent_written (event : Event) (accepted : Nostream.eventSchema event = true) (object : JsonValue)
    (isObject : IsObjectOf event object) :
    readEvent object = some { event with remoteAddress := none, expirationTime := none } := by
  obtain ⟨members, same⟩ := isObject
  have distinct := IsObjectOf.distinct same
  have field {α : Type} (key : String) (read : JsonValue → Option α) (value : JsonValue)
      (listed : (js key, value) ∈ eventMembers event) : requiredMember (.object members) key read = read value := by
    rw [requiredMember, (member_iff members distinct (js key) value).mpr (same.mem_iff.mpr listed), Option.bind_some]
  have tags : readArray (readArray readText) (.array (event.tags.map fun tag => .array (tag.map .string))) =
      some event.tags := mapM_written _ _ event.tags fun tag _ => readArray_texts tag
  simp only [Nostream.eventSchema, createdAtSchema, kindSchema, Bool.and_eq_true, decide_eq_true_eq] at accepted
  obtain ⟨⟨⟨⟨_, createdAt⟩, kind⟩, _⟩, _⟩ := accepted
  have bound : (10000000000 : Int) ≤ maxSafeInteger := by decide
  have time := readInteger_integer event.createdAt createdAt.1 (by omega)
  have number := readInteger_integer event.kind kind.1 kind.2
  simp only [readEvent, field "id" readText (.string event.id) (by simp [eventMembers]),
    field "pubkey" readText (.string event.pubkey) (by simp [eventMembers]),
    field "created_at" readInteger (.number (integer event.createdAt)) (by simp [eventMembers]),
    field "kind" readInteger (.number (integer event.kind)) (by simp [eventMembers]),
    field "tags" (readArray (readArray readText)) (.array (event.tags.map fun tag => .array (tag.map .string)))
      (by simp [eventMembers]),
    field "content" readText (.string event.content) (by simp [eventMembers]),
    field "sig" readText (.string event.sig) (by simp [eventMembers]), tags, time, number]
  rfl

theorem acceptedEvent_written (event : Event) (accepted : Nostream.eventSchema event = true) (object : JsonValue)
    (isObject : IsObjectOf event object) :
    acceptedEvent object = some { event with remoteAddress := none, expirationTime := none } := by
  have read := readEvent_written event accepted object isObject
  obtain ⟨members, same⟩ := isObject
  have known : hasOnly isEventKey (.object members) = true := by
    have each : ∀ member ∈ eventMembers event, isEventKey member.1 = true := by
      simp only [eventMembers, List.forall_mem_cons]
      decide
    exact List.all_eq_true.mpr fun member inMembers => each member (same.mem_iff.mp inMembers)
  rw [acceptedEvent, if_pos known, read]

theorem acceptedFilters_written (filters : List SubscriptionFilter) (objects : List JsonValue)
    (areObjects : List.Forall₂ IsFilterObject filters objects)
    (accepted : ∀ filter ∈ filters, Nostream.filterSchema filter = true) :
    (∀ object ∈ objects, WellFormed object) ∧ objects.mapM acceptedFilter = some filters := by
  induction areObjects with
  | nil => exact ⟨by simp, rfl⟩
  | @cons filter object filters objects isObject areObjects ih =>
    rw [List.forall_mem_cons] at accepted
    obtain ⟨wellFormed, read⟩ := ih accepted.2
    refine ⟨List.forall_mem_cons.mpr ⟨isObject.wellFormed filter accepted.1 object, wellFormed⟩, ?_⟩
    rw [List.mapM_cons, acceptedFilter_written filter accepted.1 object isObject, read]
    rfl

theorem reqMessage_filters (subscriptionId : JsString) (filters : List SubscriptionFilter)
    (accepted : isAccepted (.subscription (.subscribe subscriptionId filters)) = true) :
    ∀ filter ∈ filters, Nostream.filterSchema filter = true := by
  simp only [isAccepted, Nostream.messageSchema, Nostream.reqMessageSchema, Bool.and_eq_true, List.all_eq_true] at accepted
  exact accepted.1.2

section Messages

variable (message : Message) (accepted : isAccepted message = true) (value : JsonValue) (written : IsWritten message value)

include accepted written

theorem written_wellFormed : WellFormed value := by
  cases written with
  | event event object isObject =>
    refine .array _ ?_
    simp only [List.forall_mem_cons]
    exact ⟨.string _, IsObjectOf.wellFormed event accepted object isObject, by simp⟩
  | subscribe subscriptionId filters objects areObjects =>
    have each := reqMessage_filters subscriptionId filters accepted
    refine .array _ ?_
    simp only [List.forall_mem_cons]
    exact ⟨.string _, .string _, (acceptedFilters_written filters objects areObjects each).1⟩
  | unsubscribe subscriptionId =>
    refine .array _ ?_
    simp only [List.forall_mem_cons]
    exact ⟨.string _, .string _, by simp⟩

theorem readMessage_written : readMessage value = some message.onWire := by
  have types : js "REQ" ≠ js "EVENT" ∧ js "CLOSE" ≠ js "EVENT" ∧ js "CLOSE" ≠ js "REQ" := by decide
  cases written with
  | event event object isObject =>
    simp [readMessage, acceptedEvent_written event accepted object isObject, Message.onWire]
  | subscribe subscriptionId filters objects areObjects =>
    have each := reqMessage_filters subscriptionId filters accepted
    simp [readMessage, types, (acceptedFilters_written filters objects areObjects each).2, Message.onWire]
  | unsubscribe subscriptionId => simp [readMessage, types, Message.onWire]

end Messages

end Written

def acceptsFrame (raw : JsString) : Bool := (parse raw).any MessageSchema.messageSchema

def readFrame (raw : JsString) : Option Message := (parse raw).bind readMessage

theorem onWire_accepted (message : Message) : isAccepted message.onWire = isAccepted message := by
  cases message <;> rfl

theorem frames_read :
    (∀ raw, acceptsFrame raw = (readFrame raw).any isAccepted) ∧
      ∀ message, isAccepted message = true → ∀ value, IsWritten message value →
        acceptsFrame (toWellFormed (stringify value)) = true ∧
          readFrame (toWellFormed (stringify value)) = some message.onWire := by
  have verdict (raw : JsString) : acceptsFrame raw = (readFrame raw).any isAccepted := by
    unfold acceptsFrame readFrame
    cases parsed : parse raw with
    | none => rfl
    | some value => exact messageSchema_reads value (parse_wellFormed raw value parsed)
  refine ⟨verdict, fun message accepted value written => ?_⟩
  have wf := written_wellFormed message accepted value written
  have read : readFrame (toWellFormed (stringify value)) = some message.onWire := by
    rw [readFrame, toWellFormed, encode_decode _ (stringify_wellFormed value wf), parse_stringify value wf, Option.bind_some,
      readMessage_written message accepted value written]
  rw [verdict, read, Option.any_some, onWire_accepted]
  exact ⟨accepted, rfl⟩

end Nostream.AcceptedMessages
