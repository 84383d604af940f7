import Nostream.Schemas
import Nostream.Shared.Joi
import Nostream.Shared.JsonRoundTrip

set_option autoImplicit false

namespace Nostream.MessageSchema

open Utf16 Json

def required (schema : Joi.Schema) : Joi.Entry := { schema := schema, required := true }

def optional (schema : Joi.Schema) : Joi.Entry := { schema := schema }

def arrayOf (schema : Joi.Schema) : Joi.Schema := Joi.array { items := some (optional schema) }

def isNonempty (s : JsString) : Bool := !s.isEmpty

def tagSchema : Joi.Schema :=
  Joi.array
    { ordered := [required (Joi.string isNonempty)]
      items := some (optional (Joi.string fun _ => true)) }

def eventSchema : Joi.Schema :=
  Joi.object
    [(js "id", required (Joi.string idSchema)),
      (js "pubkey", required (Joi.string pubkeySchema)),
      (js "created_at", required (Joi.number createdAtSchema)),
      (js "kind", required (Joi.number kindSchema)),
      (js "tags", required (arrayOf tagSchema)),
      (js "content", required (Joi.string fun _ => true)),
      (js "sig", required (Joi.string signatureSchema))]
    none

def filterSchema : Joi.Schema :=
  Joi.object
    [(js "ids", optional (arrayOf (Joi.string prefixSchema))),
      (js "authors", optional (arrayOf (Joi.string prefixSchema))),
      (js "kinds", optional (arrayOf (Joi.number kindSchema))),
      (js "since", optional (Joi.number createdAtSchema)),
      (js "until", optional (Joi.number createdAtSchema)),
      (js "limit", optional (Joi.number kindSchema))]
    (some
      { isMatch := isLowerCaseTagKey
        schema := arrayOf (Joi.string fun value => isNonempty value && value.length ≤ 1024) })

def equal (literal : JsString) : Joi.Schema := Joi.string fun value => value == literal

def eventMessageSchema : Joi.Schema :=
  Joi.array { ordered := [required (equal (js "EVENT")), required eventSchema] }

def reqMessageSchema : Joi.Schema :=
  Joi.array
    { ordered := [required (equal (js "REQ")),
        required (Joi.string fun value => isNonempty value && value.length ≤ 256)]
      items := some (required filterSchema)
      max := some 12 }

def closeMessageSchema : Joi.Schema :=
  Joi.array { ordered := [required (equal (js "CLOSE")), required (Joi.string isNonempty)] }

def isMessageOf (type : JsString) : Joi.Schema :=
  Joi.array { ordered := [optional (equal type)], items := some (optional Joi.any) }

def messageSchema : Joi.Schema :=
  Joi.switch
    [(isMessageOf (js "EVENT"), eventMessageSchema),
      (isMessageOf (js "REQ"), reqMessageSchema),
      (isMessageOf (js "CLOSE"), closeMessageSchema)]

-- The keys of an event that JSON.stringify sees: the symbol-keyed metadata is left out.
def eventMembers (event : Event) : List (JsString × JsonValue) :=
  [(js "id", .string event.id), (js "pubkey", .string event.pubkey),
    (js "created_at", .number (integer event.createdAt)), (js "kind", .number (integer event.kind)),
    (js "tags", .array (event.tags.map fun tag => .array (tag.map .string))),
    (js "content", .string event.content), (js "sig", .string event.sig)]

inductive IsObjectOf (event : Event) : JsonValue → Prop
  | keys (members : List (JsString × JsonValue)) (same : members.Perm (eventMembers event)) :
    IsObjectOf event (.object members)

@[simp]
theorem string_apply (rule : JsString → Bool) (value : JsString) :
    Joi.string rule (.string value) = rule value := rfl

theorem number_natural (rule : Int → Bool) (n : Int) (natural : 0 ≤ n) (safe : n ≤ Numeric.maxSafeInteger) :
    Joi.number rule (.number (integer n)) = rule n := by
  obtain ⟨m, rfl⟩ := Int.eq_ofNat_of_zero_le natural
  change (Numeric.safeInteger (integer m)).any rule = rule m
  rw [safeInteger_integer m safe]
  rfl

theorem arrayOf_apply (schema : Joi.Schema) (values : List JsonValue) :
    arrayOf schema (.array values) = values.all schema := by
  simp [arrayOf, Joi.array, Joi.ArrayRules.acceptsRest, optional]

theorem tagSchema_apply (tag : Tag) : tagSchema (.array (tag.map .string)) = Nostream.tagSchema tag := by
  cases tag with
  | nil => rfl
  | cons identifier rest =>
    simp [tagSchema, Joi.array, Joi.ArrayRules.acceptsRest, required, optional, isNonempty,
      Nostream.tagSchema]

def eventFields (event : Event) : List (JsString × Joi.Entry × JsonValue) :=
  [(js "id", required (Joi.string idSchema), .string event.id),
    (js "pubkey", required (Joi.string pubkeySchema), .string event.pubkey),
    (js "created_at", required (Joi.number createdAtSchema), .number (integer event.createdAt)),
    (js "kind", required (Joi.number kindSchema), .number (integer event.kind)),
    (js "tags", required (arrayOf tagSchema), .array (event.tags.map fun tag => .array (tag.map .string))),
    (js "content", required (Joi.string fun _ => true), .string event.content),
    (js "sig", required (Joi.string signatureSchema), .string event.sig)]

theorem eventSchema_eq (event : Event) :
    eventSchema = Joi.object ((eventFields event).map fun (key, entry, _) => (key, entry)) none := rfl

theorem eventMembers_eq (event : Event) :
    eventMembers event = (eventFields event).map fun (key, _, value) => (key, value) := rfl

theorem IsObjectOf.distinct {event : Event} {members : List (JsString × JsonValue)}
    (same : members.Perm (eventMembers event)) : (members.map Prod.fst).Nodup := by
  rw [(same.map Prod.fst).nodup_iff]
  simp only [eventMembers, List.map_cons, List.map_nil]
  decide

theorem eventSchema_apply (event : Event) (accepted : Nostream.eventSchema event = true) (value : JsonValue)
    (object : IsObjectOf event value) : eventSchema value = true := by
  simp only [Nostream.eventSchema, Bool.and_eq_true] at accepted
  obtain ⟨⟨⟨⟨⟨id, pubkey⟩, createdAt⟩, kind⟩, tags⟩, sig⟩ := accepted
  have natural : 0 ≤ event.createdAt ∧ event.createdAt < 10000000000 := by
    simpa [createdAtSchema] using createdAt
  have safe : 0 ≤ event.kind ∧ event.kind ≤ Numeric.maxSafeInteger := by
    simpa [kindSchema] using kind
  have small : event.createdAt ≤ Numeric.maxSafeInteger := by
    have bound : (10000000000 : Int) ≤ Numeric.maxSafeInteger := by decide
    omega
  have createdAtField := number_natural createdAtSchema event.createdAt natural.1 small
  have kindField := number_natural kindSchema event.kind safe.1 safe.2
  have tagsField : arrayOf tagSchema (.array (event.tags.map fun tag => .array (tag.map .string))) = true := by
    rw [arrayOf_apply, List.all_map, ← tags]
    exact congrArg event.tags.all (funext tagSchema_apply)
  obtain ⟨members, same⟩ := object
  rw [eventSchema_eq event]
  apply Joi.object_accepts _ _ members (eventMembers_eq event ▸ same) (IsObjectOf.distinct same)
  simp only [eventFields, List.forall_mem_cons, required, string_apply, createdAtField, kindField, tagsField]
  exact ⟨id, pubkey, createdAt, kind, trivial, trivial, sig, by simp⟩

theorem integer_wellFormed (n : Int) (natural : 0 ≤ n) : WellFormed (.number (integer n)) := by
  obtain ⟨m, rfl⟩ := Int.eq_ofNat_of_zero_le natural
  exact .number _ (integer_isNumberLiteral m)

theorem tags_wellFormed (tags : List Tag) :
    WellFormed (.array (tags.map fun tag => .array (tag.map .string))) := by
  apply WellFormed.array
  intro item member
  obtain ⟨tag, _, rfl⟩ := List.mem_map.mp member
  apply WellFormed.array
  intro item member
  obtain ⟨value, _, rfl⟩ := List.mem_map.mp member
  exact .string value

theorem IsObjectOf.wellFormed (event : Event) (accepted : Nostream.eventSchema event = true) (value : JsonValue)
    (object : IsObjectOf event value) : WellFormed value := by
  simp only [Nostream.eventSchema, createdAtSchema, kindSchema, Bool.and_eq_true,
    decide_eq_true_eq] at accepted
  obtain ⟨⟨⟨⟨_, createdAt⟩, kind⟩, _⟩, _⟩ := accepted
  obtain ⟨members, same⟩ := object
  have each : ∀ member ∈ eventMembers event, WellFormed member.2 := by
    simp only [eventMembers, List.forall_mem_cons]
    exact ⟨.string _, .string _, integer_wellFormed _ createdAt.1, integer_wellFormed _ kind.1,
      tags_wellFormed _, .string _, .string _, by simp⟩
  exact .object members (IsObjectOf.distinct same) fun member found => each member (same.mem_iff.mp found)

end Nostream.MessageSchema
