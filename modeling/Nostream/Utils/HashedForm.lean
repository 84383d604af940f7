import Nostream.Schemas
import Nostream.Shared.JsonTexts
import Nostream.Utils.RecordedCrypto

set_option autoImplicit false

namespace Nostream.HashedForm

open Utf16 Hex Json

def serialized (event : Event) : JsonValue :=
  .array
    [.number (integer 0), .string event.pubkey, .number (integer event.createdAt), .number (integer event.kind),
      .array (event.tags.map fun tag => .array (tag.map .string)), .string event.content]

section Texts

theorem stringifyItems_map {α : Type} (values : List α) (value : α → JsonValue) :
    stringifyItems (values.map value) = values.map fun v => stringify (value v) := by
  induction values with
  | nil => rfl
  | cons first rest ih => rw [List.map_cons, stringifyItems, ih, List.map_cons]

theorem stringify_serialized (event : Event) : stringify (serialized event) = Json.array (serializeEvent event) := by
  simp [serialized, serializeEvent, stringify, stringifyItems, stringifyItems_map]

theorem serialized_wellFormed (event : Event) (createdAt : 0 ≤ event.createdAt) (kind : 0 ≤ event.kind) :
    WellFormed (serialized event) := by
  have natural (n : Int) (positive : 0 ≤ n) : WellFormed (.number (integer n)) := by
    obtain ⟨m, rfl⟩ := Int.eq_ofNat_of_zero_le positive
    exact .number _ (integer_isNumberLiteral m)
  have strings (tag : Tag) : WellFormed (.array (tag.map .string)) := by
    refine .array _ fun item member => ?_
    obtain ⟨value, -, rfl⟩ := List.mem_map.mp member
    exact .string value
  have tags : WellFormed (.array (event.tags.map fun tag => .array (tag.map .string))) := by
    refine .array _ fun item member => ?_
    obtain ⟨tag, -, rfl⟩ := List.mem_map.mp member
    exact strings tag
  refine .array _ fun item member => ?_
  simp only [List.mem_cons, List.not_mem_nil, or_false] at member
  rcases member with rfl | rfl | rfl | rfl | rfl | rfl
  · exact natural 0 le_rfl
  · exact .string event.pubkey
  · exact natural event.createdAt createdAt
  · exact natural event.kind kind
  · exact tags
  · exact .string event.content

theorem tags_injective : Function.Injective fun tags : List Tag =>
    tags.map fun tag => JsonValue.array (tag.map .string) := by
  refine List.map_injective_iff.mpr fun a b same => ?_
  have strings : Function.Injective JsonValue.string := fun _ _ texts => JsonValue.string.inj texts
  exact List.map_injective_iff.mpr strings (JsonValue.array.inj same)

theorem serialized_injective (a b : Event) (same : serialized a = serialized b) : SameSignedFields a b := by
  simp only [serialized, JsonValue.array.injEq, List.cons.injEq, JsonValue.string.injEq, JsonValue.number.injEq,
    integer_injective.eq_iff, and_true] at same
  obtain ⟨-, pubkey, createdAt, kind, tags, content⟩ := same
  exact ⟨pubkey, createdAt, kind, tags_injective tags, content⟩

end Texts

section Hashes

theorem utf8_injective {s t : JsString} (wfS : wellFormed s = true) (wfT : wellFormed t = true)
    (same : utf8 s = utf8 t) : s = t := by
  have encoded : (decode s).utf8Encode = (decode t).utf8Encode := congrArg List.toByteArray same
  rw [← String.toByteArray_ofList, ← String.toByteArray_ofList, String.toByteArray_inj] at encoded
  have chars : decode s = decode t := by simpa using congrArg String.toList encoded
  rw [← encode_decode s wfS, chars, encode_decode t wfT]

theorem serializeEvent_wellFormed (event : Event) : wellFormed (Json.array (serializeEvent event)) = true := by
  have strings (tag : Tag) : wellFormed (Json.array (tag.map quote)) = true := by
    refine array_wellFormed _ fun element member => ?_
    obtain ⟨value, -, rfl⟩ := List.mem_map.mp member
    exact quote_wellFormed value
  refine array_wellFormed _ fun element member => ?_
  simp only [serializeEvent, List.mem_cons, List.not_mem_nil, or_false] at member
  rcases member with rfl | rfl | rfl | rfl | rfl | rfl
  · exact integer_wellFormed 0
  · exact quote_wellFormed event.pubkey
  · exact integer_wellFormed event.createdAt
  · exact integer_wellFormed event.kind
  · refine array_wellFormed _ fun element member => ?_
    obtain ⟨tag, -, rfl⟩ := List.mem_map.mp member
    exact strings tag
  · exact quote_wellFormed event.content

def hashedBytes (event : Event) : Bytes := utf8 (Json.array (serializeEvent event))

theorem accepted_natural {event : Event} (accepted : eventSchema event = true) :
    0 ≤ event.createdAt ∧ 0 ≤ event.kind := by
  simp only [eventSchema, createdAtSchema, kindSchema, Bool.and_eq_true, decide_eq_true_eq] at accepted
  obtain ⟨⟨⟨⟨-, createdAt, -⟩, kind, -⟩, -⟩, -⟩ := accepted
  exact ⟨createdAt, kind⟩

theorem same_text_same_fields (a b : Event) (acceptedA : eventSchema a = true) (acceptedB : eventSchema b = true)
    (same : Json.array (serializeEvent a) = Json.array (serializeEvent b)) : SameSignedFields a b := by
  obtain ⟨createdA, kindA⟩ := accepted_natural acceptedA
  obtain ⟨createdB, kindB⟩ := accepted_natural acceptedB
  have readA := parse_stringify (serialized a) (serialized_wellFormed a createdA kindA)
  have readB := parse_stringify (serialized b) (serialized_wellFormed b createdB kindB)
  rw [stringify_serialized] at readA readB
  rw [same, readB] at readA
  exact serialized_injective a b (Option.some.inj readA).symm

end Hashes

theorem hashed_form_determines_event (crypto : Secp256k1) (a b : Event) (acceptedA : eventSchema a = true)
    (acceptedB : eventSchema b = true) :
    (Json.array (serializeEvent a) = Json.array (serializeEvent b) → SameSignedFields a b) ∧
      (isEventIdValid crypto a = true → isEventIdValid crypto b = true → a.id = b.id →
        SameSignedFields a b ∨
          (hashedBytes a ≠ hashedBytes b ∧ crypto.sha256 (hashedBytes a) = crypto.sha256 (hashedBytes b))) := by
  refine ⟨same_text_same_fields a b acceptedA acceptedB, fun validA validB sameId => ?_⟩
  rw [isEventIdValid, beq_iff_eq] at validA validB
  have hashes : crypto.sha256 (hashedBytes a) = crypto.sha256 (hashedBytes b) :=
    toHex_injective (validA.symm.trans (sameId.trans validB))
  by_cases bytes : hashedBytes a = hashedBytes b
  · have texts := utf8_injective (serializeEvent_wellFormed a) (serializeEvent_wellFormed b) bytes
    exact .inl (same_text_same_fields a b acceptedA acceptedB texts)
  · exact .inr ⟨bytes, hashes⟩

def resignedNote : Event := { note with sig := profile.sig }

theorem resigned_note_determined : SameSignedFields note resignedNote ∨
    (hashedBytes note ≠ hashedBytes resignedNote ∧
      crypto.sha256 (hashedBytes note) = crypto.sha256 (hashedBytes resignedNote)) :=
  (hashed_form_determines_event crypto note resignedNote (by decide +kernel) (by decide +kernel)).2
    (by decide +kernel) (by decide +kernel) rfl

end Nostream.HashedForm
