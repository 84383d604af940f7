import Nostream.Schemas.MessageSchema
import Nostream.Utils.Messages
import Nostream.Utils.RecordedCrypto

set_option autoImplicit false

namespace Nostream.MirroredMessages

open Utf16 Json MessageSchema

def outboundMessage (event : JsonValue) (secret : Option JsString) : JsString :=
  stringify (createRelayedEventMessage event secret)

def IsAcceptedEvent (text : JsString) (event : JsonValue) : Prop :=
  ∃ rest, parse text = some (.array (.string (js "EVENT") :: event :: rest)) ∧
    MessageSchema.messageSchema (.array (.string (js "EVENT") :: event :: rest)) = true

theorem messageSchema_event (event : JsonValue) (rest : List JsonValue) :
    MessageSchema.messageSchema (.array (.string (js "EVENT") :: event :: rest)) =
      (MessageSchema.eventSchema event && rest.isEmpty) := by
  have first : isMessageOf (js "EVENT") (.array (.string (js "EVENT") :: event :: rest)) = true := by
    simp [isMessageOf, Joi.array, Joi.ArrayRules.acceptsRest, MessageSchema.optional, equal,
      Joi.any]
  rw [MessageSchema.messageSchema, Joi.switch_of_first _ _ _ _ first]
  simp [eventMessageSchema, Joi.array, Joi.ArrayRules.acceptsRest, required, equal]

theorem event_wellFormed (event : JsonValue) (rest : List JsonValue) (wf : WellFormed event)
    (others : ∀ item ∈ rest, WellFormed item) :
    WellFormed (.array (.string (js "EVENT") :: event :: rest)) := by
  apply WellFormed.array
  simp only [List.forall_mem_cons]
  exact ⟨.string _, wf, others⟩

theorem outbound_accepted_iff (event : Event) (accepted : Nostream.eventSchema event = true)
    (value : JsonValue) (object : IsObjectOf event value) (secret : Option JsString) :
    IsAcceptedEvent (outboundMessage value secret) value ↔ secret.getD [] = [] := by
  have wf := IsObjectOf.wellFormed event accepted value object
  have valid := eventSchema_apply event accepted value object
  unfold outboundMessage createRelayedEventMessage IsAcceptedEvent
  by_cases bare : secret.getD [] = []
  · rw [if_pos bare, parse_stringify _ (event_wellFormed value [] wf (by simp))]
    refine iff_of_true ⟨[], rfl, ?_⟩ bare
    simp [messageSchema_event, valid]
  · have carried : WellFormed (.string (secret.getD [])) := .string _
    rw [if_neg bare, parse_stringify _ (event_wellFormed value [_] wf (by simpa using carried))]
    refine iff_of_false ?_ bare
    rintro ⟨rest, same, passes⟩
    rw [messageSchema_event, valid, Bool.true_and, List.isEmpty_iff] at passes
    subst passes
    cases same

def noteObject : JsonValue := .object (eventMembers note)

theorem note_accepted_without_secret : IsAcceptedEvent (outboundMessage noteObject none) noteObject :=
  (outbound_accepted_iff note (by decide +kernel) noteObject (.keys _ (.refl _)) none).mpr rfl

theorem note_refused_with_secret :
    ¬ IsAcceptedEvent (outboundMessage noteObject (some (js "secret"))) noteObject ∧
      Nostream.eventSchema note = true ∧ IsObjectOf note noteObject := by
  have valid : Nostream.eventSchema note = true := by decide +kernel
  have object : IsObjectOf note noteObject := .keys _ (.refl _)
  have wf := event_wellFormed noteObject [.string (js "secret")] (IsObjectOf.wellFormed note valid _ object)
    (by simpa using WellFormed.string (js "secret"))
  refine ⟨?_, valid, object⟩
  rintro ⟨rest, parsed, passes⟩
  have message : createRelayedEventMessage noteObject (some (js "secret")) =
      .array (.string (js "EVENT") :: noteObject :: [.string (js "secret")]) := rfl
  rw [outboundMessage, message, parse_stringify _ wf] at parsed
  cases parsed
  rw [messageSchema_event, Bool.and_eq_true] at passes
  cases passes.2

end Nostream.MirroredMessages
