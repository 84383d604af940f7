import Nostream.App.MirroredMessages
import Nostream.App.MutualMirrors
import Nostream.Schemas.AcceptedMessages

set_option autoImplicit false

namespace Nostream.MirrorWire

open Utf16 Json Effects MessageSchema MutualMirrors AcceptedMessages

-- What arrives of a text: a frame carries it in UTF-8, which has no lone surrogates.
def transmitted (text : JsString) : JsString := toWellFormed text

def heard (subscription : JsString) (raw : JsString) : Option JsonValue :=
  match parse raw with
  | some (.array (.string type :: .string subscriptionId :: rest)) =>
    if type = js "EVENT" ∧ subscriptionId = subscription then rest.head? else none
  | _ => none

def eventFor (subscription : JsString) (raw : JsString) : Option Event := (heard subscription raw).bind readEvent

-- The message listener of the socket, for events whose members have the types that the code gives them.
def onText (worker : StaticMirroringWorker) (raw : JsString) : Handling Unit :=
  match eventFor worker.subscriptionId raw with
  | some event => handle (worker.ingest event) fun _ => pure ()
  | none => pure ()

inductive IsMessage : OutgoingMessage → JsonValue → Prop
  | ok (eventId : JsString) (successful : Bool) (message : JsString) :
    IsMessage (.ok eventId successful message)
      (.array [.string (js "OK"), .string eventId, .boolean successful, .string message])
  | event (subscriptionId : JsString) (event : Event) (value : JsonValue) (object : IsObjectOf event value) :
    IsMessage (.event subscriptionId event) (.array [.string (js "EVENT"), .string subscriptionId, value])
  | endOfStoredEvents (subscriptionId : JsString) :
    IsMessage (.endOfStoredEvents subscriptionId) (.array [.string (js "EOSE"), .string subscriptionId])
  | notice (notice : JsString) : IsMessage (.notice notice) (.array [.string (js "NOTICE"), .string notice])

theorem isMessage_wellFormed (message : OutgoingMessage) (value : JsonValue) (isMessage : IsMessage message value)
    (accepted : ∀ subscriptionId event, message = .event subscriptionId event → eventSchema event = true) :
    WellFormed value := by
  cases isMessage with
  | ok eventId successful text =>
    refine .array _ ?_
    simp only [List.forall_mem_cons]
    exact ⟨.string _, .string _, .boolean _, .string _, by simp⟩
  | event subscriptionId event value object =>
    refine .array _ ?_
    simp only [List.forall_mem_cons]
    exact ⟨.string _, .string _, IsObjectOf.wellFormed event (accepted _ _ rfl) value object, by simp⟩
  | endOfStoredEvents subscriptionId =>
    refine .array _ ?_
    simp only [List.forall_mem_cons]
    exact ⟨.string _, .string _, by simp⟩
  | notice text =>
    refine .array _ ?_
    simp only [List.forall_mem_cons]
    exact ⟨.string _, .string _, by simp⟩

theorem parse_transmitted (value : JsonValue) (wf : WellFormed value) :
    parse (transmitted (stringify value)) = some value := by
  rw [transmitted, toWellFormed, encode_decode _ (stringify_wellFormed value wf), parse_stringify value wf]

theorem onText_sent (worker : StaticMirroringWorker) (message : OutgoingMessage) (value : JsonValue)
    (isMessage : IsMessage message value)
    (accepted : ∀ subscriptionId event, message = .event subscriptionId event → eventSchema event = true)
    (world : World) :
    (onText worker (transmitted (stringify value))).run world =
      (worker.onMessage (messageOnWire message)).run world := by
  have read := parse_transmitted value (isMessage_wellFormed message value isMessage accepted)
  have ignored (type text : JsString) (rest : List JsonValue) (shape : value = .array (.string type :: .string text :: rest))
      (other : ¬ (type = js "EVENT" ∧ text = worker.subscriptionId)) :
      eventFor worker.subscriptionId (transmitted (stringify value)) = none := by
    rw [eventFor, heard, read, shape]
    dsimp only
    rw [if_neg other]
    rfl
  cases isMessage with
  | ok eventId successful text =>
    rw [onText, ignored _ _ _ rfl fun same => absurd same.1 (by decide)]
    rfl
  | event subscriptionId event value object =>
    by_cases own : subscriptionId = worker.subscriptionId
    · have heard : eventFor worker.subscriptionId (transmitted (stringify (.array
          [.string (js "EVENT"), .string subscriptionId, value]))) = some (onWire event) := by
        rw [eventFor, heard, read]
        dsimp only
        rw [if_pos ⟨rfl, own⟩, List.head?_cons, Option.bind_some,
          readEvent_written event (accepted _ _ rfl) value object]
        rfl
      rw [onText, heard, messageOnWire, StaticMirroringWorker.onMessage, if_pos own]
    · rw [onText, ignored _ _ _ rfl fun both => own both.2, messageOnWire, StaticMirroringWorker.onMessage, if_neg own]
      rfl
  | endOfStoredEvents subscriptionId =>
    rw [onText, ignored _ _ _ rfl fun same => absurd same.1 (by decide)]
    rfl
  | notice text =>
    rw [onText, ignored _ _ _ rfl fun same => absurd same.1 (by decide)]
    rfl

end Nostream.MirrorWire
