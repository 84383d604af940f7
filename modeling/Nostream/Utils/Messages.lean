import Nostream.Shared.JsonValue
import Nostream.Types

set_option autoImplicit false

namespace Nostream

open Utf16 Json

inductive OutgoingMessage where
  | ok (eventId : JsString) (successful : Bool) (message : JsString)
  | event (subscriptionId : JsString) (event : Event)
  | endOfStoredEvents (subscriptionId : JsString)
  | notice (notice : JsString)
  deriving DecidableEq

def createCommandResult (eventId : JsString) (successful : Bool) (message : JsString) :
    OutgoingMessage :=
  .ok eventId successful message

def createNoticeMessage (notice : JsString) : OutgoingMessage := .notice notice

def createOutgoingEventMessage (subscriptionId : JsString) (event : Event) : OutgoingMessage :=
  .event subscriptionId event

def createEndOfStoredEventsNoticeMessage (subscriptionId : JsString) : OutgoingMessage :=
  .endOfStoredEvents subscriptionId

-- An empty secret is falsy.
def createRelayedEventMessage (event : JsonValue) (secret : Option JsString) : JsonValue :=
  if secret.getD [] = [] then .array [.string (js "EVENT"), event]
  else .array [.string (js "EVENT"), event, .string (secret.getD [])]

end Nostream
