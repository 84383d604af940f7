import Nostream.Shared.Utf16

set_option autoImplicit false

namespace Nostream

open Utf16

abbrev Tag := List JsString

structure Event where
  id : JsString
  pubkey : JsString
  createdAt : Int
  kind : Int
  tags : List Tag
  content : JsString
  sig : JsString
  -- The symbol-keyed metadata: ContextMetadataKey and EventExpirationTimeMetadataKey.
  remoteAddress : Option JsString := none
  expirationTime : Option Int := none
  deriving DecidableEq

theorem noCriteria_distinct : (([] : List (JsString × List JsString)).map Prod.fst).Nodup := List.nodup_nil

structure SubscriptionFilter where
  ids : Option (List JsString) := none
  kinds : Option (List Int) := none
  since : Option Int := none
  untilTime : Option Int := none
  authors : Option (List JsString) := none
  limit : Option Int := none
  -- The remaining own keys with their arrays, in insertion order.
  criteria : List (JsString × List JsString) := []
  distinct : (criteria.map Prod.fst).Nodup := by first | exact noCriteria_distinct | decide
  deriving DecidableEq

/-- The messages about subscriptions; EVENT messages are those of the event message handler. -/
inductive IncomingMessage where
  | subscribe (subscriptionId : JsString) (filters : List SubscriptionFilter)
  | unsubscribe (subscriptionId : JsString)

namespace EventKinds

def setMetadata : Int := 0
def contactList : Int := 3
def delete : Int := 5
def channelMetadata : Int := 41
def replaceableFirst : Int := 10000
def replaceableLast : Int := 19999
def ephemeralFirst : Int := 20000
def ephemeralLast : Int := 29999
def parameterizedReplaceableFirst : Int := 30000
def parameterizedReplaceableLast : Int := 39999

end EventKinds

namespace EventTags

def event : JsString := js "e"
def deduplication : JsString := js "d"
def expiration : JsString := js "expiration"

end EventTags

end Nostream
