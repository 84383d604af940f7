import Nostream.Handlers.EventStrategies
import Nostream.Utils.EventLimits

set_option autoImplicit false

namespace Nostream

open Utf16 Effects

structure RateLimiterHit where
  key : JsString
  step : Nat
  period : Int
  rate : Int
  deriving DecidableEq

structure EventMessageHandler where
  crypto : Secp256k1
  webSocket : IWebSocketAdapter
  repository : IEventRepository
  strategyFactory : Event → Option EventStrategy := fun event => some (eventStrategyFactory event)
  findByPubkey : JsString → Except Thrown (Option User)
  settings : Settings
  relayPublicKey : JsString
  -- What becomes of the hit for the rate limit at the given position of the settings.
  hit : Nat → RateLimiterHit → Except Thrown Bool
  expiryClock : Int
  acceptClock : Int

namespace EventMessageHandler

variable (handler : EventMessageHandler)

def reply (event : Event) (reason : JsString) : Handling Unit :=
  handler.webSocket.emitMessage (createCommandResult event.id false reason)

def isEventValid (event : Event) : Option JsString :=
  if !isEventIdValid handler.crypto event then some (js "invalid: event id does not match")
  else if !isEventSignatureValid handler.crypto event then
    some (js "invalid: event signature verification failed")
  else none

def canAcceptEvent (event : Event) : Option JsString :=
  if handler.relayPublicKey = event.pubkey then none
  else limitViolation handler.settings.eventLimits handler.acceptClock event

def kindText : KindOrRange → JsString
  | .kind kind => Json.integer kind
  | .range first last => Json.array [Json.integer first, Json.integer last]

def hitFor (event : Event) (limit : EventRateLimit) : RateLimiterHit :=
  let key := event.pubkey ++ js ":events:" ++ Json.integer limit.period
  { key := match limit.kinds with
      | some kinds => key ++ js ":" ++ Json.array (kinds.map kindText)
      | none => key
    step := 1
    period := limit.period
    rate := limit.rate }

def isWhitelisted (whitelists : Option EventWhitelists) (event : Event) : Bool :=
  ((whitelists.bind EventWhitelists.pubkeys).getD []).contains event.pubkey ||
    ((whitelists.bind EventWhitelists.ipAddresses).getD []).contains handler.webSocket.clientAddress

def hitRateLimits (event : Event) : Nat → List EventRateLimit → Bool → Handling Bool
  | _, [], limited => pure limited
  | position, limit :: rest, limited =>
    if appliesToKind event limit.kinds then do
      let isRateLimited ← answer (handler.hit position (hitFor event limit))
      hitRateLimits event (position + 1) rest (limited || isRateLimited)
    else hitRateLimits event (position + 1) rest limited

def isRateLimited (event : Event) : Handling Bool :=
  if handler.relayPublicKey = event.pubkey then pure false
  else
    let rateLimits := handler.settings.eventLimits.rateLimits.getD []
    if rateLimits = [] then pure false
    else if handler.isWhitelisted handler.settings.eventLimits.whitelists event then pure false
    else handler.hitRateLimits event 0 rateLimits false

def minBalance : Int := (handler.settings.eventLimits.pubkey.bind PubkeyLimits.minBalance).getD 0

def admission (user : Option User) : Option JsString :=
  match user with
  | none => some (js "blocked: pubkey not admitted")
  | some user =>
    if !user.isAdmitted then some (js "blocked: pubkey not admitted")
    else if handler.minBalance > 0 ∧ user.balance < handler.minBalance then
      some (js "blocked: insufficient balance")
    else none

def looksUpUser (event : Event) : Bool :=
  match handler.settings.payments with
  | none => false
  | some payments => payments.enabled && handler.relayPublicKey ≠ event.pubkey &&
      !(applicableFees payments event).isEmpty

def isUserAdmitted (event : Event) : Handling (Option JsString) :=
  if handler.looksUpUser event then do
    let user ← answer (handler.findByPubkey event.pubkey)
    pure (handler.admission user)
  else pure none

def executeStrategy (event : Event) : Handling Unit :=
  match handler.strategyFactory event with
  | none => handler.reply event (js "error: event not supported")
  | some strategy =>
    handle (strategy.execute handler.webSocket handler.repository event) fun _ =>
      handler.reply event (js "error: unable to process event")

def handleMessage (received : Event) : Handling Unit := do
  let event := { received with remoteAddress := some handler.webSocket.clientAddress }
  match handler.isEventValid event with
  | some reason => handler.reply event reason
  | none =>
    if isExpiredEvent handler.expiryClock event then handler.reply event (js "event is expired")
    else
      let event := addExpirationMetadata event
      if ← handler.isRateLimited event then handler.reply event (js "rate-limited: slow down")
      else match handler.canAcceptEvent event with
      | some reason => handler.reply event reason
      | none =>
        match ← handler.isUserAdmitted event with
        | some reason => handler.reply event reason
        | none => handler.executeStrategy event

def storing (fates : Fates) : EventMessageHandler :=
  { handler with
    repository := eventRepository fates
    strategyFactory := fun event => some (eventStrategyFactory event) }

end EventMessageHandler

end Nostream
