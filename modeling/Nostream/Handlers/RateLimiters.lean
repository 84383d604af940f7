import Nostream.Adapters.WebSocketServerAdapter
import Nostream.Handlers.EventMessageHandler
import Nostream.Shared.JsonNumber
import Nostream.Shared.Windows

set_option autoImplicit false

namespace Nostream

open Utf16 Effects Windows

section Limiter

-- The limiter that slidingWindowRateLimiter returns, with the state that it keeps.
variable {σ : Type} (hit : RateLimiterHit → σ → Bool × σ)

namespace RateLimiters

def addressHit (remoteAddress name : JsString) (limit : RateLimit) : RateLimiterHit :=
  { key := remoteAddress ++ js ":" ++ name ++ js ":" ++ Json.integer limit.period
    step := 1
    period := limit.period
    rate := limit.rate }

def hitRateLimits (remoteAddress name : JsString) (rateLimits : List RateLimit) (s : σ) : Bool × σ :=
  hitEach hit (rateLimits.map (addressHit remoteAddress name)) false s

def isWhitelisted (limits : ConnectionLimits) (remoteAddress : JsString) : Bool :=
  (limits.ipWhitelist.getD []).contains remoteAddress

def messageLimits (settings : Settings) : MessageLimits := (settings.limits.bind Limits.message).getD {}

def connectionLimits (settings : Settings) : ConnectionLimits :=
  (settings.limits.bind Limits.connection).getD {}

end RateLimiters

open RateLimiters

def WebSocketAdapter.isRateLimited (settings : Settings) (client : JsString) (s : σ) : Bool × σ :=
  match (messageLimits settings).rateLimits with
  | none => (false, s)
  | some rateLimits =>
    if rateLimits.isEmpty || isWhitelisted (messageLimits settings) client then (false, s)
    else hitRateLimits hit client (js "message") rateLimits s

def RateLimiterMiddleware.isRateLimited (remoteAddress : JsString) (settings : Settings) (s : σ) : Bool × σ :=
  match (connectionLimits settings).rateLimits with
  | none => (false, s)
  | some rateLimits =>
    if isWhitelisted (connectionLimits settings) remoteAddress then (false, s)
    else hitRateLimits hit remoteAddress (js "connection") rateLimits s

namespace EventMessageHandler

def hitsFor (event : Event) (rateLimits : List EventRateLimit) : List RateLimiterHit :=
  (rateLimits.filter fun limit => appliesToKind event limit.kinds).map (hitFor event)

-- isRateLimited over a limiter with a state; see isRateLimited_answers.
def isRateLimitedBy (handler : EventMessageHandler) (event : Event) (s : σ) : Bool × σ :=
  if handler.relayPublicKey = event.pubkey then (false, s)
  else
    let rateLimits := handler.settings.eventLimits.rateLimits.getD []
    if rateLimits = [] then (false, s)
    else if handler.isWhitelisted handler.settings.eventLimits.whitelists event then (false, s)
    else hitEach hit (hitsFor event rateLimits) false s

def answers (event : Event) (rateLimits : List EventRateLimit) (s : σ) (position : Nat) (h : RateLimiterHit) :
    Except Thrown Bool :=
  .ok (hit h (hitEach hit (hitsFor event (rateLimits.take position)) false s).2).1

theorem hitRateLimits_answers (handler : EventMessageHandler) (event : Event) (s : σ)
    (before rest : List EventRateLimit) (limited : Bool) (world : World)
    (same : handler.hit = answers hit event (before ++ rest) s) :
    (handler.hitRateLimits event before.length rest limited).run world =
      (.ok (hitEach hit (hitsFor event rest) limited (hitEach hit (hitsFor event before) false s).2).1, world) := by
  induction rest generalizing before limited with
  | nil => rfl
  | cons limit rest ih =>
    have next := ih (before ++ [limit])
    rw [List.append_assoc, List.singleton_append, List.length_append, List.length_singleton] at next
    by_cases applies : appliesToKind event limit.kinds = true
    · have answered : handler.hit before.length (hitFor event limit) =
          .ok (hit (hitFor event limit) (hitEach hit (hitsFor event before) false s).2).1 := by
        rw [same, answers, List.take_left]
      have own : hitsFor event (before ++ [limit]) = hitsFor event before ++ [hitFor event limit] := by
        simp [hitsFor, applies]
      have here : hitsFor event (limit :: rest) = hitFor event limit :: hitsFor event rest := by
        simp [hitsFor, applies]
      rw [EventMessageHandler.hitRateLimits, if_pos applies, answered,
        bind_ok (show _ = (Except.ok _, _) from rfl), next _ same, own, hitEach_append, here]
      rfl
    · have own : hitsFor event (before ++ [limit]) = hitsFor event before := by simp [hitsFor, applies]
      have here : hitsFor event (limit :: rest) = hitsFor event rest := by simp [hitsFor, applies]
      rw [EventMessageHandler.hitRateLimits, if_neg applies, next _ same, own, here]

theorem isRateLimited_answers (handler : EventMessageHandler) (event : Event) (s : σ) (world : World)
    (same : handler.hit = answers hit event (handler.settings.eventLimits.rateLimits.getD []) s) :
    (handler.isRateLimited event).run world = (.ok (handler.isRateLimitedBy hit event s).1, world) := by
  unfold isRateLimited isRateLimitedBy
  dsimp only
  split_ifs
  · rfl
  · rfl
  · rfl
  · exact hitRateLimits_answers hit handler event s [] _ false world same

end EventMessageHandler

end Limiter

end Nostream
