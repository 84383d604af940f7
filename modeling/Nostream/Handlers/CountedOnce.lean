import Nostream.Handlers.MessageStages
import Nostream.Handlers.RateLimiters
import Nostream.Shared.JsonTexts

set_option autoImplicit false

namespace Nostream.CountedOnce

open Utf16 Windows RateLimiters MessageStages
open EventMessageHandler (kindText hitFor hitsFor isRateLimitedBy)

def exactHit (now : Int) (h : RateLimiterHit) (ledger : Ledger JsString) : Bool × Ledger JsString :=
  hit now { key := h.key, step := h.step, period := h.period, rate := h.rate } ledger

def addressPolicy (limits : ConnectionLimits) : Policy RateLimit Unit :=
  { limits := limits.rateLimits.getD []
    applies := fun _ _ => true
    period := RateLimit.period
    rate := RateLimit.rate }

def DistinctPeriods (limits : ConnectionLimits) : Prop :=
  ((limits.rateLimits.getD []).map RateLimit.period).Nodup

instance (limits : ConnectionLimits) : Decidable (DistinctPeriods limits) :=
  inferInstanceAs (Decidable (List.Nodup _))

structure Submission where
  handler : EventMessageHandler
  event : Event

def eventPolicy (rateLimits : List EventRateLimit) : Policy EventRateLimit Submission :=
  { limits := rateLimits
    applies := fun limit submission => appliesToKind submission.event limit.kinds
    period := EventRateLimit.period
    rate := EventRateLimit.rate }

def eventKey (pubkey : JsString) (limit : EventRateLimit) : JsString :=
  let key := pubkey ++ js ":events:" ++ Json.integer limit.period
  match limit.kinds with
  | some kinds => key ++ js ":" ++ Json.array (kinds.map kindText)
  | none => key

structure FromSubject (pubkey : JsString) (rateLimits : List EventRateLimit) (submission : Submission) : Prop where
  author : submission.event.pubkey = pubkey
  counts : countsHits submission.handler submission.event = true
  limits : submission.handler.settings.eventLimits.rateLimits.getD [] = rateLimits

section Keys

theorem addressHit_key_inj (remoteAddress name : JsString) (a b : RateLimit) :
    (addressHit remoteAddress name a).key = (addressHit remoteAddress name b).key ↔ a.period = b.period := by
  rw [addressHit, addressHit, List.append_right_inj, Json.integer_injective.eq_iff]

theorem address_apart (remoteAddress name : JsString) (limits : ConnectionLimits)
    (distinct : DistinctPeriods limits) (message : Unit) :
    (addressPolicy limits).Apart (fun limit => (addressHit remoteAddress name limit).key) message := by
  refine (List.pairwise_map.mp distinct).imp fun other _ => ?_
  rwa [Ne, addressHit_key_inj]

end Keys

section Limiters

variable (settings : Settings) (remoteAddress : JsString) (now : Int) (message : Unit) (ledger : Ledger JsString)

theorem hitRateLimits_isLimited (name : JsString) (limits : ConnectionLimits) :
    hitRateLimits (exactHit now) remoteAddress name (limits.rateLimits.getD []) ledger =
      (addressPolicy limits).isLimited (fun limit => (addressHit remoteAddress name limit).key) now message
        ledger := by
  have applied : (addressPolicy limits).applied message = limits.rateLimits.getD [] :=
    List.filter_eq_self.mpr fun _ _ => rfl
  rw [hitRateLimits, Policy.isLimited, applied, hitEach_map, hitEach_map]
  rfl

theorem webSocketAdapter_isRateLimited
    (counted : isWhitelisted (messageLimits settings) remoteAddress = false) :
    WebSocketAdapter.isRateLimited (exactHit now) settings remoteAddress ledger =
      hitRateLimits (exactHit now) remoteAddress (js "message") ((messageLimits settings).rateLimits.getD [])
        ledger := by
  unfold WebSocketAdapter.isRateLimited
  cases (messageLimits settings).rateLimits with
  | none => rfl
  | some rateLimits =>
    cases rateLimits with
    | nil => rfl
    | cons limit rest => simp [counted]

theorem rateLimiterMiddleware_isRateLimited
    (counted : isWhitelisted (connectionLimits settings) remoteAddress = false) :
    RateLimiterMiddleware.isRateLimited (exactHit now) remoteAddress settings ledger =
      hitRateLimits (exactHit now) remoteAddress (js "connection")
        ((connectionLimits settings).rateLimits.getD []) ledger := by
  unfold RateLimiterMiddleware.isRateLimited
  cases (connectionLimits settings).rateLimits with
  | none => rfl
  | some rateLimits => simp [counted]

theorem eventMessageHandler_isRateLimited (pubkey : JsString) (rateLimits : List EventRateLimit)
    (submission : Submission) (subject : FromSubject pubkey rateLimits submission) :
    submission.handler.isRateLimitedBy (exactHit now) submission.event ledger =
      (eventPolicy rateLimits).isLimited (eventKey pubkey) now submission ledger := by
  obtain ⟨rfl, counts, rfl⟩ := subject
  simp only [countsHits, Bool.and_eq_true, decide_eq_true_eq, Bool.not_eq_true'] at counts
  simp only [isRateLimitedBy, if_neg counts.1, counts.2, Bool.false_eq_true, if_false, hitsFor,
    Policy.isLimited, Policy.applied, eventPolicy, hitEach_map]
  split
  next none =>
    rw [none]
    rfl
  next => rfl

end Limiters

theorem counted_once (settings : Settings) (remoteAddress : JsString) (visits : List (Int × Unit))
    (pubkey : JsString) (rateLimits : List EventRateLimit) (submissions : List (Int × Submission)) :
    (isWhitelisted (messageLimits settings) remoteAddress = false → DistinctPeriods (messageLimits settings) →
      (addressPolicy (messageLimits settings)).CountsOnce
        (fun now _ => WebSocketAdapter.isRateLimited (exactHit now) settings remoteAddress) visits) ∧
    (isWhitelisted (connectionLimits settings) remoteAddress = false →
      DistinctPeriods (connectionLimits settings) →
        (addressPolicy (connectionLimits settings)).CountsOnce
          (fun now _ => RateLimiterMiddleware.isRateLimited (exactHit now) remoteAddress settings) visits) ∧
    ((∀ visit ∈ submissions, FromSubject pubkey rateLimits visit.2) →
      (∀ visit ∈ submissions, (eventPolicy rateLimits).Apart (eventKey pubkey) visit.2) →
        (eventPolicy rateLimits).CountsOnce
          (fun now submission => submission.handler.isRateLimitedBy (exactHit now) submission.event)
          submissions) := by
  refine ⟨?_, ?_, ?_⟩
  · intro counted distinct
    apply Policy.countsOnce _ fun limit => (addressHit remoteAddress (js "message") limit).key
    · exact fun visit _ => address_apart remoteAddress _ _ distinct visit.2
    · intro visit _ ledger
      rw [webSocketAdapter_isRateLimited settings remoteAddress visit.1 ledger counted]
      exact hitRateLimits_isLimited ..
  · intro counted distinct
    apply Policy.countsOnce _ fun limit => (addressHit remoteAddress (js "connection") limit).key
    · exact fun visit _ => address_apart remoteAddress _ _ distinct visit.2
    · intro visit _ ledger
      rw [rateLimiterMiddleware_isRateLimited settings remoteAddress visit.1 ledger counted]
      exact hitRateLimits_isLimited ..
  · intro subject apart
    apply Policy.countsOnce _ (eventKey pubkey) _ _ apart
    exact fun visit member ledger => eventMessageHandler_isRateLimited visit.1 ledger pubkey rateLimits visit.2
      (subject visit member)

def defaultWhitelist : List JsString := [js "::1", js "10.10.10.1", js "::ffff:10.10.10.1"]

-- default-settings.yaml, with two of its limits on events.
def defaultSettings : Settings :=
  { limits := some
      { message := some
          { rateLimits := some [{ period := 60000, rate := 240 }]
            ipWhitelist := some defaultWhitelist }
        connection := some
          { rateLimits := some [{ period := 1000, rate := 12 }, { period := 60000, rate := 48 }]
            ipWhitelist := some defaultWhitelist }
        event := some
          { rateLimits := some
              [{ period := 60000, rate := 6, kinds := some [.kind 0, .kind 3, .kind 40, .kind 41] },
                { period := 60000, rate := 12, kinds := some [.kind 1, .kind 2, .kind 4, .kind 42] }] } } }

def noteVisits : List (Int × Submission) :=
  [(0, { handler := { openHandler with settings := defaultSettings }, event := note })]

theorem default_limits_count_once :
    (addressPolicy (messageLimits defaultSettings)).CountsOnce
        (fun now _ => WebSocketAdapter.isRateLimited (exactHit now) defaultSettings (js "::2")) [(0, ()), (1, ())] ∧
      (addressPolicy (connectionLimits defaultSettings)).CountsOnce
        (fun now _ => RateLimiterMiddleware.isRateLimited (exactHit now) (js "::2") defaultSettings)
        [(0, ()), (1, ())] ∧
      (eventPolicy (defaultSettings.eventLimits.rateLimits.getD [])).CountsOnce
        (fun now submission => submission.handler.isRateLimitedBy (exactHit now) submission.event) noteVisits := by
  have counted := counted_once defaultSettings (js "::2") [(0, ()), (1, ())] note.pubkey
    (defaultSettings.eventLimits.rateLimits.getD []) noteVisits
  refine ⟨counted.1 (by decide) (by decide), counted.2.1 (by decide) (by decide), counted.2.2 ?_ ?_⟩
  · intro visit member
    rw [List.mem_singleton.mp member]
    exact ⟨rfl, by decide, rfl⟩
  · intro visit member
    rw [List.mem_singleton.mp member]
    unfold Policy.Apart
    decide +kernel

-- settings.json of the local relay, without the types that no limiter reads.
def localSettings : Settings :=
  { limits := some
      { message := some
          { rateLimits := some [{ period := 60000, rate := 60 }, { period := 3600000, rate := 2880 },
              { period := 60000, rate := 120 }, { period := 3600000, rate := 3600 },
              { period := 86400000, rate := 86400 }]
            ipWhitelist := some [js "::1", js "::ffff:10.10.10.1"] } } }

def burst (n : Nat) : List (Int × Unit) := (List.range n).map fun i => ((i : Int), ())

theorem local_messages_count_twice :
    ¬ ∀ (settings : Settings) (client : JsString) (visits : List (Int × Unit)),
      isWhitelisted (messageLimits settings) client = false →
        (addressPolicy (messageLimits settings)).CountsOnce
          (fun now _ => WebSocketAdapter.isRateLimited (exactHit now) settings client) visits := by
  intro claim
  have counts := claim localSettings (js "::2") (burst 31) (by decide) (burst 30) 30 () [] (by decide)
  have limited : (WebSocketAdapter.isRateLimited (exactHit 30) localSettings (js "::2")
      ((burst 30).foldl (fun ledger visit => (WebSocketAdapter.isRateLimited (exactHit visit.1) localSettings
        (js "::2") ledger).2) [])).1 = true := by
    decide +kernel
  have few : ¬ (addressPolicy (messageLimits localSettings)).Exceeded (burst 30) 30 () := by
    unfold Policy.Exceeded
    decide +kernel
  exact few (counts.mp limited)

end Nostream.CountedOnce
