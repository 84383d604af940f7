import Nostream.Handlers.SubscriptionLimits

set_option autoImplicit false

namespace Nostream.AdvertisedLimits

open Utf16 SubscribeMessageHandler SubscriptionLimits

structure Limitation where
  maxSubscriptions : Option Int
  maxFilters : Option Int
  maxLimit : Option Int
  maxSubidLength : Option Int
  minPrefix : Option Int

-- Of rootRequestHandler.
def limitation (settings : Settings) : Limitation :=
  let subscription := settings.subscriptionLimits
  { maxSubscriptions := subscription.bind ClientSubscriptionLimits.maxSubscriptions
    maxFilters := subscription.bind ClientSubscriptionLimits.maxFilterValues
    maxLimit := subscription.bind ClientSubscriptionLimits.maxLimit
    maxSubidLength := subscription.bind ClientSubscriptionLimits.maxSubscriptionIdLength
    minPrefix := subscription.bind ClientSubscriptionLimits.minPrefixLength }

section Violations

variable (subscriptions : Subscriptions) (subscriptionId : JsString) (filters : List SubscriptionFilter)

def exceeds (max : Option Int) (value : Int) : Bool := max.any fun max => value > max

-- An id that goes with no filters counts as a new one.
def breaksMaxSubscriptions (max : Option Int) : Bool :=
  ((subscriptions.get subscriptionId).getD []).isEmpty && exceeds max (subscriptions.size + 1)

def breaksMaxFilters (max : Option Int) : Bool := exceeds max filters.length

def breaksMaxLimit (max : Option Int) : Bool := filters.any fun filter => filter.limit.any (exceeds max)

def breaksMaxSubidLength (max : Option Int) : Bool := exceeds max subscriptionId.length

def breaksMinPrefix (min : Option Int) : Bool :=
  filters.any fun filter =>
    (filter.ids.getD [] ++ filter.authors.getD []).any fun start =>
      min.any fun min => (start.length : Int) < min

def Limitation.violated (limitation : Limitation) : Bool :=
  breaksMaxSubscriptions subscriptions subscriptionId limitation.maxSubscriptions ||
    breaksMaxFilters filters limitation.maxFilters || breaksMaxLimit filters limitation.maxLimit ||
    breaksMaxSubidLength subscriptionId limitation.maxSubidLength ||
    breaksMinPrefix filters limitation.minPrefix

end Violations

def RejectedForLimit (settings : Settings) (subscriptions : Subscriptions) (subscriptionId : JsString)
    (filters : List SubscriptionFilter) : Prop :=
  ∃ reason, canSubscribe settings subscriptions subscriptionId filters = .ok (some reason) ∧
    reason ≠ duplicateReason subscriptionId

theorem within_iff (limits : ClientSubscriptionLimits) (subscriptions : Subscriptions) (subscriptionId : JsString)
    (filters : List SubscriptionFilter) (someSubscriptions : ∀ max ∈ limits.maxSubscriptions, 0 < max)
    (someFilters : ∀ max ∈ limits.maxFilters, 0 < max) :
    WithinLimits limits subscriptions subscriptionId filters ↔
      breaksMaxSubscriptions subscriptions subscriptionId limits.maxSubscriptions = false ∧
      breaksMaxFilters filters limits.maxFilters = false ∧
      breaksMaxSubidLength subscriptionId limits.maxSubscriptionIdLength = false := by
  have bounded (max : Option Int) (value : Int) : exceeds max value = false ↔ ∀ m ∈ max, value ≤ m := by
    cases max <;> simp [exceeds]
  have existing : ((subscriptions.get subscriptionId).getD []).isEmpty = true ↔
      subscriptions.get subscriptionId = none ∨ subscriptions.get subscriptionId = some [] := by
    constructor
    · exact isEmpty_existing subscriptions subscriptionId
    · rintro (absent | absent) <;> simp [absent]
  simp only [breaksMaxSubscriptions, breaksMaxFilters, breaksMaxSubidLength, Bool.and_eq_false_imp, existing,
    bounded]
  constructor
  · intro within
    refine ⟨fun absent max isMax => ?_, fun max isMax => ?_, within.maxSubscriptionIdLength⟩
    · exact within.maxSubscriptions max isMax (someSubscriptions max isMax) absent
    · exact within.maxFilters max isMax (someFilters max isMax)
  · rintro ⟨few, fewFilters, short⟩
    exact ⟨fun max isMax _ absent => few absent max isMax, fun max isMax _ => fewFilters max isMax, short⟩

theorem rejectedForLimit_iff (settings : Settings) (limits : ClientSubscriptionLimits)
    (configured : settings.subscriptionLimits = some limits) (subscriptions : Subscriptions)
    (subscriptionId : JsString) (filters : List SubscriptionFilter) :
    RejectedForLimit settings subscriptions subscriptionId filters ↔
      isDuplicate subscriptions subscriptionId filters = false ∧
        ¬ WithinLimits limits subscriptions subscriptionId filters := by
  unfold RejectedForLimit
  cases duplicate : isDuplicate subscriptions subscriptionId filters with
  | true =>
    rw [canSubscribe_duplicate settings _ _ _ duplicate]
    simp
  | false =>
    obtain ⟨reason, can, within, other⟩ := canSubscribe_limited settings _ _ _ limits duplicate configured
    rw [can, ← within]
    cases reason with
    | none => simp
    | some reason => simpa using other

def IsAgreed (limits : ClientSubscriptionLimits) (subscriptions : Subscriptions) (subscriptionId : JsString)
    (filters : List SubscriptionFilter) : Prop :=
  let shared := breaksMaxSubscriptions subscriptions subscriptionId limits.maxSubscriptions ||
    breaksMaxSubidLength subscriptionId limits.maxSubscriptionIdLength
  let advertised := breaksMaxFilters filters limits.maxFilterValues ||
    breaksMaxLimit filters limits.maxLimit || breaksMinPrefix filters limits.minPrefixLength
  if isDuplicate subscriptions subscriptionId filters then shared = false ∧ advertised = false
  else shared = true ∨ breaksMaxFilters filters limits.maxFilters = advertised

theorem advertised_iff (settings : Settings) (limits : ClientSubscriptionLimits)
    (configured : settings.subscriptionLimits = some limits)
    (someSubscriptions : ∀ max ∈ limits.maxSubscriptions, 0 < max)
    (someFilters : ∀ max ∈ limits.maxFilters, 0 < max) (subscriptions : Subscriptions)
    (subscriptionId : JsString) (received : List SubscriptionFilter) :
    (RejectedForLimit settings subscriptions subscriptionId (uniqWith SubscriptionFilter.equals received) ↔
        (limitation settings).violated subscriptions subscriptionId
          (uniqWith SubscriptionFilter.equals received) = true) ↔
      IsAgreed limits subscriptions subscriptionId (uniqWith SubscriptionFilter.equals received) := by
  generalize uniqWith SubscriptionFilter.equals received = filters
  rw [rejectedForLimit_iff settings limits configured,
    within_iff limits subscriptions subscriptionId filters someSubscriptions someFilters]
  simp only [Limitation.violated, limitation, configured, Option.bind_some, IsAgreed]
  generalize breaksMaxSubscriptions subscriptions subscriptionId limits.maxSubscriptions = subscriptionsBroken
  generalize breaksMaxSubidLength subscriptionId limits.maxSubscriptionIdLength = idBroken
  generalize breaksMaxFilters filters limits.maxFilters = filtersBroken
  generalize breaksMaxFilters filters limits.maxFilterValues = valuesBroken
  generalize breaksMaxLimit filters limits.maxLimit = limitBroken
  generalize breaksMinPrefix filters limits.minPrefixLength = prefixBroken
  generalize isDuplicate subscriptions subscriptionId filters = duplicate
  revert subscriptionsBroken idBroken filtersBroken valuesBroken limitBroken prefixBroken duplicate
  decide

def positiveLimits : ClientSubscriptionLimits :=
  { maxSubscriptions := some 10, maxFilters := some 10, maxFilterValues := some 2500, maxLimit := some 5000,
    minPrefixLength := some 4, maxSubscriptionIdLength := some 256 }

def positiveSettings : Settings := { limits := some { client := some { subscription := some positiveLimits } } }

theorem plain_request_agreed :
    RejectedForLimit positiveSettings .empty (js "feed") (uniqWith SubscriptionFilter.equals [{ kinds := some [1] }]) ↔
      (limitation positiveSettings).violated .empty (js "feed")
        (uniqWith SubscriptionFilter.equals [{ kinds := some [1] }]) = true :=
  (advertised_iff positiveSettings positiveLimits rfl (by rintro _ ⟨⟩; decide) (by rintro _ ⟨⟩; decide) .empty
    (js "feed") [{ kinds := some [1] }]).mpr (by unfold IsAgreed; decide +kernel)

def strictSettings : Settings :=
  { limits := some { client := some { subscription := some { positiveLimits with maxFilters := some 1 } } } }

theorem advertised_differently :
    messageSchema (.subscribe (js "feed") [{ limit := some 5001 }]) = true ∧
      (limitation positiveSettings).violated .empty (js "feed") [{ limit := some 5001 }] = true ∧
      ¬ RejectedForLimit positiveSettings .empty (js "feed")
        (uniqWith SubscriptionFilter.equals [{ limit := some 5001 }]) ∧
      messageSchema (.subscribe (js "feed") [{ kinds := some [1] }, { kinds := some [2] }]) = true ∧
      (limitation strictSettings).violated .empty (js "feed") [{ kinds := some [1] }, { kinds := some [2] }] = false ∧
      RejectedForLimit strictSettings .empty (js "feed")
        (uniqWith SubscriptionFilter.equals [{ kinds := some [1] }, { kinds := some [2] }]) := by
  refine ⟨by decide, by decide +kernel, ?_, by decide, by decide +kernel, _, rfl, by decide⟩
  rintro ⟨reason, rejected, _⟩
  have can : canSubscribe positiveSettings .empty (js "feed")
      (uniqWith SubscriptionFilter.equals [{ limit := some 5001 }]) = .ok none := rfl
  rw [can] at rejected
  cases rejected

end Nostream.AdvertisedLimits
