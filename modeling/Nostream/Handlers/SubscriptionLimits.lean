import Nostream.Handlers.SubscribeMessageHandler

set_option autoImplicit false

namespace Nostream.SubscriptionLimits

open Utf16 SubscribeMessageHandler

def isDuplicate (subscriptions : Subscriptions) (subscriptionId : JsString)
    (filters : List SubscriptionFilter) : Bool :=
  let existingSubscription := (subscriptions.get subscriptionId).getD []
  !existingSubscription.isEmpty && filters.isEqv existingSubscription SubscriptionFilter.equals

def duplicateReason (subscriptionId : JsString) : JsString :=
  js "Duplicate subscription " ++ subscriptionId ++ js ": Ignoring"

theorem duplicateReason_head (subscriptionId : JsString) :
    (duplicateReason subscriptionId).head? = some 68 := by
  have starts : (js "Duplicate subscription ").head? = some 68 := by decide
  rw [duplicateReason, List.append_assoc, List.head?_append, starts, Option.some_or]

theorem other_reason (literal rest subscriptionId : JsString) (u : UInt16) (starts : literal.head? = some u)
    (notD : u ≠ 68) : some (literal ++ rest) ≠ some (duplicateReason subscriptionId) := by
  intro same
  have heads := congrArg List.head? (Option.some.inj same)
  rw [List.head?_append, starts, Option.some_or, duplicateReason_head] at heads
  exact notD (Option.some.inj heads)

section CanSubscribe

variable (settings : Settings) (subscriptions : Subscriptions) (subscriptionId : JsString)
  (filters : List SubscriptionFilter)

theorem canSubscribe_duplicate (duplicate : isDuplicate subscriptions subscriptionId filters = true) :
    canSubscribe settings subscriptions subscriptionId filters =
      .ok (some (duplicateReason subscriptionId)) := by
  unfold canSubscribe
  exact if_pos duplicate

theorem canSubscribe_unlimited (new : isDuplicate subscriptions subscriptionId filters = false)
    (absent : settings.subscriptionLimits = none) :
    canSubscribe settings subscriptions subscriptionId filters = .error subscriptionLimitsUndefined := by
  simp only [isDuplicate] at new
  simp [canSubscribe, new, absent]

theorem isEmpty_existing (empty : ((subscriptions.get subscriptionId).getD []).isEmpty = true) :
    subscriptions.get subscriptionId = none ∨ subscriptions.get subscriptionId = some [] := by
  cases found : subscriptions.get subscriptionId with
  | none => exact .inl rfl
  | some existing =>
    rw [found, Option.getD_some, List.isEmpty_iff] at empty
    exact .inr (congrArg some empty)

theorem canSubscribe_limited (limits : ClientSubscriptionLimits)
    (new : isDuplicate subscriptions subscriptionId filters = false)
    (configured : settings.subscriptionLimits = some limits) :
    ∃ reason, canSubscribe settings subscriptions subscriptionId filters = .ok reason ∧
      (reason = none ↔ WithinLimits limits subscriptions subscriptionId filters) ∧
      reason ≠ some (duplicateReason subscriptionId) := by
  have accepted : canSubscribe settings subscriptions subscriptionId filters = .ok none →
      WithinLimits limits subscriptions subscriptionId filters := by
    intro can
    obtain ⟨same, isLimits, within⟩ := canSubscribe_correct settings subscriptions subscriptionId filters can
    rw [configured] at isLimits
    cases isLimits
    exact within
  suffices outcome : ∃ reason, canSubscribe settings subscriptions subscriptionId filters = .ok reason ∧
      (reason ≠ none → ¬ WithinLimits limits subscriptions subscriptionId filters) ∧
      reason ≠ some (duplicateReason subscriptionId) by
    obtain ⟨reason, can, refused, other⟩ := outcome
    refine ⟨reason, can, ⟨?_, fun within => not_not.mp fun some => refused some within⟩, other⟩
    rintro rfl
    exact accepted can
  simp only [isDuplicate] at new
  simp only [canSubscribe, new, configured, Option.bind_some, Bool.false_eq_true, if_false]
  split
  next many =>
    refine ⟨_, rfl, fun _ within => ?_, other_reason _ _ _ 84 (by decide) (by decide)⟩
    cases isMax : limits.maxSubscriptions with
    | none => simp [isMax] at many
    | some max =>
      rw [isMax, Option.getD_some] at many
      have few := within.maxSubscriptions max isMax many.1 (isEmpty_existing _ _ many.2.1)
      omega
  next =>
    split
    next many =>
      refine ⟨_, rfl, fun _ within => ?_, other_reason _ _ _ 84 (by decide) (by decide)⟩
      cases isMax : limits.maxFilters with
      | none => simp [isMax] at many
      | some max =>
        rw [isMax, Option.getD_some] at many
        have few := within.maxFilters max isMax many.1
        omega
    next =>
      cases isMax : limits.maxSubscriptionIdLength with
      | none => exact ⟨_, rfl, fun some => (some rfl).elim, by simp⟩
      | some max =>
        dsimp only
        split
        next long =>
          refine ⟨_, rfl, fun _ within => ?_, other_reason _ _ _ 83 (by decide) (by decide)⟩
          have short := within.maxSubscriptionIdLength max isMax
          omega
        next => exact ⟨_, rfl, fun some => (some rfl).elim, by simp⟩

end CanSubscribe

end Nostream.SubscriptionLimits
