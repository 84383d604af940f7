import Nostream.Repositories.UnionOfFilters
import Nostream.Shared.InsertionMap
import Nostream.Types.Settings
import Nostream.Utils.Messages

set_option autoImplicit false

namespace Nostream

open Utf16

-- ramda's equals takes the keys of an object in any order.
def SubscriptionFilter.equals (a b : SubscriptionFilter) : Bool :=
  a.ids == b.ids && a.kinds == b.kinds && a.since == b.since && a.untilTime == b.untilTime &&
    a.authors == b.authors && a.limit == b.limit && a.criteria.isPerm b.criteria

-- ramda's uniqWith keeps the first of the items that the predicate identifies.
def uniqWith {α : Type} (pred : α → α → Bool) (list : List α) : List α :=
  list.foldl (fun result item => if result.any (pred item) then result else result ++ [item]) []

theorem equals_iff (a b : SubscriptionFilter) :
    a.equals b = true ↔ (a.ids = b.ids ∧ a.kinds = b.kinds ∧ a.since = b.since ∧
      a.untilTime = b.untilTime ∧ a.authors = b.authors ∧ a.limit = b.limit) ∧
        a.criteria.Perm b.criteria := by
  simp only [SubscriptionFilter.equals, Bool.and_eq_true, beq_iff_eq, List.isPerm_iff, and_assoc]

theorem equals_comm (a b : SubscriptionFilter) : a.equals b = b.equals a := by
  rw [Bool.eq_iff_iff, equals_iff, equals_iff]
  exact and_congr (by simp only [eq_comm]) List.perm_comm

theorem uniqWith_pairwise {α : Type} (pred : α → α → Bool) (list : List α) :
    (uniqWith pred list).Pairwise fun a b => pred b a = false := by
  suffices kept : ∀ result : List α, result.Pairwise (fun a b => pred b a = false) →
      (list.foldl (fun result item => if result.any (pred item) then result else result ++ [item])
        result).Pairwise fun a b => pred b a = false from kept [] List.Pairwise.nil
  induction list with
  | nil => exact fun _ distinct => distinct
  | cons item rest ih =>
    intro result distinct
    apply ih
    dsimp only
    split
    next => exact distinct
    next new =>
      rw [List.any_eq_true, not_exists] at new
      rw [List.pairwise_append]
      refine ⟨distinct, List.pairwise_singleton _ _, fun a member b isItem => ?_⟩
      rw [List.mem_singleton.mp isItem, Bool.eq_false_iff]
      exact fun same => new a ⟨member, same⟩

theorem uniqWith_ne_nil {α : Type} (pred : α → α → Bool) (list : List α) (filled : list ≠ []) :
    uniqWith pred list ≠ [] := by
  have grows : ∀ (rest result : List α), result ≠ [] →
      rest.foldl (fun result item => if result.any (pred item) then result else result ++ [item])
        result ≠ [] := by
    intro rest
    induction rest with
    | nil => exact fun _ filled => filled
    | cons item rest ih =>
      intro result filled
      apply ih
      dsimp only
      split <;> simp [filled]
  cases list with
  | nil => exact absurd rfl filled
  | cons item rest => exact grows rest [item] (by simp)

abbrev Subscriptions := InsertionMap JsString (List SubscriptionFilter)

namespace SubscribeMessageHandler

def isClientSubscribedToEvent (filters : List SubscriptionFilter) (event : Event) : Bool :=
  filters.any fun filter => isEventMatchingFilter filter event

def fetchAndSend (subscriptionId : JsString) (filters : List SubscriptionFilter)
    (findEvents : List DBEvent) : List OutgoingMessage :=
  (((findEvents.filter fun row => row.deletedAt.isNone).map toNostrEvent).filter
      (isClientSubscribedToEvent filters)).map (createOutgoingEventMessage subscriptionId) ++
    [createEndOfStoredEventsNoticeMessage subscriptionId]

theorem mem_fetchAndSend (subscriptionId : JsString) (filters : List SubscriptionFilter)
    (findEvents : List DBEvent) (id : JsString) (event : Event) :
    OutgoingMessage.event id event ∈ fetchAndSend subscriptionId filters findEvents ↔
      id = subscriptionId ∧ isClientSubscribedToEvent filters event = true ∧
        ∃ row ∈ findEvents, row.deletedAt.isNone = true ∧ toNostrEvent row = event := by
  simp only [fetchAndSend, createEndOfStoredEventsNoticeMessage, createOutgoingEventMessage,
    List.mem_append, List.mem_map, List.mem_filter, List.mem_singleton, reduceCtorEq, or_false,
    OutgoingMessage.event.injEq]
  constructor
  · rintro ⟨_, ⟨⟨row, ⟨member, kept⟩, rfl⟩, subscribed⟩, rfl, rfl⟩
    exact ⟨rfl, subscribed, row, member, kept, rfl⟩
  · rintro ⟨rfl, subscribed, row, member, kept, rfl⟩
    exact ⟨_, ⟨⟨row, ⟨member, kept⟩, rfl⟩, subscribed⟩, rfl, rfl⟩

-- A query that the database rejects fails the stream before its first row.
def storedMessages (database : Database) (subscriptionId : JsString)
    (filters : List SubscriptionFilter) : List OutgoingMessage :=
  match database.findByFilters filters with
  | .ok rows => fetchAndSend subscriptionId filters rows
  | .error _ => []

def subscriptionLimitsUndefined : Thrown :=
  .error "Cannot read properties of undefined (reading 'maxSubscriptionIdLength')"

def canSubscribe (settings : Settings) (subscriptions : Subscriptions) (subscriptionId : JsString)
    (filters : List SubscriptionFilter) : Except Thrown (Option JsString) :=
  let existingSubscription := (subscriptions.get subscriptionId).getD []
  let subscriptionLimits := settings.subscriptionLimits
  let maxSubscriptions := (subscriptionLimits.bind ClientSubscriptionLimits.maxSubscriptions).getD 0
  let maxFilters := (subscriptionLimits.bind ClientSubscriptionLimits.maxFilters).getD 0
  if !existingSubscription.isEmpty && filters.isEqv existingSubscription SubscriptionFilter.equals then
    .ok (some (js "Duplicate subscription " ++ subscriptionId ++ js ": Ignoring"))
  else if maxSubscriptions > 0 ∧ existingSubscription.isEmpty ∧ subscriptions.size + 1 > maxSubscriptions then
    .ok (some (js "Too many subscriptions: Number of subscriptions must be less than or equal to " ++
      Json.integer maxSubscriptions))
  else if maxFilters > 0 ∧ filters.length > maxFilters then
    .ok (some (js "Too many filters: Number of filters per susbscription must be less then or equal to " ++
      Json.integer maxFilters))
  else match subscriptionLimits with
  | none => .error subscriptionLimitsUndefined
  | some limits =>
    match limits.maxSubscriptionIdLength with
    | none => .ok none
    | some maxSubscriptionIdLength =>
      if subscriptionId.length > maxSubscriptionIdLength then
        .ok (some (js "Subscription ID too long: Subscription ID must be less or equal to " ++
          Json.integer maxSubscriptionIdLength))
      else .ok none

structure WithinLimits (limits : ClientSubscriptionLimits) (subscriptions : Subscriptions)
    (subscriptionId : JsString) (filters : List SubscriptionFilter) : Prop where
  maxSubscriptions : ∀ max ∈ limits.maxSubscriptions, 0 < max →
    subscriptions.get subscriptionId = none ∨ subscriptions.get subscriptionId = some [] →
      (subscriptions.size : Int) + 1 ≤ max
  maxFilters : ∀ max ∈ limits.maxFilters, 0 < max → (filters.length : Int) ≤ max
  maxSubscriptionIdLength : ∀ max ∈ limits.maxSubscriptionIdLength, (subscriptionId.length : Int) ≤ max

theorem canSubscribe_correct (settings : Settings) (subscriptions : Subscriptions)
    (subscriptionId : JsString) (filters : List SubscriptionFilter)
    (can : canSubscribe settings subscriptions subscriptionId filters = .ok none) :
    ∃ limits, settings.subscriptionLimits = some limits ∧
      WithinLimits limits subscriptions subscriptionId filters := by
  unfold canSubscribe at can
  dsimp only at can
  split at can
  · cases can
  split at can
  · cases can
  next fewSubscriptions =>
  split at can
  · cases can
  next fewFilters =>
  split at can
  next => cases can
  next limits isLimits =>
    rw [isLimits, Option.bind_some] at fewSubscriptions fewFilters
    refine ⟨limits, isLimits, ⟨?_, ?_, ?_⟩⟩
    · intro max isMax positive absent
      rw [Option.mem_def.mp isMax, Option.getD_some] at fewSubscriptions
      have empty : ((subscriptions.get subscriptionId).getD []).isEmpty = true := by
        rcases absent with absent | absent <;> simp [absent]
      by_contra many
      exact fewSubscriptions ⟨positive, empty, by omega⟩
    · intro max isMax positive
      rw [Option.mem_def.mp isMax, Option.getD_some] at fewFilters
      by_contra many
      exact fewFilters ⟨positive, by omega⟩
    · intro max isMax
      rw [Option.mem_def.mp isMax] at can
      dsimp only at can
      split at can
      · cases can
      next short => omega

end SubscribeMessageHandler

end Nostream
