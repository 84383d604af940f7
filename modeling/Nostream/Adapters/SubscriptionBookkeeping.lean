import Nostream.Adapters.WebSocketAdapter
import Nostream.Shared.Runs

set_option autoImplicit false

namespace Nostream.SubscriptionBookkeeping

open Utf16 SubscribeMessageHandler WebSocketAdapter
open Runs hiding execute

structure WellFormed (maxFilters : Int) (filters : List SubscriptionFilter) : Prop where
  filled : filters ≠ []
  distinct : filters.Pairwise fun a b => a.equals b = false
  bounded : (filters.length : Int) ≤ maxFilters

structure Bookkept (limits : ClientSubscriptionLimits) (maxSubscriptions maxFilters : Int)
    (adapter : WebSocketAdapter) : Prop where
  count : (adapter.subscriptions.size : Int) ≤ maxSubscriptions
  filters : ∀ entry ∈ adapter.subscriptions.entries, WellFormed maxFilters entry.2
  ids : ∀ max ∈ limits.maxSubscriptionIdLength, ∀ entry ∈ adapter.subscriptions.entries,
    (entry.1.length : Int) ≤ max
  detached : adapter.isAttached = false → adapter.subscriptions = .empty

section Steps

variable (settings : Settings) (limits : ClientSubscriptionLimits) (maxSubscriptions maxFilters : Int)

theorem received_filters (subscriptionId : JsString) (filters : List SubscriptionFilter)
    (accepted : messageSchema (.subscribe subscriptionId filters) = true)
    (bounded : ((uniqWith SubscriptionFilter.equals filters).length : Int) ≤ maxFilters) :
    WellFormed maxFilters (uniqWith SubscriptionFilter.equals filters) := by
  simp only [messageSchema, reqMessageSchema, Bool.and_eq_true, Bool.not_eq_true',
    List.isEmpty_eq_false_iff] at accepted
  refine ⟨uniqWith_ne_nil _ _ accepted.1.1.2, ?_, bounded⟩
  apply (uniqWith_pairwise SubscriptionFilter.equals filters).imp
  intro a b distinct
  rw [equals_comm, distinct]

/-- The check and the insertion are one step, so the map that was checked is the one inserted into. -/
theorem subscribed_bookkept (adapter : WebSocketAdapter) (subscriptionId : JsString)
    (filters : List SubscriptionFilter) (isMaxSubscriptions : limits.maxSubscriptions = some maxSubscriptions)
    (somePositive : 0 < maxSubscriptions)
    (within : WithinLimits limits adapter.subscriptions subscriptionId filters)
    (wellFormed : WellFormed maxFilters filters)
    (inv : Bookkept limits maxSubscriptions maxFilters adapter) :
    Bookkept limits maxSubscriptions maxFilters (adapter.emitSubscribe subscriptionId filters) := by
  unfold emitSubscribe
  split
  next attached =>
    constructor
    · show ((adapter.subscriptions.set subscriptionId filters).size : Int) ≤ maxSubscriptions
      rw [InsertionMap.size_set]
      split
      next => exact inv.count
      next absent =>
        have room := within.maxSubscriptions maxSubscriptions isMaxSubscriptions somePositive
          (.inl (by simpa using absent))
        exact_mod_cast room
    · intro entry member
      rcases (InsertionMap.mem_entries_set ..).mp member with rfl | ⟨old, _⟩
      · exact wellFormed
      · exact inv.filters entry old
    · intro max isMax entry member
      rcases (InsertionMap.mem_entries_set ..).mp member with rfl | ⟨old, _⟩
      · exact within.maxSubscriptionIdLength max isMax
      · exact inv.ids max isMax entry old
    · intro detached
      exact absurd attached (Bool.eq_false_iff.mp detached)
  next => exact inv

theorem unsubscribed_bookkept (adapter : WebSocketAdapter) (subscriptionId : JsString)
    (inv : Bookkept limits maxSubscriptions maxFilters adapter) :
    Bookkept limits maxSubscriptions maxFilters (adapter.emitUnsubscribe subscriptionId) := by
  unfold emitUnsubscribe
  split
  next attached =>
    have kept (entry : JsString × List SubscriptionFilter)
        (member : entry ∈ (adapter.subscriptions.delete subscriptionId).entries) :
        entry ∈ adapter.subscriptions.entries := ((InsertionMap.mem_entries_delete ..).mp member).1
    constructor
    · have fewer := InsertionMap.size_delete_le adapter.subscriptions subscriptionId
      exact (Int.ofNat_le.mpr fewer).trans inv.count
    · exact fun entry member => inv.filters entry (kept entry member)
    · exact fun max isMax entry member => inv.ids max isMax entry (kept entry member)
    · intro detached
      exact absurd attached (Bool.eq_false_iff.mp detached)
  next => exact inv

theorem closed_bookkept (adapter : WebSocketAdapter) (somePositive : 0 < maxSubscriptions) :
    Bookkept limits maxSubscriptions maxFilters adapter.onClientClose :=
  ⟨somePositive.le, by simp [onClientClose, InsertionMap.empty], by simp [onClientClose, InsertionMap.empty],
    fun _ => rfl⟩

theorem proceed_bookkept (adapter : WebSocketAdapter) (i : Nat) (handling : MessageHandling)
    (inv : Bookkept limits maxSubscriptions maxFilters adapter) :
    Bookkept limits maxSubscriptions maxFilters (adapter.proceed i handling) :=
  ⟨inv.count, inv.filters, inv.ids, inv.detached⟩

theorem bookkept_preserved (configured : settings.subscriptionLimits = some limits)
    (isMaxSubscriptions : limits.maxSubscriptions = some maxSubscriptions)
    (somePositive : 0 < maxSubscriptions) (isMaxFilters : limits.maxFilters = some maxFilters)
    (filtersPositive : 0 < maxFilters) :
    Preserves (Connection.step settings) (fun _ _ => True) fun connection =>
      Bookkept limits maxSubscriptions maxFilters connection.adapter := by
  intro connection action reached inv _ taken
  obtain ⟨messages, stepped, _⟩ := Connection.step_cases settings connection reached action taken
  generalize reached.adapter = adapter at stepped ⊢
  cases stepped with
  | received => exact ⟨inv.count, inv.filters, inv.ids, inv.detached⟩
  | subscribed i subscriptionId filters accepted _ can =>
    obtain ⟨given, isGiven, within⟩ := canSubscribe_correct settings _ subscriptionId _ can
    cases configured.symm.trans isGiven
    apply proceed_bookkept
    apply subscribed_bookkept limits maxSubscriptions maxFilters connection.adapter subscriptionId _
      isMaxSubscriptions somePositive within _ inv
    exact received_filters maxFilters subscriptionId filters accepted
      (within.maxFilters maxFilters isMaxFilters filtersPositive)
  | unsubscribed i subscriptionId =>
    apply proceed_bookkept
    exact unsubscribed_bookkept limits maxSubscriptions maxFilters connection.adapter subscriptionId inv
  | event => exact inv
  | closing => exact ⟨inv.count, inv.filters, inv.ids, inv.detached⟩
  | closed => exact closed_bookkept limits maxSubscriptions maxFilters connection.adapter somePositive
  | turnedAway | found | rejected | streamed | ended | failed =>
    exact proceed_bookkept limits maxSubscriptions maxFilters connection.adapter _ _ inv

end Steps

theorem step_detached (settings : Settings) (connection reached : Connection)
    (action : WebSocketAdapter.Action) (detached : connection.adapter.isAttached = false)
    (taken : connection.step settings action = some reached) : reached.adapter.isAttached = false := by
  obtain ⟨messages, stepped, _⟩ := Connection.step_cases settings connection reached action taken
  generalize reached.adapter = adapter at stepped ⊢
  cases stepped <;> simp_all [emitSubscribe, emitUnsubscribe, proceed]

theorem run_closed (settings : Settings) (connection final : Connection)
    (trace : List WebSocketAdapter.Action)
    (run : Run (Connection.step settings) (fun _ _ => True) connection trace final)
    (gone : connection.adapter.isAttached = false ∨ .close ∈ trace) :
    final.adapter.isAttached = false := by
  induction run with
  | done => simpa using gone
  | @next connection middle final action trace _ taken _ ih =>
    apply ih
    rcases gone with detached | closes
    · exact .inl (step_detached settings connection middle action detached taken)
    · rcases List.mem_cons.mp closes with isClose | later
      · subst isClose
        obtain ⟨messages, stepped, _⟩ := Connection.step_cases settings connection middle .close taken
        generalize middle.adapter = adapter at stepped ⊢
        cases stepped
        exact .inl rfl
      · exact .inr later

theorem bookkeeping_within_limits (settings : Settings) (limits : ClientSubscriptionLimits)
    (configured : settings.subscriptionLimits = some limits) (maxSubscriptions maxFilters : Int)
    (isMaxSubscriptions : limits.maxSubscriptions = some maxSubscriptions)
    (somePositive : 0 < maxSubscriptions) (isMaxFilters : limits.maxFilters = some maxFilters)
    (filtersPositive : 0 < maxFilters) (trace : List WebSocketAdapter.Action) (final : Connection)
    (run : Run (Connection.step settings) (fun _ _ => True) {} trace final) :
    Bookkept limits maxSubscriptions maxFilters final.adapter ∧
      (.close ∈ trace → final.adapter.subscriptions = .empty) := by
  have opened : Bookkept limits maxSubscriptions maxFilters ({} : WebSocketAdapter) :=
    ⟨somePositive.le, by simp [InsertionMap.empty], by simp [InsertionMap.empty], fun _ => rfl⟩
  have inv := run.invariant (bookkept_preserved settings limits maxSubscriptions maxFilters configured
    isMaxSubscriptions somePositive isMaxFilters filtersPositive) opened
  exact ⟨inv, fun closes => inv.detached (run_closed settings {} final trace run (.inr closes))⟩

def oneSubscription : ClientSubscriptionLimits :=
  { maxSubscriptions := some 1, maxFilters := some 1, maxSubscriptionIdLength := some 8 }

def limitedSettings : Settings := { limits := some { client := some { subscription := some oneSubscription } } }

def overlapping : List WebSocketAdapter.Action :=
  [.receive (reqFrame (js "a") [{}]), .receive (reqFrame (js "b") [{}]), .receive (reqFrame (js "c") [{}]),
    .checked 1 (.ok false), .checked 0 (.ok false), .snapshot 1 (.ok []), .close, .checked 2 (.ok false),
    .next 1]

theorem overlapping_within_limits :
    ∃ final, Run (Connection.step limitedSettings) (fun _ _ => True) {} overlapping final ∧
      final.sent.map Prod.fst = [createNoticeMessage (js
        "Subscription rejected: Too many subscriptions: Number of subscriptions must be less than or equal to 1")] ∧
      Bookkept oneSubscription 1 1 final.adapter ∧
      (.close ∈ overlapping → final.adapter.subscriptions = .empty) := by
  have ran : (Runs.execute (Connection.step limitedSettings) (fun _ _ => True) {} overlapping).map
      (fun final => final.sent.map Prod.fst) = some [createNoticeMessage (js
        "Subscription rejected: Too many subscriptions: Number of subscriptions must be less than or equal to 1")] :=
    by decide +kernel
  obtain ⟨final, executed, answers⟩ := Option.map_eq_some_iff.mp ran
  have run := run_of_execute executed
  exact ⟨final, run, answers, bookkeeping_within_limits limitedSettings oneSubscription rfl 1 1 rfl
    (by decide) rfl (by decide) overlapping final run⟩

end Nostream.SubscriptionBookkeeping
