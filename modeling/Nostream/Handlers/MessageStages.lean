import Nostream.Handlers.EventMessageHandler
import Nostream.Handlers.StrategyTables
import Nostream.Utils.RecordedCrypto

set_option autoImplicit false

namespace Nostream.MessageStages

open Utf16 Effects EventMessageHandler StrategyTables

section Stages

variable (handler : EventMessageHandler)

def prepared (received : Event) : Event :=
  addExpirationMetadata { received with remoteAddress := some handler.webSocket.clientAddress }

def isPassed (received : Event) : Prop :=
  handler.isEventValid received = none ∧ isExpiredEvent handler.expiryClock received = false

def countsHits (event : Event) : Bool :=
  handler.relayPublicKey ≠ event.pubkey &&
    !handler.isWhitelisted handler.settings.eventLimits.whitelists event

def hitOutcomes (event : Event) (position : Nat) (limits : List EventRateLimit) :
    List (Except Thrown Bool) :=
  (limits.zipIdx position).filterMap fun (limit, position) =>
    if appliesToKind event limit.kinds then some (handler.hit position (hitFor event limit)) else none

def hits (event : Event) : List (Except Thrown Bool) :=
  if countsHits handler event then
    hitOutcomes handler event 0 (handler.settings.eventLimits.rateLimits.getD [])
  else []

def userLookup (event : Event) : Option (Except Thrown (Option User)) :=
  if handler.looksUpUser event then some (handler.findByPubkey event.pubkey) else none

structure Accepted (received : Event) : Prop where
  passed : isPassed handler received
  unlimited : ∀ outcome ∈ hits handler (prepared handler received), outcome = .ok false
  acceptable : handler.canAcceptEvent (prepared handler received) = none
  admitted : ∀ outcome ∈ userLookup handler (prepared handler received),
    ∃ user, outcome = .ok user ∧ handler.admission user = none

end Stages

theorem hitRateLimits_run (handler : EventMessageHandler) (event : Event) (limits : List EventRateLimit)
    (position : Nat) (limited : Bool) (world : World) :
    (∃ reason, .error reason ∈ hitOutcomes handler event position limits ∧
        (handler.hitRateLimits event position limits limited).run world = (.error reason, world)) ∨
      (∀ outcome ∈ hitOutcomes handler event position limits, ∃ limited, outcome = .ok limited) ∧
        ∃ result, (handler.hitRateLimits event position limits limited).run world = (.ok result, world) ∧
          (result = true ↔ limited = true ∨ .ok true ∈ hitOutcomes handler event position limits) := by
  induction limits generalizing position limited with
  | nil => exact .inr ⟨by simp [hitOutcomes], limited, rfl, by simp [hitOutcomes]⟩
  | cons limit rest ih =>
    by_cases applies : appliesToKind event limit.kinds = true
    · have outcomes : hitOutcomes handler event position (limit :: rest) =
          handler.hit position (hitFor event limit) :: hitOutcomes handler event (position + 1) rest := by
        simp [hitOutcomes, applies]
      rw [hitRateLimits, if_pos applies, outcomes]
      cases hit : handler.hit position (hitFor event limit) with
      | error reason => exact .inl ⟨reason, by simp, rfl⟩
      | ok isRateLimited =>
        rw [bind_ok (show _ = (Except.ok isRateLimited, _) from rfl)]
        rcases ih (position + 1) (limited || isRateLimited) with ⟨reason, member, ran⟩ | ⟨all, result, ran, same⟩
        · exact .inl ⟨reason, List.mem_cons_of_mem _ member, ran⟩
        · refine .inr ⟨by simpa using all, result, ran, ?_⟩
          rw [same, Bool.or_eq_true, List.mem_cons]
          cases isRateLimited <;> simp
    · have outcomes : hitOutcomes handler event position (limit :: rest) =
          hitOutcomes handler event (position + 1) rest := by
        simp [hitOutcomes, applies]
      rw [hitRateLimits, if_neg applies, outcomes]
      exact ih (position + 1) limited

theorem isRateLimited_run (handler : EventMessageHandler) (event : Event) (world : World) :
    (∃ reason, .error reason ∈ hits handler event ∧
        (handler.isRateLimited event).run world = (.error reason, world)) ∨
      (∀ outcome ∈ hits handler event, ∃ limited, outcome = .ok limited) ∧
        ∃ limited, (handler.isRateLimited event).run world = (.ok limited, world) ∧
          (limited = true ↔ .ok true ∈ hits handler event) := by
  by_cases own : handler.relayPublicKey = event.pubkey
  · exact .inr ⟨by simp [hits, countsHits, own], false, by simp [isRateLimited, own],
      by simp [hits, countsHits, own]⟩
  · by_cases whitelisted : handler.isWhitelisted handler.settings.eventLimits.whitelists event = true
    · refine .inr ⟨by simp [hits, countsHits, whitelisted], false, ?_, by simp [hits, countsHits, whitelisted]⟩
      simp [isRateLimited, own, whitelisted]
    · have counted : hits handler event =
          hitOutcomes handler event 0 (handler.settings.eventLimits.rateLimits.getD []) := by
        simp [hits, countsHits, own, whitelisted]
      rw [counted, isRateLimited, if_neg own]
      by_cases none : handler.settings.eventLimits.rateLimits.getD [] = []
      · exact .inr ⟨by simp [none, hitOutcomes], false, by simp [none], by simp [none, hitOutcomes]⟩
      · simp only [none, whitelisted, if_false]
        simpa using hitRateLimits_run handler event (handler.settings.eventLimits.rateLimits.getD []) 0 false world

theorem isUserAdmitted_run (handler : EventMessageHandler) (event : Event) (world : World) :
    (handler.isUserAdmitted event).run world =
      (match userLookup handler event with
        | none => .ok none
        | some (.error reason) => .error reason
        | some (.ok user) => .ok (handler.admission user), world) := by
  unfold isUserAdmitted userLookup
  split
  · cases found : handler.findByPubkey event.pubkey with
    | error reason => rfl
    | ok user => rfl
  · rfl

theorem handleMessage_eq (handler : EventMessageHandler) (received : Event) :
    handler.handleMessage received =
      match handler.isEventValid received with
      | some reason => handler.reply received reason
      | none =>
        if isExpiredEvent handler.expiryClock received then handler.reply received (js "event is expired")
        else handler.isRateLimited (prepared handler received) >>= fun limited =>
          if limited then handler.reply (prepared handler received) (js "rate-limited: slow down")
          else match handler.canAcceptEvent (prepared handler received) with
          | some reason => handler.reply (prepared handler received) reason
          | none => handler.isUserAdmitted (prepared handler received) >>= fun
            | some reason => handler.reply (prepared handler received) reason
            | none => handler.executeStrategy (prepared handler received) := rfl

theorem prepared_eq (handler : EventMessageHandler) (received : Event) :
    ∃ expirationTime, prepared handler received =
      { received with
        remoteAddress := some handler.webSocket.clientAddress
        expirationTime := expirationTime } := by
  obtain ⟨expirationTime, same⟩ := addExpirationMetadata_eq
    { received with remoteAddress := some handler.webSocket.clientAddress }
  exact ⟨expirationTime, same⟩

theorem prepared_id (handler : EventMessageHandler) (received : Event) :
    (prepared handler received).id = received.id := by
  obtain ⟨_, same⟩ := prepared_eq handler received
  rw [same]

theorem accepted_run (handler : EventMessageHandler) (received : Event)
    (accepted : Accepted handler received) (world : World) :
    (handler.handleMessage received).run world =
      (handler.executeStrategy (prepared handler received)).run world := by
  have free : (handler.isRateLimited (prepared handler received)).run world = (.ok false, world) := by
    rcases isRateLimited_run handler (prepared handler received) world with
      ⟨reason, member, _⟩ | ⟨_, limited, ran, same⟩
    · cases accepted.unlimited _ member
    · cases limited with
      | false => exact ran
      | true => cases accepted.unlimited _ (same.mp rfl)
  have allowed : (handler.isUserAdmitted (prepared handler received)).run world = (.ok none, world) := by
    rw [isUserAdmitted_run]
    cases lookup : userLookup handler (prepared handler received) with
    | none => rfl
    | some outcome =>
      obtain ⟨user, rfl, admitted⟩ := accepted.admitted outcome lookup
      simp [admitted]
  rw [handleMessage_eq, accepted.passed.1]
  simp only [accepted.passed.2, Bool.false_eq_true, if_false]
  rw [bind_ok free]
  simp only [Bool.false_eq_true, if_false, accepted.acceptable]
  rw [bind_ok allowed]

theorem handleMessage_table (handler : EventMessageHandler) (received : Event) (world : World) :
    ((handler.handleMessage received).run world).2.table = world.table ∨ Accepted handler received := by
  rw [handleMessage_eq]
  cases valid : handler.isEventValid received with
  | some reason => exact .inl rfl
  | none =>
    cases expired : isExpiredEvent handler.expiryClock received with
    | true => exact .inl rfl
    | false =>
      simp only [Bool.false_eq_true, if_false]
      rcases isRateLimited_run handler (prepared handler received) world with
        ⟨reason, _, ran⟩ | ⟨all, limited, ran, same⟩
      · rw [bind_error ran]
        exact .inl rfl
      · rw [bind_ok ran]
        cases limited with
        | true => exact .inl rfl
        | false =>
          simp only [Bool.false_eq_true, if_false]
          have unlimited : ∀ outcome ∈ hits handler (prepared handler received), outcome = .ok false := by
            intro outcome member
            obtain ⟨limited, rfl⟩ := all outcome member
            cases limited with
            | false => rfl
            | true => simpa using same.mpr member
          cases acceptable : handler.canAcceptEvent (prepared handler received) with
          | some reason => exact .inl rfl
          | none =>
            have admitted := isUserAdmitted_run handler (prepared handler received) world
            match lookup : userLookup handler (prepared handler received) with
            | none =>
              exact .inr ⟨⟨valid, expired⟩, unlimited, acceptable, by simp [lookup]⟩
            | some (.error reason) =>
              simp only [lookup] at admitted
              rw [bind_error admitted]
              exact .inl rfl
            | some (.ok user) =>
              simp only [lookup] at admitted
              rw [bind_ok admitted]
              cases verdict : handler.admission user with
              | some reason => exact .inl rfl
              | none =>
                refine .inr ⟨⟨valid, expired⟩, unlimited, acceptable, ?_⟩
                rw [lookup]
                rintro _ ⟨⟩
                exact ⟨user, rfl, verdict⟩

theorem executeStrategy_table (handler : EventMessageHandler) (event : Event) (world : World) :
    ((handler.executeStrategy event).run world).2.table =
      match handler.strategyFactory event with
      | none => world.table
      | some strategy => strategyTable handler.repository event world.table strategy := by
  unfold executeStrategy
  cases handler.strategyFactory event with
  | none => rfl
  | some strategy =>
    have executed := execute_table handler.webSocket handler.repository event world strategy
    rw [handle_run]
    split
    next ran =>
      rw [ran] at executed
      exact executed
    next reason reached ran =>
      rw [ran] at executed
      exact (keeps_emitMessage _ _ reached).trans executed

def openHandler : EventMessageHandler :=
  { crypto := crypto
    webSocket := {}
    repository := eventRepository {}
    findByPubkey := fun _ => .ok none
    settings := {}
    relayPublicKey := []
    hit := fun _ _ => .ok false
    expiryClock := 1700000000
    acceptClock := 1700000000 }

theorem openHandler_accepts (crypto : Secp256k1) (event : Event)
    (passed : isPassed (storing { openHandler with crypto := crypto } {}) event) :
    Accepted (storing { openHandler with crypto := crypto } {}) event where
  passed := passed
  unlimited := by
    have none (prepared : Event) : hits (storing { openHandler with crypto := crypto } {}) prepared = [] := by
      unfold hits
      split <;> rfl
    simp [none]
  acceptable := by
    unfold canAcceptEvent
    split <;> rfl
  admitted := by simp [userLookup, looksUpUser, storing, openHandler]

end Nostream.MessageStages
