import Nostream.App.StaticMirroringWorker
import Nostream.Handlers.MessageStages

set_option autoImplicit false

namespace Nostream.MirrorAdmission

open Utf16 Effects

structure SamePolicy (worker : StaticMirroringWorker) (handler : EventMessageHandler) : Prop where
  settings : worker.settings = handler.settings
  relayPublicKey : worker.relayPublicKey = handler.relayPublicKey
  acceptClock : worker.acceptClock = handler.acceptClock
  findByPubkey : worker.findByPubkey = handler.findByPubkey

def NoOverrides (config : Mirror) : Prop := (config.limits.bind Limits.event).getD {} = {}

def SameVerdict (worker : StaticMirroringWorker) (handler : EventMessageHandler) (event : Event) : Prop :=
  ∃ accepted admitted reason,
    worker.canAcceptEvent event = .ok accepted ∧ worker.isUserAdmitted event = .ok admitted ∧
    (∀ world, (handler.isUserAdmitted event).run world = (.ok reason, world)) ∧
    ((accepted = true ∧ admitted = true) ↔ (handler.canAcceptEvent event = none ∧ reason = none))

@[simp]
theorem mergeObjects_none {α : Type} (merge : α → α → α) (left : Option α) :
    mergeObjects merge left none = left := by
  cases left <;> rfl

theorem mergeDeepRight_empty (limits : EventLimits) : limits.mergeDeepRight {} = limits := by
  simp [EventLimits.mergeDeepRight, mergeKey]

section Checks

variable {worker : StaticMirroringWorker} {handler : EventMessageHandler} {event : Event}

theorem canAcceptEvent_same (same : SamePolicy worker handler) (overrides : NoOverrides worker.config)
    (notOwn : handler.relayPublicKey ≠ event.pubkey) (limits : worker.config.limits.isSome = true) :
    worker.canAcceptEvent event = .ok (handler.canAcceptEvent event).isNone := by
  obtain ⟨limits, configured⟩ := Option.isSome_iff_exists.mp limits
  have none : limits.event.getD {} = {} := by
    simpa [NoOverrides, configured] using overrides
  unfold StaticMirroringWorker.canAcceptEvent EventMessageHandler.canAcceptEvent
  rw [same.relayPublicKey, if_neg notOwn, if_neg notOwn, configured, same.settings, same.acceptClock]
  simp only [none, mergeDeepRight_empty]

theorem canAcceptEvent_throws (notOwn : worker.relayPublicKey ≠ event.pubkey)
    (limits : worker.config.limits = none) :
    worker.canAcceptEvent event = .error StaticMirroringWorker.undefinedProperty := by
  rw [StaticMirroringWorker.canAcceptEvent, if_neg notOwn, limits]

/-- A negative minimum is no minimum to the handler; a balance that is not negative meets it. -/
theorem admits_same (same : SamePolicy worker handler) (user : Option User)
    (balance : ∀ u, user = some u → 0 ≤ u.balance) :
    worker.admits user = (handler.admission user).isNone := by
  unfold StaticMirroringWorker.admits EventMessageHandler.admission EventMessageHandler.minBalance
  rw [same.settings]
  generalize (handler.settings.eventLimits.pubkey.bind PubkeyLimits.minBalance).getD 0 = minBalance
  cases user with
  | none => rfl
  | some user =>
    have solvent := balance user rfl
    cases isAdmitted : user.isAdmitted with
    | false => simp [isAdmitted]
    | true =>
      by_cases short : user.balance < minBalance
      · have positive : 0 < minBalance := by omega
        have nonzero : minBalance ≠ 0 := by omega
        simp [isAdmitted, short, positive, nonzero]
      · simp [isAdmitted, short]

theorem isUserAdmitted_same (same : SamePolicy worker handler)
    (checked : worker.config.skipAdmissionCheck = false)
    (notOwn : handler.relayPublicKey ≠ event.pubkey) (user : Option User)
    (found : handler.findByPubkey event.pubkey = .ok user)
    (balance : ∀ u, user = some u → 0 ≤ u.balance) :
    ∃ reason : Option JsString, worker.isUserAdmitted event = .ok reason.isNone ∧
      ∀ world, (handler.isUserAdmitted event).run world = (.ok reason, world) := by
  unfold StaticMirroringWorker.isUserAdmitted
  simp only [MessageStages.isUserAdmitted_run, MessageStages.userLookup, EventMessageHandler.looksUpUser,
    checked, same.settings, same.findByPubkey, found]
  cases handler.settings.payments with
  | none => exact ⟨none, rfl, fun _ => rfl⟩
  | some payments =>
    cases enabled : payments.enabled with
    | false => exact ⟨none, by simp [enabled], fun _ => by simp [enabled]⟩
    | true =>
      by_cases free : (applicableFees payments event).isEmpty = true
      · exact ⟨none, by simp [enabled, free], fun _ => by simp [free]⟩
      · refine ⟨handler.admission user, ?_, fun _ => by simp [enabled, free, notOwn]⟩
        simp [enabled, free, Except.map, admits_same same user balance]

end Checks

theorem sameVerdict_iff (worker : StaticMirroringWorker) (handler : EventMessageHandler) (event : Event)
    (user : Option User) (same : SamePolicy worker handler) (overrides : NoOverrides worker.config)
    (checked : worker.config.skipAdmissionCheck = false)
    (notOwn : handler.relayPublicKey ≠ event.pubkey)
    (found : handler.findByPubkey event.pubkey = .ok user)
    (balance : ∀ u, user = some u → 0 ≤ u.balance) :
    SameVerdict worker handler event ↔ worker.config.limits.isSome = true := by
  constructor
  · rintro ⟨accepted, admitted, reason, accepts, _⟩
    by_contra absent
    rw [Bool.not_eq_true, Option.isSome_eq_false_iff, Option.isNone_iff_eq_none] at absent
    rw [canAcceptEvent_throws (same.relayPublicKey ▸ notOwn) absent] at accepts
    cases accepts
  · intro limits
    have accepts := canAcceptEvent_same same overrides notOwn limits
    obtain ⟨reason, admits, ran⟩ := isUserAdmitted_same same checked notOwn user found balance
    exact ⟨_, _, reason, accepts, admits, ran, by simp⟩

def paidSettings : Settings :=
  { payments := some { enabled := true, admission := some [{ enabled := true }] }
    limits := some { event := some { pubkey := some { minBalance := some 10 } } } }

def paidHandler : EventMessageHandler :=
  { MessageStages.openHandler with
    settings := paidSettings
    findByPubkey := fun _ => .ok (some { isAdmitted := true, balance := 10 }) }

def paidWorker (limits : Option Limits) : StaticMirroringWorker :=
  { crypto := crypto
    config := { address := js "wss://relay.example", limits := limits }
    subscriptionId := js "mirror"
    repository := eventRepository {}
    findByPubkey := paidHandler.findByPubkey
    settings := paidSettings
    relayPublicKey := paidHandler.relayPublicKey
    expiryClock := paidHandler.expiryClock
    acceptClock := paidHandler.acceptClock }

theorem paid_note_same_verdict : SameVerdict (paidWorker (some {})) paidHandler note :=
  (sameVerdict_iff (paidWorker (some {})) paidHandler note (some { isAdmitted := true, balance := 10 })
    ⟨rfl, rfl, rfl, rfl⟩ rfl rfl (by decide +kernel) rfl (by rintro _ ⟨⟩; decide)).mpr rfl

theorem mirror_without_limits_throws :
    ¬ SameVerdict (paidWorker none) paidHandler note ∧ SamePolicy (paidWorker none) paidHandler ∧
      NoOverrides (paidWorker none).config ∧ (paidWorker none).config.skipAdmissionCheck = false ∧
      paidHandler.relayPublicKey ≠ note.pubkey ∧
      paidHandler.findByPubkey note.pubkey = .ok (some { isAdmitted := true, balance := 10 }) ∧
      (0 : Int) ≤ 10 := by
  refine ⟨?_, ⟨rfl, rfl, rfl, rfl⟩, rfl, rfl, by decide +kernel, rfl, by decide⟩
  rintro ⟨accepted, admitted, reason, accepts, _⟩
  rw [canAcceptEvent_throws (by decide +kernel) rfl] at accepts
  cases accepts

end Nostream.MirrorAdmission
