import Nostream.Handlers.EventStrategies
import Nostream.Utils.EventLimits

set_option autoImplicit false

namespace Nostream

open Utf16 Effects

structure StaticMirroringWorker where
  crypto : Secp256k1
  config : Mirror
  subscriptionId : JsString
  repository : IEventRepository
  findByPubkey : JsString → Except Thrown (Option User)
  settings : Settings
  relayPublicKey : JsString
  -- Whether the process is a cluster worker with a channel to the primary.
  isWorker : Bool := true
  expiryClock : Int
  acceptClock : Int

namespace StaticMirroringWorker

variable (worker : StaticMirroringWorker)

def undefinedProperty : Thrown := .error "Cannot read properties of undefined"

def isWanted (event : Event) : Except Thrown Bool :=
  match worker.config.filters with
  | none => .error undefinedProperty
  | some filters => .ok (filters.any fun filter => isEventMatchingFilter filter event)

def canAcceptEvent (event : Event) : Except Thrown Bool :=
  if worker.relayPublicKey = event.pubkey then .ok false
  else match worker.config.limits with
  | none => .error undefinedProperty
  | some limits =>
    let merged := worker.settings.eventLimits.mergeDeepRight (limits.event.getD {})
    .ok (limitViolation merged worker.acceptClock event).isNone

def admits (user : Option User) : Bool :=
  match user with
  | none => false
  | some user =>
    let minBalance := (worker.settings.eventLimits.pubkey.bind PubkeyLimits.minBalance).getD 0
    user.isAdmitted && !(minBalance != 0 && user.balance < minBalance)

def isUserAdmitted (event : Event) : Except Thrown Bool :=
  if worker.config.skipAdmissionCheck then .ok true
  else match worker.settings.payments with
  | none => .ok true
  | some payments =>
    if !payments.enabled then .ok true
    else if (applicableFees payments event).isEmpty then .ok true
    else (worker.findByPubkey event.pubkey).map worker.admits

def accepts (received : Event) : Except Thrown Bool := do
  if !(← worker.isWanted received) then return false
  if !isEventIdValid worker.crypto received || !isEventSignatureValid worker.crypto received then
    return false
  if isExpiredEvent worker.expiryClock received then return false
  let event := addExpirationMetadata received
  if !(← worker.canAcceptEvent event) then return false
  worker.isUserAdmitted event

def ingest (received : Event) : Handling Unit := do
  if ← answer (worker.accepts received) then
    let event := addExpirationMetadata received
    let inserted ← onTable (worker.repository.create event)
    if inserted ≠ 0 && worker.isWorker then
      update fun world => world.broadcast event

def onMessage (message : OutgoingMessage) : Handling Unit :=
  handle
    (match message with
      | .event subscriptionId event =>
        if subscriptionId = worker.subscriptionId then worker.ingest event else pure ()
      | _ => pure ())
    fun _ => pure ()

structure IsAccepted (received : Event) : Prop where
  wanted : worker.isWanted received = .ok true
  validId : isEventIdValid worker.crypto received = true
  validSignature : isEventSignatureValid worker.crypto received = true
  unexpired : isExpiredEvent worker.expiryClock received = false
  acceptable : worker.canAcceptEvent (addExpirationMetadata received) = .ok true
  admitted : worker.isUserAdmitted (addExpirationMetadata received) = .ok true

theorem accepts_ok (received : Event) (accepted : worker.accepts received = .ok true) : worker.IsAccepted received := by
  unfold accepts at accepted
  obtain ⟨wants, wanted, accepted⟩ := ok_of_bind accepted
  cases wants with
  | false => cases accepted
  | true =>
    simp only [Bool.not_true, Bool.false_eq_true, if_false] at accepted
    split_ifs at accepted
    next => cases accepted
    next => cases accepted
    next valid unexpired =>
      obtain ⟨accepts, acceptable, accepted⟩ := ok_of_bind accepted
      cases accepts with
      | false => cases accepted
      | true =>
        simp only [Bool.or_eq_true, Bool.not_eq_true', not_or, Bool.not_eq_false] at valid
        exact ⟨wanted, valid.1, valid.2, Bool.eq_false_iff.mpr unexpired, acceptable, accepted⟩

theorem ingest_reached (received : Event) (world : World) :
    ((worker.ingest received).run world).2 =
      if worker.accepts received = .ok true then
        if ((worker.repository.create (addExpirationMetadata received)).run world.table).1.toOption.any (· ≠ 0) &&
            worker.isWorker then
          (world.withTable ((worker.repository.create (addExpirationMetadata received)).run world.table).2).broadcast
            (addExpirationMetadata received)
        else world.withTable ((worker.repository.create (addExpirationMetadata received)).run world.table).2
      else world := by
  unfold ingest
  cases accepted : worker.accepts received with
  | error reason => rfl
  | ok yes =>
    rw [bind_ok (answer_run _ _)]
    cases yes with
    | false => rfl
    | true =>
      rw [if_pos rfl, if_pos rfl]
      have ran : (onTable (worker.repository.create (addExpirationMetadata received))).run world =
          (_, world.withTable _) := rfl
      cases outcome : ((worker.repository.create (addExpirationMetadata received)).run world.table).1 with
      | error reason =>
        rw [outcome] at ran
        rw [bind_error ran]
        rfl
      | ok count =>
        rw [outcome] at ran
        rw [bind_ok ran]
        have counted : ((Except.ok count : Except Thrown Nat).toOption.any (· ≠ 0) && worker.isWorker) =
            (count ≠ 0 && worker.isWorker) := rfl
        rw [counted]
        split <;> rfl

theorem swallowed_reached (body : Handling Unit) (world : World) :
    ((handle body fun _ => pure ()).run world).2 = (body.run world).2 := by
  rw [handle_run]
  split
  next ran => rw [ran]
  next ran => rw [ran]; rfl

theorem onMessage_broadcasts (message : OutgoingMessage) (world : World) (event : Event)
    (broadcast : event ∈ ((worker.onMessage message).run world).2.broadcasts) :
    event ∈ world.broadcasts ∨ ∃ subscriptionId received, message = .event subscriptionId received ∧
      worker.accepts received = .ok true ∧ event = addExpirationMetadata received := by
  cases message with
  | event subscriptionId received =>
    simp only [onMessage, swallowed_reached] at broadcast
    split at broadcast
    next own =>
      rw [ingest_reached] at broadcast
      split at broadcast
      next accepted =>
        split at broadcast
        next counted =>
          rcases List.mem_append.mp broadcast with old | new
          · exact .inl old
          · exact .inr ⟨subscriptionId, received, rfl, accepted, List.mem_singleton.mp new⟩
        next => exact .inl broadcast
      next => exact .inl broadcast
    next => exact .inl broadcast
  | ok | endOfStoredEvents | notice => exact .inl broadcast

theorem onMessage_table (received : Event) (world : World) :
    ((worker.onMessage (.event worker.subscriptionId received)).run world).2.table =
      if worker.accepts received = .ok true then
        ((worker.repository.create (addExpirationMetadata received)).run world.table).2
      else world.table := by
  rw [onMessage, swallowed_reached, if_pos rfl, ingest_reached]
  split
  next => split <;> rfl
  next => rfl

theorem onMessage_writes (message : OutgoingMessage) (world : World) :
    ((worker.onMessage message).run world).2.table = world.table ∨
      ∃ event, ((worker.onMessage message).run world).2.table =
        ((worker.repository.create event).run world.table).2 := by
  cases message with
  | event subscriptionId received =>
    by_cases own : subscriptionId = worker.subscriptionId
    · subst own
      rw [onMessage_table]
      split
      next => exact .inr ⟨_, rfl⟩
      next => exact .inl rfl
    · rw [onMessage, if_neg own, handle_run]
      exact .inl rfl
  | ok | endOfStoredEvents | notice => exact .inl rfl

end StaticMirroringWorker

end Nostream
