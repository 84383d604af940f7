import Nostream.App.ServedEvents
import Nostream.Handlers.TracedRows

set_option autoImplicit false

namespace Nostream.PolicedStore

open Utf16 Hex Sql Effects EventRepository EventMessageHandler MessageStages SubmissionStages SubmissionPool
open SettledEvents DeletedForGood AnnouncedOnce TracedRows Writes
open Runs hiding execute

theorem limitViolation_congr (limits : EventLimits) (now : Int) (a b : Event) (id : a.id = b.id)
    (pubkey : a.pubkey = b.pubkey) (createdAt : a.createdAt = b.createdAt) (kind : a.kind = b.kind)
    (length : a.content.length = b.content.length) : limitViolation limits now a = limitViolation limits now b := by
  have matching : isEventKindOrRangeMatch a = isEventKindOrRangeMatch b := by
    funext kindOrRange
    cases kindOrRange <;> simp [isEventKindOrRangeMatch, kind]
  have applies : appliesToKind a = appliesToKind b := by
    funext kinds
    rw [appliesToKind, appliesToKind, matching]
  have content : contentViolation a = contentViolation b := by
    funext limit
    simp only [contentViolation, length, applies]
  have setting : contentSettingViolation a = contentSettingViolation b := by
    funext setting
    rcases setting with _ | _ | _ <;> simp [contentSettingViolation, content]
  have future : maxPositiveDeltaViolation now a = maxPositiveDeltaViolation now b := by
    funext limits
    simp only [maxPositiveDeltaViolation, createdAt]
  have past : maxNegativeDeltaViolation now a = maxNegativeDeltaViolation now b := by
    funext limits
    simp only [maxNegativeDeltaViolation, createdAt]
  have pubkeys : pubkeyListViolation a = pubkeyListViolation b := by
    funext limits
    simp only [pubkeyListViolation, pubkey]
  have kinds : kindListViolation a = kindListViolation b := by
    funext limits
    simp only [kindListViolation, matching, kind]
  simp only [limitViolation, setting, future, past, pubkeys, kinds, id, pubkey]

theorem length_toWellFormed (s : JsString) : (toWellFormed s).length = s.length := by
  rw [toWellFormed]
  have one (u : UInt16) : (encodeChar (single u)).length = 1 := by
    unfold single
    split
    · rfl
    next scalar => rw [encodeChar_scalar u (by simpa using scalar)]; rfl
  induction s using decode.induct with
  | case1 => rfl
  | case2 u => simp [decode, one]
  | case3 u v rest pair ih =>
    have both := pair
    simp only [Bool.and_eq_true] at both
    rw [decode, if_pos pair, encode_cons, encodeChar_combine u v both.1 both.2]
    simp [ih]
  | case4 u v rest pair ih =>
    rw [decode, if_neg pair, encode_cons, List.length_append, one, ih]
    simp [Nat.add_comm]

structure Policed (handler : EventMessageHandler) (received event : Event) : Prop where
  accepted : Accepted handler received
  id : event.id = received.id
  pubkey : event.pubkey = received.pubkey
  createdAt : event.createdAt = received.createdAt
  kind : event.kind = received.kind
  tags : event.tags = received.tags
  content : event.content = toWellFormed received.content
  sig : event.sig = received.sig
  limits : handler.relayPublicKey = event.pubkey ∨
    limitViolation handler.settings.eventLimits handler.acceptClock event = none

theorem acceptable_limits (handler : EventMessageHandler) (received : Event) (accepted : Accepted handler received) :
    handler.relayPublicKey = received.pubkey ∨
      limitViolation handler.settings.eventLimits handler.acceptClock received = none := by
  have acceptable := accepted.acceptable
  obtain ⟨_, shape⟩ := prepared_eq handler received
  rw [shape, canAcceptEvent] at acceptable
  split at acceptable
  next own => exact .inl own
  next =>
    refine .inr ?_
    rw [← acceptable]
    exact limitViolation_congr _ _ _ _ rfl rfl rfl rfl rfl

theorem carried_policed (handler : EventMessageHandler) (received event : Event) (schema : eventSchema received = true)
    (accepted : Accepted handler received) (isPrepared : event = prepared handler received)
    (storable : (statementRow event).storable = true) (r : DBEvent) (carries : Carries event r) :
    Policed handler received (toNostrEvent r) := by
  have fits := insertRow_fits event storable
  obtain ⟨_, shape⟩ := prepared_eq handler received
  rw [shape] at isPrepared
  simp only [eventSchema, idSchema, pubkeySchema, signatureSchema, Bool.and_eq_true, beq_iff_eq] at schema
  obtain ⟨⟨⟨⟨⟨⟨idLower, idLength⟩, pubkey, pubkeyLength⟩, _⟩, _⟩, _⟩, sig, sigLength⟩ := schema
  have shownEvent : toNostrEvent r = { received with
      content := toWellFormed received.content, remoteAddress := none, expirationTime := none } := by
    rw [carries.shows]
    subst isPrepared
    rw [ReturnedRows.toNostrEvent_insertRow _ fits ⟨idLower, by rw [idLength]⟩ ⟨pubkey, by rw [pubkeyLength]⟩,
      toHex_ofHex _ sig (by rw [sigLength])]
  have limits := acceptable_limits handler received accepted
  rw [shownEvent]
  refine ⟨accepted, rfl, rfl, rfl, rfl, rfl, rfl, rfl, limits.imp id fun within => ?_⟩
  rw [← within]
  exact limitViolation_congr _ _ _ _ rfl rfl rfl rfl (length_toWellFormed _)

theorem store_policed (events : Set Event) (schema : ∀ event ∈ events, eventSchema event = true)
    (trace : List Action) (final : Pool)
    (run : Run step (SubmittedFrom events) { table := [], submissions := [] } trace final) :
    (∀ r ∈ final.table, ∃ submission ∈ final.submissions, ∃ received ∈ events,
        Policed submission.handler received (toNostrEvent r)) ∧
      ∀ submission ∈ final.submissions, ∃ received ∈ events,
        ∀ outputs, submission.stage = .finished outputs →
          (∀ sent ∈ outputs.broadcasts, sent = prepared submission.handler received ∧
            Accepted submission.handler received) ∧
          ∀ text, .ok received.id true text ∈ outputs.messages → Accepted submission.handler received := by
  have traced := run_traced (fun _ received => received ∈ events) trace final run
  constructor
  · intro r member
    obtain ⟨writer, inPool, wrote, carries⟩ := traced.rows r member
    obtain ⟨received, inEvents, handles⟩ := traced.handled writer inPool
    exact ⟨writer, inPool, received, inEvents, carried_policed writer.handler received writer.event
      (schema received inEvents) (handles.accepted (.written wrote.1)) handles.prepared wrote.2 r carries⟩
  · intro submission member
    obtain ⟨received, inEvents, handles⟩ := traced.handled submission member
    refine ⟨received, inEvents, fun outputs stage => ⟨fun sent broadcast => ?_, fun text confirms => ?_⟩⟩
    · exact ⟨(handles.own outputs stage sent broadcast).trans handles.prepared,
        handles.accepted (.broadcast outputs stage (List.ne_nil_of_mem broadcast))⟩
    · refine handles.accepted (.confirmed outputs stage text ?_)
      rwa [handles.prepared, prepared_id]

def closedHandler : EventMessageHandler :=
  { openHandler with
    settings := { limits := some { event := some { kind := some { blacklist := some [.kind 1] } } } } }

def turnedAway : List Action := [.submit closedHandler note, .submit openHandler profile, .advance 1 {}]

theorem note_turned_away :
    ∃ final, Run step (SubmittedFrom {event | event ∈ [note, profile]}) { table := [], submissions := [] }
        turnedAway final ∧
      final.table.length = 1 ∧
      ∀ r ∈ final.table, ∃ submission ∈ final.submissions, ∃ received ∈ {event | event ∈ [note, profile]},
        Policed submission.handler received (toNostrEvent r) := by
  have ran : (Runs.execute step (SubmittedFrom {event | event ∈ [note, profile]})
      { table := [], submissions := [] } turnedAway).map (fun final => final.table.length) = some 1 := by
    decide +kernel
  obtain ⟨final, executed, size⟩ := Option.map_eq_some_iff.mp ran
  have run := run_of_execute executed
  have schema : ∀ event ∈ [note, profile], eventSchema event = true := by decide +kernel
  exact ⟨final, run, size, (store_policed _ schema turnedAway final run).1⟩

end Nostream.PolicedStore
