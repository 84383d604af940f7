import Nostream.App.MirrorWire
import Nostream.Handlers.PolicedStore

set_option autoImplicit false

namespace Nostream.RelayNetwork

open Utf16 Hex Json Sql Effects EventRepository Writes MessageSchema MessageStages SubmissionStages SubmissionPool
open AnnouncedOnce TracedRows PolicedStore MutualMirrors MirrorWire Slots
open Runs hiding execute

structure Node where
  pool : Pool := { table := [], submissions := [] }
  mirrored : List Event := []

inductive Source where
  | row (k : Nat)
  | broadcast (i b : Nat)
  | mirrored (m : Nat)

def Node.offers (node : Node) : Source → Option Event
  | .row k => (node.pool.table[k]?.filter fun r => r.deletedAt.isNone).map toNostrEvent
  | .broadcast i b => node.pool.submissions[i]?.bind fun submission =>
    match submission.stage with
    | .finished outputs => outputs.broadcasts[b]?
    | _ => none
  | .mirrored m => node.mirrored[m]?

inductive Action (ι : Type) where
  | act (i : ι) (action : SubmissionPool.Action)
  -- A mirror of the relay j hears what the relay i has to send, with the members of the event in the given order.
  | hear (i j : ι) (source : Source) (members : List (JsString × JsonValue)) (worker : StaticMirroringWorker)
      (fates : Fates)

section Network

variable {ι : Type} [DecidableEq ι]

def wireText (worker : StaticMirroringWorker) (members : List (JsString × JsonValue)) : JsString :=
  stringify (.array [.string (js "EVENT"), .string worker.subscriptionId, .object members])

def hearing (worker : StaticMirroringWorker) (fates : Fates) (members : List (JsString × JsonValue)) (node : Node) :
    Node :=
  let reached := ((onText { worker with repository := eventRepository fates }
    (transmitted (wireText worker members))).run { table := node.pool.table }).2
  { pool := { node.pool with table := reached.table }
    mirrored := node.mirrored ++ reached.broadcasts }

omit [DecidableEq ι] in
theorem hearing_submissions (worker : StaticMirroringWorker) (fates : Fates) (members : List (JsString × JsonValue))
    (node : Node) : (hearing worker fates members node).pool.submissions = node.pool.submissions := by
  simp only [hearing]

def step (nodes : ι → Node) : Action ι → Option (ι → Node)
  | .act i action => (SubmissionPool.step (nodes i).pool action).map fun pool =>
      Function.update nodes i { nodes i with pool := pool }
  | .hear i j source members worker fates => ((nodes i).offers source).map fun _ =>
      Function.update nodes j (hearing worker fates members (nodes j))

def Allowed (events : Set Event) (nodes : ι → Node) : Action ι → Prop
  | .act i action => AcceptedFrom events (nodes i).pool action
  | .hear i _ source members _ _ => ∀ event, (nodes i).offers source = some event →
      members.Perm (eventMembers event)

def stored (event : Event) : Event :=
  { event with content := toWellFormed event.content, remoteAddress := none, expirationTime := none }

def Admitted (events : Set Event) (nodes : ι → Node) (received : Event) : Prop :=
  received ∈ events ∧ ∃ k, ∃ submission ∈ (nodes k).pool.submissions,
    submission.event = prepared submission.handler received ∧ Accepted submission.handler received

def Storable (event : Event) : Prop := (insertRow (addExpirationMetadata event)).storable = true

structure Sourced (events : Set Event) (nodes : ι → Node) : Prop where
  handled : ∀ i, Handled (acceptedFrom events) (nodes i).pool
  rows : ∀ i, ∀ r ∈ (nodes i).pool.table, ∃ received, Admitted events nodes received ∧
    toNostrEvent r = stored received ∧ Storable (stored received)
  mirrored : ∀ i, ∀ event ∈ (nodes i).mirrored, ∃ received, Admitted events nodes received ∧
    (onWire event = onWire received ∨ onWire event = stored received)

section Events

theorem stored_stored (event : Event) : stored (stored event) = stored event := by
  simp only [stored, toWellFormed, decode_encode]

theorem shown_stored (event : Event) (schema : eventSchema event = true) (storable : (insertRow event).storable = true) :
    toNostrEvent (insertRow event).stored = stored event := by
  simp only [eventSchema, idSchema, pubkeySchema, signatureSchema, Bool.and_eq_true, beq_iff_eq] at schema
  obtain ⟨⟨⟨⟨⟨⟨id, idLength⟩, pubkey, pubkeyLength⟩, _⟩, _⟩, _⟩, sig, sigLength⟩ := schema
  rw [ReturnedRows.toNostrEvent_insertRow event storable ⟨id, by rw [idLength]⟩ ⟨pubkey, by rw [pubkeyLength]⟩, stored,
    toHex_ofHex event.sig sig (by rw [sigLength])]

theorem storable_stored (event : Event) (storable : Storable event) : Storable (stored event) := by
  have same : getEventExpiration (stored event) = getEventExpiration event := rfl
  unfold Storable addExpirationMetadata at storable ⊢
  rw [same]
  cases expiration : getEventExpiration event with
  | none =>
    rw [expiration] at storable
    simp only [EventRow.storable, insertRow, stored, toWellFormed, decode_encode, Bool.and_eq_true] at storable ⊢
    exact ⟨⟨⟨⟨storable.1.1.1.1, rfl⟩, storable.1.1.2⟩, storable.1.2⟩, rfl⟩
  | some expirationTime =>
    rw [expiration] at storable
    dsimp only at storable ⊢
    split at storable
    next zero =>
      rw [if_pos zero]
      simp only [EventRow.storable, insertRow, stored, toWellFormed, decode_encode, Bool.and_eq_true] at storable ⊢
      exact ⟨⟨⟨⟨storable.1.1.1.1, rfl⟩, storable.1.1.2⟩, storable.1.2⟩, rfl⟩
    next zero =>
      rw [if_neg zero]
      simp only [EventRow.storable, insertRow, stored, toWellFormed, decode_encode, Bool.and_eq_true] at storable ⊢
      exact storable

theorem stored_prepared (handler : EventMessageHandler) (received : Event) :
    stored (prepared handler received) = stored received ∧ onWire (prepared handler received) = onWire received := by
  obtain ⟨_, shape⟩ := prepared_eq handler received
  rw [shape]
  exact ⟨rfl, rfl⟩

theorem stored_expiring (event : Event) :
    stored (addExpirationMetadata event) = stored event ∧ onWire (addExpirationMetadata event) = onWire event := by
  obtain ⟨_, shape⟩ := addExpirationMetadata_eq event
  rw [shape]
  exact ⟨rfl, rfl⟩

theorem shown_submitted (submission : Submission) (received : Event) (schema : eventSchema received = true)
    (handles : Handles submission received) (storable : (statementRow submission.event).storable = true) (r : DBEvent)
    (carries : Carries submission.event r) : toNostrEvent r = stored received ∧ Storable (stored received) := by
  have fits := insertRow_fits submission.event storable
  obtain ⟨_, shape⟩ := prepared_eq submission.handler received
  have submitted : eventSchema submission.event = true := by
    rw [handles.prepared, shape]
    exact schema
  rw [carries.shows, shown_stored submission.event submitted fits, handles.prepared, (stored_prepared _ _).1]
  refine ⟨rfl, storable_stored { received with remoteAddress := some submission.handler.webSocket.clientAddress } ?_⟩
  rw [handles.prepared] at fits
  exact fits

end Events

section Steps

variable (events : Set Event) (schema : ∀ event ∈ events, eventSchema event = true)

def Grows (nodes reached : ι → Node) : Prop :=
  ∀ k, ∀ submission ∈ (nodes k).pool.submissions, ∃ later ∈ (reached k).pool.submissions,
    later.handler = submission.handler ∧ later.event = submission.event

omit [DecidableEq ι] in
theorem admitted_grows (nodes reached : ι → Node) (grows : Grows nodes reached) (received : Event)
    (admitted : Admitted events nodes received) : Admitted events reached received := by
  obtain ⟨inEvents, k, submission, member, event, accepted⟩ := admitted
  obtain ⟨later, inLater, handler, same⟩ := grows k submission member
  exact ⟨inEvents, k, later, inLater, by rw [same, handler, event], handler ▸ accepted⟩

omit [DecidableEq ι] in
theorem offers_sourced (nodes : ι → Node) (sourced : Sourced events nodes) (i : ι) (source : Source) (event : Event)
    (offered : (nodes i).offers source = some event) : ∃ received, Admitted events nodes received ∧
      (onWire event = onWire received ∨ onWire event = stored received) := by
  cases source with
  | row k =>
    obtain ⟨r, live, rfl⟩ := Option.map_eq_some_iff.mp offered
    obtain ⟨found, _⟩ := Option.filter_eq_some_iff.mp live
    obtain ⟨received, admitted, shows, _⟩ := sourced.rows i r (List.mem_of_getElem? found)
    exact ⟨received, admitted, .inr (by rw [shows]; rfl)⟩
  | broadcast k b =>
    obtain ⟨submission, found, sent⟩ := Option.bind_eq_some_iff.mp offered
    have member := List.mem_of_getElem? found
    obtain ⟨received, isAccepted, handles⟩ := sourced.handled i submission member
    split at sent
    next outputs stage =>
      have broadcast := List.mem_of_getElem? sent
      have accepted := handles.accepted (.broadcast outputs stage (List.ne_nil_of_mem broadcast))
      have own := handles.own outputs stage event broadcast
      refine ⟨received,
        ⟨isAccepted ((passes_iff ..).mpr accepted), i, submission, member, handles.prepared, accepted⟩, .inl ?_⟩
      rw [own, handles.prepared, (stored_prepared _ _).2]
    next => cases sent
  | mirrored m => exact sourced.mirrored i event (List.mem_of_getElem? offered)

include schema in
omit [DecidableEq ι] in
theorem offers_schema (nodes : ι → Node) (sourced : Sourced events nodes) (i : ι) (source : Source) (event : Event)
    (offered : (nodes i).offers source = some event) : eventSchema event = true := by
  obtain ⟨received, admitted, same⟩ := offers_sourced events nodes sourced i source event offered
  have known := schema received admitted.1
  have symbols : eventSchema event = eventSchema (onWire event) := rfl
  rw [symbols]
  rcases same with same | same <;> exact same ▸ known

section Hearing

variable (worker : StaticMirroringWorker) (fates : Fates) (members : List (JsString × JsonValue)) (node : Node)
  (event : Event) (valid : eventSchema event = true) (object : members.Perm (eventMembers event))

include valid object

theorem hearing_eq :
    hearing worker fates members node =
      let reached := (({ worker with repository := eventRepository fates } : StaticMirroringWorker).onMessage
        (.event worker.subscriptionId (onWire event))).run { table := node.pool.table }
      { pool := { node.pool with table := reached.2.table }, mirrored := node.mirrored ++ reached.2.broadcasts } := by
  have isMessage : IsMessage (.event worker.subscriptionId event)
      (.array [.string (js "EVENT"), .string worker.subscriptionId, .object members]) :=
    .event worker.subscriptionId event _ (.keys members object)
  have sent := onText_sent { worker with repository := eventRepository fates } _ _ isMessage
    (fun _ _ same => by cases same; exact valid) { table := node.pool.table }
  simp only [hearing, wireText, sent, messageOnWire]

theorem heard_table :
    (hearing worker fates members node).pool.table =
      if worker.accepts (onWire event) = .ok true then
        ((EventRepository.create fates.insert (addExpirationMetadata (onWire event))).run node.pool.table).2
      else node.pool.table := by
  rw [hearing_eq worker fates members node event valid object]
  exact StaticMirroringWorker.onMessage_table { worker with repository := eventRepository fates } (onWire event)
    { table := node.pool.table }

theorem heard_rows (r : DBEvent) (member : r ∈ (hearing worker fates members node).pool.table) :
    r ∈ node.pool.table ∨ (Storable (onWire event) ∧ r = (insertRow (addExpirationMetadata (onWire event))).stored) := by
  rw [heard_table worker fates members node event valid object] at member
  split at member
  next => exact create_rows fates.insert _ node.pool.table r member
  next => exact .inl member

theorem heard_mirrored (sent : Event) (member : sent ∈ (hearing worker fates members node).mirrored) :
    sent ∈ node.mirrored ∨ sent = addExpirationMetadata (onWire event) := by
  rw [hearing_eq worker fates members node event valid object] at member
  rcases List.mem_append.mp member with old | new
  · exact .inl old
  · refine .inr ?_
    rcases StaticMirroringWorker.onMessage_broadcasts _ _ _ sent new with nothing | ⟨_, received, same, _, rfl⟩
    · cases nothing
    · cases same
      rfl

end Hearing

theorem hear_sourced (nodes : ι → Node) (sourced : Sourced events nodes) (i j : ι) (source : Source) (event : Event)
    (offered : (nodes i).offers source = some event) (worker : StaticMirroringWorker) (fates : Fates)
    (members : List (JsString × JsonValue)) (object : members.Perm (eventMembers event))
    (valid : eventSchema event = true) :
    Sourced events (Function.update nodes j (hearing worker fates members (nodes j))) := by
  obtain ⟨received, admitted, same⟩ := offers_sourced events nodes sourced i source event offered
  have submissions (k : ι) : ((Function.update nodes j (hearing worker fates members (nodes j))) k).pool.submissions =
      (nodes k).pool.submissions := by
    rw [Function.update_apply]
    split
    next same => rw [same, hearing_submissions]
    next => rfl
  have grows : Grows nodes (Function.update nodes j (hearing worker fates members (nodes j))) := by
    intro k submission member
    exact ⟨submission, submissions k ▸ member, rfl, rfl⟩
  have asStored : stored (onWire event) = stored received := by
    rcases same with same | same
    · rw [same]; rfl
    · rw [same, stored_stored]
  refine ⟨?_, ?_, ?_⟩
  · intro k submission member
    rw [submissions] at member
    exact sourced.handled k submission member
  · intro k r member
    rw [Function.update_apply] at member
    split at member
    next isHearer =>
      rcases heard_rows worker fates members (nodes j) event valid object r member with old | ⟨storable, rfl⟩
      · obtain ⟨origin, known, shows⟩ := sourced.rows j r old
        exact ⟨origin, admitted_grows events nodes _ grows origin known, shows⟩
      · obtain ⟨_, shape⟩ := addExpirationMetadata_eq (onWire event)
        have validSent : eventSchema (addExpirationMetadata (onWire event)) = true := by
          rw [shape]
          exact valid
        refine ⟨received, admitted_grows events nodes _ grows received admitted, ?_, ?_⟩
        · rw [shown_stored _ validSent storable, (stored_expiring _).1, asStored]
        · rw [← asStored]
          exact storable_stored _ storable
    next =>
      obtain ⟨origin, known, shows⟩ := sourced.rows k r member
      exact ⟨origin, admitted_grows events nodes _ grows origin known, shows⟩
  · intro k sent member
    rw [Function.update_apply] at member
    split at member
    next isHearer =>
      rcases heard_mirrored worker fates members (nodes j) event valid object sent member with old | rfl
      · obtain ⟨origin, known, shows⟩ := sourced.mirrored j sent old
        exact ⟨origin, admitted_grows events nodes _ grows origin known, shows⟩
      · refine ⟨received, admitted_grows events nodes _ grows received admitted, ?_⟩
        rw [(stored_expiring _).2]
        exact same
    next =>
      obtain ⟨origin, known, shows⟩ := sourced.mirrored k sent member
      exact ⟨origin, admitted_grows events nodes _ grows origin known, shows⟩

structure Moves (before after : Pool) : Prop where
  handled : Handled (acceptedFrom events) after
  kept : ∀ submission ∈ before.submissions, ∃ later ∈ after.submissions,
    later.handler = submission.handler ∧ later.event = submission.event
  rows : ∀ r ∈ after.table, (∃ old ∈ before.table, toNostrEvent r = toNostrEvent old) ∨
    ∃ submission ∈ after.submissions, ∃ received ∈ events, Handles submission received ∧
      submission.written.isSome = true ∧ (statementRow submission.event).storable = true ∧
        Carries submission.event r

theorem pool_moves (pool reached : Pool) (action : SubmissionPool.Action) (handled : Handled (acceptedFrom events) pool)
    (ok : AcceptedFrom events pool action) (taken : SubmissionPool.step pool action = some reached) :
    Moves events pool reached := by
  rcases SubmissionPool.step_cases pool reached action taken with
    ⟨handler, received, rfl, rfl⟩ | ⟨i, fates, submission, advanced, table, rfl, found, ran, rfl⟩
  · exact ⟨submit_handled _ pool handler received ok handled,
      fun submission member => ⟨submission, List.mem_append_left _ member, rfl, rfl⟩,
      fun r member => .inl ⟨r, member, rfl⟩⟩
  · have moved := advance_cases fates submission advanced pool.table table ran
    obtain ⟨received, isAccepted, handles⟩ := handled submission (List.mem_of_getElem? found)
    have advancedHandles := advance_handles fates submission advanced pool.table table moved received handles
    refine ⟨advance_handled _ pool i fates submission advanced table found moved handled, ?_, ?_⟩
    · intro other member
      obtain ⟨later, inLater, handler, event, _⟩ :=
        kept_by_advance pool i fates submission advanced table found moved other member
      exact ⟨later, inLater, handler, event⟩
    · intro r member
      rcases advance_carried fates submission advanced pool.table table moved
        (fun stage => handles.durable (.inl stage)) r member with ⟨old, inBefore, _, rfl⟩ | ⟨isSome, storable, carries⟩
      · exact .inl ⟨old, inBefore, rfl⟩
      · have event := advance_event fates submission advanced pool.table table moved
        have inEvents := isAccepted ((passes_iff ..).mpr (handles.accepted (passed_of_advance moved)))
        exact .inr ⟨advanced, List.mem_set (List.getElem?_eq_some_iff.mp found).1 advanced, received, inEvents,
          advancedHandles, isSome, event ▸ storable, event ▸ carries⟩

include schema in
theorem act_sourced (nodes : ι → Node) (sourced : Sourced events nodes) (i : ι) (reached : Pool)
    (moves : Moves events (nodes i).pool reached) :
    Sourced events (Function.update nodes i { nodes i with pool := reached }) := by
  have grows : Grows nodes (Function.update nodes i { nodes i with pool := reached }) := by
    intro k submission member
    rw [Function.update_apply]
    split
    next same => exact moves.kept submission (same ▸ member)
    next => exact ⟨submission, member, rfl, rfl⟩
  refine ⟨?_, ?_, ?_⟩
  · intro k submission member
    rw [Function.update_apply] at member
    split at member
    next => exact moves.handled submission member
    next => exact sourced.handled k submission member
  · intro k r member
    rw [Function.update_apply] at member
    split at member
    next same =>
      rcases moves.rows r member with ⟨old, inBefore, shows⟩ |
        ⟨submission, inReached, received, inEvents, handles, isSome, storable, carries⟩
      · obtain ⟨origin, known, showsOld⟩ := sourced.rows i old inBefore
        exact ⟨origin, admitted_grows events nodes _ grows origin known, shows.trans showsOld.1, showsOld.2⟩
      · have inside : submission ∈ (Function.update nodes i { nodes i with pool := reached } i).pool.submissions := by
          rw [Function.update_self]
          exact inReached
        exact ⟨received, ⟨inEvents, i, submission, inside, handles.prepared, handles.accepted (.written isSome)⟩,
          shown_submitted submission received (schema received inEvents) handles storable r carries⟩
    next =>
      obtain ⟨origin, known, shows⟩ := sourced.rows k r member
      exact ⟨origin, admitted_grows events nodes _ grows origin known, shows⟩
  · intro k sent member
    have inNodes : sent ∈ (nodes k).mirrored := by
      rw [Function.update_apply] at member
      split at member
      next same => exact same ▸ member
      next => exact member
    obtain ⟨origin, known, shows⟩ := sourced.mirrored k sent inNodes
    exact ⟨origin, admitted_grows events nodes _ grows origin known, shows⟩

include schema in
theorem sourced_preserved : Preserves (step (ι := ι)) (Allowed events) (Sourced events) := by
  intro nodes action reached sourced ok taken
  cases action with
  | act i action =>
    obtain ⟨pool, moved, rfl⟩ := Option.map_eq_some_iff.mp taken
    exact act_sourced events schema nodes sourced i pool
      (pool_moves events (nodes i).pool pool action (sourced.handled i) ok moved)
  | hear i j source members worker fates =>
    obtain ⟨event, offered, rfl⟩ := Option.map_eq_some_iff.mp taken
    exact hear_sourced events nodes sourced i j source event offered worker fates members (ok event offered)
      (offers_schema events schema nodes sourced i source event offered)

include schema in
theorem run_sourced (trace : List (Action ι)) (final : ι → Node)
    (run : Run step (Allowed events) (fun _ => {}) trace final) : Sourced events final :=
  run.invariant (sourced_preserved events schema) ⟨by simp [Handled], by simp, by simp⟩

end Steps

def submitted : List (Action Side) := [.act .left (.submit openHandler note), .act .left (.advance 0 {})]

def heard : Action Side := .hear .left .right (.row 0) (eventMembers note) MirrorAgreement.mirrorWorker {}

def justNote : Set Event := {event | event ∈ [note]}

theorem justNote_traffic : Traffic justNote where
  schema := show ∀ event ∈ [note], eventSchema event = true by decide +kernel
  sameFields := show ∀ a ∈ [note], ∀ b ∈ [note], a.id = b.id → SameSignedFields a b by decide +kernel

theorem note_submitted : ∃ final reached : Side → Node,
    Run step (Allowed justNote) (fun _ => {}) submitted final ∧
      Run step (Allowed justNote) (fun _ => {}) (submitted ++ [heard]) reached ∧
      (final .left).offers (.row 0) = some note ∧ (reached .right).pool.table.map toNostrEvent = [note] := by
  have ran : (((step (fun _ : Side => {}) (.act .left (.submit openHandler note))).bind fun first =>
      step first (.act .left (.advance 0 {}))).bind fun final => (step final heard).map fun reached =>
        ((final .left).offers (.row 0), (reached .right).pool.table.map toNostrEvent)) = some (some note, [note]) := by
    decide +kernel
  obtain ⟨final, started, ended⟩ := Option.bind_eq_some_iff.mp ran
  obtain ⟨first, isFirst, isFinal⟩ := Option.bind_eq_some_iff.mp started
  obtain ⟨reached, hears, facts⟩ := Option.map_eq_some_iff.mp ended
  rw [Prod.mk.injEq] at facts
  have inEvents (_ : passes openHandler note = true) : note ∈ justNote := List.mem_singleton_self note
  have ok : Allowed justNote final heard := fun event offered => by
    rw [facts.1, Option.some.injEq] at offered
    rw [← offered]
  exact ⟨final, reached, .next inEvents isFirst (.next trivial isFinal (.done final)),
    .next inEvents isFirst (.next trivial isFinal (.next ok hears (.done reached))), facts⟩

variable (events : Set Event)

theorem copies_faithful (schema : ∀ event ∈ events, eventSchema event = true)
    (trace : List (Action ι)) (final : ι → Node) (run : Run step (Allowed events) (fun _ => {}) trace final) (i : ι) :
    (∀ r ∈ (final i).pool.table, ∃ received, Admitted events final received ∧ toNostrEvent r = stored received) ∧
      ∀ source event, (final i).offers source = some event → ∃ received, Admitted events final received ∧
        (onWire event = onWire received ∨ onWire event = stored received) := by
  have sourced := run_sourced events schema trace final run
  refine ⟨fun r member => ?_, offers_sourced events final sourced i⟩
  obtain ⟨received, admitted, shows, _⟩ := sourced.rows i r member
  exact ⟨received, admitted, shows⟩

theorem note_copied : ∃ reached : Side → Node,
    Run step (Allowed justNote) (fun _ => {}) (submitted ++ [heard]) reached ∧
      (reached .right).pool.table.map toNostrEvent = [note] ∧
      ∀ r ∈ (reached .right).pool.table, ∃ received, Admitted justNote reached received ∧
        toNostrEvent r = stored received := by
  obtain ⟨_, reached, _, run, _, copied⟩ := note_submitted
  exact ⟨reached, run, copied,
    (copies_faithful justNote justNote_traffic.schema (submitted ++ [heard]) reached run .right).1⟩

theorem unsigned_stored (traffic : Traffic events) (a b : Event) (inA : a ∈ events) (inB : b ∈ events)
    (same : a.id = b.id) : unsigned (stored a) = unsigned (stored b) := by
  obtain ⟨pubkey, createdAt, kind, tags, content⟩ := traffic.sameFields a inA b inB same
  simp only [unsigned, stored, same, pubkey, createdAt, kind, tags, content]

theorem rows_taken_over (traffic : Traffic events) (trace : List (Action ι)) (final : ι → Node)
    (run : Run step (Allowed events) (fun _ => {}) trace final) (i j : ι) (k : Nat) (event : Event)
    (offered : (final i).offers (.row k) = some event) (worker : StaticMirroringWorker)
    (accepted : worker.accepts (onWire event) = .ok true) (fates : Fates) (reaches : writes fates.insert = true)
    (members : List (JsString × JsonValue)) (object : members.Perm (eventMembers event)) :
    ∃ reached, step final (.hear i j (.row k) members worker fates) = some reached ∧
      ∃ r ∈ (reached j).pool.table, unsigned (toNostrEvent r) = unsigned event := by
  have sourced := run_sourced events traffic.schema trace final run
  have valid := offers_schema events traffic.schema final sourced i (.row k) event offered
  refine ⟨Function.update final j (hearing worker fates members (final j)), ?_, ?_⟩
  · rw [step, offered, Option.map_some]
  obtain ⟨row, live, rfl⟩ := Option.map_eq_some_iff.mp offered
  obtain ⟨found, _⟩ := Option.filter_eq_some_iff.mp live
  obtain ⟨received, admitted, shows, storable⟩ := sourced.rows i row (List.mem_of_getElem? found)
  have sent : onWire (toNostrEvent row) = stored received := by rw [shows]; rfl
  rw [Function.update_self, heard_table worker fates members (final j) _ valid object, if_pos accepted, sent, create_eq]
  obtain ⟨_, shape⟩ := addExpirationMetadata_eq (stored received)
  have sameId : ofHex (addExpirationMetadata (stored received)).id = row.eventId := by
    rw [shape]
    have id := congrArg Event.id shows
    rw [show (stored received).id = toHex row.eventId from id.symm, ofHex_toHex]
  by_cases known : hasId (final j).pool.table row.eventId = true
  · obtain ⟨r, member, id⟩ := (hasId_iff ..).mp known
    obtain ⟨other, alsoAdmitted, otherShows, _⟩ := sourced.rows j r member
    refine ⟨r, ?_, ?_⟩
    · dsimp only
      split
      · exact List.mem_append_left _ member
      · exact member
    · have ids : other.id = received.id := by
        have ofOther : toHex r.eventId = other.id := congrArg Event.id otherShows
        have ofReceived : toHex row.eventId = received.id := congrArg Event.id shows
        rw [← ofOther, ← ofReceived, id]
      rw [otherShows, shows, unsigned_stored events traffic other received alsoAdmitted.1 admitted.1 ids]
  · have inserted : inserts fates.insert (addExpirationMetadata (stored received)) (final j).pool.table = true := by
      rw [Bool.not_eq_true] at known
      simp only [inserts, Bool.and_eq_true, Bool.not_eq_true', sameId, known]
      exact ⟨⟨storable, reaches⟩, trivial⟩
    refine ⟨(insertRow (addExpirationMetadata (stored received))).stored, ?_, ?_⟩
    · dsimp only
      rw [if_pos inserted]
      exact List.mem_append_right _ (List.mem_singleton_self _)
    · have validStored : eventSchema (addExpirationMetadata (stored received)) = true := by
        rw [shape]
        exact traffic.schema received admitted.1
      rw [shown_stored _ validStored storable, (stored_expiring _).1, stored_stored, shows]

end Network

theorem note_taken_over : ∃ final : Side → Node, Run step (Allowed justNote) (fun _ => {}) submitted final ∧
    ∃ reached, step final heard = some reached ∧
      ∃ r ∈ (reached .right).pool.table, unsigned (toNostrEvent r) = unsigned note := by
  obtain ⟨final, _, run, _, offered, _⟩ := note_submitted
  have accepted : MirrorAgreement.mirrorWorker.accepts (onWire note) = .ok true := by decide +kernel
  exact ⟨final, run, rows_taken_over justNote justNote_traffic submitted final run .left .right 0 note offered
    MirrorAgreement.mirrorWorker accepted {} rfl (eventMembers note) (.refl _)⟩

end Nostream.RelayNetwork
