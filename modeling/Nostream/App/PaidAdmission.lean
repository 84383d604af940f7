import Nostream.App.MaintenanceWorker
import Nostream.Controllers.RequestedFees
import Nostream.Handlers.TracedRows
import Nostream.Services.PaymentFailures
import Nostream.Shared.Origins

set_option autoImplicit false

namespace Nostream.PaidAdmission

open Utf16 Hex Effects MaintenanceWorker MessageStages SubmissionStages SubmissionPool TracedRows Slots PaymentFailures
open PaymentsService PostInvoiceController
open Runs hiding execute

def findByPubkey (tables : PaymentTables) (pubkey : JsString) : Option User :=
  (tables.users.get (ofHex pubkey)).map fun user => { isAdmitted := user.isAdmitted, balance := user.balance }

def lookedUp (tables : PaymentTables) (lookup : Option Thrown) (pubkey : JsString) : Except Thrown (Option User) :=
  match lookup with
  | some reason => .error reason
  | none => .ok (findByPubkey tables pubkey)

structure Relay where
  maintenance : Maintenance
  pool : Pool := { table := [], submissions := [] }

inductive Action where
  | maintain (action : MaintenanceWorker.Action)
  | invoice (controller : PostInvoiceController) (limited : Bool) (lookup : Option Thrown) (fates : CreationFates)
      (body : Option Json.JsonValue)
  | submit (handler : EventMessageHandler) (lookup : Option Thrown) (received : Event)
  | advance (i : Nat) (fates : Fates)

namespace Relay

variable (relay : Relay)

def tables : PaymentTables := relay.maintenance.tables

def invoiced (controller : PostInvoiceController) (limited : Bool) (lookup : Option Thrown) (fates : CreationFates)
    (body : Option Json.JsonValue) : PaymentTables :=
  ((controller.handleRequest limited (lookedUp relay.tables lookup) fates body).run { tables := relay.tables }).2.tables

def step : Action → Option Relay
  | .maintain action =>
    (MaintenanceWorker.step relay.maintenance action).map fun maintenance => { relay with maintenance := maintenance }
  | .invoice controller limited lookup fates body =>
    some { relay with
      maintenance := { relay.maintenance with tables := relay.invoiced controller limited lookup fates body } }
  | .submit handler lookup received =>
    (SubmissionPool.step relay.pool (.submit { handler with findByPubkey := lookedUp relay.tables lookup } received)).map
      fun pool => { relay with pool := pool }
  | .advance i fates => (SubmissionPool.step relay.pool (.advance i fates)).map fun pool => { relay with pool := pool }

end Relay

def SubmitsFrom (events : Set Event) (_ : Relay) : Action → Prop
  | .submit _ _ received => received ∈ events
  | _ => True

instance (listed : List Event) (relay : Relay) : DecidablePred (SubmitsFrom {event | event ∈ listed} relay)
  | .submit _ _ received => inferInstanceAs (Decidable (received ∈ listed))
  | .maintain _ => .isTrue trivial
  | .invoice .. => .isTrue trivial
  | .advance .. => .isTrue trivial

section Requests

variable (tables : PaymentTables) (controller : PostInvoiceController)
  (find : JsString → Except Thrown (Option User)) (fates : CreationFates) (body : Option Json.JsonValue)

def Issues (pubkey : JsString) (amount : Int) (reached : PaymentTables) : Prop :=
  reached = tables ∨ ∃ description response,
    controller.processor { amount, description, requestId := pubkey } = .ok response ∧
      reached = created pubkey tables response

def Invoices (reached : PaymentTables) : Prop :=
  reached = tables ∨ ∃ pubkey amount, controller.requestedInvoice find body = .ok (.ok (pubkey, amount)) ∧
    Issues tables controller pubkey amount reached

theorem issue_issues (pubkey : JsString) (amount : Int) :
    Issues tables controller pubkey amount ((controller.issue fates pubkey amount).run { tables := tables }).2.tables := by
  unfold PostInvoiceController.issue
  rw [bind_run, answer_run]
  cases toBech32 controller.bech32 (js "npub") pubkey with
  | error reason => exact .inl rfl
  | ok npub =>
    dsimp only
    rw [createInvoice_tables]
    split
    next => exact .inl rfl
    next response made =>
      split
      next => exact .inr ⟨_, response, made, rfl⟩
      next => exact .inl rfl

theorem answered_state {α : Type} (issuing : Paying α) (session : Session) :
    ((handle (some <$> issuing) fun _ => pure none).run session).2 = (issuing.run session).2 := by
  have mapped : (some <$> issuing) = issuing >>= fun value => pure (some value) := rfl
  rw [handle_run, mapped, bind_run]
  rcases issuing.run session with ⟨reason | value, reached⟩ <;> rfl

theorem handleRequest_invoices (limited : Bool) :
    Invoices tables controller find body
      ((controller.handleRequest limited find fates body).run { tables := tables }).2.tables := by
  unfold PostInvoiceController.handleRequest
  cases limited with
  | true => exact .inl rfl
  | false =>
    rw [if_neg Bool.false_ne_true, bind_run, answer_run]
    cases requested : controller.requestedInvoice find body with
    | error reason => exact .inl rfl
    | ok answer =>
      rcases answer with response | ⟨pubkey, amount⟩
      · exact .inl rfl
      · have issued := issue_issues tables controller fates pubkey amount
        rw [← answered_state] at issued
        refine .inr ⟨pubkey, amount, requested, ?_⟩
        dsimp only
        rw [bind_run]
        generalize (handle (some <$> controller.issue fates pubkey amount) fun _ => pure none).run
          { tables := tables } = outcome at issued ⊢
        rcases outcome with ⟨reason | _ | invoice, reached⟩
        · exact issued
        · exact issued
        · dsimp only
          rw [bind_run, answer_run]
          cases controller.relayPubkey controller.relayUrl <;> exact issued

end Requests

section Admission

variable (tables : PaymentTables) (pubkey : Bytes)

theorem created_isAdmitted (requestId : JsString) (response : CreateInvoiceResponse) :
    (created requestId tables response).isAdmitted pubkey = tables.isAdmitted pubkey := by
  unfold PaymentTables.isAdmitted created PaymentTables.upsertInvoice PaymentTables.upsertUser
  dsimp only
  rw [InsertionMap.get_set]
  split
  next same =>
    subst same
    cases tables.users.get (ofHex requestId) <;> rfl
  next => rfl

theorem created_get (requestId : JsString) (response : CreateInvoiceResponse) (id : JsString) :
    (created requestId tables response).invoices.get id =
      if id = response.id then
        some (match tables.invoices.get response.id with
          | none =>
            { pubkey := ofHex requestId, amountRequested := response.amountRequested, unit := some response.unit
              status := some response.status }
          | some invoice => { invoice with status := some response.status })
      else tables.invoices.get id := by
  unfold created PaymentTables.upsertInvoice
  dsimp only
  rw [InsertionMap.get_set]
  rfl

theorem confirmInvoice_admitted (settings : Settings) (now : Int) (fates : TransactionFates) (invoice : Invoice)
    (admitted : ((PaymentsService.confirmInvoice settings now fates invoice).run
      { tables := tables }).2.tables.isAdmitted pubkey = true) :
    tables.isAdmitted pubkey = true ∨ (ofHex invoice.pubkey = pubkey ∧
      ∃ amountPaid confirmedAt, payment invoice = .ok (amountPaid, confirmedAt) ∧
        admits settings invoice amountPaid = true) := by
  cases ready : payment invoice with
  | error reason =>
    rw [confirmInvoice_refused settings now fates invoice tables reason ready] at admitted
    exact .inl admitted
  | ok paid =>
    obtain ⟨amountPaid, confirmedAt⟩ := paid
    rw [confirmInvoice_tables settings now fates invoice tables amountPaid confirmedAt ready] at admitted
    split at admitted
    next =>
      unfold confirmed at admitted
      split at admitted
      next fees =>
        rw [PaymentTables.upsertUser_isAdmitted, PaymentTables.confirmInvoice_isAdmitted, Bool.or_eq_true,
          decide_eq_true_eq] at admitted
        exact admitted.imp id fun same => ⟨same.symm, amountPaid, confirmedAt, rfl, fees⟩
      next =>
        rw [PaymentTables.confirmInvoice_isAdmitted] at admitted
        exact .inl admitted
    next => exact .inl admitted

end Admission

section Passes

theorem statusUpdate_start (rest : List Invoice) : (Pass.start rest).statusUpdate = none := by
  cases rest <;> rfl

theorem statusUpdate_afterAnswer (invoice : Invoice) (rest : List Invoice) (answer : Option Answer)
    (update : StatusUpdate) (found : (Pass.afterAnswer invoice rest answer).statusUpdate = some update) :
    answer = some update.answer ∧ invoice = update.invoice ∧ update.answer.status = some update.status := by
  unfold Pass.afterAnswer at found
  split at found
  next given =>
    split at found
    next id status isId isStatus =>
      cases found
      exact ⟨rfl, rfl, isStatus⟩
    next =>
      rw [statusUpdate_start] at found
      cases found
  next =>
    rw [statusUpdate_start] at found
    cases found

end Passes

section Steps

variable (relay reached : Relay) (action : Action) (taken : relay.step action = some reached)

include taken

theorem step_admitted (pubkey : Bytes) (admitted : reached.tables.isAdmitted pubkey = true) :
    relay.tables.isAdmitted pubkey = true ∨ ∃ j settings now fates invoice amountPaid confirmedAt,
      action = .maintain (.confirm j settings now fates) ∧ relay.maintenance.confirmations[j]? = some invoice ∧
        ofHex invoice.pubkey = pubkey ∧ payment invoice = .ok (amountPaid, confirmedAt) ∧
          admits settings invoice amountPaid = true := by
  have updated (id : JsString) (status : InvoiceStatus)
      (still : (relay.maintenance.tables.updateStatus id status).isAdmitted pubkey = true) :
      relay.tables.isAdmitted pubkey = true := by
    rwa [PaymentTables.isAdmitted, (PaymentTables.updateStatus_users relay.maintenance.tables id status).1] at still
  cases action with
  | maintain action =>
    rw [Relay.step] at taken
    obtain ⟨maintenance, moved, rfl⟩ := Option.map_eq_some_iff.mp taken
    cases MaintenanceWorker.step_cases relay.maintenance maintenance action moved with
    | schedule => exact .inl admitted
    | moved => exact .inl admitted
    | updated i fate update rest =>
      refine .inl ?_
      dsimp only [Relay.tables] at admitted
      split at admitted
      · exact updated _ _ admitted
      · exact admitted
    | confirming i update rest => exact .inl (updated _ _ admitted)
    | confirmed j settings now fates invoice failed found =>
      refine (confirmInvoice_admitted relay.maintenance.tables pubkey settings now fates invoice admitted).imp id ?_
      rintro ⟨payee, amountPaid, confirmedAt, ready, fees⟩
      exact ⟨j, settings, now, fates, invoice, amountPaid, confirmedAt, rfl, found, payee, ready, fees⟩
  | invoice controller limited lookup fates body =>
    cases taken
    refine .inl ?_
    have made := handleRequest_invoices relay.tables controller (lookedUp relay.tables lookup) fates body limited
    change (relay.invoiced controller limited lookup fates body).isAdmitted pubkey = true at admitted
    rcases made with same | ⟨payer, amount, _, same | ⟨description, response, _, created⟩⟩
    · rwa [Relay.invoiced, same] at admitted
    · rwa [Relay.invoiced, same] at admitted
    · rwa [Relay.invoiced, created, created_isAdmitted] at admitted
  | submit handler lookup received =>
    rw [Relay.step] at taken
    obtain ⟨pool, _, rfl⟩ := Option.map_eq_some_iff.mp taken
    exact .inl admitted
  | advance i fates =>
    rw [Relay.step] at taken
    obtain ⟨pool, _, rfl⟩ := Option.map_eq_some_iff.mp taken
    exact .inl admitted

theorem step_confirmation (invoice : Invoice) (member : invoice ∈ reached.maintenance.confirmations) :
    invoice ∈ relay.maintenance.confirmations ∨ ∃ i update rest, action = .maintain (.updateStatus i .completes) ∧
      relay.maintenance.passes[i]? = some (.updating update rest) ∧ update.confirms = true ∧ invoice = update.merged := by
  cases action with
  | maintain action =>
    rw [Relay.step] at taken
    obtain ⟨maintenance, moved, rfl⟩ := Option.map_eq_some_iff.mp taken
    cases MaintenanceWorker.step_cases relay.maintenance maintenance action moved with
    | schedule => exact .inl member
    | moved => exact .inl member
    | updated => exact .inl member
    | confirming i update rest found confirms =>
      refine (List.mem_append.mp member).imp id fun new => ?_
      exact ⟨i, update, rest, rfl, found, confirms, List.mem_singleton.mp new⟩
    | confirmed => exact .inl (List.mem_of_mem_eraseIdx member)
  | invoice =>
    cases taken
    exact .inl member
  | submit handler lookup received =>
    rw [Relay.step] at taken
    obtain ⟨pool, _, rfl⟩ := Option.map_eq_some_iff.mp taken
    exact .inl member
  | advance i fates =>
    rw [Relay.step] at taken
    obtain ⟨pool, _, rfl⟩ := Option.map_eq_some_iff.mp taken
    exact .inl member

def Updating (relay : Relay) (update : StatusUpdate) : Prop :=
  ∃ pass ∈ relay.maintenance.passes, pass.statusUpdate = some update

theorem step_updating (update : StatusUpdate) (updating : Updating reached update) : Updating relay update ∨
    ∃ i rest, action = .maintain (.answer i (some update.answer)) ∧
      relay.maintenance.passes[i]? = some (.asking update.invoice rest) ∧ update.answer.status = some update.status := by
  have idle (i : Nat) (pass : Pass) (none : pass.statusUpdate = none)
      (found : ∃ other ∈ relay.maintenance.passes.set i pass, other.statusUpdate = some update) :
      Updating relay update := by
    obtain ⟨other, member, isUpdate⟩ := found
    rcases mem_set_cases member with rfl | old
    · rw [none] at isUpdate
      cases isUpdate
    · exact ⟨other, old, isUpdate⟩
  cases action with
  | maintain action =>
    rw [Relay.step] at taken
    obtain ⟨maintenance, moved, rfl⟩ := Option.map_eq_some_iff.mp taken
    cases action with
    | schedule found =>
      rw [MaintenanceWorker.step] at moved
      split at moved
      next =>
        cases moved
        obtain ⟨pass, member, isUpdate⟩ := updating
        rcases List.mem_append.mp member with old | new
        · exact .inl ⟨pass, old, isUpdate⟩
        · rw [List.mem_singleton.mp new, statusUpdate_start] at isUpdate
          cases isUpdate
      next => cases moved
    | answer i answer =>
      rw [MaintenanceWorker.step] at moved
      split at moved
      next invoice rest found =>
        cases moved
        obtain ⟨pass, member, isUpdate⟩ := updating
        rcases mem_set_cases member with rfl | old
        · obtain ⟨given, asked, status⟩ := statusUpdate_afterAnswer invoice rest answer update isUpdate
          exact .inr ⟨i, rest, by rw [given], asked ▸ found, status⟩
        · exact .inl ⟨pass, old, isUpdate⟩
      next => cases moved
    | updateStatus i fate =>
      rw [MaintenanceWorker.step] at moved
      split at moved
      next other rest found =>
        dsimp only at moved
        split at moved
        next =>
          cases moved
          exact .inl (idle i (.confirming rest) rfl updating)
        next =>
          cases moved
          exact .inl (idle i (.start rest) (statusUpdate_start rest) updating)
      next => cases moved
    | confirm j settings now fates =>
      obtain ⟨invoice, _, rfl⟩ := Option.map_eq_some_iff.mp moved
      exact .inl updating
    | goOn i =>
      rw [MaintenanceWorker.step] at moved
      split at moved
      next rest found =>
        cases moved
        exact .inl (idle i (.start rest) (statusUpdate_start rest) updating)
      next => cases moved
  | invoice =>
    cases taken
    exact .inl updating
  | submit handler lookup received =>
    rw [Relay.step] at taken
    obtain ⟨pool, _, rfl⟩ := Option.map_eq_some_iff.mp taken
    exact .inl updating
  | advance i fates =>
    rw [Relay.step] at taken
    obtain ⟨pool, _, rfl⟩ := Option.map_eq_some_iff.mp taken
    exact .inl updating

end Steps

def Handling (relay : Relay) (submission : Submission) : Prop :=
  ∃ other ∈ relay.pool.submissions, other.handler = submission.handler ∧ other.event = submission.event

theorem step_handling (relay reached : Relay) (action : Action) (taken : relay.step action = some reached)
    (submission : Submission) (handling : Handling reached submission) : Handling relay submission ∨
      ∃ handler lookup received, action = .submit handler lookup received ∧
        submission.handler = { handler with findByPubkey := lookedUp relay.tables lookup } := by
  cases action with
  | maintain action =>
    rw [Relay.step] at taken
    obtain ⟨maintenance, _, rfl⟩ := Option.map_eq_some_iff.mp taken
    exact .inl handling
  | invoice =>
    cases taken
    exact .inl handling
  | submit handler lookup received =>
    rw [Relay.step] at taken
    obtain ⟨pool, moved, rfl⟩ := Option.map_eq_some_iff.mp taken
    cases moved
    obtain ⟨other, member, sameHandler, sameEvent⟩ := handling
    rcases List.mem_append.mp member with old | new
    · exact .inl ⟨other, old, sameHandler, sameEvent⟩
    · rw [List.mem_singleton.mp new] at sameHandler
      exact .inr ⟨handler, lookup, received, rfl, sameHandler.symm⟩
  | advance i fates =>
    rw [Relay.step] at taken
    obtain ⟨pool, moved, rfl⟩ := Option.map_eq_some_iff.mp taken
    obtain ⟨advancing, found, advanced⟩ := Option.bind_eq_some_iff.mp moved
    obtain ⟨⟨_, table⟩, ran, rfl⟩ := Option.map_eq_some_iff.mp advanced
    obtain ⟨other, member, sameHandler, sameEvent⟩ := handling
    rcases mem_set_cases member with rfl | old
    · refine .inl ⟨advancing, List.mem_of_getElem? found, ?_⟩
      cases advance_cases fates advancing other relay.pool.table table ran <;> exact ⟨sameHandler, sameEvent⟩
    · exact .inl ⟨other, old, sameHandler, sameEvent⟩

theorem pool_traced (events : Set Event) (allowed : Relay → Action → Prop)
    (submits : ∀ relay action, allowed relay action → SubmitsFrom events relay action) :
    Preserves Relay.step allowed fun relay => Traced (fun _ received => received ∈ events) relay.pool := by
  intro relay action reached traced ok taken
  have sent := submits relay action ok
  cases action with
  | maintain action =>
    rw [Relay.step] at taken
    obtain ⟨maintenance, _, rfl⟩ := Option.map_eq_some_iff.mp taken
    exact traced
  | invoice =>
    cases taken
    exact traced
  | submit handler lookup received =>
    rw [Relay.step] at taken
    obtain ⟨pool, moved, rfl⟩ := Option.map_eq_some_iff.mp taken
    exact traced_preserved (fun _ received => received ∈ events) relay.pool
      (.submit { handler with findByPubkey := lookedUp relay.tables lookup } received) pool traced sent moved
  | advance i fates =>
    rw [Relay.step] at taken
    obtain ⟨pool, moved, rfl⟩ := Option.map_eq_some_iff.mp taken
    exact traced_preserved _ relay.pool (.advance i fates) pool traced trivial moved

theorem admission_none (handler : EventMessageHandler) (user : Option User) (admits : handler.admission user = none) :
    ∃ known, user = some known ∧ known.isAdmitted = true ∧
      (0 < handler.minBalance → handler.minBalance ≤ known.balance) := by
  unfold EventMessageHandler.admission at admits
  split at admits
  next => cases admits
  next known =>
    split_ifs at admits with unadmitted poor
    rw [Bool.not_eq_true, Bool.not_eq_false'] at unadmitted
    rw [not_and, not_lt] at poor
    exact ⟨known, rfl, unadmitted, poor⟩

section Runs

variable (opening : PaymentTables) (allowed : Relay → Action → Prop)

def opened : Relay := { maintenance := { tables := opening } }

/-- A confirmation that lets the pubkey in: of an invoice that the processor has called completed, over an amount that
meets the fees. -/
structure Payment (before : List Action) (relay : Relay) (j : Nat) (settings : Settings) (pubkey : Bytes)
    (update : StatusUpdate) : Prop where
  confirms : relay.maintenance.confirmations[j]? = some update.merged
  payee : ofHex update.merged.pubkey = pubkey
  fees : admits settings update.merged update.invoice.amountRequested = true
  completed : update.answer.status = some .completed
  dated : update.answer.confirmedAt.isSome = true
  answered : ∃ i rest asking reached, Taken Relay.step allowed (opened opening) before asking
    (.maintain (.answer i (some update.answer))) reached ∧
      asking.maintenance.passes[i]? = some (.asking update.invoice rest)

def HasPaid (trace : List Action) (pubkey : Bytes) : Prop :=
  ∃ before j settings now fates after relay update,
    trace = before ++ .maintain (.confirm j settings now fates) :: after ∧
      Run Relay.step allowed (opened opening) before relay ∧
        Payment opening allowed before relay j settings pubkey update

theorem admitted_paid (trace : List Action) (final : Relay)
    (run : Run Relay.step allowed (opened opening) trace final) (pubkey : Bytes)
    (admitted : final.tables.isAdmitted pubkey = true) :
    opening.isAdmitted pubkey = true ∨ HasPaid opening allowed trace pubkey := by
  refine (run.introduced (fun relay => relay.tables.isAdmitted pubkey = true) admitted).imp id ?_
  rintro ⟨relay, action, reached, ⟨⟨before, after, same, toRelay⟩, _, taken⟩, unadmitted, made⟩
  obtain ⟨j, settings, now, fates, invoice, amountPaid, confirmedAt, rfl, found, payee, ready, fees⟩ :=
    (step_admitted relay reached action taken pubkey made).resolve_left unadmitted
  -- The invoice has come in with an update of its status, and the update with an answer.
  rcases toRelay.introduced (fun relay => invoice ∈ relay.maintenance.confirmations) (List.mem_of_getElem? found) with
    none | ⟨updating, action, updated, ⟨⟨earlier, later, split, toUpdating⟩, _, takenUpdate⟩, unconfirmed, confirming⟩
  · cases none
  obtain ⟨i, update, rest, _, isUpdating, confirms, rfl⟩ :=
    (step_confirmation updating updated action takenUpdate invoice confirming).resolve_left unconfirmed
  rcases toUpdating.introduced (fun relay => Updating relay update) ⟨_, List.mem_of_getElem? isUpdating, rfl⟩ with
    ⟨_, none, _⟩ | ⟨asking, action, answered, takenAnswer, unasked, answering⟩
  · cases none
  obtain ⟨k, others, rfl, isAsking, status⟩ :=
    (step_updating asking answered action takenAnswer.taken update answering).resolve_left unasked
  simp only [StatusUpdate.confirms, Bool.and_eq_true, beq_iff_eq] at confirms
  have paid : amountPaid = update.invoice.amountRequested := by
    have merged := ((payment_ok update.merged amountPaid confirmedAt).mp ready).2.2
    exact (Option.some.inj merged).symm
  refine ⟨before, j, settings, now, fates, after, relay, update, same, toRelay, found, payee, paid ▸ fees, ?_,
    confirms.2, k, others, asking, answered, split ▸ takenAnswer.within, isAsking⟩
  rw [status, confirms.1.2]

structure SubmittedPaid (trace : List Action) (submission : Submission) (pubkey : Bytes) (before : List Action)
    (relay : Relay) : Prop where
  submitted : ∃ handler lookup received after, trace = before ++ .submit handler lookup received :: after ∧
    submission.handler = { handler with findByPubkey := lookedUp relay.tables lookup }
  run : Run Relay.step allowed (opened opening) before relay
  paid : opening.isAdmitted pubkey = true ∨ HasPaid opening allowed before pubkey
  balance : 0 < submission.handler.minBalance → submission.handler.minBalance ≤ relay.tables.getBalanceByPubkey pubkey

theorem stored_allowed (events : Set Event) (submits : ∀ relay action, allowed relay action → SubmitsFrom events relay action)
    (trace : List Action) (final : Relay) (run : Run Relay.step allowed (opened opening) trace final) :
    ∀ r ∈ final.pool.table, ∃ submission ∈ final.pool.submissions, Carries submission.event r ∧
      (submission.handler.looksUpUser submission.event = true →
        ∃ before relay, SubmittedPaid opening allowed trace submission r.eventPubkey before relay) := by
  intro r member
  have traced := run.invariant (pool_traced events allowed submits)
    ⟨by simp [Handled, opened], List.Pairwise.nil, by simp [opened], by simp [opened]⟩
  obtain ⟨submission, inPool, wrote, carries⟩ := traced.rows r member
  obtain ⟨received, inEvents, handles⟩ := traced.handled submission inPool
  refine ⟨submission, inPool, carries, fun asks => ?_⟩
  rcases run.introduced (fun relay => Handling relay submission) ⟨submission, inPool, rfl, rfl⟩ with
    ⟨_, none, _⟩ | ⟨relay, action, reached, ⟨⟨before, after, same, toRelay⟩, _, taken⟩, unsubmitted, handling⟩
  · cases none
  obtain ⟨handler, lookup, sent, rfl, handledBy⟩ :=
    (step_handling relay reached action taken submission handling).resolve_left unsubmitted
  have accepted := handles.accepted (.written wrote.1)
  rw [handles.prepared] at asks
  have asked : userLookup submission.handler (prepared submission.handler received) =
      some (submission.handler.findByPubkey (prepared submission.handler received).pubkey) := if_pos asks
  obtain ⟨user, found, admits⟩ := accepted.admitted _ asked
  obtain ⟨known, rfl, admitted, balance⟩ := admission_none submission.handler user admits
  have author : r.eventPubkey = ofHex (prepared submission.handler received).pubkey := by
    rw [carries.isRow.eventPubkey, handles.prepared]
  have looks : submission.handler.findByPubkey = lookedUp relay.tables lookup := by rw [handledBy]
  rw [looks] at found
  dsimp only [lookedUp] at found
  split at found
  next => cases found
  next =>
    rw [Except.ok.injEq] at found
    obtain ⟨row, stored, rfl⟩ := Option.map_eq_some_iff.mp found
    rw [← author] at stored
    refine ⟨before, relay, ⟨handler, _, sent, after, same, handledBy⟩, toRelay, ?_, fun positive => ?_⟩
    · refine admitted_paid opening allowed before relay toRelay r.eventPubkey ?_
      rw [PaymentTables.isAdmitted, stored]
      exact admitted
    · rw [PaymentTables.getBalanceByPubkey, stored]
      exact balance positive

end Runs

theorem stored_paid (opening : PaymentTables) (events : Set Event) (trace : List Action) (final : Relay)
    (run : Run Relay.step (SubmitsFrom events) (opened opening) trace final) :
    ∀ r ∈ final.pool.table, ∃ submission ∈ final.pool.submissions, Carries submission.event r ∧
      (submission.handler.looksUpUser submission.event = true →
        ∃ before relay, SubmittedPaid opening (SubmitsFrom events) trace submission r.eventPubkey before relay) :=
  stored_allowed opening (SubmitsFrom events) events (fun _ _ ok => ok) trace final run

open RequestedFees

def feeSettings : Settings :=
  { (charging 1000).settings with limits := some { event := some { pubkey := some { minBalance := some 500 } } } }

def issuing : PostInvoiceController :=
  { charging 1000 with
    bech32 := { (charging 1000).bech32 with encode := fun _ _ => .ok (js "npub1payer") }
    settings := feeSettings }

def feeHandler : EventMessageHandler := { openHandler with settings := feeSettings }

def authorRequest : Json.JsonValue :=
  .object [(js "tosAccepted", .string (js "yes")), (js "feeSchedule", .string (js "admission")),
    (js "pubkey", .string note.pubkey)]

def feeInvoice : DBInvoice :=
  { pubkey := ofHex note.pubkey, amountRequested := 1000, unit := some .msats, status := some .pending }

def paidAnswer : Answer :=
  { id := some (js "invoice"), status := some .completed, confirmedAt := some 1700000000 }

def nobody : PaymentTables := { invoices := .empty, users := .empty }

def paidAndNote : List Action :=
  [.invoice issuing false none {} (some authorRequest), .maintain (.schedule [(js "invoice", feeInvoice)]),
    .maintain (.answer 0 (some paidAnswer)), .maintain (.updateStatus 0 .completes),
    .maintain (.confirm 0 feeSettings 1700000000 {}), .submit feeHandler none note, .advance 0 {}]

theorem paid_note_stored :
    ∃ final, Run Relay.step (SubmitsFrom {event | event ∈ [note]}) (opened nobody) paidAndNote final ∧
      final.tables.getBalanceByPubkey (ofHex note.pubkey) = 1000 ∧ final.pool.table.length = 1 ∧
      ∀ r ∈ final.pool.table, ∃ submission ∈ final.pool.submissions, Carries submission.event r ∧
        (submission.handler.looksUpUser submission.event = true → ∃ before relay,
          SubmittedPaid nobody (SubmitsFrom {event | event ∈ [note]}) paidAndNote submission r.eventPubkey before
            relay) := by
  have ran : (Runs.execute Relay.step (SubmitsFrom {event | event ∈ [note]}) (opened nobody) paidAndNote).map
      (fun final => (final.tables.getBalanceByPubkey (ofHex note.pubkey), final.pool.table.length)) =
        some (1000, 1) := by decide +kernel
  obtain ⟨final, executed, values⟩ := Option.map_eq_some_iff.mp ran
  rw [Prod.mk.injEq] at values
  have run := run_of_execute executed
  exact ⟨final, run, values.1, values.2, stored_paid nobody {event | event ∈ [note]} paidAndNote final run⟩

end Nostream.PaidAdmission
