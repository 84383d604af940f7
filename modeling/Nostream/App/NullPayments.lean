import Nostream.App.PaidAdmission

set_option autoImplicit false

namespace Nostream

open Utf16 Hex

structure IPaymentsProcessor where
  getInvoice : JsString → Answer
  createInvoice : CreateInvoiceRequest → Except Thrown CreateInvoiceResponse

namespace NullPaymentsProcessor

-- The dates that nothing reads are left out.
def getInvoice (invoiceId : JsString) : Answer :=
  { id := some invoiceId
    status := some .pending
    confirmedAt := none
    pubkey := some []
    amountRequested := some 0
    unit := some (some .msats) }

def createInvoice (date : Int) (_ : CreateInvoiceRequest) : Except Thrown CreateInvoiceResponse :=
  .ok
    { id := []
      bolt11 := []
      amountRequested := 0
      description := []
      unit := .msats
      status := .pending
      expiresAt := some date
      verifyURL := some [] }

end NullPaymentsProcessor

def nullPaymentsProcessor (date : Int) : IPaymentsProcessor :=
  { getInvoice := NullPaymentsProcessor.getInvoice
    createInvoice := NullPaymentsProcessor.createInvoice date }

def createPaymentsProcessor (settings : Settings) (date : Int) : IPaymentsProcessor :=
  if !(settings.payments.any Payments.enabled) then nullPaymentsProcessor date else nullPaymentsProcessor date

namespace NullPayments

open Effects MaintenanceWorker MessageStages SubmissionStages SubmissionPool TracedRows Slots PaymentFailures
open PaidAdmission hiding Action SubmitsFrom
open Runs hiding execute

inductive Action where
  | maintain (action : MaintenanceWorker.Action)
  -- The processor is asked with the invoice's id, or with the invoice itself when it has a verifyURL.
  | ask (i : Nat) (byId : Bool) (settings : Settings) (date : Int)
  | invoice (controller : PostInvoiceController) (limited : Bool) (lookup : Option Thrown) (date : Int)
      (fates : CreationFates) (body : Option Json.JsonValue)
  | submit (handler : EventMessageHandler) (lookup : Option Thrown) (received : Event)
  | advance (i : Nat) (fates : Fates)

section Steps

variable (relay : Relay)

def asked (i : Nat) (byId : Bool) (settings : Settings) (date : Int) : Option Answer :=
  match relay.maintenance.passes[i]? with
  | some (.asking invoice _) =>
    let answer := (createPaymentsProcessor settings date).getInvoice invoice.id
    -- An id that is no string is passed over.
    some (if byId then answer else { answer with id := none })
  | _ => none

def wired (controller : PostInvoiceController) (date : Int) : PostInvoiceController :=
  { controller with processor := (createPaymentsProcessor controller.settings date).createInvoice }

def isAnswer : MaintenanceWorker.Action → Bool
  | .answer _ (some _) => true
  | _ => false

def general : Action → Option PaidAdmission.Action
  | .maintain action => if isAnswer action then none else some (.maintain action)
  | .ask i byId settings date =>
    (asked relay i byId settings date).map fun answer => .maintain (.answer i (some answer))
  | .invoice controller limited lookup date fates body =>
    some (.invoice (wired controller date) limited lookup fates body)
  | .submit handler lookup received => some (.submit handler lookup received)
  | .advance i fates => some (.advance i fates)

def step (action : Action) : Option Relay := (general relay action).bind relay.step

end Steps

def SubmitsFrom (events : Set Event) (_ : Relay) : Action → Prop
  | .submit _ _ received => received ∈ events
  | _ => True

instance (listed : List Event) (relay : Relay) : DecidablePred (SubmitsFrom {event | event ∈ listed} relay)
  | .submit _ _ received => inferInstanceAs (Decidable (received ∈ listed))
  | .maintain _ => .isTrue trivial
  | .ask .. => .isTrue trivial
  | .invoice .. => .isTrue trivial
  | .advance .. => .isTrue trivial

def SameUsers (opening tables : PaymentTables) : Prop :=
  ∀ pubkey, tables.users.get pubkey = opening.users.get pubkey ∨
    (opening.users.get pubkey = none ∧ tables.users.get pubkey = some {})

structure Unpaid (opening : PaymentTables) (maintenance : Maintenance) : Prop where
  users : SameUsers opening maintenance.tables
  credits : maintenance.tables.credits = opening.credits
  confirmed : ∀ id, (maintenance.tables.invoices.get id).bind DBInvoice.confirmedAt =
    (opening.invoices.get id).bind DBInvoice.confirmedAt
  completed : ∀ id, (maintenance.tables.invoices.get id).any (fun invoice => invoice.status == some .completed) = true →
    (opening.invoices.get id).any (fun invoice => invoice.status == some .completed) = true
  confirmations : maintenance.confirmations = []
  pending : ∀ pass ∈ maintenance.passes, ∀ update ∈ pass.statusUpdate, update.status = .pending ∧
    update.answer.confirmedAt = none

theorem createPaymentsProcessor_eq (settings : Settings) (date : Int) :
    createPaymentsProcessor settings date = nullPaymentsProcessor date := by
  unfold createPaymentsProcessor
  split <;> rfl

theorem SameUsers.balance {opening tables : PaymentTables} (same : SameUsers opening tables) (pubkey : Bytes) :
    tables.getBalanceByPubkey pubkey = opening.getBalanceByPubkey pubkey := by
  unfold PaymentTables.getBalanceByPubkey
  rcases same pubkey with kept | ⟨absent, fresh⟩
  · rw [kept]
  · rw [absent, fresh]
    rfl

section Tables

variable (opening tables : PaymentTables)

theorem upsertUser_same (same : SameUsers opening tables) (pubkey : Bytes) :
    SameUsers opening (tables.upsertUser pubkey none none) := by
  intro other
  unfold PaymentTables.upsertUser
  dsimp only
  rw [InsertionMap.get_set]
  split
  next isOther =>
    subst isOther
    rcases same other with kept | ⟨absent, fresh⟩
    · cases found : tables.users.get other with
      | none => exact .inr ⟨kept ▸ found, rfl⟩
      | some user => exact .inl (by rw [← kept, found]; rfl)
    · exact .inr ⟨absent, by rw [fresh]; rfl⟩
  next => exact same other

end Tables

section Payments

variable (opening : PaymentTables)

theorem created_unpaid (maintenance : Maintenance) (unpaid : Unpaid opening maintenance) (pubkey : JsString)
    (response : CreateInvoiceResponse) (pending : response.status = .pending) :
    Unpaid opening { maintenance with tables := created pubkey maintenance.tables response } where
  users := upsertUser_same opening maintenance.tables unpaid.users (ofHex pubkey)
  credits := unpaid.credits
  confirmed := by
    intro id
    rw [← unpaid.confirmed id]
    dsimp only
    rw [created_get]
    split
    next same =>
      subst same
      cases maintenance.tables.invoices.get response.id <;> rfl
    next => rfl
  completed := by
    intro id completed
    apply unpaid.completed id
    dsimp only at completed
    rw [created_get] at completed
    split at completed
    next =>
      rw [pending] at completed
      cases found : maintenance.tables.invoices.get response.id <;> rw [found] at completed <;> cases completed
    next => exact completed
  confirmations := unpaid.confirmations
  pending := unpaid.pending

theorem updateStatus_unpaid (maintenance : Maintenance) (unpaid : Unpaid opening maintenance) (id : JsString) :
    Unpaid opening { maintenance with tables := maintenance.tables.updateStatus id .pending } where
  users := by
    intro pubkey
    dsimp only
    rw [(PaymentTables.updateStatus_users maintenance.tables id .pending).1]
    exact unpaid.users pubkey
  credits := (PaymentTables.updateStatus_users maintenance.tables id .pending).2.trans unpaid.credits
  confirmed := by
    intro other
    rw [← unpaid.confirmed other]
    dsimp only
    rw [PaymentTables.updateStatus_invoices]
    cases maintenance.tables.invoices.get other with
    | none => rfl
    | some invoice =>
      rw [Option.map_some]
      split <;> rfl
  completed := by
    intro other completed
    apply unpaid.completed other
    dsimp only at completed
    rw [PaymentTables.updateStatus_invoices] at completed
    cases found : maintenance.tables.invoices.get other with
    | none =>
      rw [found] at completed
      cases completed
    | some invoice =>
      rw [found, Option.map_some] at completed
      split at completed
      next => cases completed
      next => exact completed
  confirmations := unpaid.confirmations
  pending := unpaid.pending

theorem set_unpaid (maintenance : Maintenance) (unpaid : Unpaid opening maintenance) (i : Nat) (reached : Pass)
    (pending : ∀ update ∈ reached.statusUpdate, update.status = .pending ∧ update.answer.confirmedAt = none) :
    Unpaid opening { maintenance with passes := maintenance.passes.set i reached } where
  users := unpaid.users
  credits := unpaid.credits
  confirmed := unpaid.confirmed
  completed := unpaid.completed
  confirmations := unpaid.confirmations
  pending := by
    intro pass member
    rcases mem_set_cases member with rfl | old
    · exact pending
    · exact unpaid.pending pass old

theorem start_pending (rest : List Invoice) (update : StatusUpdate) (member : update ∈ (Pass.start rest).statusUpdate) :
    update.status = .pending ∧ update.answer.confirmedAt = none := by
  rw [statusUpdate_start] at member
  cases member

theorem afterAnswer_pending (invoice : Invoice) (rest : List Invoice) (answer : Option Answer)
    (nothing : ∀ given ∈ answer, given.status = some .pending ∧ given.confirmedAt = none) (update : StatusUpdate)
    (member : update ∈ (Pass.afterAnswer invoice rest answer).statusUpdate) :
    update.status = .pending ∧ update.answer.confirmedAt = none := by
  unfold Pass.afterAnswer at member
  split at member
  next given =>
    obtain ⟨status, confirmedAt⟩ := nothing given rfl
    split at member
    next id known isId isStatus =>
      rw [isStatus, Option.some.injEq] at status
      cases member
      exact ⟨status, confirmedAt⟩
    next => exact start_pending rest update member
  next => exact start_pending rest update member

theorem maintain_unpaid (maintenance reached : Maintenance) (unpaid : Unpaid opening maintenance)
    (action : MaintenanceWorker.Action)
    (nothing : ∀ i answer, action = .answer i answer →
      ∀ given ∈ answer, given.status = some .pending ∧ given.confirmedAt = none)
    (taken : MaintenanceWorker.step maintenance action = some reached) : Unpaid opening reached := by
  cases action with
  | schedule found =>
    rw [MaintenanceWorker.step] at taken
    split at taken
    next =>
      cases taken
      refine ⟨unpaid.users, unpaid.credits, unpaid.confirmed, unpaid.completed, unpaid.confirmations, ?_⟩
      intro pass member
      rcases List.mem_append.mp member with old | new
      · exact unpaid.pending pass old
      · rw [List.mem_singleton.mp new]
        exact start_pending _
    next => cases taken
  | answer i answer =>
    rw [MaintenanceWorker.step] at taken
    split at taken
    next invoice rest found =>
      cases taken
      exact set_unpaid opening maintenance unpaid i _ (afterAnswer_pending invoice rest answer (nothing i answer rfl))
    next => cases taken
  | updateStatus i fate =>
    rw [MaintenanceWorker.step] at taken
    split at taken
    next update rest found =>
      obtain ⟨status, _⟩ := unpaid.pending _ (List.mem_of_getElem? found) update rfl
      have unconfirmed : ¬ (fate = .completes ∧ update.confirms = true) := by
        rintro ⟨_, confirms⟩
        simp [StatusUpdate.confirms, status] at confirms
      dsimp only at taken
      rw [if_neg unconfirmed, status] at taken
      cases taken
      have next := set_unpaid opening maintenance unpaid i (Pass.start rest) (start_pending rest)
      split
      next => exact updateStatus_unpaid opening _ next update.id
      next => exact next
    next => cases taken
  | confirm j settings now fates =>
    obtain ⟨invoice, found, _⟩ := Option.map_eq_some_iff.mp taken
    rw [unpaid.confirmations] at found
    cases found
  | goOn i =>
    rw [MaintenanceWorker.step] at taken
    split at taken
    next rest found =>
      cases taken
      exact set_unpaid opening maintenance unpaid i _ (start_pending rest)
    next => cases taken

def Nulls : PaidAdmission.Action → Prop
  | .maintain (.answer _ answer) => ∀ given ∈ answer, given.status = some .pending ∧ given.confirmedAt = none
  | .invoice controller _ _ _ _ =>
    ∀ request response, controller.processor request = .ok response → response.status = .pending
  | _ => True

theorem asked_nothing (relay : Relay) (i : Nat) (byId : Bool) (settings : Settings) (date : Int) (answer : Answer)
    (found : asked relay i byId settings date = some answer) :
    answer.status = some .pending ∧ answer.confirmedAt = none := by
  unfold asked at found
  split at found
  next =>
    rw [createPaymentsProcessor_eq] at found
    cases found
    split <;> exact ⟨rfl, rfl⟩
  next => cases found

theorem step_unpaid (relay reached : Relay) (action : PaidAdmission.Action)
    (unpaid : Unpaid opening relay.maintenance) (nulls : Nulls action) (taken : relay.step action = some reached) :
    Unpaid opening reached.maintenance := by
  cases action with
  | maintain action =>
    rw [Relay.step] at taken
    obtain ⟨maintenance, moved, rfl⟩ := Option.map_eq_some_iff.mp taken
    refine maintain_unpaid opening relay.maintenance maintenance unpaid action ?_ moved
    rintro i answer rfl
    exact nulls
  | invoice controller limited lookup fates body =>
    cases taken
    dsimp only
    unfold Relay.invoiced
    rcases handleRequest_invoices relay.tables controller (lookedUp relay.tables lookup) fates body limited with
      same | ⟨payer, amount, _, same | ⟨description, response, made, reached⟩⟩
    · rw [same]
      exact unpaid
    · rw [same]
      exact unpaid
    · rw [reached]
      exact created_unpaid opening relay.maintenance unpaid payer response (nulls _ response made)
  | submit handler lookup received =>
    rw [Relay.step] at taken
    obtain ⟨pool, _, rfl⟩ := Option.map_eq_some_iff.mp taken
    exact unpaid
  | advance i fates =>
    rw [Relay.step] at taken
    obtain ⟨pool, _, rfl⟩ := Option.map_eq_some_iff.mp taken
    exact unpaid

end Payments

section Admissions

variable (opening : PaymentTables) (events : Set Event)

def NullsFrom (relay : Relay) (action : PaidAdmission.Action) : Prop :=
  Nulls action ∧ PaidAdmission.SubmitsFrom events relay action

theorem general_nulls (relay : Relay) (action : Action) (taken : PaidAdmission.Action)
    (ok : SubmitsFrom events relay action) (made : general relay action = some taken) : NullsFrom events relay taken := by
  cases action with
  | maintain action =>
    rw [general] at made
    split at made
    next => cases made
    next noAnswer =>
      cases made
      refine ⟨?_, trivial⟩
      cases action with
      | answer i answer =>
        intro given member
        rw [Option.mem_def.mp member] at noAnswer
        exact (noAnswer rfl).elim
      | _ => trivial
  | ask i byId settings date =>
    obtain ⟨answer, asked, rfl⟩ := Option.map_eq_some_iff.mp made
    refine ⟨fun given member => ?_, trivial⟩
    cases member
    exact asked_nothing relay i byId settings date answer asked
  | invoice controller limited lookup date fates body =>
    cases made
    refine ⟨fun request response created => ?_, trivial⟩
    dsimp only [wired] at created
    rw [createPaymentsProcessor_eq] at created
    cases created
    rfl
  | submit handler lookup received =>
    cases made
    exact ⟨trivial, ok⟩
  | advance i fates =>
    cases made
    exact ⟨trivial, trivial⟩

theorem general_run (relay final : Relay) (trace : List Action) (run : Run step (SubmitsFrom events) relay trace final) :
    ∃ generals, Run Relay.step (NullsFrom events) relay generals final := by
  induction run with
  | done relay => exact ⟨[], .done relay⟩
  | next ok taken rest ih =>
    obtain ⟨general, made, moved⟩ := Option.bind_eq_some_iff.mp taken
    obtain ⟨generals, run⟩ := ih
    exact ⟨general :: generals, .next (general_nulls events _ _ general ok made) moved run⟩

theorem run_unpaid (generals : List PaidAdmission.Action) (final : Relay)
    (run : Run Relay.step (NullsFrom events) (opened opening) generals final) : Unpaid opening final.maintenance := by
  have preserved : Preserves Relay.step (NullsFrom events) fun relay => Unpaid opening relay.maintenance := by
    intro relay action reached unpaid ok taken
    exact step_unpaid opening relay reached action unpaid ok.1 taken
  exact run.invariant preserved ⟨fun _ => .inl rfl, rfl, fun _ => rfl, fun _ => id, rfl, by simp [opened]⟩

theorem not_hasPaid (generals : List PaidAdmission.Action) (pubkey : Bytes) :
    ¬ HasPaid opening (NullsFrom events) generals pubkey := by
  rintro ⟨before, j, settings, now, fates, after, relay, update, _, _, payment⟩
  obtain ⟨i, rest, asking, reached, answered, _⟩ := payment.answered
  have pending := (answered.ok.1 update.answer rfl).1
  rw [payment.completed] at pending
  cases pending

structure AdmittedAtFirst (submission : Submission) (r : DBEvent) : Prop where
  admitted : opening.isAdmitted r.eventPubkey = true
  balance : 0 < submission.handler.minBalance →
    submission.handler.minBalance ≤ opening.getBalanceByPubkey r.eventPubkey

theorem nobody_pays (trace : List Action) (final : Relay)
    (run : Run step (SubmitsFrom events) (opened opening) trace final) :
    Unpaid opening final.maintenance ∧
      ∀ r ∈ final.pool.table, ∃ submission ∈ final.pool.submissions, Carries submission.event r ∧
        (submission.handler.looksUpUser submission.event = true → AdmittedAtFirst opening submission r) := by
  obtain ⟨generals, run⟩ := general_run events _ final trace run
  refine ⟨run_unpaid opening events generals final run, fun r member => ?_⟩
  obtain ⟨submission, inPool, carries, paid⟩ :=
    stored_allowed opening (NullsFrom events) events (fun _ _ ok => ok.2) generals final run r member
  refine ⟨submission, inPool, carries, fun asks => ?_⟩
  obtain ⟨before, relay, submitted⟩ := paid asks
  refine ⟨submitted.paid.resolve_right (not_hasPaid opening events before r.eventPubkey), fun positive => ?_⟩
  have users := (run_unpaid opening events before relay submitted.run).users
  rw [← users.balance]
  exact submitted.balance positive

end Admissions

open RequestedFees PostInvoiceController

def memberTables : PaymentTables :=
  { invoices := .empty
    users := InsertionMap.empty.set (ofHex note.pubkey) { isAdmitted := true, balance := 1000 } }

def freeInvoice : DBInvoice := { pubkey := ofHex payer, amountRequested := 0, unit := some .msats, status := some .pending }

def invoiceAndNote : List Action :=
  [.invoice issuing false none 1700000000 {} (some admissionRequest), .maintain (.schedule [([], freeInvoice)]),
    .ask 0 true feeSettings 1700000000, .maintain (.updateStatus 0 .completes), .submit feeHandler none note,
    .advance 0 {}]

theorem member_note_stored :
    ∃ final, Run step (SubmitsFrom {event | event ∈ [note]}) (opened memberTables)
        invoiceAndNote final ∧
      final.tables.users.get (ofHex payer) = some {} ∧ final.pool.table.length = 1 ∧
      Unpaid memberTables final.maintenance ∧
      ∀ r ∈ final.pool.table, ∃ submission ∈ final.pool.submissions, Carries submission.event r ∧
        (submission.handler.looksUpUser submission.event = true → AdmittedAtFirst memberTables submission r) := by
  have ran : (Runs.execute step (SubmitsFrom {event | event ∈ [note]})
      (opened memberTables) invoiceAndNote).map (fun final =>
        (final.tables.users.get (ofHex payer), final.pool.table.length)) = some (some {}, 1) := by decide +kernel
  obtain ⟨final, executed, values⟩ := Option.map_eq_some_iff.mp ran
  rw [Prod.mk.injEq] at values
  have run := run_of_execute executed
  have unpaid := nobody_pays memberTables {event | event ∈ [note]} invoiceAndNote final run
  exact ⟨final, run, values.1, values.2, unpaid.1, unpaid.2⟩

end NullPayments

end Nostream
