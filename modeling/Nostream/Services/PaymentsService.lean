import Nostream.Repositories.EventRepository
import Nostream.Repositories.PaymentTables
import Nostream.Types.Settings

set_option autoImplicit false

namespace Nostream

open Utf16 Hex Effects

structure Invoice where
  id : JsString
  pubkey : JsString
  amountRequested : Int
  amountPaid : Option Int := none
  unit : Option InvoiceUnit
  status : Option InvoiceStatus
  confirmedAt : Option Int := none
  deriving DecidableEq

def fromDBInvoice (id : JsString) (invoice : DBInvoice) : Invoice :=
  { id := id
    pubkey := toHex invoice.pubkey
    amountRequested := invoice.amountRequested
    amountPaid := invoice.amountPaid
    unit := invoice.unit
    status := invoice.status
    confirmedAt := invoice.confirmedAt }

/-- The tables, and what the statements of the open transaction have made of them. -/
structure Session where
  tables : PaymentTables
  working : Option PaymentTables := none

abbrev Paying (α : Type) := Effect Session Thrown α

structure TransactionFates where
  begin : Option Thrown := none
  confirmInvoice : Option Thrown := none
  upsertUser : Option Thrown := none
  commit : Fate := .completes
  rollback : Option Thrown := none

structure CreateInvoiceRequest where
  amount : Int
  description : JsString
  requestId : JsString

structure CreateInvoiceResponse where
  id : JsString
  bolt11 : JsString
  amountRequested : Int
  description : JsString
  unit : InvoiceUnit
  status : InvoiceStatus
  expiresAt : Option Int := none
  verifyURL : Option JsString := none

/-- What createInvoice returns: an invoice with what its payer is told. -/
structure CreatedInvoice extends Invoice where
  bolt11 : JsString
  description : JsString
  expiresAt : Option Int
  verifyURL : Option JsString

structure CreationFates where
  begin : Option Thrown := none
  upsertUser : Option Thrown := none
  upsertInvoice : Option Thrown := none
  commit : Fate := .completes
  rollback : Option Thrown := none

namespace Transaction

def notStarted : Thrown := .error "Unable to get transaction: transaction not started."

def begin : Option Thrown → Paying Unit
  | some reason => raise reason
  | none => update fun session => { session with working := some session.tables }

def statement (change : PaymentTables → PaymentTables) : Option Thrown → Paying Unit
  | some reason => raise reason
  | none => update fun session => { session with working := session.working.map change }

def commit (fate : Fate) : Paying Unit :=
  ⟨fun session =>
    match session.working, fate with
    | none, _ => (.error notStarted, session)
    | some _, .rejected reason => (.error reason, session)
    | some working, .lostReply reason => (.error reason, { session with tables := working })
    | some working, .completes => (.ok (), { tables := working })⟩

def rollback (fate : Option Thrown) : Paying Unit :=
  ⟨fun session =>
    match session.working with
    | none => (.error notStarted, session)
    | some _ => (match fate with
      | some reason => .error reason
      | none => .ok (), { session with working := none })⟩

end Transaction

namespace PaymentsService

def statusText : Option InvoiceStatus → String
  | some .pending => "pending"
  | some .completed => "completed"
  | some .expired => "expired"
  | none => "undefined"

def isApplicableFee (invoice : Invoice) (feeSchedule : FeeSchedule) : Bool :=
  feeSchedule.enabled &&
    !((feeSchedule.whitelists.getD {}).pubkeys.getD []).any (startsWith invoice.pubkey)

def admissionFeeAmount (settings : Settings) (invoice : Invoice) : Int :=
  (((settings.payments.bind Payments.admission).getD []).map fun feeSchedule =>
    if isApplicableFee invoice feeSchedule then feeSchedule.amount else 0).sum

def amountPaidMsat (invoice : Invoice) (amountPaid : Int) : Int :=
  match invoice.unit with
  | some .sats => amountPaid * 1000
  | some .btc => amountPaid * (1000 * 100000000)
  | _ => amountPaid

def admits (settings : Settings) (invoice : Invoice) (amountPaid : Int) : Bool :=
  admissionFeeAmount settings invoice > 0 && amountPaidMsat invoice amountPaid ≥ admissionFeeAmount settings invoice

def payment (invoice : Invoice) : Except Thrown (Int × Int) :=
  match invoice.confirmedAt with
  | none => .error (.error "Invoice confirmation date is not set")
  | some confirmedAt =>
    if invoice.status ≠ some .completed then
      .error (.error ("Invoice is not complete: " ++ statusText invoice.status))
    else match invoice.amountPaid with
    | none => .error (.error "Invoice paid amount is not set: undefined")
    | some amountPaid => .ok (amountPaid, confirmedAt)

def createInvoice (processor : CreateInvoiceRequest → Except Thrown CreateInvoiceResponse) (fates : CreationFates)
    (pubkey : JsString) (amount : Int) (description : JsString) : Paying CreatedInvoice :=
  handle
    (do
      Transaction.begin fates.begin
      Transaction.statement (·.upsertUser (ofHex pubkey) none none) fates.upsertUser
      let invoiceResponse ← answer (processor { amount, description, requestId := pubkey })
      Transaction.statement
        (·.upsertInvoice invoiceResponse.id
          { pubkey := ofHex pubkey
            amountRequested := invoiceResponse.amountRequested
            unit := some invoiceResponse.unit
            status := some invoiceResponse.status })
        fates.upsertInvoice
      Transaction.commit fates.commit
      return {
        id := invoiceResponse.id
        pubkey := pubkey
        bolt11 := invoiceResponse.bolt11
        amountRequested := invoiceResponse.amountRequested
        unit := some invoiceResponse.unit
        status := some invoiceResponse.status
        description := description
        expiresAt := invoiceResponse.expiresAt
        verifyURL := invoiceResponse.verifyURL })
    fun reason => do
      Transaction.rollback fates.rollback
      raise reason

def confirmInvoice (settings : Settings) (now : Int) (fates : TransactionFates) (invoice : Invoice) : Paying Unit :=
  handle
    (do
      let (amountPaid, confirmedAt) ← answer (payment invoice)
      Transaction.begin fates.begin
      Transaction.statement (·.confirmInvoice invoice.id amountPaid confirmedAt) fates.confirmInvoice
      if admits settings invoice amountPaid then
        Transaction.statement (·.upsertUser (ofHex invoice.pubkey) (some true) (some now)) fates.upsertUser
      Transaction.commit fates.commit)
    fun reason => do
      Transaction.rollback fates.rollback
      raise reason

def confirmed (settings : Settings) (now : Int) (invoice : Invoice) (amountPaid confirmedAt : Int)
    (tables : PaymentTables) : PaymentTables :=
  if admits settings invoice amountPaid then
    (tables.confirmInvoice invoice.id amountPaid confirmedAt).upsertUser (ofHex invoice.pubkey) (some true) (some now)
  else tables.confirmInvoice invoice.id amountPaid confirmedAt

def goesThrough (settings : Settings) (fates : TransactionFates) (invoice : Invoice) (amountPaid : Int) : Bool :=
  fates.begin.isNone && fates.confirmInvoice.isNone &&
    (!admits settings invoice amountPaid || fates.upsertUser.isNone) &&
    match fates.commit with
    | .rejected _ => false
    | _ => true

variable (settings : Settings) (now : Int) (fates : TransactionFates) (invoice : Invoice) (tables : PaymentTables)

theorem confirmInvoice_refused (reason : Thrown) (refused : payment invoice = .error reason) :
    ((confirmInvoice settings now fates invoice).run { tables := tables }).2.tables = tables := by
  rw [confirmInvoice, handle_run, bind_run, refused]
  rfl

theorem payment_ok (amountPaid confirmedAt : Int) : payment invoice = .ok (amountPaid, confirmedAt) ↔
    invoice.confirmedAt = some confirmedAt ∧ invoice.status = some .completed ∧ invoice.amountPaid = some amountPaid := by
  unfold payment
  cases invoice.confirmedAt with
  | none => simp
  | some date =>
    by_cases completed : invoice.status = some .completed
    · cases invoice.amountPaid <;> simp [completed, and_comm]
    · simp [completed]

theorem rolled_back_tables {α : Type} (body : Paying α) (fate : Option Thrown) (session : Session) :
    ((handle body fun reason => do
      Transaction.rollback fate
      raise reason).run session).2.tables = (body.run session).2.tables := by
  rw [handle_run]
  split
  next reached ran => rw [ran]
  next reason reached ran =>
    rw [ran]
    obtain ⟨tables, working⟩ := reached
    cases working with
    | none => rfl
    | some working => cases fate <;> rfl

theorem confirmInvoice_tables (amountPaid confirmedAt : Int) (ready : payment invoice = .ok (amountPaid, confirmedAt)) :
    ((confirmInvoice settings now fates invoice).run { tables := tables }).2.tables =
      if goesThrough settings fates invoice amountPaid then
        confirmed settings now invoice amountPaid confirmedAt tables
      else tables := by
  obtain ⟨begin, confirmInvoice, upsertUser, commit, rollback⟩ := fates
  have paid : (answer (payment invoice) : Paying (Int × Int)).run { tables := tables } =
      (.ok (amountPaid, confirmedAt), { tables := tables }) := by rw [answer_run, ready]
  rw [PaymentsService.confirmInvoice, rolled_back_tables, bind_ok paid]
  dsimp only
  cases begin with
  | some reason => rfl
  | none =>
    cases confirmInvoice with
    | some reason => rfl
    | none =>
      cases admitted : admits settings invoice amountPaid with
      | false =>
        rw [goesThrough, confirmed, admitted]
        cases commit <;> rfl
      | true =>
        rw [goesThrough, confirmed, admitted]
        cases upsertUser with
        | some reason => rfl
        | none => cases commit <;> rfl

section Confirmed

variable (amountPaid confirmedAt : Int)

theorem confirmed_invoices (id : JsString) :
    (confirmed settings now invoice amountPaid confirmedAt tables).invoices.get id =
      (tables.invoices.get id).map fun stored =>
        if id = invoice.id ∧ stored.confirmedAt = none then
          { stored with confirmedAt := some confirmedAt, amountPaid := some amountPaid }
        else stored := by
  rw [← tables.confirmInvoice_invoices invoice.id amountPaid confirmedAt id, confirmed]
  split <;> rfl

theorem confirmed_credits :
    (confirmed settings now invoice amountPaid confirmedAt tables).credits =
      tables.credits ++ (tables.creditFor invoice.id amountPaid).toList := by
  rw [← tables.confirmInvoice_credits invoice.id amountPaid confirmedAt, confirmed]
  split <;> rfl

theorem confirmed_users (pubkey : Bytes) (known : (tables.users.get pubkey).isSome = true) :
    ((confirmed settings now invoice amountPaid confirmedAt tables).users.get pubkey).isSome = true := by
  have kept : ((tables.confirmInvoice invoice.id amountPaid confirmedAt).users.get pubkey).isSome = true := by
    rw [PaymentTables.confirmInvoice_users, Option.isSome_map]
    exact known
  unfold confirmed
  split
  next => exact PaymentTables.upsertUser_isSome _ _ _ _ _ kept
  next => exact kept

theorem confirmed_accounted (opening : Bytes → Int) (accounted : PaymentTables.Accounted opening tables) :
    PaymentTables.Accounted opening (confirmed settings now invoice amountPaid confirmedAt tables) := by
  have credited := PaymentTables.accounted_confirmInvoice accounted invoice.id amountPaid confirmedAt
  unfold confirmed
  split
  next => exact PaymentTables.accounted_upsertUser credited _ _ _
  next => exact credited

end Confirmed

end PaymentsService

end Nostream
