import Nostream.Services.PaymentsService

set_option autoImplicit false

namespace Nostream.PaymentFailures

open Utf16 Hex Effects PaymentsService

section Failures

def commitFailure : Fate → Option Thrown
  | .completes => none
  | .rejected reason => some reason
  | .lostReply reason => some reason

def processorFailure : Except Thrown CreateInvoiceResponse → Option Thrown
  | .ok _ => none
  | .error reason => some reason

def confirmInvoiceFailure (settings : Settings) (fates : TransactionFates) (invoice : Invoice) : Option Thrown :=
  match payment invoice with
  | .error reason => some reason
  | .ok (amountPaid, _) =>
    fates.begin.or (fates.confirmInvoice.or
      ((if admits settings invoice amountPaid then fates.upsertUser else none).or (commitFailure fates.commit)))

def createInvoiceFailure (fates : CreationFates) (created : Except Thrown CreateInvoiceResponse) : Option Thrown :=
  fates.begin.or (fates.upsertUser.or
    ((processorFailure created).or (fates.upsertInvoice.or (commitFailure fates.commit))))

def SurfacesUnchanged {α : Type} (tables : PaymentTables) (failure : Option Thrown)
    (outcome : Except Thrown α × Session) : Prop :=
  ∀ reason, failure = some reason → outcome.1 = .error reason ∧
    outcome.2.tables.invoices = tables.invoices ∧ outcome.2.tables.users = tables.users

end Failures

section RollingBack

variable {α : Type}

def reported (begun : Bool) (rollback : Option Thrown) (reason : Thrown) : Thrown :=
  if begun then rollback.getD reason else Transaction.notStarted

theorem rolled_back_result (body : Paying α) (fate : Option Thrown) (session : Session) :
    ((handle body fun reason => do
      Transaction.rollback fate
      raise reason).run session).1 = match body.run session with
        | (.ok value, _) => .ok value
        | (.error reason, reached) => .error (reported reached.working.isSome fate reason) := by
  rw [handle_run]
  rcases body.run session with ⟨refused | value, tables, working⟩
  · cases working with
    | none => rfl
    | some working => cases fate <;> rfl
  · rfl

theorem reported_eq_iff (begun : Bool) (rollback : Option Thrown) (reason : Thrown) :
    reported begun rollback reason = reason ↔ (begun = true ∨ reason = Transaction.notStarted) ∧
      (begun = true → rollback = none ∨ rollback = some reason) := by
  unfold reported
  cases begun with
  | false => simp [eq_comm]
  | true => cases rollback <;> simp

end RollingBack

section Unchanged

variable (tables : PaymentTables)

theorem confirmInvoice_confirmed (id : JsString) (amountPaid confirmedAt : Int)
    (confirmed : ∀ stored, tables.invoices.get id = some stored → stored.confirmedAt.isSome = true) :
    tables.confirmInvoice id amountPaid confirmedAt = tables := by
  unfold PaymentTables.confirmInvoice
  cases found : tables.invoices.get id with
  | none => rfl
  | some stored =>
    obtain ⟨date, dated⟩ := Option.isSome_iff_exists.mp (confirmed stored found)
    simp only [dated]

theorem confirmInvoice_unchanged_iff (id : JsString) (amountPaid confirmedAt : Int) :
    (tables.confirmInvoice id amountPaid confirmedAt).invoices = tables.invoices ↔
      ∀ stored, tables.invoices.get id = some stored → stored.confirmedAt.isSome = true := by
  constructor
  · intro same stored found
    have kept := tables.confirmInvoice_invoices id amountPaid confirmedAt id
    rw [same, found] at kept
    cases date : stored.confirmedAt with
    | some _ => rfl
    | none =>
      have overwritten := congrArg (Option.map DBInvoice.confirmedAt) kept
      simp [date] at overwritten
  · intro confirmed
    rw [confirmInvoice_confirmed tables id amountPaid confirmedAt confirmed]

theorem upsertUser_unchanged_iff (pubkey : Bytes) (isAdmitted : Option Bool) (tosAcceptedAt : Option Int) :
    (tables.upsertUser pubkey isAdmitted tosAcceptedAt).users = tables.users ↔
      ∃ user, tables.users.get pubkey = some user ∧ isAdmitted.getD user.isAdmitted = user.isAdmitted ∧
        (tosAcceptedAt.orElse fun _ => user.tosAcceptedAt) = user.tosAcceptedAt := by
  unfold PaymentTables.upsertUser
  rw [InsertionMap.set_eq_self_iff]
  cases tables.users.get pubkey with
  | none => simp
  | some user =>
    obtain ⟨admitted, balance, accepted⟩ := user
    simp [eq_comm]

theorem upsertInvoice_unchanged_iff (id : JsString) (row : DBInvoice) :
    (tables.upsertInvoice id row).invoices = tables.invoices ↔
      ∃ invoice, tables.invoices.get id = some invoice ∧
        (row.status.orElse fun _ => invoice.status) = invoice.status := by
  unfold PaymentTables.upsertInvoice
  rw [InsertionMap.set_eq_self_iff]
  cases tables.invoices.get id with
  | none => simp
  | some invoice =>
    obtain ⟨pubkey, requested, paid, unit, status, confirmedAt⟩ := invoice
    simp [eq_comm]

end Unchanged

section Confirmation

variable (settings : Settings) (now : Int) (fates : TransactionFates) (invoice : Invoice) (tables : PaymentTables)

def confirmationBegun : Bool := (payment invoice).toOption.isSome && fates.begin.isNone

theorem confirmInvoice_rejects (reason : Thrown) (failed : confirmInvoiceFailure settings fates invoice = some reason) :
    ((confirmInvoice settings now fates invoice).run { tables := tables }).1 =
      .error (reported (confirmationBegun fates invoice) fates.rollback reason) := by
  unfold confirmInvoiceFailure at failed
  rw [confirmInvoice, rolled_back_result, confirmationBegun]
  cases ready : payment invoice with
  | error refused =>
    rw [ready] at failed
    cases failed
    rfl
  | ok paid =>
    rw [ready] at failed
    obtain ⟨amountPaid, confirmedAt⟩ := paid
    obtain ⟨begin, confirmInvoice, upsertUser, commit, rollback⟩ := fates
    have checked : (answer (.ok (amountPaid, confirmedAt)) : Paying (Int × Int)).run { tables := tables } =
        (.ok (amountPaid, confirmedAt), { tables := tables }) := rfl
    rw [bind_ok checked]
    cases begin with
    | some refused =>
      cases failed
      rfl
    | none =>
      cases confirmInvoice with
      | some refused =>
        cases failed
        rfl
      | none =>
        cases admitted : admits settings invoice amountPaid with
        | false =>
          simp only [admitted] at failed
          dsimp only
          rw [admitted]
          cases commit <;> cases failed <;> rfl
        | true =>
          simp only [admitted] at failed
          dsimp only
          rw [admitted]
          cases upsertUser with
          | some refused =>
            cases failed
            rfl
          | none => cases commit <;> cases failed <;> rfl

def ConfirmsNothing (amountPaid : Int) : Prop :=
  (∀ stored, tables.invoices.get invoice.id = some stored → stored.confirmedAt.isSome = true) ∧
    (admits settings invoice amountPaid = true → ∃ user, tables.users.get (ofHex invoice.pubkey) = some user ∧
      user.isAdmitted = true ∧ user.tosAcceptedAt = some now)

structure ConfirmationUndone (reason : Thrown) : Prop where
  begun : confirmationBegun fates invoice = true ∨ reason = Transaction.notStarted
  rolledBack : confirmationBegun fates invoice = true → fates.rollback = none ∨ fates.rollback = some reason
  uncommitted : ∀ amountPaid confirmedAt, payment invoice = .ok (amountPaid, confirmedAt) →
    goesThrough settings fates invoice amountPaid = true → ConfirmsNothing settings now invoice tables amountPaid

theorem confirmed_unchanged_iff (amountPaid confirmedAt : Int) :
    ((confirmed settings now invoice amountPaid confirmedAt tables).invoices = tables.invoices ∧
      (confirmed settings now invoice amountPaid confirmedAt tables).users = tables.users) ↔
        ConfirmsNothing settings now invoice tables amountPaid := by
  have invoices : (confirmed settings now invoice amountPaid confirmedAt tables).invoices =
      (tables.confirmInvoice invoice.id amountPaid confirmedAt).invoices := by
    unfold confirmed
    split <;> rfl
  rw [invoices, confirmInvoice_unchanged_iff, ConfirmsNothing]
  refine and_congr_right fun stored => ?_
  rw [confirmed, confirmInvoice_confirmed tables _ _ _ stored]
  cases admits settings invoice amountPaid with
  | false => simp
  | true =>
    rw [if_pos rfl, upsertUser_unchanged_iff]
    constructor
    · rintro ⟨user, found, admitted, accepted⟩ -
      exact ⟨user, found, admitted.symm, accepted.symm⟩
    · intro known
      obtain ⟨user, found, admitted, accepted⟩ := known rfl
      exact ⟨user, found, admitted.symm, accepted.symm⟩

theorem confirmInvoice_unwritten_iff :
    (((confirmInvoice settings now fates invoice).run { tables := tables }).2.tables.invoices = tables.invoices ∧
      ((confirmInvoice settings now fates invoice).run { tables := tables }).2.tables.users = tables.users) ↔
        ∀ amountPaid confirmedAt, payment invoice = .ok (amountPaid, confirmedAt) →
          goesThrough settings fates invoice amountPaid = true →
            ConfirmsNothing settings now invoice tables amountPaid := by
  cases ready : payment invoice with
  | error refused => simp [confirmInvoice_refused settings now fates invoice tables refused ready]
  | ok paid =>
    obtain ⟨amountPaid, confirmedAt⟩ := paid
    rw [confirmInvoice_tables settings now fates invoice tables amountPaid confirmedAt ready]
    cases through : goesThrough settings fates invoice amountPaid with
    | false =>
      refine iff_of_true ⟨rfl, rfl⟩ fun paid date same gone => ?_
      cases same
      rw [through] at gone
      cases gone
    | true =>
      rw [if_pos rfl, confirmed_unchanged_iff]
      constructor
      · rintro nothing paid date ⟨⟩ -
        exact nothing
      · intro nothing
        exact nothing amountPaid confirmedAt rfl through

theorem confirmInvoice_surfaces_iff :
    SurfacesUnchanged tables (confirmInvoiceFailure settings fates invoice)
        ((confirmInvoice settings now fates invoice).run { tables := tables }) ↔
      ∀ reason, confirmInvoiceFailure settings fates invoice = some reason →
        ConfirmationUndone settings now fates invoice tables reason := by
  refine forall_congr' fun reason => imp_congr_right fun failed => ?_
  rw [confirmInvoice_rejects settings now fates invoice tables reason failed, Except.error.injEq, reported_eq_iff,
    confirmInvoice_unwritten_iff]
  constructor
  · rintro ⟨⟨begun, rolledBack⟩, uncommitted⟩
    exact ⟨begun, rolledBack, uncommitted⟩
  · rintro ⟨begun, rolledBack, uncommitted⟩
    exact ⟨⟨begun, rolledBack⟩, uncommitted⟩

end Confirmation

section Creation

variable (processor : CreateInvoiceRequest → Except Thrown CreateInvoiceResponse) (fates : CreationFates)
variable (pubkey : JsString) (amount : Int) (description : JsString) (tables : PaymentTables)

def created (response : CreateInvoiceResponse) : PaymentTables :=
  (tables.upsertUser (ofHex pubkey) none none).upsertInvoice response.id
    { pubkey := ofHex pubkey
      amountRequested := response.amountRequested
      unit := some response.unit
      status := some response.status }

def creationGoesThrough : Bool :=
  fates.begin.isNone && fates.upsertUser.isNone && fates.upsertInvoice.isNone &&
    match fates.commit with
    | .rejected _ => false
    | _ => true

theorem createInvoice_rejects (reason : Thrown)
    (failed : createInvoiceFailure fates (processor { amount, description, requestId := pubkey }) = some reason) :
    ((createInvoice processor fates pubkey amount description).run { tables := tables }).1 =
      .error (reported fates.begin.isNone fates.rollback reason) := by
  unfold createInvoiceFailure at failed
  rw [createInvoice, rolled_back_result]
  generalize processor { amount, description, requestId := pubkey } = answered at failed ⊢
  obtain ⟨begin, upsertUser, upsertInvoice, commit, rollback⟩ := fates
  cases begin with
  | some refused =>
    cases failed
    rfl
  | none =>
    cases upsertUser with
    | some refused =>
      cases failed
      rfl
    | none =>
      cases answered with
      | error refused =>
        cases failed
        rfl
      | ok response =>
        cases upsertInvoice with
        | some refused =>
          cases failed
          rfl
        | none => cases commit <;> cases failed <;> rfl

theorem createInvoice_tables :
    ((createInvoice processor fates pubkey amount description).run { tables := tables }).2.tables =
      match processor { amount, description, requestId := pubkey } with
      | .error _ => tables
      | .ok response => if creationGoesThrough fates then created pubkey tables response else tables := by
  rw [createInvoice, rolled_back_tables, creationGoesThrough]
  generalize processor { amount, description, requestId := pubkey } = answered
  obtain ⟨begin, upsertUser, upsertInvoice, commit, rollback⟩ := fates
  cases begin with
  | some refused => cases answered <;> rfl
  | none =>
    cases upsertUser with
    | some refused => cases answered <;> rfl
    | none =>
      cases answered with
      | error refused => rfl
      | ok response =>
        cases upsertInvoice with
        | some refused => rfl
        | none => cases commit <;> rfl

def CreatesNothing (response : CreateInvoiceResponse) : Prop :=
  (tables.users.get (ofHex pubkey)).isSome = true ∧
    ∃ invoice, tables.invoices.get response.id = some invoice ∧ invoice.status = some response.status

structure CreationUndone (reason : Thrown) : Prop where
  begun : fates.begin = none ∨ reason = Transaction.notStarted
  rolledBack : fates.begin = none → fates.rollback = none ∨ fates.rollback = some reason
  uncommitted : ∀ response, processor { amount, description, requestId := pubkey } = .ok response →
    creationGoesThrough fates = true → CreatesNothing pubkey tables response

theorem created_unchanged_iff (response : CreateInvoiceResponse) :
    ((created pubkey tables response).invoices = tables.invoices ∧
      (created pubkey tables response).users = tables.users) ↔ CreatesNothing pubkey tables response := by
  have users : (created pubkey tables response).users = tables.users ↔
      (tables.users.get (ofHex pubkey)).isSome = true := by
    rw [Option.isSome_iff_exists]
    refine (upsertUser_unchanged_iff tables (ofHex pubkey) none none).trans (exists_congr fun user => ?_)
    exact and_iff_left ⟨rfl, rfl⟩
  have invoices : (created pubkey tables response).invoices = tables.invoices ↔
      ∃ invoice, tables.invoices.get response.id = some invoice ∧ invoice.status = some response.status := by
    refine (upsertInvoice_unchanged_iff tables response.id _).trans (exists_congr fun invoice => ?_)
    exact and_congr_right fun _ => eq_comm
  rw [users, invoices, CreatesNothing, and_comm]

theorem createInvoice_unwritten_iff :
    (((createInvoice processor fates pubkey amount description).run { tables := tables }).2.tables.invoices =
        tables.invoices ∧
      ((createInvoice processor fates pubkey amount description).run { tables := tables }).2.tables.users =
        tables.users) ↔
      ∀ response, processor { amount, description, requestId := pubkey } = .ok response →
        creationGoesThrough fates = true → CreatesNothing pubkey tables response := by
  rw [createInvoice_tables]
  cases processor { amount, description, requestId := pubkey } with
  | error refused => simp
  | ok response =>
    cases through : creationGoesThrough fates with
    | false => simp
    | true => simp [created_unchanged_iff]

theorem createInvoice_surfaces_iff :
    SurfacesUnchanged tables (createInvoiceFailure fates (processor { amount, description, requestId := pubkey }))
        ((createInvoice processor fates pubkey amount description).run { tables := tables }) ↔
      ∀ reason, createInvoiceFailure fates (processor { amount, description, requestId := pubkey }) = some reason →
        CreationUndone processor fates pubkey amount description tables reason := by
  refine forall_congr' fun reason => imp_congr_right fun failed => ?_
  rw [createInvoice_rejects processor fates pubkey amount description tables reason failed, Except.error.injEq,
    reported_eq_iff, createInvoice_unwritten_iff, Option.isNone_iff_eq_none]
  constructor
  · rintro ⟨⟨begun, rolledBack⟩, uncommitted⟩
    exact ⟨begun, rolledBack, uncommitted⟩
  · rintro ⟨begun, rolledBack, uncommitted⟩
    exact ⟨⟨begun, rolledBack⟩, uncommitted⟩

end Creation

theorem payment_failures_surface_iff (settings : Settings) (now : Int) (fates : TransactionFates) (invoice : Invoice)
    (processor : CreateInvoiceRequest → Except Thrown CreateInvoiceResponse) (creationFates : CreationFates)
    (pubkey : JsString) (amount : Int) (description : JsString) (tables : PaymentTables) :
    (SurfacesUnchanged tables (confirmInvoiceFailure settings fates invoice)
        ((confirmInvoice settings now fates invoice).run { tables := tables }) ↔
      ∀ reason, confirmInvoiceFailure settings fates invoice = some reason →
        ConfirmationUndone settings now fates invoice tables reason) ∧
    (SurfacesUnchanged tables
        (createInvoiceFailure creationFates (processor { amount, description, requestId := pubkey }))
        ((createInvoice processor creationFates pubkey amount description).run { tables := tables }) ↔
      ∀ reason,
        createInvoiceFailure creationFates (processor { amount, description, requestId := pubkey }) = some reason →
          CreationUndone processor creationFates pubkey amount description tables reason) :=
  ⟨confirmInvoice_surfaces_iff settings now fates invoice tables,
    createInvoice_surfaces_iff processor creationFates pubkey amount description tables⟩

def undatedInvoice : Invoice :=
  { id := js "invoice", pubkey := js "01", amountRequested := 1000, amountPaid := some 1000, unit := some .msats,
    status := some .completed }

theorem undated_invoice_reason_lost :
    ¬ ((∀ settings now fates invoice tables,
      SurfacesUnchanged tables (confirmInvoiceFailure settings fates invoice)
        ((confirmInvoice settings now fates invoice).run { tables := tables })) ∧
    ∀ processor fates pubkey amount description tables,
      SurfacesUnchanged tables (createInvoiceFailure fates (processor { amount, description, requestId := pubkey }))
        ((createInvoice processor fates pubkey amount description).run { tables := tables })) := by
  rintro ⟨claim, -⟩
  have surfaced := (claim {} 1700000000 {} undatedInvoice { invoices := .empty, users := .empty }
    (.error "Invoice confirmation date is not set") rfl).1
  exact absurd surfaced (by decide)

end Nostream.PaymentFailures
