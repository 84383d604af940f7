import Nostream.Repositories.EventsTable
import Nostream.Shared.InsertionMap

set_option autoImplicit false

namespace Nostream

open Utf16 Hex

inductive InvoiceUnit where
  | msats
  | sats
  | btc
  deriving DecidableEq

inductive InvoiceStatus where
  | pending
  | completed
  | expired
  deriving DecidableEq

/-- A row of invoices without its primary key, the id. -/
structure DBInvoice where
  pubkey : Bytes
  amountRequested : Int
  amountPaid : Option Int := none
  unit : Option InvoiceUnit
  status : Option InvoiceStatus
  confirmedAt : Option Int := none
  deriving DecidableEq

structure DBUser where
  isAdmitted : Bool := false
  balance : Int := 0
  tosAcceptedAt : Option Int := none
  deriving DecidableEq

/-- What confirm_invoice has added to a balance. -/
structure Credit where
  invoiceId : JsString
  payee : Bytes
  msats : Int
  deriving DecidableEq

def creditedTo (credits : List Credit) (pubkey : Bytes) : Int :=
  ((credits.filter fun credit => credit.payee = pubkey).map Credit.msats).sum

theorem creditedTo_append (credits more : List Credit) (pubkey : Bytes) :
    creditedTo (credits ++ more) pubkey = creditedTo credits pubkey + creditedTo more pubkey := by
  simp [creditedTo]

/-- The credits are a history; the database itself only keeps the balances. -/
structure PaymentTables where
  invoices : InsertionMap JsString DBInvoice
  users : InsertionMap Bytes DBUser
  credits : List Credit := []
  deriving DecidableEq

def InvoiceUnit.toMsats (amount : Int) : InvoiceUnit → Int
  | .msats => amount
  | .sats => amount * 1000
  | .btc => amount * 100000000 * 1000

namespace PaymentTables

variable (tables : PaymentTables)

def getBalanceByPubkey (pubkey : Bytes) : Int := ((tables.users.get pubkey).map DBUser.balance).getD 0

def isAdmitted (pubkey : Bytes) : Bool := (tables.users.get pubkey).any DBUser.isAdmitted

-- UPDATE users SET balance = balance + msats.
def credit (credit : Credit) : PaymentTables :=
  match tables.users.get credit.payee with
  | none => tables
  | some user =>
    { tables with
      users := tables.users.set credit.payee { user with balance := user.balance + credit.msats }
      credits := tables.credits ++ [credit] }

-- The SQL function confirm_invoice.
def confirmInvoice (invoiceId : JsString) (amountReceived confirmationDate : Int) : PaymentTables :=
  match tables.invoices.get invoiceId with
  | none => tables
  | some invoice =>
    match invoice.confirmedAt with
    | some _ => tables
    | none =>
      let confirmed := { tables with
        invoices := tables.invoices.set invoiceId
          { invoice with confirmedAt := some confirmationDate, amountPaid := some amountReceived } }
      match invoice.unit with
      | none => confirmed
      | some unit => confirmed.credit { invoiceId, payee := invoice.pubkey, msats := unit.toMsats amountReceived }

-- UserRepository.upsert: an undefined value is left out of the SET list.
def upsertUser (pubkey : Bytes) (isAdmitted : Option Bool) (tosAcceptedAt : Option Int) : PaymentTables :=
  let user := (tables.users.get pubkey).getD {}
  { tables with
    users := tables.users.set pubkey
      { user with
        isAdmitted := isAdmitted.getD user.isAdmitted
        tosAcceptedAt := tosAcceptedAt.orElse fun _ => user.tosAcceptedAt } }

-- InvoiceRepository.upsert: an invoice that is already there only takes the status.
def upsertInvoice (id : JsString) (row : DBInvoice) : PaymentTables :=
  { tables with
    invoices := tables.invoices.set id (match tables.invoices.get id with
      | none => row
      | some invoice => { invoice with status := row.status.orElse fun _ => invoice.status }) }

-- InvoiceRepository.updateStatus.
def updateStatus (id : JsString) (status : InvoiceStatus) : PaymentTables :=
  match tables.invoices.get id with
  | none => tables
  | some invoice => { tables with invoices := tables.invoices.set id { invoice with status := some status } }

def pendingInvoices : List (JsString × DBInvoice) :=
  tables.invoices.entries.filter fun (_, invoice) => invoice.status == some .pending

def creditFor (invoiceId : JsString) (amountReceived : Int) : Option Credit :=
  match tables.invoices.get invoiceId with
  | some { pubkey, unit := some unit, confirmedAt := none, .. } =>
    if (tables.users.get pubkey).isSome then
      some { invoiceId, payee := pubkey, msats := unit.toMsats amountReceived }
    else none
  | _ => none

variable {tables}

theorem creditFor_iff (invoiceId : JsString) (amountReceived : Int) (credit : Credit) :
    tables.creditFor invoiceId amountReceived = some credit ↔
      ∃ invoice unit, tables.invoices.get invoiceId = some invoice ∧ invoice.confirmedAt = none ∧
        invoice.unit = some unit ∧ (tables.users.get invoice.pubkey).isSome = true ∧
        credit = { invoiceId, payee := invoice.pubkey, msats := unit.toMsats amountReceived } := by
  constructor
  · intro made
    unfold creditFor at made
    split at made
    next pubkey requested paid unit status found =>
      split at made
      next user =>
        cases made
        exact ⟨_, unit, found, rfl, rfl, user, rfl⟩
      next => cases made
    next => cases made
  · rintro ⟨⟨pubkey, requested, paid, unit, status, confirmedAt⟩, stored, found, unconfirmed, isUnit, user, rfl⟩
    cases unconfirmed
    cases isUnit
    unfold creditFor
    rw [found]
    exact if_pos user

theorem credit_invoices (credit : Credit) : (tables.credit credit).invoices = tables.invoices := by
  unfold PaymentTables.credit
  split <;> rfl

section Confirmation

variable (tables) (invoiceId : JsString) (amountReceived confirmationDate : Int)

theorem confirmInvoice_credits : (tables.confirmInvoice invoiceId amountReceived confirmationDate).credits =
    tables.credits ++ (tables.creditFor invoiceId amountReceived).toList := by
  unfold confirmInvoice creditFor
  cases found : tables.invoices.get invoiceId with
  | none => simp
  | some invoice =>
    obtain ⟨pubkey, requested, paid, unit, status, confirmedAt⟩ := invoice
    cases confirmedAt with
    | some date => simp
    | none =>
      cases unit with
      | none => simp
      | some unit => cases user : tables.users.get pubkey <;> simp [credit, user]

theorem confirmInvoice_invoices (id : JsString) :
    (tables.confirmInvoice invoiceId amountReceived confirmationDate).invoices.get id =
      (tables.invoices.get id).map fun invoice =>
        if id = invoiceId ∧ invoice.confirmedAt = none then
          { invoice with confirmedAt := some confirmationDate, amountPaid := some amountReceived }
        else invoice := by
  by_cases same : id = invoiceId
  · subst same
    unfold confirmInvoice
    cases found : tables.invoices.get id with
    | none => simp [found]
    | some invoice =>
      obtain ⟨pubkey, requested, paid, unit, status, confirmedAt⟩ := invoice
      cases confirmedAt with
      | some date => simp [found]
      | none => cases unit <;> simp [credit_invoices, InsertionMap.get_set]
  · unfold confirmInvoice
    cases found : tables.invoices.get invoiceId with
    | none => simp [same]
    | some invoice =>
      obtain ⟨pubkey, requested, paid, unit, status, confirmedAt⟩ := invoice
      cases confirmedAt with
      | some date => simp [same]
      | none => cases unit <;> simp [credit_invoices, InsertionMap.get_set, same]

theorem confirmInvoice_users (pubkey : Bytes) :
    (tables.confirmInvoice invoiceId amountReceived confirmationDate).users.get pubkey =
      (tables.users.get pubkey).map fun user =>
        { user with
          balance := user.balance + creditedTo (tables.creditFor invoiceId amountReceived).toList pubkey } := by
  unfold confirmInvoice creditFor
  cases found : tables.invoices.get invoiceId with
  | none => simp [creditedTo]
  | some invoice =>
    obtain ⟨payee, requested, paid, unit, status, confirmedAt⟩ := invoice
    cases confirmedAt with
    | some date => simp [creditedTo]
    | none =>
      cases unit with
      | none => simp [creditedTo]
      | some unit =>
        cases user : tables.users.get payee with
        | none => simp [credit, user, creditedTo]
        | some row =>
          by_cases same : pubkey = payee
          · subst same
            simp [credit, user, InsertionMap.get_set, creditedTo]
          · simp [credit, user, InsertionMap.get_set, same, Ne.symm same, creditedTo]

theorem confirmInvoice_balance (pubkey : Bytes) :
    (tables.confirmInvoice invoiceId amountReceived confirmationDate).getBalanceByPubkey pubkey =
      tables.getBalanceByPubkey pubkey + creditedTo (tables.creditFor invoiceId amountReceived).toList pubkey := by
  rw [getBalanceByPubkey, confirmInvoice_users, getBalanceByPubkey]
  cases user : tables.users.get pubkey with
  | some row => simp
  | none =>
    have nothing : (tables.creditFor invoiceId amountReceived).toList.filter
        (fun credit => credit.payee = pubkey) = [] := by
      rw [List.filter_eq_nil_iff]
      intro credit member
      obtain ⟨invoice, unit, -, -, -, known, rfl⟩ :=
        (creditFor_iff invoiceId amountReceived credit).mp (Option.mem_toList.mp member)
      simp only [decide_eq_true_eq]
      rintro rfl
      simp [user] at known
    rw [creditedTo, nothing]
    rfl

theorem confirmInvoice_isAdmitted (pubkey : Bytes) :
    (tables.confirmInvoice invoiceId amountReceived confirmationDate).isAdmitted pubkey = tables.isAdmitted pubkey := by
  rw [isAdmitted, confirmInvoice_users, Option.any_map]
  rfl

end Confirmation

section Users

variable (tables) (pubkey : Bytes) (isAdmitted : Option Bool) (tosAcceptedAt : Option Int)

theorem upsertUser_balance (other : Bytes) :
    (tables.upsertUser pubkey isAdmitted tosAcceptedAt).getBalanceByPubkey other = tables.getBalanceByPubkey other := by
  unfold upsertUser getBalanceByPubkey
  rw [InsertionMap.get_set]
  split
  next same =>
    subst same
    cases tables.users.get other <;> rfl
  next => rfl

theorem upsertUser_isAdmitted (other : Bytes) :
    (tables.upsertUser pubkey (some true) tosAcceptedAt).isAdmitted other =
      (tables.isAdmitted other || decide (other = pubkey)) := by
  unfold upsertUser isAdmitted
  rw [InsertionMap.get_set]
  by_cases same : other = pubkey <;> simp [same]

theorem upsertUser_isSome (other : Bytes) (known : (tables.users.get other).isSome = true) :
    ((tables.upsertUser pubkey isAdmitted tosAcceptedAt).users.get other).isSome = true := by
  unfold upsertUser
  rw [InsertionMap.get_set]
  split
  next => rfl
  next => exact known

end Users

section Statuses

variable (tables)

theorem updateStatus_invoices (id other : JsString) (status : InvoiceStatus) :
    (tables.updateStatus id status).invoices.get other =
      (tables.invoices.get other).map fun invoice => if other = id then { invoice with status := some status }
        else invoice := by
  unfold updateStatus
  cases found : tables.invoices.get id with
  | none =>
    by_cases same : other = id
    · subst same
      simp [found]
    · simp [same]
  | some invoice =>
    by_cases same : other = id
    · subst same
      simp [found, InsertionMap.get_set]
    · simp [InsertionMap.get_set, same]

theorem updateStatus_users (id : JsString) (status : InvoiceStatus) :
    (tables.updateStatus id status).users = tables.users ∧ (tables.updateStatus id status).credits = tables.credits := by
  unfold updateStatus
  split <;> exact ⟨rfl, rfl⟩

end Statuses

structure Accounted (opening : Bytes → Int) (tables : PaymentTables) : Prop where
  once : (tables.credits.map Credit.invoiceId).Nodup
  confirmed : ∀ credit ∈ tables.credits, ∃ invoice, tables.invoices.get credit.invoiceId = some invoice ∧
    invoice.pubkey = credit.payee ∧ invoice.confirmedAt.isSome = true
  balances : ∀ pubkey, tables.getBalanceByPubkey pubkey = opening pubkey + creditedTo tables.credits pubkey

section Accounts

variable {opening : Bytes → Int}

theorem accounted_confirmInvoice (accounted : Accounted opening tables) (invoiceId : JsString)
    (amountReceived confirmationDate : Int) :
    Accounted opening (tables.confirmInvoice invoiceId amountReceived confirmationDate) := by
  constructor
  · rw [confirmInvoice_credits, List.map_append]
    refine accounted.once.append (by cases tables.creditFor invoiceId amountReceived <;> simp) ?_
    intro id earlier new
    obtain ⟨old, inCredits, rfl⟩ := List.mem_map.mp earlier
    obtain ⟨credit, made, same⟩ := List.mem_map.mp new
    obtain ⟨stored, unit, found, unconfirmed, -, -, rfl⟩ :=
      (creditFor_iff invoiceId amountReceived credit).mp (Option.mem_toList.mp made)
    obtain ⟨invoice, foundOld, -, confirmed⟩ := accounted.confirmed old inCredits
    rw [← same, found] at foundOld
    cases foundOld
    simp [unconfirmed] at confirmed
  · intro credit member
    rw [confirmInvoice_credits] at member
    rw [confirmInvoice_invoices]
    rcases List.mem_append.mp member with old | new
    · obtain ⟨invoice, found, payee, confirmed⟩ := accounted.confirmed credit old
      have known : invoice.confirmedAt ≠ none := Option.isSome_iff_ne_none.mp confirmed
      exact ⟨invoice, by simp [found, known], payee, confirmed⟩
    · obtain ⟨invoice, unit, found, unconfirmed, -, -, rfl⟩ :=
        (creditFor_iff invoiceId amountReceived credit).mp (Option.mem_toList.mp new)
      exact ⟨_, by rw [found]; rfl, by simp [unconfirmed], by simp [unconfirmed]⟩
  · intro pubkey
    rw [confirmInvoice_balance, accounted.balances, confirmInvoice_credits, creditedTo_append, Int.add_assoc]

theorem accounted_upsertUser (accounted : Accounted opening tables) (pubkey : Bytes) (isAdmitted : Option Bool)
    (tosAcceptedAt : Option Int) : Accounted opening (tables.upsertUser pubkey isAdmitted tosAcceptedAt) where
  once := accounted.once
  confirmed := accounted.confirmed
  balances := fun other => by
    rw [upsertUser_balance, accounted.balances]
    rfl

theorem accounted_updateStatus (accounted : Accounted opening tables) (id : JsString) (status : InvoiceStatus) :
    Accounted opening (tables.updateStatus id status) := by
  obtain ⟨users, credits⟩ := updateStatus_users tables id status
  constructor
  · rw [credits]
    exact accounted.once
  · intro credit member
    rw [credits] at member
    obtain ⟨invoice, found, payee, confirmed⟩ := accounted.confirmed credit member
    rw [updateStatus_invoices, found]
    refine ⟨_, rfl, ?_⟩
    split <;> exact ⟨payee, confirmed⟩
  · intro pubkey
    rw [getBalanceByPubkey, users, credits]
    exact accounted.balances pubkey

end Accounts

end PaymentTables

end Nostream
