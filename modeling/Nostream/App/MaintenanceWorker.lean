import Nostream.Repositories.Writes
import Nostream.Services.PaymentsService
import Nostream.Shared.Runs
import Nostream.Shared.Slots

set_option autoImplicit false

namespace Nostream

open Utf16 Hex Effects

/-- A processor's Partial<Invoice>: a key that is left out keeps the value of the invoice asked about. -/
structure Answer where
  id : Option JsString
  status : Option InvoiceStatus
  confirmedAt : Option Int := none
  pubkey : Option JsString := none
  amountRequested : Option Int := none
  unit : Option (Option InvoiceUnit) := none

namespace MaintenanceWorker

structure StatusUpdate where
  invoice : Invoice
  id : JsString
  status : InvoiceStatus
  answer : Answer

-- The two calls of mergeDeepLeft.
def StatusUpdate.merged (update : StatusUpdate) : Invoice :=
  { id := update.id
    pubkey := update.answer.pubkey.getD update.invoice.pubkey
    amountRequested := update.answer.amountRequested.getD update.invoice.amountRequested
    amountPaid := some update.invoice.amountRequested
    unit := update.answer.unit.getD update.invoice.unit
    status := some update.status
    confirmedAt := update.answer.confirmedAt.orElse fun _ => update.invoice.confirmedAt }

def StatusUpdate.confirms (update : StatusUpdate) : Bool :=
  update.invoice.status != some update.status && update.status == .completed && update.answer.confirmedAt.isSome

/-- Where a pass of onSchedule stands between the calls that it awaits. -/
inductive Pass where
  | asking (invoice : Invoice) (rest : List Invoice)
  | updating (update : StatusUpdate) (rest : List Invoice)
  | confirming (rest : List Invoice)
  | finished

namespace Pass

def start : List Invoice → Pass
  | [] => .finished
  | invoice :: rest => .asking invoice rest

def afterAnswer (invoice : Invoice) (rest : List Invoice) : Option Answer → Pass
  | some answer =>
    match answer.id, answer.status with
    | some id, some status => .updating { invoice, id, status, answer } rest
    | _, _ => start rest
  | none => start rest

def statusUpdate : Pass → Option StatusUpdate
  | updating update _ => some update
  | _ => none

def invoices : Pass → List Invoice
  | asking invoice rest => invoice :: rest
  | updating update rest => update.invoice :: rest
  | confirming rest => rest
  | finished => []

@[simp] theorem invoices_start (rest : List Invoice) : (start rest).invoices = rest := by
  cases rest <;> rfl

theorem invoices_afterAnswer (invoice : Invoice) (rest : List Invoice) (answer : Option Answer) :
    (afterAnswer invoice rest answer).invoices ⊆ invoice :: rest := by
  unfold afterAnswer
  split
  next answer =>
    split
    next => exact List.Subset.refl _
    next =>
      rw [invoices_start]
      exact List.subset_cons_self invoice rest
  next =>
    rw [invoices_start]
    exact List.subset_cons_self invoice rest

end Pass

structure Maintenance where
  tables : PaymentTables
  passes : List Pass := []
  confirmations : List Invoice := []
  failed : List JsString := []

inductive Action where
  | schedule (found : List (JsString × DBInvoice))
  | answer (i : Nat) (answer : Option Answer)
  | updateStatus (i : Nat) (fate : Fate)
  | confirm (j : Nat) (settings : Settings) (now : Int) (fates : TransactionFates)
  | goOn (i : Nat)

-- findPendingInvoices has no order, and a pass with payments disabled does nothing. A pass goes on when both the
-- confirmation and the notification are done or one of them has failed, which the notification may do at any time.
def step (maintenance : Maintenance) : Action → Option Maintenance
  | .schedule found =>
    if found.Subperm maintenance.tables.pendingInvoices ∧
        found.length = min 10 maintenance.tables.pendingInvoices.length then
      some { maintenance with
        passes := maintenance.passes ++ [.start (found.map fun (id, invoice) => fromDBInvoice id invoice)] }
    else none
  | .answer i answer =>
    match maintenance.passes[i]? with
    | some (.asking invoice rest) =>
      some { maintenance with passes := maintenance.passes.set i (.afterAnswer invoice rest answer) }
    | _ => none
  | .updateStatus i fate =>
    match maintenance.passes[i]? with
    | some (.updating update rest) =>
      let updated := { maintenance with
        tables := if Writes.writes fate then maintenance.tables.updateStatus update.id update.status
          else maintenance.tables }
      if fate = .completes ∧ update.confirms then
        some { updated with
          passes := maintenance.passes.set i (.confirming rest)
          confirmations := maintenance.confirmations ++ [update.merged] }
      else some { updated with passes := maintenance.passes.set i (.start rest) }
    | _ => none
  | .confirm j settings now fates =>
    maintenance.confirmations[j]?.map fun invoice =>
      let confirmed := (PaymentsService.confirmInvoice settings now fates invoice).run { tables := maintenance.tables }
      { maintenance with
        tables := confirmed.2.tables
        confirmations := maintenance.confirmations.eraseIdx j
        failed := match confirmed.1 with
          | .ok _ => maintenance.failed
          | .error _ => maintenance.failed ++ [invoice.id] }
  | .goOn i =>
    match maintenance.passes[i]? with
    | some (.confirming rest) => some { maintenance with passes := maintenance.passes.set i (.start rest) }
    | _ => none

inductive Step (maintenance : Maintenance) : Action → Maintenance → Prop
  | schedule (found : List (JsString × DBInvoice)) (pending : found ⊆ maintenance.tables.pendingInvoices) :
      Step maintenance (.schedule found)
        { maintenance with
          passes := maintenance.passes ++ [.start (found.map fun (id, invoice) => fromDBInvoice id invoice)] }
  | moved (action : Action) (i : Nat) (pass reached : Pass) (found : maintenance.passes[i]? = some pass)
      (listed : reached.invoices ⊆ pass.invoices) :
      Step maintenance action { maintenance with passes := maintenance.passes.set i reached }
  | updated (i : Nat) (fate : Fate) (update : StatusUpdate) (rest : List Invoice)
      (found : maintenance.passes[i]? = some (.updating update rest))
      (unconfirmed : ¬ (fate = .completes ∧ update.confirms = true)) :
      Step maintenance (.updateStatus i fate)
        { maintenance with
          tables := if Writes.writes fate then maintenance.tables.updateStatus update.id update.status
            else maintenance.tables
          passes := maintenance.passes.set i (.start rest) }
  | confirming (i : Nat) (update : StatusUpdate) (rest : List Invoice)
      (found : maintenance.passes[i]? = some (.updating update rest)) (confirms : update.confirms = true) :
      Step maintenance (.updateStatus i .completes)
        { maintenance with
          tables := maintenance.tables.updateStatus update.id update.status
          passes := maintenance.passes.set i (.confirming rest)
          confirmations := maintenance.confirmations ++ [update.merged] }
  | confirmed (j : Nat) (settings : Settings) (now : Int) (fates : TransactionFates) (invoice : Invoice)
      (failed : List JsString) (found : maintenance.confirmations[j]? = some invoice)
      (known : failed ⊆ invoice.id :: maintenance.failed) :
      Step maintenance (.confirm j settings now fates)
        { maintenance with
          tables := ((PaymentsService.confirmInvoice settings now fates invoice).run
            { tables := maintenance.tables }).2.tables
          confirmations := maintenance.confirmations.eraseIdx j
          failed := failed }

theorem step_cases (maintenance reached : Maintenance) (action : Action)
    (taken : step maintenance action = some reached) : Step maintenance action reached := by
  cases action with
  | schedule found =>
    rw [step] at taken
    split at taken
    next pending =>
      cases taken
      exact .schedule found pending.1.subset
    next => cases taken
  | answer i answer =>
    rw [step] at taken
    split at taken
    next invoice rest found =>
      cases taken
      exact .moved _ i _ _ found (Pass.invoices_afterAnswer invoice rest answer)
    next => cases taken
  | updateStatus i fate =>
    rw [step] at taken
    split at taken
    next update rest found =>
      dsimp only at taken
      split at taken
      next confirms =>
        cases taken
        obtain ⟨rfl, confirms⟩ := confirms
        exact .confirming i update rest found confirms
      next unconfirmed =>
        cases taken
        exact .updated i fate update rest found unconfirmed
    next => cases taken
  | confirm j settings now fates =>
    obtain ⟨invoice, found, rfl⟩ := Option.map_eq_some_iff.mp taken
    refine .confirmed j settings now fates invoice _ found ?_
    split
    next => exact List.subset_cons_self _ _
    next =>
      intro id member
      rcases List.mem_append.mp member with old | new
      · exact List.mem_cons_of_mem _ old
      · rw [List.mem_singleton.mp new]
        exact List.mem_cons_self
  | goOn i =>
    rw [step] at taken
    split at taken
    next rest found =>
      cases taken
      refine .moved _ i _ _ found ?_
      rw [Pass.invoices_start]
      exact List.Subset.refl rest
    next => cases taken

end MaintenanceWorker

end Nostream
