import Nostream.App.MaintenanceWorker

set_option autoImplicit false

namespace Nostream.CreditedInvoices

open Utf16 Hex Effects PaymentsService PaymentTables MaintenanceWorker Slots
open Runs hiding execute

def creditOf (id : JsString) (row : DBInvoice) (unit : InvoiceUnit) : Credit :=
  { invoiceId := id, payee := row.pubkey, msats := unit.toMsats row.amountRequested }

structure Settled (tables : PaymentTables) (id : JsString) (row : DBInvoice) : Prop where
  confirmed : row.confirmedAt.isSome = true
  credited : ∃ unit, row.unit = some unit ∧
    (tables.credits.filter fun credit => credit.invoiceId = id) = [creditOf id row unit]

abbrev UnderWay (maintenance : Maintenance) (id : JsString) : Prop :=
  ∃ invoice ∈ maintenance.confirmations, invoice.id = id

structure AlwaysCredited (opening : Bytes → Int) (maintenance : Maintenance) : Prop where
  accounted : Accounted opening maintenance.tables
  completed : ∀ id row, maintenance.tables.invoices.get id = some row → row.status = some .completed →
    Settled maintenance.tables id row ∨ UnderWay maintenance id
  retried : ∀ id ∈ maintenance.failed, ∀ row, maintenance.tables.invoices.get id = some row →
    row.status = some .pending ∨ Settled maintenance.tables id row ∨ UnderWay maintenance id

structure Ready (opening : Bytes → Int) (tables : PaymentTables) : Prop where
  accounted : Accounted opening tables
  payable : ∀ id row, tables.invoices.get id = some row →
    row.unit.isSome = true ∧ (tables.users.get row.pubkey).isSome = true
  settled : ∀ id row, tables.invoices.get id = some row →
    row.confirmedAt.isSome = true ∨ row.status = some .completed → Settled tables id row

/-- A status that completes an unconfirmed invoice comes with its date, for the invoice asked about, and the
reply arrives. -/
abbrev UpdateConfirms (maintenance : Maintenance) (fate : Fate) (update : StatusUpdate) : Prop :=
  Writes.writes fate = true → update.status = .completed →
    ∀ row ∈ maintenance.tables.invoices.get update.id, row.confirmedAt = none →
      (fate = .completes ∧ update.answer.confirmedAt.isSome = true → update.id = update.invoice.id) ∧
        (fate = .completes ∧ update.answer.confirmedAt.isSome = true ∨ UnderWay maintenance update.id)

/-- Of an unconfirmed invoice only a confirmation beside another one may fail. -/
abbrev FailsBesideAnother (maintenance : Maintenance) (j : Nat) (settings : Settings) (fates : TransactionFates)
    (invoice : Invoice) : Prop :=
  ∀ amountPaid ∈ invoice.amountPaid, goesThrough settings fates invoice amountPaid = false →
    ∀ row ∈ maintenance.tables.invoices.get invoice.id, row.confirmedAt = none →
      ∃ other ∈ maintenance.confirmations.eraseIdx j, other.id = invoice.id

def Allowed (maintenance : Maintenance) : Action → Prop
  | .updateStatus i fate =>
    ∀ update ∈ maintenance.passes[i]?.bind Pass.statusUpdate, UpdateConfirms maintenance fate update
  | .confirm j settings _ fates =>
    ∀ invoice ∈ maintenance.confirmations[j]?, FailsBesideAnother maintenance j settings fates invoice
  | _ => True

instance (maintenance : Maintenance) : (action : Action) → Decidable (Allowed maintenance action)
  | .schedule _ => inferInstanceAs (Decidable True)
  | .answer _ _ => inferInstanceAs (Decidable True)
  | .updateStatus i fate => inferInstanceAs (Decidable (∀ update ∈ maintenance.passes[i]?.bind Pass.statusUpdate,
      UpdateConfirms maintenance fate update))
  | .confirm j settings _ fates => inferInstanceAs (Decidable (∀ invoice ∈ maintenance.confirmations[j]?,
      FailsBesideAnother maintenance j settings fates invoice))
  | .goOn _ => inferInstanceAs (Decidable True)

structure Invariant (opening : Bytes → Int) (maintenance : Maintenance) : Prop where
  accounted : Accounted opening maintenance.tables
  payable : ∀ id row, maintenance.tables.invoices.get id = some row →
    row.unit.isSome = true ∧ (maintenance.tables.users.get row.pubkey).isSome = true
  settled : ∀ id row, maintenance.tables.invoices.get id = some row → row.confirmedAt.isSome = true →
    Settled maintenance.tables id row
  covered : ∀ id row, maintenance.tables.invoices.get id = some row →
    row.status = some .completed ∨ id ∈ maintenance.failed →
      row.confirmedAt.isSome = true ∨ UnderWay maintenance id
  confirmations : ∀ invoice ∈ maintenance.confirmations, ∃ amountPaid confirmedAt,
    payment invoice = .ok (amountPaid, confirmedAt) ∧
      ∀ row, maintenance.tables.invoices.get invoice.id = some row → row.confirmedAt = none →
        amountPaid = row.amountRequested
  listed : ∀ pass ∈ maintenance.passes, ∀ invoice ∈ pass.invoices, invoice.status = some .pending ∧
    ∀ row, maintenance.tables.invoices.get invoice.id = some row → row.amountRequested = invoice.amountRequested

theorem always_credited (opening : Bytes → Int) (maintenance : Maintenance)
    (invariant : Invariant opening maintenance) : AlwaysCredited opening maintenance := by
  refine ⟨invariant.accounted, fun id row found completed => ?_, fun id member row found => ?_⟩
  · exact (invariant.covered id row found (.inl completed)).imp_left (invariant.settled id row found)
  · exact .inr ((invariant.covered id row found (.inr member)).imp_left (invariant.settled id row found))

theorem invariant_ready (opening : Bytes → Int) (tables : PaymentTables) (ready : Ready opening tables) :
    Invariant opening { tables := tables } where
  accounted := ready.accounted
  payable := ready.payable
  settled := fun id row found confirmed => ready.settled id row found (.inl confirmed)
  covered := fun id row found completed => by
    rcases completed with completed | failed
    · exact .inl (ready.settled id row found (.inr completed)).confirmed
    · cases failed
  confirmations := fun _ member => by cases member
  listed := fun _ member => by cases member

structure Advances (before after : PaymentTables) : Prop where
  row : ∀ id row, after.invoices.get id = some row → ∃ old, before.invoices.get id = some old ∧
    row.pubkey = old.pubkey ∧ row.amountRequested = old.amountRequested ∧ row.unit = old.unit ∧
    (old.confirmedAt.isSome = true → row.confirmedAt = old.confirmedAt)
  users : ∀ pubkey, (before.users.get pubkey).isSome = true → (after.users.get pubkey).isSome = true

theorem advances_self (tables : PaymentTables) : Advances tables tables :=
  ⟨fun _ row found => ⟨row, found, rfl, rfl, rfl, fun _ => rfl⟩, fun _ known => known⟩

theorem updateStatus_row (tables : PaymentTables) (id other : JsString) (status : InvoiceStatus) (row : DBInvoice)
    (found : (tables.updateStatus id status).invoices.get other = some row) :
    ∃ old, tables.invoices.get other = some old ∧
      row = if other = id then { old with status := some status } else old := by
  rw [updateStatus_invoices] at found
  obtain ⟨old, stored, rfl⟩ := Option.map_eq_some_iff.mp found
  exact ⟨old, stored, rfl⟩

theorem updateStatus_advances (tables : PaymentTables) (id : JsString) (status : InvoiceStatus) :
    Advances tables (tables.updateStatus id status) := by
  constructor
  · intro other row found
    obtain ⟨old, stored, rfl⟩ := updateStatus_row tables id other status row found
    refine ⟨old, stored, ?_⟩
    split <;> exact ⟨rfl, rfl, rfl, fun _ => rfl⟩
  · intro pubkey known
    rwa [(updateStatus_users tables id status).1]

theorem filter_once (credits : List Credit) (once : (credits.map Credit.invoiceId).Nodup) (credit : Credit)
    (member : credit ∈ credits) : (credits.filter fun other => other.invoiceId = credit.invoiceId) = [credit] := by
  induction credits with
  | nil => cases member
  | cons first rest ih =>
    obtain ⟨fresh, tail⟩ := List.nodup_cons.mp once
    rcases List.mem_cons.mp member with rfl | inRest
    · have others : (rest.filter fun other => other.invoiceId = credit.invoiceId) = [] := by
        rw [List.filter_eq_nil_iff]
        intro other inRest
        simp only [decide_eq_true_eq]
        intro same
        exact fresh (same ▸ List.mem_map_of_mem inRest)
      simp [others]
    · have apart : first.invoiceId ≠ credit.invoiceId := by
        intro same
        exact fresh (same ▸ List.mem_map_of_mem inRest)
      simp [apart, ih tail inRest]

theorem settled_member (tables : PaymentTables) (id : JsString) (row : DBInvoice) (settled : Settled tables id row) :
    ∃ unit, row.unit = some unit ∧ creditOf id row unit ∈ tables.credits := by
  obtain ⟨unit, hasUnit, credits⟩ := settled.credited
  refine ⟨unit, hasUnit, List.mem_of_mem_filter (p := fun credit => credit.invoiceId = id) ?_⟩
  rw [credits]
  exact List.mem_singleton_self _

theorem settled_of_member (opening : Bytes → Int) (tables : PaymentTables) (accounted : Accounted opening tables)
    (id : JsString) (row : DBInvoice) (unit : InvoiceUnit) (confirmed : row.confirmedAt.isSome = true)
    (hasUnit : row.unit = some unit) (member : creditOf id row unit ∈ tables.credits) : Settled tables id row :=
  ⟨confirmed, unit, hasUnit, filter_once tables.credits accounted.once _ member⟩

theorem updateStatus_settled (tables : PaymentTables) (id other : JsString) (status : InvoiceStatus)
    (settled : ∀ row, tables.invoices.get other = some row → row.confirmedAt.isSome = true → Settled tables other row)
    (row : DBInvoice) (found : (tables.updateStatus id status).invoices.get other = some row)
    (confirmed : row.confirmedAt.isSome = true) : Settled (tables.updateStatus id status) other row := by
  obtain ⟨old, stored, rfl⟩ := updateStatus_row tables id other status row found
  have same : ∀ unit, creditOf other (if other = id then { old with status := some status } else old) unit =
      creditOf other old unit := by
    intro unit
    split <;> rfl
  have wasConfirmed : old.confirmedAt.isSome = true := by
    split at confirmed <;> exact confirmed
  obtain ⟨-, unit, hasUnit, credits⟩ := settled old stored wasConfirmed
  refine ⟨confirmed, unit, ?_, ?_⟩
  · split <;> exact hasUnit
  · rw [(updateStatus_users tables id status).2, same, credits]

section Confirmed

variable (settings : Settings) (now : Int) (invoice : Invoice) (tables : PaymentTables) (amountPaid confirmedAt : Int)

theorem confirmed_row (id : JsString) (row : DBInvoice)
    (found : (confirmed settings now invoice amountPaid confirmedAt tables).invoices.get id = some row) :
    ∃ old, tables.invoices.get id = some old ∧
      row = if id = invoice.id ∧ old.confirmedAt = none then
          { old with confirmedAt := some confirmedAt, amountPaid := some amountPaid }
        else old := by
  rw [confirmed_invoices] at found
  obtain ⟨old, stored, rfl⟩ := Option.map_eq_some_iff.mp found
  exact ⟨old, stored, rfl⟩

theorem confirmed_advances :
    Advances tables (confirmed settings now invoice amountPaid confirmedAt tables) := by
  refine ⟨fun id row found => ?_, fun pubkey known => confirmed_users settings now invoice tables _ _ pubkey known⟩
  obtain ⟨old, stored, rfl⟩ := confirmed_row settings now invoice tables amountPaid confirmedAt id row found
  refine ⟨old, stored, ?_⟩
  split
  next fresh => exact ⟨rfl, rfl, rfl, by simp [fresh.2]⟩
  next => exact ⟨rfl, rfl, rfl, fun _ => rfl⟩

theorem confirmed_settled (opening : Bytes → Int) (accounted : Accounted opening tables)
    (payable : ∀ id row, tables.invoices.get id = some row →
      row.unit.isSome = true ∧ (tables.users.get row.pubkey).isSome = true)
    (settled : ∀ id row, tables.invoices.get id = some row → row.confirmedAt.isSome = true → Settled tables id row)
    (amount : ∀ row, tables.invoices.get invoice.id = some row → row.confirmedAt = none →
      amountPaid = row.amountRequested)
    (id : JsString) (row : DBInvoice)
    (found : (confirmed settings now invoice amountPaid confirmedAt tables).invoices.get id = some row)
    (isConfirmed : row.confirmedAt.isSome = true) :
    Settled (confirmed settings now invoice amountPaid confirmedAt tables) id row := by
  have after := confirmed_accounted settings now invoice tables amountPaid confirmedAt opening accounted
  have credits := confirmed_credits settings now invoice tables amountPaid confirmedAt
  obtain ⟨old, stored, rfl⟩ := confirmed_row settings now invoice tables amountPaid confirmedAt id row found
  split at isConfirmed
  next fresh =>
    obtain ⟨rfl, unconfirmed⟩ := fresh
    rw [if_pos ⟨rfl, unconfirmed⟩]
    obtain ⟨hasUnit, known⟩ := payable invoice.id old stored
    obtain ⟨unit, isUnit⟩ := Option.isSome_iff_exists.mp hasUnit
    have made := (creditFor_iff invoice.id amountPaid _).mpr ⟨old, unit, stored, unconfirmed, isUnit, known, rfl⟩
    refine settled_of_member opening _ after invoice.id _ unit rfl isUnit ?_
    rw [credits, made, amount old stored unconfirmed]
    exact List.mem_append_right _ (List.mem_singleton_self _)
  next earlier =>
    rw [if_neg earlier]
    obtain ⟨unit, hasUnit, member⟩ := settled_member tables id old (settled id old stored isConfirmed)
    refine settled_of_member opening _ after id old unit isConfirmed hasUnit ?_
    rw [credits]
    exact List.mem_append_left _ member

end Confirmed

section Steps

variable {opening : Bytes → Int} {maintenance : Maintenance}

def Listed (tables : PaymentTables) (invoice : Invoice) : Prop :=
  invoice.status = some .pending ∧
    ∀ row, tables.invoices.get invoice.id = some row → row.amountRequested = invoice.amountRequested

theorem listed_advances (before after : PaymentTables) (advances : Advances before after) (invoice : Invoice)
    (listed : Listed before invoice) : Listed after invoice := by
  refine ⟨listed.1, fun row found => ?_⟩
  obtain ⟨old, stored, -, amount, -⟩ := advances.row invoice.id row found
  rw [amount, listed.2 old stored]

theorem payable_advances (before after : PaymentTables) (advances : Advances before after)
    (payable : ∀ id row, before.invoices.get id = some row →
      row.unit.isSome = true ∧ (before.users.get row.pubkey).isSome = true)
    (id : JsString) (row : DBInvoice) (found : after.invoices.get id = some row) :
    row.unit.isSome = true ∧ (after.users.get row.pubkey).isSome = true := by
  obtain ⟨old, stored, pubkey, -, unit, -⟩ := advances.row id row found
  obtain ⟨hasUnit, known⟩ := payable id old stored
  rw [unit, pubkey]
  exact ⟨hasUnit, advances.users _ known⟩

theorem amount_advances (before after : PaymentTables) (advances : Advances before after) (id : JsString)
    (amountPaid : Int) (amount : ∀ row, before.invoices.get id = some row → row.confirmedAt = none →
      amountPaid = row.amountRequested)
    (row : DBInvoice) (found : after.invoices.get id = some row) (unconfirmed : row.confirmedAt = none) :
    amountPaid = row.amountRequested := by
  obtain ⟨old, stored, -, same, -, kept⟩ := advances.row id row found
  have wasUnconfirmed : old.confirmedAt = none := by
    by_contra confirmed
    rw [kept (Option.isSome_iff_ne_none.mpr confirmed)] at unconfirmed
    exact confirmed unconfirmed
  rw [same]
  exact amount old stored wasUnconfirmed

theorem listed_fromDBInvoice (tables : PaymentTables) (entry : JsString × DBInvoice)
    (pending : entry ∈ tables.pendingInvoices) : Listed tables (fromDBInvoice entry.1 entry.2) := by
  obtain ⟨member, status⟩ := List.mem_filter.mp pending
  refine ⟨beq_iff_eq.mp status, fun row found => ?_⟩
  have stored := (InsertionMap.get_eq_some_iff tables.invoices entry.1 entry.2).mpr member
  rw [show (fromDBInvoice entry.1 entry.2).id = entry.1 from rfl, stored] at found
  cases found
  rfl

theorem listed_set (i : Nat) (reached : Pass) (after : PaymentTables) (advances : Advances maintenance.tables after)
    (invariant : Invariant opening maintenance) (pass : Pass) (found : maintenance.passes[i]? = some pass)
    (listed : reached.invoices ⊆ pass.invoices) :
    ∀ other ∈ maintenance.passes.set i reached, ∀ invoice ∈ other.invoices, Listed after invoice := by
  intro other member invoice inPass
  refine listed_advances maintenance.tables after advances invoice ?_
  rcases mem_set_cases member with rfl | old
  · exact invariant.listed pass (List.mem_of_getElem? found) invoice (listed inPass)
  · exact invariant.listed other old invoice inPass

theorem invariant_schedule (invariant : Invariant opening maintenance) (found : List (JsString × DBInvoice))
    (pending : found ⊆ maintenance.tables.pendingInvoices) :
    Invariant opening { maintenance with
      passes := maintenance.passes ++ [.start (found.map fun (id, invoice) => fromDBInvoice id invoice)] } := by
  refine { invariant with listed := fun pass member invoice inPass => ?_ }
  rcases List.mem_append.mp member with old | new
  · exact invariant.listed pass old invoice inPass
  · rw [List.mem_singleton.mp new, Pass.invoices_start] at inPass
    obtain ⟨entry, inFound, rfl⟩ := List.mem_map.mp inPass
    exact listed_fromDBInvoice maintenance.tables entry (pending inFound)

theorem invariant_moved (invariant : Invariant opening maintenance) (i : Nat) (pass reached : Pass)
    (found : maintenance.passes[i]? = some pass) (listed : reached.invoices ⊆ pass.invoices) :
    Invariant opening { maintenance with passes := maintenance.passes.set i reached } :=
  { invariant with listed := listed_set i reached maintenance.tables (advances_self _) invariant pass found listed }

theorem completed_update (update : StatusUpdate) (id : JsString) (row : DBInvoice)
    (found : (maintenance.tables.updateStatus update.id update.status).invoices.get id = some row)
    (completed : row.status = some .completed) :
    ∃ old, maintenance.tables.invoices.get id = some old ∧ row.confirmedAt = old.confirmedAt ∧
      (old.status = some .completed ∨ (id = update.id ∧ update.status = .completed)) := by
  obtain ⟨old, stored, rfl⟩ := updateStatus_row maintenance.tables update.id id update.status row found
  refine ⟨old, stored, ?_, ?_⟩
  · split <;> rfl
  · split at completed
    next same => exact .inr ⟨same, Option.some.inj completed⟩
    next => exact .inl completed

theorem invariant_updateStatus (invariant : Invariant opening maintenance) (i : Nat) (update : StatusUpdate)
    (rest : List Invoice) (found : maintenance.passes[i]? = some (.updating update rest)) (reached : Pass)
    (listed : reached.invoices ⊆ rest) (more : List Invoice)
    (covers : update.status = .completed → ∀ row, maintenance.tables.invoices.get update.id = some row →
      row.confirmedAt = none → ∃ invoice ∈ maintenance.confirmations ++ more, invoice.id = update.id)
    (payments : ∀ invoice ∈ more, ∃ amountPaid confirmedAt, payment invoice = .ok (amountPaid, confirmedAt) ∧
      ∀ row, maintenance.tables.invoices.get invoice.id = some row → row.confirmedAt = none →
        amountPaid = row.amountRequested) :
    Invariant opening { maintenance with
      tables := maintenance.tables.updateStatus update.id update.status
      passes := maintenance.passes.set i reached
      confirmations := maintenance.confirmations ++ more } := by
  have advances := updateStatus_advances maintenance.tables update.id update.status
  refine ⟨accounted_updateStatus invariant.accounted _ _, payable_advances _ _ advances invariant.payable, ?_, ?_, ?_, ?_⟩
  · intro id row stored confirmed
    exact updateStatus_settled maintenance.tables update.id id update.status (invariant.settled id) row stored confirmed
  · intro id row stored completed
    obtain ⟨old, before, same, wasCompleted⟩ : ∃ old, maintenance.tables.invoices.get id = some old ∧
        row.confirmedAt = old.confirmedAt ∧ ((old.status = some .completed ∨ id ∈ maintenance.failed) ∨
          (id = update.id ∧ update.status = .completed)) := by
      rcases completed with completed | failed
      · obtain ⟨old, before, same, cases⟩ := completed_update update id row stored completed
        exact ⟨old, before, same, cases.imp_left .inl⟩
      · obtain ⟨old, before, rfl⟩ := updateStatus_row maintenance.tables update.id id update.status row stored
        exact ⟨old, before, by split <;> rfl, .inl (.inr failed)⟩
    rw [same]
    rcases wasCompleted with earlier | ⟨rfl, now⟩
    · rcases invariant.covered id old before earlier with confirmed | ⟨invoice, member, isId⟩
      · exact .inl confirmed
      · exact .inr ⟨invoice, List.mem_append_left _ member, isId⟩
    · by_cases unconfirmed : old.confirmedAt = none
      · exact .inr (covers now old before unconfirmed)
      · exact .inl (Option.isSome_iff_ne_none.mpr unconfirmed)
  · intro invoice member
    have paid : ∃ amountPaid confirmedAt, payment invoice = .ok (amountPaid, confirmedAt) ∧
        ∀ row, maintenance.tables.invoices.get invoice.id = some row → row.confirmedAt = none →
          amountPaid = row.amountRequested :=
      (List.mem_append.mp member).elim (invariant.confirmations invoice) (payments invoice)
    obtain ⟨amountPaid, confirmedAt, ready, amount⟩ := paid
    exact ⟨amountPaid, confirmedAt, ready, amount_advances _ _ advances _ _ amount⟩
  · exact listed_set i reached _ advances invariant _ found
      (List.Subset.trans listed (List.subset_cons_self update.invoice rest))

theorem confirms_iff (update : StatusUpdate) (listed : Listed maintenance.tables update.invoice) :
    update.confirms = true ↔ update.status = .completed ∧ update.answer.confirmedAt.isSome = true := by
  rw [StatusUpdate.confirms, listed.1]
  cases update.status <;> simp

theorem merged_payment (update : StatusUpdate) (completed : update.status = .completed)
    (dated : update.answer.confirmedAt.isSome = true) :
    ∃ confirmedAt, payment update.merged = .ok (update.invoice.amountRequested, confirmedAt) := by
  obtain ⟨date, isDate⟩ := Option.isSome_iff_exists.mp dated
  exact ⟨date, (payment_ok _ _ _).mpr ⟨by simp [StatusUpdate.merged, isDate], by simp [StatusUpdate.merged, completed],
    rfl⟩⟩

theorem invariant_updated (invariant : Invariant opening maintenance) (i : Nat) (fate : Fate) (update : StatusUpdate)
    (rest : List Invoice) (found : maintenance.passes[i]? = some (.updating update rest))
    (unconfirmed : ¬ (fate = .completes ∧ update.confirms = true)) (allowed : UpdateConfirms maintenance fate update) :
    Invariant opening { maintenance with
      tables := if Writes.writes fate then maintenance.tables.updateStatus update.id update.status
        else maintenance.tables
      passes := maintenance.passes.set i (.start rest) } := by
  have listed := invariant.listed _ (List.mem_of_getElem? found) update.invoice List.mem_cons_self
  have remaining : (Pass.start rest).invoices ⊆ rest := by
    rw [Pass.invoices_start]
    exact List.Subset.refl rest
  by_cases written : Writes.writes fate = true
  · rw [if_pos written]
    have updated := invariant_updateStatus invariant i update rest found (.start rest) remaining []
    rw [List.append_nil] at updated
    refine updated (fun completed row stored unpaid => ?_) (fun _ member => by cases member)
    obtain ⟨-, ⟨completes, dated⟩ | underWay⟩ := allowed written completed row stored unpaid
    · exact (unconfirmed ⟨completes, (confirms_iff update listed).mpr ⟨completed, dated⟩⟩).elim
    · exact underWay
  · rw [if_neg written]
    exact invariant_moved invariant i _ (.start rest) found
      (List.Subset.trans remaining (List.subset_cons_self update.invoice rest))

theorem invariant_confirming (invariant : Invariant opening maintenance) (i : Nat) (update : StatusUpdate)
    (rest : List Invoice) (found : maintenance.passes[i]? = some (.updating update rest))
    (confirms : update.confirms = true) (allowed : UpdateConfirms maintenance .completes update) :
    Invariant opening { maintenance with
      tables := maintenance.tables.updateStatus update.id update.status
      passes := maintenance.passes.set i (.confirming rest)
      confirmations := maintenance.confirmations ++ [update.merged] } := by
  have listed := invariant.listed _ (List.mem_of_getElem? found) update.invoice List.mem_cons_self
  obtain ⟨completed, dated⟩ := (confirms_iff update listed).mp confirms
  obtain ⟨confirmedAt, ready⟩ := merged_payment update completed dated
  refine invariant_updateStatus invariant i update rest found (.confirming rest) (List.Subset.refl rest)
    [update.merged] (fun _ row stored _ => ?_) (fun invoice member => ?_)
  · exact ⟨update.merged, List.mem_append_right _ (List.mem_singleton_self _), rfl⟩
  · rw [List.mem_singleton.mp member]
    refine ⟨update.invoice.amountRequested, confirmedAt, ready, fun row stored unconfirmed => ?_⟩
    have stored : maintenance.tables.invoices.get update.id = some row := stored
    rw [(allowed rfl completed row stored unconfirmed).1 ⟨rfl, dated⟩] at stored
    exact (listed.2 row stored).symm

theorem covered_others (invariant : Invariant opening maintenance) (j : Nat) (invoice : Invoice)
    (failed : List JsString) (found : maintenance.confirmations[j]? = some invoice)
    (known : failed ⊆ invoice.id :: maintenance.failed) (id : JsString) (row : DBInvoice) (other : id ≠ invoice.id)
    (stored : maintenance.tables.invoices.get id = some row)
    (completed : row.status = some .completed ∨ id ∈ failed) :
    row.confirmedAt.isSome = true ∨ ∃ invoice ∈ maintenance.confirmations.eraseIdx j, invoice.id = id := by
  have earlier : row.status = some .completed ∨ id ∈ maintenance.failed :=
    completed.imp_right fun member => (List.mem_cons.mp (known member)).resolve_left other
  refine (invariant.covered id row stored earlier).imp_right ?_
  rintro ⟨underWay, member, rfl⟩
  exact ⟨underWay, mem_eraseIdx_of_ne found member fun same => other (by rw [same]), rfl⟩

theorem invariant_undone (invariant : Invariant opening maintenance) (j : Nat) (invoice : Invoice)
    (failed : List JsString) (found : maintenance.confirmations[j]? = some invoice)
    (known : failed ⊆ invoice.id :: maintenance.failed)
    (another : ∀ row, maintenance.tables.invoices.get invoice.id = some row → row.confirmedAt = none →
      ∃ other ∈ maintenance.confirmations.eraseIdx j, other.id = invoice.id) :
    Invariant opening { maintenance with
      confirmations := maintenance.confirmations.eraseIdx j
      failed := failed } := by
  refine { invariant with covered := ?_, confirmations := ?_ }
  · intro id row stored completed
    by_cases same : id = invoice.id
    · subst same
      by_cases unconfirmed : row.confirmedAt = none
      · exact .inr (another row stored unconfirmed)
      · exact .inl (Option.isSome_iff_ne_none.mpr unconfirmed)
    · exact covered_others invariant j invoice failed found known id row same stored completed
  · intro other member
    exact invariant.confirmations other (List.mem_of_mem_eraseIdx member)

theorem invariant_done (invariant : Invariant opening maintenance) (j : Nat) (settings : Settings) (now : Int)
    (invoice : Invoice) (failed : List JsString) (found : maintenance.confirmations[j]? = some invoice)
    (known : failed ⊆ invoice.id :: maintenance.failed) (amountPaid confirmedAt : Int)
    (amount : ∀ row, maintenance.tables.invoices.get invoice.id = some row → row.confirmedAt = none →
      amountPaid = row.amountRequested) :
    Invariant opening { maintenance with
      tables := confirmed settings now invoice amountPaid confirmedAt maintenance.tables
      confirmations := maintenance.confirmations.eraseIdx j
      failed := failed } := by
  have advances := confirmed_advances settings now invoice maintenance.tables amountPaid confirmedAt
  refine ⟨confirmed_accounted _ _ _ _ _ _ opening invariant.accounted,
    payable_advances _ _ advances invariant.payable,
    confirmed_settled settings now invoice _ _ _ opening invariant.accounted invariant.payable invariant.settled amount,
    ?_, ?_, ?_⟩
  · intro id row stored completed
    obtain ⟨old, before, rfl⟩ := confirmed_row settings now invoice maintenance.tables amountPaid confirmedAt id row
      stored
    by_cases fresh : id = invoice.id ∧ old.confirmedAt = none
    · exact .inl (by rw [if_pos fresh]; rfl)
    · rw [if_neg fresh] at completed ⊢
      by_cases same : id = invoice.id
      · exact .inl (Option.isSome_iff_ne_none.mpr fun unconfirmed => fresh ⟨same, unconfirmed⟩)
      · exact covered_others invariant j invoice failed found known id old same before completed
  · intro other member
    obtain ⟨otherPaid, otherDate, otherReady, otherAmount⟩ :=
      invariant.confirmations other (List.mem_of_mem_eraseIdx member)
    exact ⟨otherPaid, otherDate, otherReady, amount_advances _ _ advances _ _ otherAmount⟩
  · intro pass member listed inPass
    exact listed_advances _ _ advances listed (invariant.listed pass member listed inPass)

theorem invariant_confirmed (invariant : Invariant opening maintenance) (j : Nat) (settings : Settings) (now : Int)
    (fates : TransactionFates) (invoice : Invoice) (failed : List JsString)
    (found : maintenance.confirmations[j]? = some invoice) (known : failed ⊆ invoice.id :: maintenance.failed)
    (allowed : FailsBesideAnother maintenance j settings fates invoice) :
    Invariant opening { maintenance with
      tables := ((PaymentsService.confirmInvoice settings now fates invoice).run
        { tables := maintenance.tables }).2.tables
      confirmations := maintenance.confirmations.eraseIdx j
      failed := failed } := by
  obtain ⟨amountPaid, confirmedAt, ready, amount⟩ := invariant.confirmations invoice (List.mem_of_getElem? found)
  have paid := ((payment_ok invoice amountPaid confirmedAt).mp ready).2.2
  have ran := confirmInvoice_tables settings now fates invoice maintenance.tables amountPaid confirmedAt ready
  cases through : goesThrough settings fates invoice amountPaid with
  | false =>
    rw [through] at ran
    rw [ran, if_neg (by simp)]
    exact invariant_undone invariant j invoice failed found known (allowed amountPaid paid through)
  | true =>
    rw [through] at ran
    rw [ran, if_pos rfl]
    exact invariant_done invariant j settings now invoice failed found known amountPaid confirmedAt amount

theorem invariant_preserved : Preserves step Allowed (Invariant opening) := by
  intro maintenance action reached invariant allowed taken
  cases step_cases maintenance reached action taken with
  | schedule found pending => exact invariant_schedule invariant found pending
  | moved _ i pass reached found listed => exact invariant_moved invariant i pass reached found listed
  | updated i fate update rest found unconfirmed =>
    exact invariant_updated invariant i fate update rest found unconfirmed (allowed update (by simp [found, Pass.statusUpdate]))
  | confirming i update rest found confirms =>
    exact invariant_confirming invariant i update rest found confirms (allowed update (by simp [found, Pass.statusUpdate]))
  | confirmed j settings now fates invoice failed found known =>
    exact invariant_confirmed invariant j settings now fates invoice failed found known (allowed invoice found)

end Steps

theorem completed_always_credited (opening : Bytes → Int) (tables : PaymentTables) (ready : Ready opening tables)
    (trace : List Action) (final : Maintenance) (run : Run step Allowed { tables := tables } trace final) :
    AlwaysCredited opening final :=
  always_credited opening final (run.invariant invariant_preserved (invariant_ready opening tables ready))

def waitingInvoice : DBInvoice := { pubkey := [1], amountRequested := 1000, unit := some .msats, status := some .pending }

def waitingTables : PaymentTables :=
  { invoices := InsertionMap.empty.set (js "invoice") waitingInvoice
    users := InsertionMap.empty.set [1] {} }

theorem waiting_ready : Ready waitingTables.getBalanceByPubkey waitingTables := by
  have only (id : JsString) (row : DBInvoice) (found : waitingTables.invoices.get id = some row) :
      row = waitingInvoice := by
    rw [waitingTables, InsertionMap.get_set] at found
    split at found
    · exact (Option.some.inj found).symm
    · cases found
  refine ⟨⟨by decide, by simp [waitingTables], fun pubkey => (Int.add_zero _).symm⟩, ?_, ?_⟩
  · intro id row found
    rw [only id row found]
    exact ⟨rfl, by decide⟩
  · intro id row found settled
    rw [only id row found] at settled
    simp [waitingInvoice] at settled

def completedAnswer : Answer :=
  { id := some (js "invoice"), status := some .completed, confirmedAt := some 1700000000 }

def onePass (fates : TransactionFates) : List Action :=
  [.schedule [(js "invoice", waitingInvoice)], .answer 0 (some completedAnswer), .updateStatus 0 .completes,
    .confirm 0 {} 1700000000 fates, .goOn 0]

theorem waiting_invoice_credited :
    ∃ final, Run step Allowed { tables := waitingTables } (onePass {}) final ∧
      final.tables.getBalanceByPubkey [1] = 1000 ∧ AlwaysCredited waitingTables.getBalanceByPubkey final := by
  have ran : (Runs.execute step Allowed { tables := waitingTables } (onePass {})).map
      (fun final => final.tables.getBalanceByPubkey [1]) = some 1000 := by decide +kernel
  obtain ⟨final, executed, balance⟩ := Option.map_eq_some_iff.mp ran
  have run := run_of_execute executed
  exact ⟨final, run, balance, completed_always_credited _ waitingTables waiting_ready (onePass {}) final run⟩

theorem failed_confirmation_forgotten :
    ¬ ∀ (opening : Bytes → Int) (tables : PaymentTables), Ready opening tables →
      ∀ (trace : List Action) (final : Maintenance),
        Run step (fun _ _ => True) { tables := tables } trace final → AlwaysCredited opening final := by
  intro claim
  have ran : (Runs.execute step (fun _ _ => True) { tables := waitingTables }
      (onePass { commit := .rejected .other })).map (fun final => (final.tables.invoices.get (js "invoice"),
        final.confirmations)) = some (some { waitingInvoice with status := some .completed }, []) := by decide +kernel
  obtain ⟨final, executed, values⟩ := Option.map_eq_some_iff.mp ran
  rw [Prod.mk.injEq] at values
  have credited := claim _ waitingTables waiting_ready _ final (run_of_execute executed)
  rcases credited.completed (js "invoice") _ values.1 rfl with settled | ⟨invoice, member, _⟩
  · exact absurd settled.confirmed (by decide)
  · rw [values.2] at member
    cases member

end Nostream.CreditedInvoices
