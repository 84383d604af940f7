import Nostream.Services.PaymentsService

set_option autoImplicit false

namespace Nostream.CreditedAdmission

open Utf16 Hex Effects PaymentsService PaymentTables

structure Call where
  settings : Settings
  now : Int
  invoice : Invoice

namespace Call

variable (call : Call)

def apply (tables : PaymentTables) : PaymentTables :=
  ((PaymentsService.confirmInvoice call.settings call.now {} call.invoice).run { tables := tables }).2.tables

def fee : Int := admissionFeeAmount call.settings call.invoice

def payee : Bytes := ofHex call.invoice.pubkey

def SetsAdmitted (amountPaid confirmedAt : Int) : Prop :=
  payment call.invoice = .ok (amountPaid, confirmedAt) ∧ admits call.settings call.invoice amountPaid = true

def Covered (tables : PaymentTables) : Prop :=
  ∀ amountPaid confirmedAt, call.SetsAdmitted amountPaid confirmedAt →
    call.fee ≤ (tables.confirmInvoice call.invoice.id amountPaid confirmedAt).getBalanceByPubkey call.payee -
      tables.getBalanceByPubkey call.payee

structure IsBacked (tables : PaymentTables) (amountPaid : Int) (invoice : DBInvoice) (unit : InvoiceUnit) : Prop where
  stored : tables.invoices.get call.invoice.id = some invoice
  unconfirmed : invoice.confirmedAt = none
  hasUnit : invoice.unit = some unit
  payee : invoice.pubkey = call.payee
  known : (tables.users.get call.payee).isSome = true
  worth : call.fee ≤ unit.toMsats amountPaid

def Backed (tables : PaymentTables) : Prop :=
  ∀ amountPaid confirmedAt, call.SetsAdmitted amountPaid confirmedAt →
    ∃ invoice unit, call.IsBacked tables amountPaid invoice unit

end Call

open Call

theorem covered_iff (call : Call) (tables : PaymentTables) : call.Covered tables ↔ call.Backed tables := by
  refine forall_congr' fun amountPaid => forall_congr' fun confirmedAt => imp_congr_right fun ⟨_, admitted⟩ => ?_
  have charged : 0 < call.fee := by
    simp only [admits, Bool.and_eq_true, decide_eq_true_eq] at admitted
    exact admitted.1
  rw [confirmInvoice_balance, add_sub_cancel_left]
  constructor
  · intro covered
    cases made : tables.creditFor call.invoice.id amountPaid with
    | none =>
      simp only [made, Option.toList_none, creditedTo, List.filter_nil, List.map_nil, List.sum_nil] at covered
      omega
    | some credit =>
      obtain ⟨invoice, unit, stored, unconfirmed, hasUnit, known, rfl⟩ := (creditFor_iff _ _ credit).mp made
      by_cases payee : invoice.pubkey = call.payee
      · refine ⟨invoice, unit, stored, unconfirmed, hasUnit, payee, payee ▸ known, ?_⟩
        simpa [made, creditedTo, payee] using covered
      · simp only [made, Option.toList_some, creditedTo, List.filter_cons, payee, decide_false, Bool.false_eq_true,
          if_false, List.filter_nil, List.map_nil, List.sum_nil] at covered
        omega
  · rintro ⟨invoice, unit, backed⟩
    have made := (creditFor_iff call.invoice.id amountPaid _).mpr ⟨invoice, unit, backed.stored, backed.unconfirmed,
      backed.hasUnit, backed.payee ▸ backed.known, rfl⟩
    simpa [made, creditedTo, backed.payee] using backed.worth

theorem apply_isAdmitted (call : Call) (tables : PaymentTables) (pubkey : Bytes) :
    (call.apply tables).isAdmitted pubkey = true ↔ tables.isAdmitted pubkey = true ∨
      (pubkey = call.payee ∧ ∃ amountPaid confirmedAt, call.SetsAdmitted amountPaid confirmedAt) := by
  cases ready : payment call.invoice with
  | error reason => simp [Call.apply, confirmInvoice_refused _ _ _ _ _ reason ready, SetsAdmitted, ready]
  | ok paid =>
    obtain ⟨amountPaid, confirmedAt⟩ := paid
    have through : goesThrough call.settings {} call.invoice amountPaid = true := by simp [goesThrough]
    rw [Call.apply, confirmInvoice_tables _ _ _ _ _ amountPaid confirmedAt ready, if_pos through, confirmed]
    cases admitted : admits call.settings call.invoice amountPaid with
    | true => simp [upsertUser_isAdmitted, confirmInvoice_isAdmitted, SetsAdmitted, ready, admitted, Call.payee]
    | false =>
      have unset : ∀ paid date, ¬ call.SetsAdmitted paid date := by
        rintro paid date ⟨other, sets⟩
        rw [ready] at other
        cases other
        rw [admitted] at sets
        cases sets
      simp [confirmInvoice_isAdmitted, unset]

theorem apply_accounted (opening : Bytes → Int) (call : Call) (tables : PaymentTables)
    (accounted : Accounted opening tables) : Accounted opening (call.apply tables) := by
  cases ready : payment call.invoice with
  | error reason =>
    rw [Call.apply, confirmInvoice_refused _ _ _ _ _ reason ready]
    exact accounted
  | ok paid =>
    obtain ⟨amountPaid, confirmedAt⟩ := paid
    rw [Call.apply, confirmInvoice_tables _ _ _ _ _ amountPaid confirmedAt ready]
    split
    next => exact confirmed_accounted _ _ _ _ _ _ opening accounted
    next => exact accounted

def run (tables : PaymentTables) (calls : List Call) : PaymentTables :=
  calls.foldl (fun tables call => call.apply tables) tables

theorem run_accounted (opening : Bytes → Int) (calls : List Call) (tables : PaymentTables)
    (accounted : Accounted opening tables) : Accounted opening (run tables calls) := by
  induction calls generalizing tables with
  | nil => exact accounted
  | cons call rest ih => exact ih (call.apply tables) (apply_accounted opening call tables accounted)

theorem admission_follows_credit (tables : PaymentTables) (opened : tables.credits = []) (calls : List Call) :
    Accounted tables.getBalanceByPubkey (run tables calls) ∧
      ∀ before call after, calls = before ++ call :: after →
        (call.Covered (run tables before) ↔ call.Backed (run tables before)) ∧
          ∀ pubkey, (run tables (before ++ [call])).isAdmitted pubkey = true ↔
            (run tables before).isAdmitted pubkey = true ∨
              (pubkey = call.payee ∧ ∃ amountPaid confirmedAt, call.SetsAdmitted amountPaid confirmedAt) := by
  have opening : Accounted tables.getBalanceByPubkey tables :=
    ⟨by simp [opened], by simp [opened], by simp [opened, creditedTo]⟩
  refine ⟨run_accounted _ calls tables opening, fun before call after _ => ⟨covered_iff call _, fun pubkey => ?_⟩⟩
  rw [run, List.foldl_append]
  exact apply_isAdmitted call _ pubkey

def paidTables : PaymentTables :=
  { invoices := InsertionMap.empty.set (js "invoice")
      { pubkey := [1], amountRequested := 1000, unit := some .msats, status := some .completed }
    users := InsertionMap.empty.set [1] {} }

def paidCall : Call :=
  { settings := { payments := some { enabled := true, admission := some [{ enabled := true, amount := 1000 }] } }
    now := 1700000000
    invoice :=
      { id := js "invoice", pubkey := js "01", amountRequested := 1000, amountPaid := some 1000, unit := some .msats,
        status := some .completed, confirmedAt := some 1700000000 } }

theorem paid_twice_credited_once :
    Accounted paidTables.getBalanceByPubkey (run paidTables [paidCall, paidCall]) ∧
      ∀ before call after, [paidCall, paidCall] = before ++ call :: after →
        (call.Covered (run paidTables before) ↔ call.Backed (run paidTables before)) ∧
          ∀ pubkey, (run paidTables (before ++ [call])).isAdmitted pubkey = true ↔
            (run paidTables before).isAdmitted pubkey = true ∨
              (pubkey = call.payee ∧ ∃ amountPaid confirmedAt, call.SetsAdmitted amountPaid confirmedAt) :=
  admission_follows_credit paidTables rfl [paidCall, paidCall]

theorem second_call_uncovered :
    ¬ ∀ (tables : PaymentTables) (calls : List Call), tables.credits = [] →
      Accounted tables.getBalanceByPubkey (run tables calls) ∧
        ∀ before call after, calls = before ++ call :: after → call.Covered (run tables before) := by
  intro claim
  have covered := (claim paidTables [paidCall, paidCall] rfl).2 [paidCall] paidCall [] rfl
  have added := covered 1000 1700000000 ⟨by decide, by decide⟩
  exact absurd added (by decide)

end Nostream.CreditedAdmission
