import Nostream.App.PaidAdmission
import Nostream.Controllers.AdmissionCheck

set_option autoImplicit false

namespace Nostream.LastingAdmission

open Utf16 Hex Effects MessageStages Slots PaymentFailures PaidAdmission AdmissionCheck RequestedFees
open MaintenanceWorker hiding Action
open PaymentsService PostInvoiceController GetSubmissionCheckController
open Runs hiding execute

structure NaturalFees (controller : PostInvoiceController) : Prop where
  fees : ∀ payments ∈ controller.settings.payments, ∀ schedules ∈ payments.admission,
    ∀ fee ∈ schedules, 0 ≤ fee.amount
  processor : ∀ request response, 0 ≤ request.amount → controller.processor request = .ok response →
    0 ≤ response.amountRequested

def AsksNaturally : Action → Prop
  | .invoice controller _ _ _ _ => NaturalFees controller
  | _ => True

def NaturalAmounts (tables : PaymentTables) : Prop :=
  ∀ id invoice, tables.invoices.get id = some invoice → 0 ≤ invoice.amountRequested

structure Priced (relay : Relay) : Prop where
  invoices : NaturalAmounts relay.tables
  passes : ∀ pass ∈ relay.maintenance.passes, ∀ invoice ∈ pass.invoices, 0 ≤ invoice.amountRequested
  confirmations : ∀ invoice ∈ relay.maintenance.confirmations, ∀ amountPaid ∈ invoice.amountPaid, 0 ≤ amountPaid

structure Gains (earlier later : PaymentTables) : Prop where
  isAdmitted : ∀ pubkey, earlier.isAdmitted pubkey = true → later.isAdmitted pubkey = true
  balance : ∀ pubkey, earlier.getBalanceByPubkey pubkey ≤ later.getBalanceByPubkey pubkey

theorem Gains.refl (tables : PaymentTables) : Gains tables tables := ⟨fun _ => id, fun _ => le_refl _⟩

theorem Gains.trans {first second third : PaymentTables} (gains : Gains first second) (more : Gains second third) :
    Gains first third :=
  ⟨fun pubkey admitted => more.isAdmitted pubkey (gains.isAdmitted pubkey admitted),
    fun pubkey => (gains.balance pubkey).trans (more.balance pubkey)⟩

section Tables

variable (tables : PaymentTables)

theorem creditedTo_natural (credits : List Credit) (pubkey : Bytes) (natural : ∀ credit ∈ credits, 0 ≤ credit.msats) :
    0 ≤ creditedTo credits pubkey := by
  refine List.sum_nonneg fun msats member => ?_
  obtain ⟨credit, credited, rfl⟩ := List.mem_map.mp member
  exact natural credit (List.mem_of_mem_filter credited)

theorem toMsats_natural (amount : Int) (natural : 0 ≤ amount) (unit : InvoiceUnit) : 0 ≤ unit.toMsats amount := by
  cases unit <;> simp only [InvoiceUnit.toMsats] <;> omega

theorem confirmInvoice_gains (id : JsString) (amountPaid confirmedAt : Int) (natural : 0 ≤ amountPaid) :
    Gains tables (tables.confirmInvoice id amountPaid confirmedAt) where
  isAdmitted := fun pubkey admitted => by rwa [PaymentTables.confirmInvoice_isAdmitted]
  balance := fun pubkey => by
    rw [PaymentTables.confirmInvoice_balance]
    have credited : 0 ≤ creditedTo (tables.creditFor id amountPaid).toList pubkey := by
      refine creditedTo_natural _ pubkey fun credit member => ?_
      obtain ⟨invoice, unit, -, -, -, -, rfl⟩ :=
        (PaymentTables.creditFor_iff id amountPaid credit).mp (Option.mem_toList.mp member)
      exact toMsats_natural amountPaid natural unit
    omega

theorem confirmed_gains (settings : Settings) (now : Int) (invoice : Invoice) (amountPaid confirmedAt : Int)
    (natural : 0 ≤ amountPaid) : Gains tables (confirmed settings now invoice amountPaid confirmedAt tables) := by
  have gains := confirmInvoice_gains tables invoice.id amountPaid confirmedAt natural
  unfold confirmed
  split
  · refine gains.trans ⟨fun pubkey admitted => ?_, fun pubkey => ?_⟩
    · rw [PaymentTables.upsertUser_isAdmitted, admitted]
      rfl
    · rw [PaymentTables.upsertUser_balance]
  · exact gains

theorem created_gains (requestId : JsString) (response : CreateInvoiceResponse) :
    Gains tables (created requestId tables response) where
  isAdmitted := fun pubkey admitted => by rwa [created_isAdmitted]
  balance := fun pubkey => by
    change _ ≤ (tables.upsertUser (ofHex requestId) none none).getBalanceByPubkey pubkey
    rw [PaymentTables.upsertUser_balance]

theorem updateStatus_gains (id : JsString) (status : InvoiceStatus) : Gains tables (tables.updateStatus id status) := by
  have users := (PaymentTables.updateStatus_users tables id status).1
  refine ⟨fun pubkey admitted => ?_, fun pubkey => ?_⟩
  · rwa [PaymentTables.isAdmitted, users]
  · rw [PaymentTables.getBalanceByPubkey, PaymentTables.getBalanceByPubkey, users]

variable (natural : NaturalAmounts tables)

include natural

theorem updateStatus_natural (id : JsString) (status : InvoiceStatus) :
    NaturalAmounts (tables.updateStatus id status) := by
  intro other invoice found
  rw [PaymentTables.updateStatus_invoices] at found
  obtain ⟨stored, was, rfl⟩ := Option.map_eq_some_iff.mp found
  have amount := natural other stored was
  split <;> exact amount

theorem confirmed_natural (settings : Settings) (now : Int) (invoice : Invoice) (amountPaid confirmedAt : Int) :
    NaturalAmounts (confirmed settings now invoice amountPaid confirmedAt tables) := by
  intro other reached found
  rw [confirmed_invoices] at found
  obtain ⟨stored, was, rfl⟩ := Option.map_eq_some_iff.mp found
  have amount := natural other stored was
  split <;> exact amount

theorem created_natural (requestId : JsString) (response : CreateInvoiceResponse)
    (asked : 0 ≤ response.amountRequested) : NaturalAmounts (created requestId tables response) := by
  intro other invoice found
  rw [created_get] at found
  split at found
  · cases was : tables.invoices.get response.id with
    | none =>
      rw [was] at found
      cases found
      exact asked
    | some stored =>
      rw [was] at found
      cases found
      exact natural response.id stored was
  · exact natural other invoice found

end Tables

section Steps

theorem maintain_priced (relay : Relay) (reached : Maintenance) (action : MaintenanceWorker.Action) (priced : Priced relay)
    (moved : MaintenanceWorker.step relay.maintenance action = some reached) :
    Gains relay.tables reached.tables ∧ Priced { relay with maintenance := reached } := by
  obtain ⟨invoices, passes, confirmations⟩ := priced
  have goesOn (i : Nat) (pass next : Pass) (found : relay.maintenance.passes[i]? = some pass)
      (listed : next.invoices ⊆ pass.invoices) : ∀ other ∈ relay.maintenance.passes.set i next,
        ∀ invoice ∈ other.invoices, 0 ≤ invoice.amountRequested := by
    intro other member invoice among
    rcases mem_set_cases member with rfl | old
    · exact passes pass (List.mem_of_getElem? found) invoice (listed among)
    · exact passes other old invoice among
  cases MaintenanceWorker.step_cases relay.maintenance reached action moved with
  | schedule found pending =>
    refine ⟨.refl _, invoices, fun pass member invoice among => ?_, confirmations⟩
    rcases List.mem_append.mp member with old | new
    · exact passes pass old invoice among
    · rw [List.mem_singleton.mp new, Pass.invoices_start] at among
      obtain ⟨⟨id, row⟩, scheduled, rfl⟩ := List.mem_map.mp among
      have stored := (List.mem_filter.mp (pending scheduled)).1
      exact invoices id row ((InsertionMap.get_eq_some_iff ..).mpr stored)
  | moved _ i pass next found listed => exact ⟨.refl _, invoices, goesOn i pass next found listed, confirmations⟩
  | updated i fate update rest found unconfirmed =>
    have left := goesOn i _ (.start rest) found (by
      rw [Pass.invoices_start]
      exact List.subset_cons_self update.invoice rest)
    refine ⟨?_, ?_, left, confirmations⟩
    · dsimp only
      split
      · exact updateStatus_gains relay.tables update.id update.status
      · exact .refl _
    · change NaturalAmounts (if Writes.writes fate = true then _ else _)
      split
      · exact updateStatus_natural relay.tables invoices update.id update.status
      · exact invoices
  | confirming i update rest found confirms =>
    have left := goesOn i _ (.confirming rest) found (List.subset_cons_self update.invoice rest)
    refine ⟨updateStatus_gains relay.tables update.id update.status,
      updateStatus_natural relay.tables invoices update.id update.status, left, fun invoice member => ?_⟩
    rcases List.mem_append.mp member with old | new
    · exact confirmations invoice old
    · rw [List.mem_singleton.mp new]
      rintro amountPaid ⟨⟩
      exact passes _ (List.mem_of_getElem? found) update.invoice List.mem_cons_self
  | confirmed j settings now fates invoice failed found known =>
    have left : ∀ other ∈ relay.maintenance.confirmations.eraseIdx j, ∀ amountPaid ∈ other.amountPaid, 0 ≤ amountPaid :=
      fun other member => confirmations other (List.mem_of_mem_eraseIdx member)
    have outcome : Gains relay.tables ((PaymentsService.confirmInvoice settings now fates invoice).run
        { tables := relay.tables }).2.tables ∧ NaturalAmounts ((PaymentsService.confirmInvoice settings now fates
          invoice).run { tables := relay.tables }).2.tables := by
      cases ready : payment invoice with
      | error reason =>
        rw [confirmInvoice_refused settings now fates invoice relay.tables reason ready]
        exact ⟨.refl _, invoices⟩
      | ok paid =>
        obtain ⟨amountPaid, confirmedAt⟩ := paid
        have natural := confirmations invoice (List.mem_of_getElem? found) amountPaid
          ((payment_ok invoice amountPaid confirmedAt).mp ready).2.2
        rw [confirmInvoice_tables settings now fates invoice relay.tables amountPaid confirmedAt ready]
        split
        · exact ⟨confirmed_gains relay.tables settings now invoice amountPaid confirmedAt natural,
            confirmed_natural relay.tables invoices settings now invoice amountPaid confirmedAt⟩
        · exact ⟨.refl _, invoices⟩
    exact ⟨outcome.1, outcome.2, passes, left⟩

theorem requested_natural {controller : PostInvoiceController} (natural : NaturalFees controller)
    (find : JsString → Except Thrown (Option User)) (body : Option Json.JsonValue) (pubkey : JsString) (amount : Int)
    (requested : controller.requestedInvoice find body = .ok (.ok (pubkey, amount))) : 0 ≤ amount := by
  obtain ⟨fees, user, passed⟩ := requestedInvoice_ok controller find body pubkey amount requested
  have natural (fee : FeeSchedule) (charged : fee ∈ fees) : 0 ≤ fee.amount := by
    have applicable := passed.applicable
    unfold admissionFee at applicable
    split at applicable
    next =>
      cases applicable
      cases charged
    next payments enabled =>
      split at applicable
      next => cases applicable
      next schedules admission =>
        cases applicable
        exact natural.fees payments enabled schedules admission fee (List.mem_of_mem_filter charged)
  rw [passed.requested, requestedAmount]
  refine List.foldlRecOn fees (addFee pubkey) (le_refl 0) fun sum positive fee charged => ?_
  have amount := natural fee charged
  unfold addFee
  split <;> omega

theorem step_priced (relay reached : Relay) (action : Action) (priced : Priced relay) (natural : AsksNaturally action)
    (taken : relay.step action = some reached) : Gains relay.tables reached.tables ∧ Priced reached := by
  cases action with
  | maintain action =>
    rw [Relay.step] at taken
    obtain ⟨maintenance, moved, rfl⟩ := Option.map_eq_some_iff.mp taken
    exact maintain_priced relay maintenance action priced moved
  | invoice controller limited lookup fates body =>
    cases taken
    have made := handleRequest_invoices relay.tables controller (lookedUp relay.tables lookup) fates body limited
    change Gains relay.tables (relay.invoiced controller limited lookup fates body) ∧ _
    suffices outcome : Gains relay.tables (relay.invoiced controller limited lookup fates body) ∧
        NaturalAmounts (relay.invoiced controller limited lookup fates body) from
      ⟨outcome.1, outcome.2, priced.passes, priced.confirmations⟩
    unfold Relay.invoiced
    rcases made with same | ⟨payer, amount, requested, same | ⟨description, response, answered, made⟩⟩
    · rw [same]
      exact ⟨.refl _, priced.invoices⟩
    · rw [same]
      exact ⟨.refl _, priced.invoices⟩
    · have asked := natural.processor _ response (requested_natural natural _ body payer amount requested) answered
      rw [made]
      exact ⟨created_gains relay.tables payer response,
        created_natural relay.tables priced.invoices payer response asked⟩
  | submit handler lookup received =>
    rw [Relay.step] at taken
    obtain ⟨pool, _, rfl⟩ := Option.map_eq_some_iff.mp taken
    exact ⟨.refl _, priced.invoices, priced.passes, priced.confirmations⟩
  | advance i fates =>
    rw [Relay.step] at taken
    obtain ⟨pool, _, rfl⟩ := Option.map_eq_some_iff.mp taken
    exact ⟨.refl _, priced.invoices, priced.passes, priced.confirmations⟩

end Steps

structure LetIn (tables : PaymentTables) (settings : Settings) (pubkey : JsString) : Prop where
  check : handleRequest settings false (lookedUp tables none) pubkey = .ok (answered true)
  submission : ∀ handler : EventMessageHandler, handler.settings = settings →
    handler.admission (findByPubkey tables pubkey) = none
  invoice : ∀ controller : PostInvoiceController, controller.settings = settings → ∀ body amount,
    controller.requestedInvoice (lookedUp tables none) body ≠ .ok (.ok (pubkey, amount))

section Runs

variable (opening : PaymentTables) (natural : NaturalAmounts opening)

theorem check_iff (tables : PaymentTables) (settings : Settings) (pubkey : JsString) :
    handleRequest settings false (lookedUp tables none) pubkey = .ok (answered true) ↔
      userAdmitted settings (findByPubkey tables pubkey) = true := by
  change Except.ok (answered (userAdmitted settings (findByPubkey tables pubkey))) = Except.ok (answered true) ↔ _
  simp [answered]

theorem letIn_of_admitted (tables : PaymentTables) (settings : Settings) (pubkey : JsString)
    (positive : 0 ≤ minBalance settings) (admitted : userAdmitted settings (findByPubkey tables pubkey) = true) :
    LetIn tables settings pubkey where
  check := (check_iff tables settings pubkey).mpr admitted
  submission := by
    rintro handler rfl
    exact (admission_iff handler positive _).mpr admitted
  invoice := by
    rintro controller rfl body amount requested
    obtain ⟨fees, user, passed⟩ := requestedInvoice_ok controller _ body pubkey amount requested
    have found : findByPubkey tables pubkey = user := Except.ok.inj passed.found
    have unadmitted := passed.unadmitted
    rw [isAdmitted_iff, ← found, admitted] at unadmitted
    cases unadmitted

theorem found_admitted (tables : PaymentTables) (pubkey : JsString) (known : User)
    (found : findByPubkey tables pubkey = some known) : tables.isAdmitted (ofHex pubkey) = known.isAdmitted ∧
      tables.getBalanceByPubkey (ofHex pubkey) = known.balance := by
  obtain ⟨row, stored, rfl⟩ := Option.map_eq_some_iff.mp found
  rw [PaymentTables.isAdmitted, PaymentTables.getBalanceByPubkey, stored]
  exact ⟨rfl, rfl⟩

theorem userAdmitted_gains (earlier later : PaymentTables) (gains : Gains earlier later) (pubkey : JsString)
    (before after : Settings) (positive : 0 ≤ minBalance after) (less : minBalance after ≤ minBalance before)
    (admitted : userAdmitted before (findByPubkey earlier pubkey) = true) :
    userAdmitted after (findByPubkey later pubkey) = true := by
  obtain ⟨known, found, isAdmitted, balance⟩ := (userAdmitted_iff before _).mp admitted
  obtain ⟨was, had⟩ := found_admitted earlier pubkey known found
  have stays := gains.isAdmitted (ofHex pubkey) (was.trans isAdmitted)
  have has := gains.balance (ofHex pubkey)
  rw [PaymentTables.isAdmitted] at stays
  cases stored : later.users.get (ofHex pubkey) with
  | none =>
    rw [stored] at stays
    cases stays
  | some row =>
    rw [stored] at stays
    rw [had, PaymentTables.getBalanceByPubkey, stored] at has
    have has : known.balance ≤ row.balance := has
    refine (userAdmitted_iff after _).mpr ⟨_, congrArg (Option.map _) stored, stays, ?_⟩
    dsimp only
    omega

include natural

theorem admission_lasts (before after : List Action) (asks : ∀ action ∈ before ++ after, AsksNaturally action)
    (checked final : Relay) (toChecked : Run Relay.step (fun _ _ => True) (opened opening) before checked)
    (toFinal : Run Relay.step (fun _ _ => True) checked after final) (pubkey : JsString) (earlier later : Settings)
    (admitted : handleRequest earlier false (lookedUp checked.tables none) pubkey = .ok (answered true))
    (positive : 0 ≤ minBalance later) (less : minBalance later ≤ minBalance earlier) :
    LetIn final.tables later pubkey := by
  have asked (actions : List Action) (among : actions ⊆ before ++ after) {s t : Relay}
      (run : Run Relay.step (fun _ _ => True) s actions t) :=
    run.restrict AsksNaturally fun action member => asks action (among member)
  have priced : Priced checked := by
    have preserved : Preserves Relay.step (fun _ action => True ∧ AsksNaturally action) Priced :=
      fun relay action reached priced ok taken => (step_priced relay reached action priced ok.2 taken).2
    exact (asked before (List.subset_append_left ..) toChecked).invariant preserved
      ⟨natural, by simp [opened], by simp [opened]⟩
  have gains : Priced final ∧ Gains checked.tables final.tables := by
    have preserved : Preserves Relay.step (fun _ action => True ∧ AsksNaturally action)
        fun relay => Priced relay ∧ Gains checked.tables relay.tables := by
      rintro relay action reached ⟨priced, gains⟩ ok taken
      obtain ⟨more, still⟩ := step_priced relay reached action priced ok.2 taken
      exact ⟨still, gains.trans more⟩
    exact (asked after (List.subset_append_right ..) toFinal).invariant preserved ⟨priced, .refl _⟩
  exact letIn_of_admitted final.tables later pubkey positive
    (userAdmitted_gains checked.tables final.tables gains.2 pubkey earlier later positive less
      ((check_iff checked.tables earlier pubkey).mp admitted))

end Runs

def payment : List Action := paidAndNote.take 5

def submission : List Action := paidAndNote.drop 5

theorem issuing_natural : NaturalFees issuing where
  fees := by
    rintro payments ⟨⟩ schedules ⟨⟩ fee member
    rw [List.mem_singleton.mp member]
    decide
  processor := by
    rintro request response natural ⟨⟩
    exact natural

theorem payer_stays_let_in : ∃ checked final, Run Relay.step (fun _ _ => True) (opened nobody) payment checked ∧
    Run Relay.step (fun _ _ => True) checked submission final ∧ LetIn final.tables feeSettings note.pubkey := by
  have ran : ((Runs.execute Relay.step (fun _ _ => True) (opened nobody) payment).bind fun checked =>
      (Runs.execute Relay.step (fun _ _ => True) checked submission).map fun _ =>
        userAdmitted feeSettings (findByPubkey checked.tables note.pubkey)) = some true := by decide +kernel
  obtain ⟨checked, paid, later⟩ := Option.bind_eq_some_iff.mp ran
  obtain ⟨final, submitted, admitted⟩ := Option.map_eq_some_iff.mp later
  have asks : ∀ action ∈ payment ++ submission, AsksNaturally action := by
    simp only [payment, submission, paidAndNote, List.take, List.drop, List.cons_append, List.nil_append,
      List.forall_mem_cons, List.not_mem_nil, false_implies, implies_true, and_true]
    exact ⟨issuing_natural, trivial, trivial, trivial, trivial, trivial, trivial⟩
  exact ⟨checked, final, run_of_execute paid, run_of_execute submitted,
    admission_lasts nobody (by simp [NaturalAmounts, nobody]) payment submission asks checked final
      (run_of_execute paid) (run_of_execute submitted) note.pubkey feeSettings feeSettings
      ((check_iff checked.tables feeSettings note.pubkey).mpr admitted) (by decide) (by decide)⟩

end Nostream.LastingAdmission
