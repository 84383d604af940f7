import Nostream.Controllers.PostInvoiceController
import Nostream.Services.CreditedAdmission

set_option autoImplicit false

namespace Nostream.RequestedFees

open Utf16 Hex Effects Json PaymentsService PostInvoiceController

section Amounts

variable (pubkey : JsString)

theorem addFee_applicable (sum : Int) (fee : FeeSchedule)
    (applicable : PostInvoiceController.isApplicableFee pubkey fee = true) :
    addFee pubkey sum fee = fee.amount + sum := by
  rw [PostInvoiceController.isApplicableFee, Bool.and_eq_true, Bool.not_eq_true', List.any_eq_false] at applicable
  obtain ⟨enabled, unlisted⟩ := applicable
  have absent : ((fee.whitelists.getD {}).pubkeys.getD []).contains pubkey = false := by
    rw [← Bool.not_eq_true, List.contains_iff_mem]
    exact fun listed => unlisted pubkey listed ((startsWith_iff pubkey pubkey).mpr List.prefix_rfl)
  rw [addFee, enabled, absent]
  rfl

theorem foldl_addFee (schedules : List FeeSchedule) (sum : Int) :
    (schedules.filter (PostInvoiceController.isApplicableFee pubkey)).foldl (addFee pubkey) sum =
      sum + (schedules.map fun fee => if PostInvoiceController.isApplicableFee pubkey fee then fee.amount else 0).sum := by
  induction schedules generalizing sum with
  | nil => simp
  | cons fee rest ih =>
    rw [List.filter_cons, List.map_cons, List.sum_cons]
    split
    next applicable =>
      rw [List.foldl_cons, ih, addFee_applicable pubkey sum fee applicable]
      omega
    next => rw [ih, Int.zero_add]

end Amounts

theorem requestedAmount_eq (settings : Settings) (invoice : Invoice) (fees : List FeeSchedule)
    (read : admissionFee settings invoice.pubkey = .ok fees) :
    requestedAmount invoice.pubkey fees = admissionFeeAmount settings invoice := by
  have applies (fee : FeeSchedule) :
      PostInvoiceController.isApplicableFee invoice.pubkey fee = PaymentsService.isApplicableFee invoice fee := rfl
  unfold admissionFee at read
  unfold admissionFeeAmount
  split at read
  next none =>
    cases read
    rw [none]
    rfl
  next payments some =>
    split at read
    next => cases read
    next schedules admission =>
      cases read
      rw [requestedAmount, foldl_addFee, Int.zero_add, some, Option.bind_some, admission, Option.getD_some]
      simp only [applies]

section Requests

variable (controller : PostInvoiceController) (findByPubkey : JsString → Except Thrown (Option User))
variable (body : Option JsonValue)

structure IsRequested (pubkey : JsString) (amount : Int) (fees : List FeeSchedule) (user : Option User) : Prop where
  asked : controller.requestedPubkey body = .ok pubkey
  applicable : admissionFee controller.settings pubkey = .ok fees
  charged : fees.isEmpty = false
  found : findByPubkey pubkey = .ok user
  unadmitted : user.any (PostInvoiceController.isAdmitted controller.settings) = false
  requested : amount = requestedAmount pubkey fees

theorem requestedInvoice_ok (pubkey : JsString) (amount : Int)
    (requested : controller.requestedInvoice findByPubkey body = .ok (.ok (pubkey, amount))) :
    ∃ fees user, IsRequested controller findByPubkey body pubkey amount fees user := by
  unfold requestedInvoice at requested
  split at requested
  next => cases requested
  next asking asked =>
    obtain ⟨fees, applicable, charging⟩ := ok_of_bind requested
    split at charging
    next => cases charging
    next charged =>
      obtain ⟨user, found, admitting⟩ := ok_of_bind charging
      split at admitting
      next => cases admitting
      next unadmitted =>
        cases admitting
        exact ⟨fees, user, asked, applicable, Bool.eq_false_iff.mpr charged, found, Bool.eq_false_iff.mpr unadmitted,
          rfl⟩

end Requests

section Admission

structure Pays (settings : Settings) (pubkey : JsString) (amount : Int) (call : CreditedAdmission.Call) : Prop where
  settings : call.settings = settings
  pubkey : call.invoice.pubkey = pubkey
  paid : ∃ amountPaid confirmedAt, payment call.invoice = .ok (amountPaid, confirmedAt) ∧
    amountPaidMsat call.invoice amountPaid = amount

theorem pays_isAdmitted (settings : Settings) (pubkey : JsString) (amount : Int) (call : CreditedAdmission.Call)
    (tables : PaymentTables) (pays : Pays settings pubkey amount call)
    (fee : admissionFeeAmount settings call.invoice = amount) :
    (call.apply tables).isAdmitted (ofHex pubkey) = true ↔ tables.isAdmitted (ofHex pubkey) = true ∨ 0 < amount := by
  obtain ⟨rfl, rfl, amountPaid, confirmedAt, ready, rfl⟩ := pays
  rw [CreditedAdmission.apply_isAdmitted]
  refine or_congr_right ⟨?_, fun positive => ⟨rfl, amountPaid, confirmedAt, ready, ?_⟩⟩
  · rintro ⟨-, otherPaid, otherDate, otherReady, admitted⟩
    simp only [admits, Bool.and_eq_true, decide_eq_true_eq] at admitted
    exact fee ▸ admitted.1
  · simp [admits, fee, positive]

theorem requested_fee_admits (controller : PostInvoiceController)
    (findByPubkey : JsString → Except Thrown (Option User)) (body : Option JsonValue) (pubkey : JsString) (amount : Int)
    (requested : controller.requestedInvoice findByPubkey body = .ok (.ok (pubkey, amount))) :
    (∀ invoice : Invoice, invoice.pubkey = pubkey → admissionFeeAmount controller.settings invoice = amount) ∧
      ∀ call tables, Pays controller.settings pubkey amount call →
        ((call.apply tables).isAdmitted (ofHex pubkey) = true ↔
          tables.isAdmitted (ofHex pubkey) = true ∨ 0 < amount) := by
  obtain ⟨fees, user, passed⟩ := requestedInvoice_ok controller findByPubkey body pubkey amount requested
  have same (invoice : Invoice) (isPayee : invoice.pubkey = pubkey) :
      admissionFeeAmount controller.settings invoice = amount := by
    subst isPayee
    rw [passed.requested, requestedAmount_eq controller.settings invoice fees passed.applicable]
  exact ⟨same, fun call tables pays =>
    pays_isAdmitted controller.settings pubkey amount call tables pays (same call.invoice pays.pubkey)⟩

end Admission

def payer : JsString := (List.replicate 64 (js "a")).flatten

def charging (fee : Int) : PostInvoiceController :=
  { bech32 :=
      { decode := fun _ => .error .other
        encode := fun _ _ => .error .other
        toWords := fun _ => []
        fromWords := fun _ => .ok [] }
    processor := fun request => .ok
      { id := js "invoice", bolt11 := [], amountRequested := request.amount, description := request.description,
        unit := .msats, status := .pending }
    settings := { payments := some { enabled := true, admission := some [{ enabled := true, amount := fee }] } }
    relayName := js "relay"
    relayUrl := js "wss://relay"
    relayPubkey := fun _ => .ok [] }

def admissionRequest : JsonValue :=
  .object [(js "tosAccepted", .string (js "yes")), (js "feeSchedule", .string (js "admission")),
    (js "pubkey", .string payer)]

def paying (fee : Int) : CreditedAdmission.Call :=
  { settings := (charging fee).settings
    now := 1700000000
    invoice :=
      { id := js "invoice", pubkey := payer, amountRequested := fee, amountPaid := some fee, unit := some .msats,
        status := some .completed, confirmedAt := some 1700000000 } }

theorem requested_fee_admits_payer :
    (∀ invoice : Invoice, invoice.pubkey = payer → admissionFeeAmount (charging 1000).settings invoice = 1000) ∧
      ∀ call tables, Pays (charging 1000).settings payer 1000 call →
        ((call.apply tables).isAdmitted (ofHex payer) = true ↔
          tables.isAdmitted (ofHex payer) = true ∨ (0 : Int) < 1000) :=
  requested_fee_admits (charging 1000) (fun _ => .ok none) (some admissionRequest) payer 1000 rfl

theorem free_admission_admits_nobody :
    ¬ ∀ (controller : PostInvoiceController) (findByPubkey : JsString → Except Thrown (Option User))
      (body : Option JsonValue) (pubkey : JsString) (amount : Int),
      controller.requestedInvoice findByPubkey body = .ok (.ok (pubkey, amount)) →
        (∀ invoice : Invoice, invoice.pubkey = pubkey → admissionFeeAmount controller.settings invoice = amount) ∧
          ∀ call tables, Pays controller.settings pubkey amount call →
            (call.apply tables).isAdmitted (ofHex pubkey) = true := by
  intro claim
  have admitted := (claim (charging 0) (fun _ => .ok none) (some admissionRequest) payer 0 rfl).2 (paying 0)
    { invoices := .empty, users := .empty } ⟨rfl, rfl, 0, 1700000000, rfl, rfl⟩
  exact absurd admitted (by decide)

end Nostream.RequestedFees
