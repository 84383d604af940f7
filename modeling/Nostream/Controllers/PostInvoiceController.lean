import Nostream.Controllers.AddressLimits
import Nostream.Services.PaymentsService
import Nostream.Shared.JsonValue

set_option autoImplicit false

namespace Nostream

open Utf16 Hex Effects Json PaymentsService

structure Bech32 where
  decode : JsString → Except Thrown (JsString × List Nat)
  encode : JsString → List Nat → Except Thrown JsString
  toWords : Bytes → List Nat
  fromWords : List Nat → Except Thrown Bytes

def fromBech32 (bech32 : Bech32) (input : JsString) : Except Thrown JsString := do
  let decoded ← bech32.decode input
  if startsWith input decoded.1 then
    let bytes ← bech32.fromWords decoded.2
    return toHex (bytes.take 32)
  else throw (.error ("Bech32 invalid prefix: " ++ String.ofList (Utf16.decode decoded.1)))

def toBech32 (bech32 : Bech32) (humanReadable input : JsString) : Except Thrown JsString :=
  bech32.encode humanReadable (bech32.toWords (ofHex input))

structure InvoicePage where
  name : JsString
  reference : JsString
  relayUrl : JsString
  pubkey : JsString
  relayPubkey : JsString
  expiresAt : Option Int
  invoice : JsString
  amount : Int
  processor : String := "none"

inductive Response where
  | text (status : Nat) (contentType : String) (body : String)
  | html (status : Nat) (page : InvoicePage)

structure PostInvoiceController where
  bech32 : Bech32
  processor : CreateInvoiceRequest → Except Thrown CreateInvoiceResponse
  settings : Settings
  relayName : JsString
  relayUrl : JsString
  -- getPublicKey of the private key that getRelayPrivateKey derives.
  relayPubkey : JsString → Except Thrown JsString

namespace PostInvoiceController

def plain (status : Nat) (body : String) : Response := .text status "text/plain; charset=utf8" body

def isText (value : Option JsonValue) (text : String) : Bool :=
  match value with
  | some (.string value) => value == js text
  | _ => false

def isApplicableFee (pubkey : JsString) (feeSchedule : FeeSchedule) : Bool :=
  feeSchedule.enabled && !((feeSchedule.whitelists.getD {}).pubkeys.getD []).any (startsWith pubkey)

-- No payments, no schedules; payments without schedules of this kind are a TypeError.
def admissionFee (settings : Settings) (pubkey : JsString) : Except Thrown (List FeeSchedule) :=
  match settings.payments with
  | none => .ok []
  | some payments =>
    match payments.admission with
    | none => .error (.error "Cannot read properties of undefined (reading 'filter')")
    | some feeSchedules => .ok (feeSchedules.filter (isApplicableFee pubkey))

def addFee (pubkey : JsString) (sum : Int) (fee : FeeSchedule) : Int :=
  if fee.enabled && !((fee.whitelists.getD {}).pubkeys.getD []).contains pubkey then fee.amount + sum else sum

def requestedAmount (pubkey : JsString) (admissionFee : List FeeSchedule) : Int :=
  admissionFee.foldl (addFee pubkey) 0

-- A minimal balance of zero asks for nothing.
def isAdmitted (settings : Settings) (user : User) : Bool :=
  let minBalance := (settings.eventLimits.pubkey.bind PubkeyLimits.minBalance).getD 0
  user.isAdmitted && (minBalance == 0 || user.balance ≥ minBalance)

section Requests

variable (controller : PostInvoiceController)

def requestedPubkey (body : Option JsonValue) : Except Response JsString :=
  match body.filter JsonValue.isObject with
  | none => .error (plain 400 "Invalid request")
  | some body =>
    if !isText (body.member (js "tosAccepted")) "yes" then .error (plain 400 "ToS agreement: not accepted")
    else if !isText (body.member (js "feeSchedule")) "admission" then .error (plain 400 "Invalid fee")
    else match body.member (js "pubkey") with
    | some (.string pubkeyRaw) =>
      if pubkeyRaw.length = 64 ∧ isLowerHex pubkeyRaw = true then .ok pubkeyRaw
      else if startsWith pubkeyRaw (js "npub1") then
        match fromBech32 controller.bech32 pubkeyRaw with
        | .ok pubkey => .ok pubkey
        | .error _ => .error (plain 400 "Invalid pubkey: invalid npub")
      else .error (plain 400 "Invalid pubkey: unknown format")
    | _ => .error (plain 400 "Invalid pubkey: missing")

def requestedInvoice (findByPubkey : JsString → Except Thrown (Option User)) (body : Option JsonValue) :
    Except Thrown (Except Response (JsString × Int)) :=
  match controller.requestedPubkey body with
  | .error response => .ok (.error response)
  | .ok pubkey => do
    let admissionFee ← admissionFee controller.settings pubkey
    if admissionFee.isEmpty then return .error (plain 400 "No admission fee required")
    let user ← findByPubkey pubkey
    if user.any (isAdmitted controller.settings) then return .error (plain 400 "User is already admitted.")
    return .ok (pubkey, requestedAmount pubkey admissionFee)

def issue (fates : CreationFates) (pubkey : JsString) (amount : Int) : Paying CreatedInvoice := do
  let npub ← answer (toBech32 controller.bech32 (js "npub") pubkey)
  createInvoice controller.processor fates pubkey amount (controller.relayName ++ js " Admission Fee for " ++ npub)

def page (pubkey : JsString) (amount : Int) (invoice : CreatedInvoice) (relayPubkey : JsString) : InvoicePage :=
  { name := controller.relayName
    reference := invoice.id
    relayUrl := controller.relayUrl
    pubkey := pubkey
    relayPubkey := relayPubkey
    expiresAt := invoice.expiresAt
    invoice := invoice.bolt11
    amount := amount.tdiv 1000 }

def handleRequest (limited : Bool) (findByPubkey : JsString → Except Thrown (Option User)) (fates : CreationFates)
    (body : Option JsonValue) : Paying Response :=
  if limited then return plain 429 "Too many requests"
  else do
    match ← answer (controller.requestedInvoice findByPubkey body) with
    | .error response => return response
    | .ok (pubkey, amount) =>
      let issued ← handle (some <$> controller.issue fates pubkey amount) fun _ => return none
      match issued with
      | none => return .text 500 "text/plain" "Unable to create invoice"
      | some invoice =>
        let relayPubkey ← answer (controller.relayPubkey controller.relayUrl)
        return .html 200 (controller.page pubkey amount invoice relayPubkey)

end Requests

end PostInvoiceController

end Nostream
