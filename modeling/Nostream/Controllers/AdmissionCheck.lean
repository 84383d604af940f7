import Nostream.Controllers.PostInvoiceController
import Nostream.Handlers.EventMessageHandler

set_option autoImplicit false

namespace Nostream

open Utf16 PostInvoiceController

namespace GetSubmissionCheckController

inductive CheckResponse where
  | text (response : Response)
  | json (status : Nat) (contentType : String) (userAdmitted : Bool)

def userAdmitted (settings : Settings) (user : Option User) : Bool :=
  let minBalance := settings.eventLimits.pubkey.bind PubkeyLimits.minBalance
  match user with
  | none => false
  -- A minimal balance of zero counts as none.
  | some user => user.isAdmitted && (minBalance.all (· == 0) || minBalance.all (user.balance ≥ ·))

def answered (userAdmitted : Bool) : CheckResponse := .json 200 "application/json; charset=utf8" userAdmitted

def handleRequest (settings : Settings) (limited : Bool) (findByPubkey : JsString → Except Thrown (Option User))
    (pubkey : JsString) : Except Thrown CheckResponse :=
  if limited then return .text (plain 429 "Too many requests")
  else do
    let user ← findByPubkey pubkey
    return answered (userAdmitted settings user)

end GetSubmissionCheckController

namespace AdmissionCheck

open GetSubmissionCheckController

def minBalance (settings : Settings) : Int := (settings.eventLimits.pubkey.bind PubkeyLimits.minBalance).getD 0

theorem userAdmitted_iff (settings : Settings) (user : Option User) : userAdmitted settings user = true ↔
    ∃ known, user = some known ∧ known.isAdmitted = true ∧
      (minBalance settings = 0 ∨ minBalance settings ≤ known.balance) := by
  unfold userAdmitted minBalance
  cases user with
  | none => simp
  | some known =>
    cases settings.eventLimits.pubkey.bind PubkeyLimits.minBalance <;> simp

theorem isAdmitted_iff (settings : Settings) (user : Option User) :
    user.any (PostInvoiceController.isAdmitted settings) = userAdmitted settings user := by
  rw [Bool.eq_iff_iff, userAdmitted_iff]
  cases user with
  | none => simp
  | some known => simp [PostInvoiceController.isAdmitted, minBalance]

theorem admission_iff (handler : EventMessageHandler) (natural : 0 ≤ minBalance handler.settings) (user : Option User) :
    handler.admission user = none ↔ userAdmitted handler.settings user = true := by
  have same : handler.minBalance = minBalance handler.settings := rfl
  rw [userAdmitted_iff]
  cases user with
  | none => simp [EventMessageHandler.admission]
  | some known =>
    simp only [EventMessageHandler.admission, same, Option.some.injEq, exists_eq_left']
    cases known.isAdmitted with
    | false => simp
    | true =>
      rw [if_neg (by simp)]
      split
      next poor =>
        have short : ¬ (minBalance handler.settings = 0 ∨ minBalance handler.settings ≤ known.balance) := by omega
        simp [short]
      next enough =>
        have covered : minBalance handler.settings = 0 ∨ minBalance handler.settings ≤ known.balance := by omega
        simp [covered]

end AdmissionCheck

end Nostream
