import Nostream.Handlers.RateLimiters

set_option autoImplicit false

namespace Nostream

open Utf16 Windows RateLimiters

section Controllers

variable {σ : Type} (hit : RateLimiterHit → σ → Bool × σ)

-- Without a whitelist no hit is made.
def RateLimiters.controllerIsRateLimited (name : JsString) (limits : ConnectionLimits)
    (remoteAddress : JsString) (s : σ) : Bool × σ :=
  match limits.rateLimits with
  | none => (false, s)
  | some rateLimits =>
    if rateLimits.isEmpty then (false, s)
    else match limits.ipWhitelist with
    | none => (false, s)
    | some ipWhitelist =>
      if ipWhitelist.contains remoteAddress then (false, s)
      else hitRateLimits hit remoteAddress name rateLimits s

def PostInvoiceController.isRateLimited (remoteAddress : JsString) (settings : Settings) (s : σ) : Bool × σ :=
  controllerIsRateLimited hit (js "invoice") ((settings.limits.bind Limits.invoice).getD {}) remoteAddress s

def GetSubmissionCheckController.isRateLimited (remoteAddress : JsString) (settings : Settings) (s : σ) :
    Bool × σ :=
  controllerIsRateLimited hit (js "admission-check") ((settings.limits.bind Limits.admissionCheck).getD {})
    remoteAddress s

end Controllers

namespace AddressLimits

def nextAnswer (_ : RateLimiterHit) (answers : Nat → Bool) : Bool × (Nat → Bool) :=
  (answers 0, fun i => answers (i + 1))

def sectioned (limits : Option ConnectionLimits) : Settings :=
  { limits := some { message := limits, connection := limits, invoice := limits, admissionCheck := limits } }

def isExceeded (limits : ConnectionLimits) (answers : Nat → Bool) : Bool :=
  (List.range (limits.rateLimits.getD []).length).any answers

def decision (limits : ConnectionLimits) (remoteAddress : JsString) (answers : Nat → Bool) : Bool :=
  !isWhitelisted limits remoteAddress && isExceeded limits answers

structure ReadAlike (limits : Option ConnectionLimits) (remoteAddress : JsString) (answers : Nat → Bool) : Prop where
  message : (WebSocketAdapter.isRateLimited nextAnswer (sectioned limits) remoteAddress answers).1 =
    decision (limits.getD {}) remoteAddress answers
  connection : (RateLimiterMiddleware.isRateLimited nextAnswer remoteAddress (sectioned limits) answers).1 =
    decision (limits.getD {}) remoteAddress answers
  invoice : (PostInvoiceController.isRateLimited nextAnswer remoteAddress (sectioned limits) answers).1 =
    decision (limits.getD {}) remoteAddress answers
  admissionCheck :
    (GetSubmissionCheckController.isRateLimited nextAnswer remoteAddress (sectioned limits) answers).1 =
      decision (limits.getD {}) remoteAddress answers

theorem hitEach_nextAnswer (hits : List RateLimiterHit) (limited : Bool) (answers : Nat → Bool) :
    (hitEach nextAnswer hits limited answers).1 = (limited || (List.range hits.length).any answers) := by
  induction hits generalizing limited answers with
  | nil => simp [hitEach]
  | cons first rest ih =>
    rw [hitEach, ih, List.length_cons, List.range_succ_eq_map, List.any_cons, List.any_map, Bool.or_assoc]
    rfl

theorem hitRateLimits_nextAnswer (remoteAddress name : JsString) (rateLimits : List RateLimit)
    (answers : Nat → Bool) :
    (hitRateLimits nextAnswer remoteAddress name rateLimits answers).1 =
      (List.range rateLimits.length).any answers := by
  rw [hitRateLimits, hitEach_nextAnswer, List.length_map, Bool.false_or]

section Sections

variable (limits : Option ConnectionLimits) (remoteAddress : JsString) (answers : Nat → Bool)

theorem webSocketAdapter_reads :
    (WebSocketAdapter.isRateLimited nextAnswer (sectioned limits) remoteAddress answers).1 =
      decision (limits.getD {}) remoteAddress answers := by
  have own : messageLimits (sectioned limits) = limits.getD {} := by cases limits <;> rfl
  rw [WebSocketAdapter.isRateLimited, own, decision, isExceeded]
  cases (limits.getD {}).rateLimits with
  | none => simp
  | some rateLimits =>
    cases rateLimits with
    | nil => simp
    | cons first rest =>
      cases isWhitelisted (limits.getD {}) remoteAddress <;> simp [hitRateLimits_nextAnswer]

theorem rateLimiterMiddleware_reads :
    (RateLimiterMiddleware.isRateLimited nextAnswer remoteAddress (sectioned limits) answers).1 =
      decision (limits.getD {}) remoteAddress answers := by
  have own : connectionLimits (sectioned limits) = limits.getD {} := by cases limits <;> rfl
  rw [RateLimiterMiddleware.isRateLimited, own, decision, isExceeded]
  cases (limits.getD {}).rateLimits with
  | none => simp
  | some rateLimits => cases isWhitelisted (limits.getD {}) remoteAddress <;> simp [hitRateLimits_nextAnswer]

theorem controller_reads (name : JsString) (given : ConnectionLimits) :
    (controllerIsRateLimited nextAnswer name given remoteAddress answers).1 =
      (given.ipWhitelist.isSome && decision given remoteAddress answers) := by
  obtain ⟨rateLimits, ipWhitelist⟩ := given
  cases rateLimits with
  | none => simp [controllerIsRateLimited, decision, isExceeded]
  | some rateLimits =>
    cases rateLimits with
    | nil => simp [controllerIsRateLimited, decision, isExceeded]
    | cons first rest =>
      cases ipWhitelist with
      | none => rfl
      | some ipWhitelist =>
        by_cases listed : remoteAddress ∈ ipWhitelist
        · simp [controllerIsRateLimited, decision, isWhitelisted, listed]
        · simp [controllerIsRateLimited, decision, isExceeded, isWhitelisted, listed, hitRateLimits_nextAnswer]

end Sections

theorem read_alike_iff (limits : Option ConnectionLimits) (remoteAddress : JsString) (answers : Nat → Bool) :
    ReadAlike limits remoteAddress answers ↔
      (limits.getD {}).ipWhitelist.isSome = true ∨ isExceeded (limits.getD {}) answers = false := by
  have invoice : ((sectioned limits).limits.bind Limits.invoice).getD {} = limits.getD {} := by
    cases limits <;> rfl
  have admissionCheck : ((sectioned limits).limits.bind Limits.admissionCheck).getD {} = limits.getD {} := by
    cases limits <;> rfl
  have unlisted (none : (limits.getD {}).ipWhitelist.isSome = false) :
      decision (limits.getD {}) remoteAddress answers = isExceeded (limits.getD {}) answers := by
    rw [Option.isSome_eq_false_iff, Option.isNone_iff_eq_none] at none
    simp [decision, isWhitelisted, none]
  constructor
  · rintro ⟨_, _, limited, _⟩
    rw [PostInvoiceController.isRateLimited, invoice, controller_reads] at limited
    cases whitelist : (limits.getD {}).ipWhitelist.isSome with
    | true => exact .inl rfl
    | false =>
      rw [whitelist, Bool.false_and, unlisted whitelist] at limited
      exact .inr limited.symm
  · intro condition
    have controllers (name : JsString) :
        (controllerIsRateLimited nextAnswer name (limits.getD {}) remoteAddress answers).1 =
          decision (limits.getD {}) remoteAddress answers := by
      rw [controller_reads]
      rcases condition with whitelist | free
      · rw [whitelist, Bool.true_and]
      · rw [decision, free, Bool.and_false, Bool.and_false]
    refine ⟨webSocketAdapter_reads limits remoteAddress answers,
      rateLimiterMiddleware_reads limits remoteAddress answers, ?_, ?_⟩
    · rw [PostInvoiceController.isRateLimited, invoice, controllers]
    · rw [GetSubmissionCheckController.isRateLimited, admissionCheck, controllers]

theorem unlisted_address_not_limited :
    ¬ ∀ (limits : Option ConnectionLimits) (remoteAddress : JsString) (answers : Nat → Bool),
      ReadAlike limits remoteAddress answers := by
  intro claim
  have limited := (claim (some { rateLimits := some [{ period := 60000, rate := 12 }] }) (js "10.0.0.1")
    fun _ => true).invoice
  exact absurd limited (by decide)

end AddressLimits

end Nostream
