import Nostream.Adapters.WebSocketAdapter
import Nostream.Shared.Runs

set_option autoImplicit false

namespace Nostream.WebSocketServerAdapter

open Utf16 Hex
open Runs hiding execute

/-- Where onConnection stands: it awaits the hits one after the other, and then goes on once. -/
inductive Phase where
  | checking (hits : List RateLimit) (limited : Bool)
  | attached
  | terminated
  | failed

structure Accepting where
  phase : Phase
  isClosed : Bool := false
  received : List Bytes := []
  passed : List Bytes := []

def rateLimits (settings : Settings) (remoteAddress : JsString) : List RateLimit :=
  let limits := ((settings.limits.bind Limits.connection).getD {})
  if (limits.ipWhitelist.getD []).contains remoteAddress then [] else limits.rateLimits.getD []

def opened (settings : Settings) : Except Thrown JsString → Accepting
  | .ok remoteAddress => { phase := .checking (rateLimits settings remoteAddress) false }
  | .error _ => { phase := .failed }

inductive Action where
  | frame (raw : Bytes)
  | hit (outcome : Except Thrown Bool)
  | resume (created : Except Thrown Unit)
  | close

namespace Accepting

-- ws drops an event that has no listener.
def hear (accepting : Accepting) (raw : Bytes) : Accepting :=
  { accepting with
    received := accepting.received ++ [raw]
    passed := match accepting.phase with
      | .attached => accepting.passed ++ [raw]
      | _ => accepting.passed }

def step (accepting : Accepting) : Action → Option Accepting
  | .frame raw =>
    match accepting.isClosed, accepting.phase with
    | true, _ => none
    | false, .terminated => none
    | false, _ => some (accepting.hear raw)
  | .hit outcome =>
    match accepting.phase, outcome with
    | .checking (_ :: hits) limited, .ok isRateLimited =>
      some { accepting with phase := .checking hits (limited || isRateLimited) }
    | .checking (_ :: _) _, .error _ => some { accepting with phase := .failed }
    | _, _ => none
  | .resume created =>
    match accepting.phase, created with
    | .checking [] true, _ => some { accepting with phase := .terminated }
    | .checking [] false, .ok _ => some { accepting with phase := .attached }
    | .checking [] false, .error _ => some { accepting with phase := .failed }
    | _, _ => none
  | .close => some { accepting with isClosed := true }

end Accepting

def frames (trace : List Action) : List Bytes :=
  trace.filterMap fun
    | .frame raw => some raw
    | _ => none

def late : List Action → List Bytes
  | [] => []
  | .resume (.ok _) :: rest => frames rest
  | _ :: rest => late rest

def Punctual (trace : List Action) : Prop :=
  ∀ early raw rest, trace = early ++ .frame raw :: rest → .resume (.ok ()) ∈ early

theorem late_sublist (trace : List Action) : (late trace).Sublist (frames trace) := by
  induction trace with
  | nil => exact List.Sublist.refl []
  | cons action rest ih =>
    match action with
    | .resume (.ok _) => exact List.Sublist.refl _
    | .resume (.error _) => exact ih
    | .frame raw => exact ih.cons raw
    | .hit _ => exact ih
    | .close => exact ih

theorem punctual_cons (action : Action) (rest : List Action) (quiet : ∀ raw, action ≠ .frame raw)
    (unattached : action ≠ .resume (.ok ())) : Punctual (action :: rest) ↔ Punctual rest := by
  constructor
  · intro punctual early raw more isRest
    have attached := punctual (action :: early) raw more (by rw [isRest, List.cons_append])
    exact (List.mem_cons.mp attached).resolve_left (Ne.symm unattached)
  · intro punctual early raw more isTrace
    cases early with
    | nil =>
      rw [List.nil_append, List.cons.injEq] at isTrace
      exact (quiet raw isTrace.1).elim
    | cons first early =>
      rw [List.cons_append, List.cons.injEq] at isTrace
      exact List.mem_cons_of_mem _ (punctual early raw more isTrace.2)

theorem late_eq_frames_iff (trace : List Action) : late trace = frames trace ↔ Punctual trace := by
  induction trace with
  | nil => exact iff_of_true rfl fun early raw rest isTrace => by simp at isTrace
  | cons action rest ih =>
    match action with
    | .resume (.ok _) =>
      refine iff_of_true rfl fun early raw more isTrace => ?_
      cases early with
      | nil => simp at isTrace
      | cons first early =>
        rw [List.cons_append, List.cons.injEq] at isTrace
        exact isTrace.1 ▸ List.mem_cons_self
    | .frame raw =>
      refine iff_of_false ?_ fun punctual => ?_
      · intro same
        have shorter := (late_sublist rest).length_le
        have lengths : (late rest).length = (frames rest).length + 1 := congrArg List.length same
        omega
      · have attached := punctual [] raw rest rfl
        cases attached
    | .resume (.error _) => exact ih.trans (punctual_cons _ rest (by simp) (by simp)).symm
    | .hit _ => exact ih.trans (punctual_cons _ rest (by simp) (by simp)).symm
    | .close => exact ih.trans (punctual_cons _ rest (by simp) (by simp)).symm

inductive Step (accepting : Accepting) : Action → Accepting → Prop
  | heard (raw : Bytes) (isOpen : accepting.isClosed = false) : Step accepting (.frame raw) (accepting.hear raw)
  | counted (isRateLimited limited : Bool) (first : RateLimit) (hits : List RateLimit)
      (phase : accepting.phase = .checking (first :: hits) limited) :
      Step accepting (.hit (.ok isRateLimited))
        { accepting with phase := .checking hits (limited || isRateLimited) }
  | broken (reason : Thrown) (first : RateLimit) (hits : List RateLimit) (limited : Bool)
      (phase : accepting.phase = .checking (first :: hits) limited) :
      Step accepting (.hit (.error reason)) { accepting with phase := .failed }
  | terminated (created : Except Thrown Unit) (phase : accepting.phase = .checking [] true) :
      Step accepting (.resume created) { accepting with phase := .terminated }
  | attached (phase : accepting.phase = .checking [] false) :
      Step accepting (.resume (.ok ())) { accepting with phase := .attached }
  | abandoned (reason : Thrown) (phase : accepting.phase = .checking [] false) :
      Step accepting (.resume (.error reason)) { accepting with phase := .failed }
  | closed : Step accepting .close { accepting with isClosed := true }

theorem step_cases (accepting reached : Accepting) (action : Action)
    (taken : accepting.step action = some reached) : Step accepting action reached := by
  unfold Accepting.step at taken
  split at taken
  · split at taken
    next => cases taken
    next => cases taken
    next isOpen _ =>
      cases taken
      exact .heard _ isOpen
  · split at taken
    next phase =>
      cases taken
      exact .counted _ _ _ _ phase
    next phase =>
      cases taken
      exact .broken _ _ _ _ phase
    next => cases taken
  · split at taken
    next phase =>
      cases taken
      exact .terminated _ phase
    next phase =>
      cases taken
      exact .attached phase
    next phase =>
      cases taken
      exact .abandoned _ phase
    next => cases taken
  · cases taken
    exact .closed

theorem frames_cons (action : Action) (rest : List Action) :
    frames (action :: rest) = frames [action] ++ frames rest := by
  rw [frames, frames, frames, ← List.filterMap_append, List.singleton_append]

theorem step_received (accepting reached : Accepting) (action : Action)
    (taken : accepting.step action = some reached) :
    reached.received = accepting.received ++ frames [action] := by
  cases step_cases accepting reached action taken with
  | heard => rfl
  | _ => simp [frames]

theorem run_received (accepting final : Accepting) (trace : List Action)
    (run : Run Accepting.step (fun _ _ => True) accepting trace final) :
    final.received = accepting.received ++ frames trace := by
  induction run with
  | done => simp [frames]
  | @next accepting middle final action trace _ taken _ ih =>
    rw [ih, step_received accepting middle action taken, frames_cons action trace, List.append_assoc]

theorem attached_run (accepting final : Accepting) (trace : List Action)
    (run : Run Accepting.step (fun _ _ => True) accepting trace final)
    (attached : accepting.phase = .attached) :
    final.phase = .attached ∧ final.passed = accepting.passed ++ frames trace := by
  induction run with
  | done => exact ⟨attached, by simp [frames]⟩
  | @next accepting middle final action trace _ taken _ ih =>
    have heard : middle.phase = .attached ∧ middle.passed = accepting.passed ++ frames [action] := by
      cases step_cases accepting middle action taken with
      | heard raw => exact ⟨attached, by simp [Accepting.hear, attached, frames]⟩
      | closed => exact ⟨attached, by simp [frames]⟩
      | counted _ _ _ _ phase => exact absurd (attached.symm.trans phase) (by simp)
      | broken _ _ _ _ phase => exact absurd (attached.symm.trans phase) (by simp)
      | terminated _ phase => exact absurd (attached.symm.trans phase) (by simp)
      | attached phase => exact absurd (attached.symm.trans phase) (by simp)
      | abandoned _ phase => exact absurd (attached.symm.trans phase) (by simp)
    obtain ⟨still, passed⟩ := ih heard.1
    exact ⟨still, by rw [passed, heard.2, frames_cons action trace, List.append_assoc]⟩

theorem terminated_run (accepting final : Accepting) (trace : List Action)
    (run : Run Accepting.step (fun _ _ => True) accepting trace final)
    (terminated : accepting.phase = .terminated) : final.phase = .terminated := by
  induction run with
  | done => exact terminated
  | @next accepting middle final action trace _ taken _ ih =>
    apply ih
    cases step_cases accepting middle action taken with
    | heard | closed => exact terminated
    | terminated => rfl
    | counted _ _ _ _ phase => exact absurd (terminated.symm.trans phase) (by simp)
    | broken _ _ _ _ phase => exact absurd (terminated.symm.trans phase) (by simp)
    | attached phase => exact absurd (terminated.symm.trans phase) (by simp)
    | abandoned _ phase => exact absurd (terminated.symm.trans phase) (by simp)

theorem unattached_run (accepting final : Accepting) (trace : List Action)
    (run : Run Accepting.step (fun _ _ => True) accepting trace final)
    (unattached : accepting.phase ≠ .attached) (kept : final.phase ≠ .terminated) :
    final.passed = accepting.passed ++ late trace := by
  induction run with
  | done => simp [late]
  | @next accepting middle final action trace _ taken rest ih =>
    cases step_cases accepting middle action taken with
    | heard raw =>
      have deaf : (accepting.hear raw).passed = accepting.passed := by
        unfold Accepting.hear
        split
        next phase => exact (unattached phase).elim
        next => rfl
      rw [ih unattached kept, deaf]
      rfl
    | attached => exact (attached_run _ final trace rest rfl).2
    | counted | broken | abandoned | closed => exact ih (by simp_all) kept
    | terminated created =>
      have rejected := terminated_run _ final trace rest rfl
      exact (kept rejected).elim

theorem frames_passed_iff (settings : Settings) (remoteAddress : Except Thrown JsString)
    (trace : List Action) (final : Accepting)
    (run : Run Accepting.step (fun _ _ => True) (opened settings remoteAddress) trace final)
    (kept : final.phase ≠ .terminated) : final.passed = final.received ↔ Punctual trace := by
  have fresh : (opened settings remoteAddress).phase ≠ .attached ∧
      (opened settings remoteAddress).passed = [] ∧ (opened settings remoteAddress).received = [] := by
    cases remoteAddress <;> simp [opened]
  rw [unattached_run _ final trace run fresh.1 kept, run_received _ final trace run, fresh.2.1, fresh.2.2,
    List.nil_append, List.nil_append, late_eq_frames_iff]

def oneConnectionLimit : Settings :=
  { limits := some { connection := some { rateLimits := some [{ period := 1000, rate := 12 }] } } }

def reqText : Bytes := utf8 (js "[\"REQ\",\"s\",\x7b\x7d]")

def answeredFirst : List Action := [.hit (.ok false), .resume (.ok ()), .frame reqText]

def overtaken : List Action := [.frame reqText, .hit (.ok false), .resume (.ok ())]

theorem late_frame_passed :
    ∃ final, Run Accepting.step (fun _ _ => True) (opened oneConnectionLimit (.ok (js "::1"))) answeredFirst
        final ∧ final.phase ≠ .terminated ∧ (final.passed = final.received ↔ Punctual answeredFirst) := by
  have ran : Runs.execute Accepting.step (fun _ _ => True) (opened oneConnectionLimit (.ok (js "::1")))
      answeredFirst = some { phase := .attached, received := [reqText], passed := [reqText] } := rfl
  have run := run_of_execute ran
  exact ⟨_, run, by simp, frames_passed_iff oneConnectionLimit _ _ _ run (by simp)⟩

theorem early_frame_dropped :
    ¬ ∀ (settings : Settings) (remoteAddress : Except Thrown JsString) (trace : List Action)
        (final : Accepting), Run Accepting.step (fun _ _ => True) (opened settings remoteAddress) trace final →
      final.phase ≠ .terminated → final.passed = final.received := by
  intro claim
  have ran : Runs.execute Accepting.step (fun _ _ => True) (opened oneConnectionLimit (.ok (js "::1")))
      overtaken = some { phase := .attached, received := [reqText], passed := [] } := rfl
  have passed := claim oneConnectionLimit _ _ _ (run_of_execute ran) (by simp)
  simp at passed

end Nostream.WebSocketServerAdapter
