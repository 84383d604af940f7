import Mathlib.Tactic

set_option autoImplicit false

namespace Runs

variable {σ α : Type}

/-- A run of a system takes enabled steps that its environment allows. -/
inductive Run (step : σ → α → Option σ) (allowed : σ → α → Prop) : σ → List α → σ → Prop
  | done (s : σ) : Run step allowed s [] s
  | next {s middle final : σ} {a : α} {trace : List α} (ok : allowed s a)
      (taken : step s a = some middle) (rest : Run step allowed middle trace final) :
      Run step allowed s (a :: trace) final

def Preserves (step : σ → α → Option σ) (allowed : σ → α → Prop) (invariant : σ → Prop) : Prop :=
  ∀ s a s', invariant s → allowed s a → step s a = some s' → invariant s'

variable {step : σ → α → Option σ} {allowed : σ → α → Prop}

theorem Run.invariant {invariant : σ → Prop} (preserves : Preserves step allowed invariant)
    {s final : σ} {trace : List α} (run : Run step allowed s trace final) (start : invariant s) :
    invariant final := by
  induction run with
  | done => exact start
  | next ok taken rest ih => exact ih (preserves _ _ _ start ok taken)

def execute (step : σ → α → Option σ) (allowed : σ → α → Prop) [∀ s a, Decidable (allowed s a)] :
    σ → List α → Option σ
  | s, [] => some s
  | s, a :: trace =>
    if allowed s a then (step s a).bind fun next => execute step allowed next trace else none

theorem run_of_execute [∀ s a, Decidable (allowed s a)] {s final : σ} {trace : List α}
    (ran : execute step allowed s trace = some final) : Run step allowed s trace final := by
  induction trace generalizing s with
  | nil =>
    cases ran
    exact .done _
  | cons a trace ih =>
    rw [execute] at ran
    split at ran
    next ok =>
      obtain ⟨middle, taken, rest⟩ := Option.bind_eq_some_iff.mp ran
      exact .next ok taken (ih rest)
    next => cases ran

end Runs
