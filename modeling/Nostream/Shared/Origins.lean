import Nostream.Shared.Runs

set_option autoImplicit false

-- The steps of a run, and where in it something has come to hold.
namespace Runs

variable {σ α : Type} {step : σ → α → Option σ} {allowed : σ → α → Prop}

theorem Run.restrict {s final : σ} {trace : List α} (run : Run step allowed s trace final) (inside : α → Prop)
    (all : ∀ a ∈ trace, inside a) : Run step (fun state a => allowed state a ∧ inside a) s trace final := by
  induction run with
  | done => exact .done _
  | @next s middle final a trace ok taken rest ih =>
    exact .next ⟨ok, all a List.mem_cons_self⟩ taken (ih fun b member => all b (List.mem_cons_of_mem a member))

structure Taken (step : σ → α → Option σ) (allowed : σ → α → Prop) (s : σ) (trace : List α) (middle : σ) (a : α)
    (reached : σ) : Prop where
  split : ∃ before after, trace = before ++ a :: after ∧ Run step allowed s before middle
  ok : allowed middle a
  taken : step middle a = some reached

theorem Taken.later {s next : σ} {first : α} {trace : List α} {middle : σ} {a : α} {reached : σ}
    (ok : allowed s first) (taken : step s first = some next) (rest : Taken step allowed next trace middle a reached) :
    Taken step allowed s (first :: trace) middle a reached := by
  obtain ⟨⟨before, after, same, run⟩, stillOk, stillTaken⟩ := rest
  exact ⟨⟨first :: before, after, by rw [same, List.cons_append], .next ok taken run⟩, stillOk, stillTaken⟩

theorem Taken.within {s : σ} {before after : List α} {b : α} {middle : σ} {a : α} {reached : σ}
    (inside : Taken step allowed s before middle a reached) :
    Taken step allowed s (before ++ b :: after) middle a reached := by
  obtain ⟨⟨first, second, same, run⟩, ok, taken⟩ := inside
  exact ⟨⟨first, second ++ b :: after, by rw [same, List.append_assoc, List.cons_append], run⟩, ok, taken⟩

theorem Run.introduced {s final : σ} {trace : List α} (run : Run step allowed s trace final) (holds : σ → Prop)
    (later : holds final) :
    holds s ∨ ∃ middle a reached, Taken step allowed s trace middle a reached ∧ ¬ holds middle ∧ holds reached := by
  induction run with
  | done => exact .inl later
  | @next s middle final a trace ok taken rest ih =>
    rcases ih later with atMiddle | ⟨state, b, reached, found, made⟩
    · refine (em (holds s)).imp id fun before => ?_
      exact ⟨s, a, middle, ⟨⟨[], trace, rfl, .done s⟩, ok, taken⟩, before, atMiddle⟩
    · exact .inr ⟨state, b, reached, found.later ok taken, made⟩

end Runs
