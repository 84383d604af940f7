import Mathlib.Tactic

set_option autoImplicit false

-- Runs of a system that one party sees only in part.
namespace Unwinding

variable {σ α : Type} (step : σ → α → σ) (view : σ → σ) (own : α → Bool)

structure Unwinds (good : σ → Prop) (allowed : α → Prop) : Prop where
  keeps : ∀ s a, good s → allowed a → good (step s a)
  commutes : ∀ s a, good s → allowed a → own a = true → view (step s a) = step (view s) a
  ignores : ∀ s a, good s → allowed a → own a = false → view (step s a) = view s

variable {step view own} {good : σ → Prop} {allowed : α → Prop}

theorem Unwinds.view_run (unwinds : Unwinds step view own good allowed) (trace : List α)
    (inside : ∀ a ∈ trace, allowed a) (s : σ) (start : good s) :
    view (trace.foldl step s) = (trace.filter own).foldl step (view s) := by
  induction trace generalizing s with
  | nil => rfl
  | cons a rest ih =>
    have ok := inside a (by simp)
    have later := ih (fun b member => inside b (List.mem_cons_of_mem a member)) (step s a)
      (unwinds.keeps s a start ok)
    rw [List.foldl_cons, later]
    cases isOwn : own a with
    | true => rw [List.filter_cons_of_pos isOwn, List.foldl_cons, unwinds.commutes s a start ok isOwn]
    | false => rw [List.filter_cons_of_neg (by simp [isOwn]), unwinds.ignores s a start ok isOwn]

theorem Unwinds.noninterference (unwinds : Unwinds step view own good allowed) (trace : List α)
    (inside : ∀ a ∈ trace, allowed a) (s : σ) (start : good s) :
    view (trace.foldl step s) = view ((trace.filter own).foldl step s) := by
  have alone := unwinds.view_run (trace.filter own)
    (fun a member => inside a (List.mem_filter.mp member).1) s start
  rw [unwinds.view_run trace inside s start, alone, List.filter_filter]
  simp

end Unwinding
