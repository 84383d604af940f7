import Mathlib.Data.List.MinMax
import Mathlib.Tactic

set_option autoImplicit false

namespace Register

variable {α κ τ : Type} [LinearOrder τ]

-- A register keeps the value with the greatest stamp, the earlier one of two with the same stamp.
def write (stamp : α → τ) (held : Option α) (value : α) : Option α :=
  match held with
  | none => some value
  | some old => if stamp old < stamp value then some value else some old

theorem writes_argmax (stamp : α → τ) (values : List α) :
    values.foldl (write stamp) none = values.argmax stamp := by
  have same : write stamp = List.argAux fun b c => stamp c < stamp b := by
    funext held value
    cases held <;> rfl
  rw [same]
  rfl

theorem argmax_first (stamp : α → τ) (values : List α) (winner : α)
    (isMax : values.argmax stamp = some winner) :
    ∃ before after, values = before ++ winner :: after ∧ (∀ b ∈ before, stamp b < stamp winner) ∧
      ∀ a ∈ after, stamp a ≤ stamp winner := by
  induction values using List.reverseRecOn generalizing winner with
  | nil => simp at isMax
  | append_singleton front last ih =>
    rw [List.argmax_concat] at isMax
    cases found : front.argmax stamp with
    | none =>
      rw [List.argmax_eq_none] at found
      simp only [found, List.argmax_nil, Option.some.injEq] at isMax
      exact ⟨[], [], by simp [found, isMax], by simp, by simp⟩
    | some held =>
      obtain ⟨before, after, split, less, atMost⟩ := ih held found
      simp only [found] at isMax
      by_cases newer : stamp held < stamp last
      · rw [if_pos newer, Option.some.injEq] at isMax
        subst isMax
        refine ⟨front, [], rfl, fun b member => ?_, by simp⟩
        exact lt_of_le_of_lt (List.le_of_mem_argmax member found) newer
      · rw [if_neg newer, Option.some.injEq] at isMax
        subst isMax
        refine ⟨before, after ++ [last], by simp [split], less, fun a member => ?_⟩
        rcases List.mem_append.mp member with old | new
        · exact atMost a old
        · rw [List.mem_singleton.mp new]
          exact not_lt.mp newer

variable [DecidableEq κ]

def put (key : α → κ) (stamp : α → τ) (registers : κ → Option α) (value : α) : κ → Option α :=
  Function.update registers (key value) (write stamp (registers (key value)) value)

theorem puts_apply (key : α → κ) (stamp : α → τ) (registers : κ → Option α) (values : List α) (k : κ) :
    values.foldl (put key stamp) registers k =
      (values.filter (key · = k)).foldl (write stamp) (registers k) := by
  induction values generalizing registers with
  | nil => rfl
  | cons value rest ih =>
    rw [List.foldl_cons, ih]
    by_cases same : key value = k
    · simp [put, same]
    · simp [put, same, Function.update_of_ne (Ne.symm same)]

theorem puts_argmax (key : α → κ) (stamp : α → τ) (values : List α) (k : κ) :
    values.foldl (put key stamp) (fun _ => none) k = (values.filter (key · = k)).argmax stamp := by
  rw [puts_apply, writes_argmax]

theorem put_cases (key : α → κ) (stamp : α → τ) (registers : κ → Option α) (value : α) (k : κ)
    (found : α) (member : put key stamp registers value k = some found) :
    registers k = some found ∨ (found = value ∧ key value = k) := by
  by_cases same : key value = k
  · subst same
    simp only [put, Function.update_self] at member
    cases held : registers (key value) with
    | none =>
      rw [held] at member
      exact .inr ⟨(Option.some.inj member).symm, rfl⟩
    | some old =>
      simp only [held, write] at member
      split at member
      · exact .inr ⟨(Option.some.inj member).symm, rfl⟩
      · exact .inl member
  · rw [put, Function.update_of_ne (Ne.symm same)] at member
    exact .inl member

end Register
