import Mathlib.Tactic

set_option autoImplicit false

-- Lists whose elements are replaced in place, such as the threads of a system.
namespace Slots

variable {α : Type} {l : List α} {i j : Nat} {old a : α}

theorem getElem?_set_cases {new : α} (found : (l.set i new)[j]? = some a) :
    (j = i ∧ a = new) ∨ (j ≠ i ∧ l[j]? = some a) := by
  rw [List.getElem?_set] at found
  split_ifs at found with same inside
  · exact .inl ⟨same.symm, (Option.some.inj found).symm⟩
  · exact .inr ⟨fun equal => same equal.symm, found⟩

theorem mem_set_cases {new : α} (member : a ∈ l.set i new) : a = new ∨ a ∈ l := by
  rcases List.mem_or_eq_of_mem_set member with inList | isNew
  · exact .inr inList
  · exact .inl isNew

theorem mem_set_of_ne {new : α} (found : l[i]? = some old) (member : a ∈ l) (other : a ≠ old) :
    a ∈ l.set i new := by
  obtain ⟨j, isAt⟩ := List.getElem?_of_mem member
  have different : i ≠ j := by
    intro same
    subst same
    rw [found] at isAt
    exact other (Option.some.inj isAt).symm
  apply List.mem_of_getElem? (i := j)
  rw [List.getElem?_set_ne different, isAt]

theorem mem_eraseIdx_of_ne (found : l[i]? = some old) (member : a ∈ l) (other : a ≠ old) : a ∈ l.eraseIdx i := by
  obtain ⟨j, isAt⟩ := List.getElem?_of_mem member
  refine List.mem_eraseIdx_iff_getElem?.mpr ⟨j, ?_, isAt⟩
  rintro rfl
  rw [found] at isAt
  exact other (Option.some.inj isAt).symm

theorem map_set_self {β : Type} (found : l[i]? = some old) (new : α) (f : α → β) (same : f new = f old) :
    (l.set i new).map f = l.map f := by
  obtain ⟨bound, rfl⟩ := List.getElem?_eq_some_iff.mp found
  rw [List.map_set, same, ← List.getElem_map f (h := by simpa using bound), List.set_getElem_self]

theorem sum_set (found : l[i]? = some old) (new : α) (weight : α → Nat) (same : weight new = weight old) :
    ((l.set i new).map weight).sum = (l.map weight).sum := by
  rw [map_set_self found new weight same]

theorem countP_set (found : l[i]? = some old) (new : α) (p : α → Bool) :
    (l.set i new).countP p + (if p old then 1 else 0) = l.countP p + (if p new then 1 else 0) := by
  induction l generalizing i with
  | nil => simp at found
  | cons first rest ih =>
    cases i with
    | zero =>
      simp only [List.getElem?_cons_zero, Option.some.injEq] at found
      subst found
      simp only [List.set_cons_zero, List.countP_cons]
      omega
    | succ i =>
      have tail := ih (i := i) (by simpa using found)
      simp only [List.set_cons_succ, List.countP_cons]
      omega

end Slots
