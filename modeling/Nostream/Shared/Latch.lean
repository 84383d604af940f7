import Mathlib.Tactic

set_option autoImplicit false

-- A flag that some actions set and others clear.
namespace Latch

variable {α : Type} (sets clears : α → Bool)

def next (flag : Bool) (a : α) : Bool := if sets a then true else if clears a then false else flag

theorem foldl_down_iff (l : List α) (flag : Bool) :
    l.foldl (next sets clears) flag = false ↔
      (flag = false ∧ ∀ a ∈ l, sets a = false) ∨
        ∃ before a after, l = before ++ a :: after ∧ sets a = false ∧ clears a = true ∧
          ∀ b ∈ after, sets b = false := by
  induction l using List.reverseRecOn with
  | nil => simp
  | append_singleton l a ih =>
    rw [List.foldl_concat, next]
    cases isSet : sets a with
    | true =>
      rw [if_pos rfl]
      simp only [Bool.true_eq_false, false_iff, not_or, not_and, not_exists]
      refine ⟨fun _ unset => ?_, fun before cleared after split unset _ later => ?_⟩
      · rw [unset a (by simp)] at isSet
        cases isSet
      · have last : a ∈ cleared :: after := by
          have ends := congrArg List.getLast? split
          rw [List.getLast?_concat, List.getLast?_append_cons, List.getLast?_eq_some_getLast (by simp)] at ends
          rw [Option.some.inj ends]
          exact List.getLast_mem _
        rcases List.mem_cons.mp last with rfl | inAfter
        · rw [unset] at isSet
          cases isSet
        · rw [later a inAfter] at isSet
          cases isSet
    | false =>
      rw [if_neg (by simp)]
      cases isCleared : clears a with
      | true =>
        rw [if_pos rfl]
        exact ⟨fun _ => .inr ⟨l, a, [], rfl, isSet, isCleared, by simp⟩, fun _ => rfl⟩
      | false =>
        rw [if_neg (by simp), ih]
        constructor
        · rintro (⟨down, unset⟩ | ⟨before, cleared, after, rfl, unset, isClear, later⟩)
          · exact .inl ⟨down, by simpa [or_imp, forall_and, isSet] using unset⟩
          · exact .inr ⟨before, cleared, after ++ [a], by simp, unset, isClear,
              by simpa [or_imp, forall_and, isSet] using later⟩
        · rintro (⟨down, unset⟩ | ⟨before, cleared, after, split, unset, isClear, later⟩)
          · exact .inl ⟨down, fun b member => unset b (List.mem_append_left _ member)⟩
          · refine .inr ?_
            rcases List.eq_nil_or_concat after with rfl | ⟨front, last, rfl⟩
            · have same := List.append_inj_right' split rfl
              rw [List.cons.injEq] at same
              rw [same.1, isClear] at isCleared
              cases isCleared
            · rw [List.concat_eq_append] at split later
              rw [← List.cons_append, ← List.append_assoc] at split
              exact ⟨before, cleared, front, List.append_inj_left' split rfl, unset, isClear,
                fun b member => later b (List.mem_append_left _ member)⟩

end Latch
