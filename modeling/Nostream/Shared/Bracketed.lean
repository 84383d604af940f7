import Mathlib.Tactic

set_option autoImplicit false

namespace Bracketed

inductive Nested (α : Type) where
  | atom (value : α)
  | list (items : List (Nested α))

theorem Nested.induction {α : Type} {P : Nested α → Prop} (atom : ∀ value, P (.atom value))
    (list : ∀ items, (∀ item ∈ items, P item) → P (.list items)) (nested : Nested α) : P nested :=
  @Nested.rec α P (fun items => ∀ item ∈ items, P item) atom list (fun _ member => absurd member List.not_mem_nil)
    (fun _ _ first others => List.forall_mem_cons.mpr ⟨first, others⟩) nested

/-- How atoms and lists are written: no atom is empty or has one of the marks. -/
structure Writing (α υ : Type) where
  opening : υ
  closing : υ
  comma : υ
  write : α → List υ
  injective : Function.Injective write
  distinct : opening ≠ closing ∧ opening ≠ comma ∧ closing ≠ comma
  nonempty : ∀ value, write value ≠ []
  unmarked : ∀ value, ∀ u ∈ write value, u ≠ opening ∧ u ≠ closing ∧ u ≠ comma

namespace Writing

variable {α υ : Type} (w : Writing α υ)

mutual

def text : Nested α → List υ
  | .atom value => w.write value
  | .list items => w.opening :: (((texts items).intersperse [w.comma]).flatten ++ [w.closing])

def texts : List (Nested α) → List (List υ)
  | [] => []
  | first :: rest => text first :: texts rest

end

def following : List (Nested α) → List υ
  | [] => [w.closing]
  | first :: rest => w.comma :: (w.text first ++ following rest)

def body : List (Nested α) → List υ
  | [] => [w.closing]
  | first :: rest => w.text first ++ w.following rest

theorem body_eq (items : List (Nested α)) :
    w.body items = ((w.texts items).intersperse [w.comma]).flatten ++ [w.closing] := by
  induction items with
  | nil => rfl
  | cons first rest ih =>
    cases rest with
    | nil => simp [body, following, texts]
    | cons second others =>
      have next : w.body (first :: second :: others) = w.text first ++ w.comma :: w.body (second :: others) := rfl
      rw [next, ih]
      simp [texts]

theorem text_list (items : List (Nested α)) : w.text (.list items) = w.opening :: w.body items := by
  rw [text, body_eq]

def Ends (rest : List υ) : Prop := ∀ u tail, rest = u :: tail → u = w.closing ∨ u = w.comma

theorem following_ends (items : List (Nested α)) (rest : List υ) : w.Ends (w.following items ++ rest) := by
  cases items with
  | nil =>
    rintro u tail ⟨⟩
    exact .inl rfl
  | cons first others =>
    rintro u tail ⟨⟩
    exact .inr rfl

theorem write_cancel (a b : α) (r s : List υ) (endsR : w.Ends r) (endsS : w.Ends s)
    (same : w.write a ++ r = w.write b ++ s) : a = b ∧ r = s := by
  have overlap (value : α) (rest : List υ) (ends : w.Ends rest) (written others tail : List υ)
      (whole : w.write value = written ++ tail) (after : rest = tail ++ others) : tail = [] := by
    cases tail with
    | nil => rfl
    | cons u tail =>
      have unmarked := w.unmarked value u (by rw [whole]; simp)
      rcases ends u (tail ++ others) after with closing | comma
      · exact absurd closing unmarked.2.1
      · exact absurd comma unmarked.2.2
  rcases List.append_eq_append_iff.mp same with ⟨tail, whole, after⟩ | ⟨tail, whole, after⟩
  · cases overlap b r endsR (w.write a) s tail whole after
    rw [List.append_nil] at whole
    exact ⟨w.injective whole.symm, after⟩
  · cases overlap a s endsS (w.write b) r tail whole after
    rw [List.append_nil] at whole
    exact ⟨w.injective whole, after.symm⟩

theorem text_head (nested : Nested α) : ∃ u rest, w.text nested = u :: rest ∧ u ≠ w.closing ∧ u ≠ w.comma ∧
    (u = w.opening ↔ ∃ items, nested = .list items) := by
  cases nested with
  | atom value =>
    obtain ⟨u, rest, written⟩ := List.exists_cons_of_ne_nil (w.nonempty value)
    have unmarked := w.unmarked value u (by rw [written]; exact List.mem_cons_self ..)
    exact ⟨u, rest, by rw [text, written], unmarked.2.1, unmarked.2.2, by simp [unmarked.1]⟩
  | list items =>
    exact ⟨w.opening, w.body items, w.text_list items, w.distinct.1, w.distinct.2.1, by simp⟩

def Cancels (nested : Nested α) : Prop :=
  ∀ other r s, w.Ends r → w.Ends s → w.text nested ++ r = w.text other ++ s → nested = other ∧ r = s

theorem following_cancel (items : List (Nested α)) (each : ∀ item ∈ items, w.Cancels item)
    (others : List (Nested α)) (r s : List υ) (same : w.following items ++ r = w.following others ++ s) :
    items = others ∧ r = s := by
  induction items generalizing others with
  | nil =>
    cases others with
    | nil => exact ⟨rfl, (List.cons.inj same).2⟩
    | cons other rest => exact absurd (List.cons.inj same).1 w.distinct.2.2
  | cons item rest ih =>
    cases others with
    | nil => exact absurd (List.cons.inj same).1.symm w.distinct.2.2
    | cons other more =>
      have tails : w.text item ++ w.following rest ++ r = w.text other ++ w.following more ++ s :=
        (List.cons.inj same).2
      rw [List.append_assoc, List.append_assoc] at tails
      obtain ⟨rfl, following⟩ := each item (List.mem_cons_self ..) other _ _ (w.following_ends rest r)
        (w.following_ends more s) tails
      obtain ⟨rfl, rests⟩ := ih (fun entry member => each entry (List.mem_cons_of_mem item member)) more following
      exact ⟨rfl, rests⟩

theorem body_cancel (items : List (Nested α)) (each : ∀ item ∈ items, w.Cancels item) (others : List (Nested α))
    (r s : List υ) (same : w.body items ++ r = w.body others ++ s) : items = others ∧ r = s := by
  cases items with
  | nil =>
    cases others with
    | nil => exact ⟨rfl, (List.cons.inj same).2⟩
    | cons other rest =>
      obtain ⟨u, tail, written, notClosing, -⟩ := w.text_head other
      rw [body, body, written] at same
      exact absurd (List.cons.inj same).1.symm notClosing
  | cons item rest =>
    cases others with
    | nil =>
      obtain ⟨u, tail, written, notClosing, -⟩ := w.text_head item
      rw [body, body, written] at same
      exact absurd (List.cons.inj same).1 notClosing
    | cons other more =>
      rw [body, body, List.append_assoc, List.append_assoc] at same
      obtain ⟨rfl, following⟩ := each item (List.mem_cons_self ..) other _ _ (w.following_ends rest r)
        (w.following_ends more s) same
      obtain ⟨rfl, rests⟩ := w.following_cancel rest
        (fun entry member => each entry (List.mem_cons_of_mem item member)) more r s following
      exact ⟨rfl, rests⟩

theorem text_cancel (nested : Nested α) : w.Cancels nested := by
  induction nested using Nested.induction with
  | atom value =>
    intro other r s endsR endsS same
    cases other with
    | atom otherValue =>
      obtain ⟨rfl, rests⟩ := w.write_cancel value otherValue r s endsR endsS same
      exact ⟨rfl, rests⟩
    | list items =>
      obtain ⟨u, tail, written, -, -, isList⟩ := w.text_head (.atom value)
      rw [written, text_list] at same
      obtain ⟨items, list⟩ := isList.mp (List.cons.inj same).1
      cases list
  | list items each =>
    intro other r s endsR endsS same
    cases other with
    | atom value =>
      obtain ⟨u, tail, written, -, -, isList⟩ := w.text_head (.atom value)
      rw [written, text_list] at same
      obtain ⟨items, list⟩ := isList.mp (List.cons.inj same).1.symm
      cases list
    | list others =>
      rw [text_list, text_list] at same
      obtain ⟨rfl, rests⟩ := w.body_cancel items each others r s (List.cons.inj same).2
      exact ⟨rfl, rests⟩

theorem text_injective : Function.Injective w.text := by
  intro a b same
  have ends : w.Ends [] := fun _ _ empty => by cases empty
  exact (w.text_cancel a b [] [] ends ends (by rw [same])).1

section Units

variable {P : υ → Prop}

theorem following_units (marks : P w.opening ∧ P w.closing ∧ P w.comma) (items : List (Nested α))
    (each : ∀ item ∈ items, ∀ u ∈ w.text item, P u) : ∀ u ∈ w.following items, P u := by
  induction items with
  | nil => simpa [following] using marks.2.1
  | cons item rest ih =>
    have others := ih fun other member => each other (List.mem_cons_of_mem item member)
    intro u member
    rw [following, List.mem_cons, List.mem_append] at member
    rcases member with rfl | first | later
    · exact marks.2.2
    · exact each item (List.mem_cons_self ..) u first
    · exact others u later

theorem text_units (marks : P w.opening ∧ P w.closing ∧ P w.comma) (atoms : ∀ value, ∀ u ∈ w.write value, P u)
    (nested : Nested α) : ∀ u ∈ w.text nested, P u := by
  induction nested using Nested.induction with
  | atom value => exact atoms value
  | list items each =>
    intro u member
    rw [text_list, List.mem_cons] at member
    rcases member with rfl | inside
    · exact marks.1
    · cases items with
      | nil =>
        rw [body, List.mem_singleton] at inside
        exact inside ▸ marks.2.1
      | cons first rest =>
        rw [body, List.mem_append] at inside
        rcases inside with start | later
        · exact each first (List.mem_cons_self ..) u start
        · exact w.following_units marks rest (fun item member => each item (List.mem_cons_of_mem first member)) u later

end Units

end Writing

theorem cut_last {υ : Type} {mark : υ} {a b s t : List υ} (unmarkedS : mark ∉ s) (unmarkedT : mark ∉ t)
    (same : a ++ mark :: s = b ++ mark :: t) : a = b ∧ s = t := by
  have overlap (s t tail : List υ) (unmarked : mark ∉ s) (after : mark :: s = tail ++ mark :: t) : tail = [] := by
    cases tail with
    | nil => rfl
    | cons u tail => exact absurd ((List.cons.inj after).2 ▸ List.mem_append_right tail (List.mem_cons_self ..)) unmarked
  rcases List.append_eq_append_iff.mp same with ⟨tail, whole, after⟩ | ⟨tail, whole, after⟩
  · cases overlap s t tail unmarkedS after
    exact ⟨by rw [whole, List.append_nil], (List.cons.inj after).2⟩
  · cases overlap t s tail unmarkedT after
    exact ⟨by rw [whole, List.append_nil], (List.cons.inj after).2.symm⟩

end Bracketed
