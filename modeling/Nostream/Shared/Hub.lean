import Mathlib.Tactic

set_option autoImplicit false

/-- The messages of nodes that talk through a hub, which passes each one on to all nodes but its sender. -/
structure Hub (ν μ : Type) where
  incoming : List (ν × μ) := []
  outgoing : List (ν × μ) := []

namespace Hub

variable {ν μ : Type} [DecidableEq ν]

def post (hub : Hub ν μ) (sender : ν) (message : μ) : Hub ν μ :=
  { hub with incoming := hub.incoming ++ [(sender, message)] }

def passOn (nodes : List ν) (hub : Hub ν μ) (k : Nat) : Option (Hub ν μ) :=
  hub.incoming[k]?.map fun (sender, message) =>
    { incoming := hub.incoming.eraseIdx k
      outgoing := hub.outgoing ++ (nodes.filter fun node => node ≠ sender).map fun node => (node, message) }

def take (hub : Hub ν μ) (k : Nat) : Option ((ν × μ) × Hub ν μ) :=
  hub.outgoing[k]?.map fun entry => (entry, { hub with outgoing := hub.outgoing.eraseIdx k })

def owed (hub : Hub ν μ) (node : ν) (p : μ → Bool) : Nat :=
  hub.incoming.countP (fun entry => decide (entry.1 ≠ node) && p entry.2) +
    hub.outgoing.countP fun entry => decide (entry.1 = node) && p entry.2

theorem countP_eraseIdx {α : Type} (l : List α) (k : Nat) (a : α) (found : l[k]? = some a) (p : α → Bool) :
    l.countP p = (l.eraseIdx k).countP p + if p a then 1 else 0 := by
  induction l generalizing k with
  | nil => simp at found
  | cons first rest ih =>
    cases k with
    | zero =>
      simp only [List.getElem?_cons_zero, Option.some.injEq] at found
      subst found
      rw [List.eraseIdx_cons_zero, List.countP_cons]
    | succ k =>
      have tail := ih k (by simpa using found)
      rw [List.eraseIdx_cons_succ, List.countP_cons, List.countP_cons]
      omega

theorem countP_copies (nodes : List ν) (distinct : nodes.Nodup) (node sender : ν) (member : node ∈ nodes)
    (message : μ) (p : μ → Bool) :
    (((nodes.filter fun other => other ≠ sender).map fun other => (other, message)).countP
        fun entry => decide (entry.1 = node) && p entry.2) =
      if decide (sender ≠ node) && p message then 1 else 0 := by
  rw [List.countP_map]
  cases wanted : p message with
  | false => simp [Function.comp_def, wanted]
  | true =>
    have same : ((fun entry : ν × μ => decide (entry.1 = node) && p entry.2) ∘ fun other => (other, message)) =
        (· == node) := by
      funext other
      simp [wanted, beq_eq_decide]
    rw [same, ← List.count_eq_countP, Bool.and_true]
    by_cases own : sender = node
    · subst own
      simp [List.count_eq_zero]
    · have kept : node ∈ nodes.filter fun other => other ≠ sender :=
        List.mem_filter.mpr ⟨member, decide_eq_true (Ne.symm own)⟩
      rw [List.count_eq_one_of_mem (distinct.filter _) kept]
      simp [own]

theorem owed_post (hub : Hub ν μ) (sender node : ν) (message : μ) (p : μ → Bool) :
    (hub.post sender message).owed node p =
      hub.owed node p + if decide (sender ≠ node) && p message then 1 else 0 := by
  simp only [owed, post, List.countP_append, List.countP_singleton]
  omega

theorem owed_passOn (nodes : List ν) (distinct : nodes.Nodup) (hub after : Hub ν μ) (k : Nat) (node : ν)
    (member : node ∈ nodes) (passed : hub.passOn nodes k = some after) (p : μ → Bool) :
    after.owed node p = hub.owed node p := by
  obtain ⟨⟨sender, message⟩, found, rfl⟩ := Option.map_eq_some_iff.mp passed
  have erased := countP_eraseIdx hub.incoming k (sender, message) found
    fun entry => decide (entry.1 ≠ node) && p entry.2
  dsimp only at erased
  have copies := countP_copies nodes distinct node sender member message p
  simp only [owed, List.countP_append, copies]
  rw [erased]
  omega

theorem owed_take (hub after : Hub ν μ) (k : Nat) (recipient : ν) (message : μ) (node : ν)
    (taken : hub.take k = some ((recipient, message), after)) (p : μ → Bool) :
    hub.owed node p = after.owed node p + if decide (recipient = node) && p message then 1 else 0 := by
  obtain ⟨entry, found, same⟩ := Option.map_eq_some_iff.mp taken
  cases same
  have erased := countP_eraseIdx hub.outgoing k (recipient, message) found
    fun entry => decide (entry.1 = node) && p entry.2
  dsimp only at erased
  simp only [owed]
  omega

def All (hub : Hub ν μ) (P : μ → Prop) : Prop :=
  (∀ entry ∈ hub.incoming, P entry.2) ∧ ∀ entry ∈ hub.outgoing, P entry.2

omit [DecidableEq ν] in
theorem All.imp {P Q : μ → Prop} {hub : Hub ν μ} (all : hub.All P) (stronger : ∀ message, P message → Q message) :
    hub.All Q :=
  ⟨fun entry member => stronger _ (all.1 entry member), fun entry member => stronger _ (all.2 entry member)⟩

omit [DecidableEq ν] in
theorem all_post {P : μ → Prop} (hub : Hub ν μ) (sender : ν) (message : μ) (all : hub.All P)
    (new : P message) : (hub.post sender message).All P := by
  refine ⟨fun entry member => ?_, all.2⟩
  rcases List.mem_append.mp member with old | isNew
  · exact all.1 entry old
  · exact List.mem_singleton.mp isNew ▸ new

theorem all_passOn {P : μ → Prop} (nodes : List ν) (hub after : Hub ν μ) (k : Nat) (all : hub.All P)
    (passed : hub.passOn nodes k = some after) : after.All P := by
  obtain ⟨⟨sender, message⟩, found, rfl⟩ := Option.map_eq_some_iff.mp passed
  refine ⟨fun entry member => all.1 entry (List.mem_of_mem_eraseIdx member), fun entry member => ?_⟩
  rcases List.mem_append.mp member with old | copied
  · exact all.2 entry old
  · obtain ⟨node, _, rfl⟩ := List.mem_map.mp copied
    exact all.1 (sender, message) (List.mem_of_getElem? found)

omit [DecidableEq ν] in
theorem all_take {P : μ → Prop} (hub after : Hub ν μ) (k : Nat) (recipient : ν) (message : μ)
    (all : hub.All P) (taken : hub.take k = some ((recipient, message), after)) :
    P message ∧ after.All P := by
  obtain ⟨entry, found, same⟩ := Option.map_eq_some_iff.mp taken
  cases same
  exact ⟨all.2 _ (List.mem_of_getElem? found), all.1,
    fun entry member => all.2 entry (List.mem_of_mem_eraseIdx member)⟩

theorem owed_all (hub : Hub ν μ) (node : ν) (p : μ → Bool) (none : hub.All fun message => p message = false) :
    hub.owed node p = 0 := by
  rw [owed, Nat.add_eq_zero_iff, List.countP_eq_zero, List.countP_eq_zero]
  exact ⟨fun entry member => by simp [none.1 entry member], fun entry member => by simp [none.2 entry member]⟩

end Hub
