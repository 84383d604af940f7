import Mathlib.Tactic
import Mathlib.Data.Prod.Lex

set_option autoImplicit false

-- The first elements of a list in the order of a key.
namespace Ranking

variable {α κ : Type} [LinearOrder κ] (key : α → κ)

def first (n : Nat) (l : List α) : List α := (l.mergeSort fun a b => decide (key a ≤ key b)).take n

def rank (l : List α) (a : α) : Nat := l.countP fun b => decide (key b < key a)

def Separates (l : List α) : Prop := ∀ a ∈ l, ∀ b ∈ l, key a = key b → a = b

-- What it takes for the first n elements to be exactly those that a predicate picks.
def Leads (n : Nat) (l : List α) (picked : α → Bool) : Prop :=
  l.countP picked ≤ n ∧ ∀ other ∈ l, picked other = false →
    l.countP picked = n ∧ ∀ a ∈ l, picked a = true → key a < key other

variable {key}

theorem rank_le_rank (l : List α) {a b : α} (le : key a ≤ key b) : rank key l a ≤ rank key l b := by
  refine List.countP_mono_left fun c _ ahead => ?_
  simp only [decide_eq_true_eq] at ahead ⊢
  exact ahead.trans_le le

theorem rank_lt (l : List α) (a : α) (member : a ∈ l) (picked : α → Bool) (pick : picked a = true)
    (inside : ∀ b ∈ l, key b < key a → picked b = true) : rank key l a < l.countP picked := by
  obtain ⟨front, back, rfl⟩ := List.append_of_mem member
  have ahead : rank key front a ≤ front.countP picked :=
    List.countP_mono_left fun b inFront less => inside b (by simp [inFront]) (by simpa using less)
  have behind : rank key back a ≤ back.countP picked :=
    List.countP_mono_left fun b inBack less => inside b (by simp [inBack]) (by simpa using less)
  simp only [rank, List.countP_append, List.countP_cons, pick, lt_irrefl, decide_false] at ahead behind ⊢
  simp
  omega

theorem mem_take_sorted (s : List α) (separates : Separates key s)
    (sorted : s.Pairwise fun a b => key a ≤ key b) (n : Nat) (r : α) :
    r ∈ s.take n ↔ r ∈ s ∧ rank key s r < n := by
  induction s generalizing n with
  | nil => simp
  | cons a rest ih =>
    obtain ⟨least, tail⟩ := List.pairwise_cons.mp sorted
    have apart : Separates key rest := fun b inRest c inRest' =>
      separates b (List.mem_cons_of_mem a inRest) c (List.mem_cons_of_mem a inRest')
    cases n with
    | zero => simp
    | succ n =>
      rw [List.take_succ_cons, List.mem_cons, List.mem_cons, ih apart tail]
      by_cases same : r = a
      · subst same
        have zero : rank key (r :: rest) r = 0 := by
          refine List.countP_eq_zero.mpr fun b member => ?_
          rcases List.mem_cons.mp member with rfl | inRest
          · simp
          · simpa using least b inRest
        simp [zero]
      · simp only [same, false_or]
        refine and_congr_right fun member => ?_
        have ahead : key a < key r := lt_of_le_of_ne (least r member) fun tie =>
          same (separates a (by simp) r (List.mem_cons_of_mem a member) tie).symm
        simp [rank, ahead]

theorem sorted_mergeSort (l : List α) :
    (l.mergeSort fun a b => decide (key a ≤ key b)).Pairwise fun a b => key a ≤ key b := by
  have sorted : (l.mergeSort fun a b => decide (key a ≤ key b)).Pairwise
      fun a b => decide (key a ≤ key b) = true := List.pairwise_mergeSort
    (fun a b c ab bc => by simpa using (by simpa using ab : key a ≤ key b).trans (by simpa using bc))
    (fun a b => by simpa using le_total (key a) (key b)) l
  simpa using sorted

theorem mem_first (n : Nat) (l : List α) (separates : Separates key l) (r : α) :
    r ∈ first key n l ↔ r ∈ l ∧ rank key l r < n := by
  have perm := List.mergeSort_perm l fun a b => decide (key a ≤ key b)
  have apart : Separates key (l.mergeSort fun a b => decide (key a ≤ key b)) := fun a inA b inB =>
    separates a (perm.mem_iff.mp inA) b (perm.mem_iff.mp inB)
  rw [first, mem_take_sorted _ apart (sorted_mergeSort l), perm.mem_iff, rank, rank, perm.countP_eq]

theorem count_take_sorted [DecidableEq α] (s : List α) (separates : Separates key s)
    (sorted : s.Pairwise fun a b => key a ≤ key b) (n : Nat) (a : α) :
    (s.take n).count a = min (s.count a) (n - rank key s a) := by
  induction s generalizing n with
  | nil => simp
  | cons b rest ih =>
    obtain ⟨least, tail⟩ := List.pairwise_cons.mp sorted
    have apart : Separates key rest := fun c inRest d inRest' =>
      separates c (List.mem_cons_of_mem b inRest) d (List.mem_cons_of_mem b inRest')
    cases n with
    | zero => simp
    | succ n =>
      rw [List.take_succ_cons, List.count_cons, List.count_cons, ih apart tail]
      by_cases same : b = a
      · subst same
        have zero : rank key rest b = 0 :=
          List.countP_eq_zero.mpr fun c inRest => by simpa using least c inRest
        have alsoZero : rank key (b :: rest) b = 0 := by simpa [rank, List.countP_cons] using zero
        simp only [beq_self_eq_true, if_true, zero, alsoZero]
        omega
      · by_cases member : a ∈ rest
        · have ahead : key b < key a := lt_of_le_of_ne (least a member) fun tie =>
            same (separates b (by simp) a (List.mem_cons_of_mem b member) tie)
          have more : rank key (b :: rest) a = rank key rest a + 1 := by simp [rank, ahead]
          simp [same, more]
        · simp [same, List.count_eq_zero_of_not_mem member]

theorem count_first [DecidableEq α] (n : Nat) (l : List α) (separates : Separates key l) (a : α) :
    (first key n l).count a = min (l.count a) (n - rank key l a) := by
  have perm := List.mergeSort_perm l fun a b => decide (key a ≤ key b)
  have apart : Separates key (l.mergeSort fun a b => decide (key a ≤ key b)) := fun a inA b inB =>
    separates a (perm.mem_iff.mp inA) b (perm.mem_iff.mp inB)
  rw [first, count_take_sorted _ apart (sorted_mergeSort l), perm.count_eq, rank, rank, perm.countP_eq]

theorem length_first (n : Nat) (l : List α) : (first key n l).length = min n l.length := by
  simp [first]

theorem subperm_first (n : Nat) (l : List α) : (first key n l).Subperm l :=
  (List.take_sublist ..).subperm.trans (List.mergeSort_perm l _).subperm

theorem countP_first_le (n : Nat) (l : List α) (picked : α → Bool) :
    (first key n l).countP picked ≤ min n (l.countP picked) := by
  have own : (first key n l).countP picked ≤ (first key n l).length := List.countP_le_length
  have all : (first key n l).countP picked ≤ l.countP picked := (subperm_first n l).countP_le picked
  rw [length_first] at own
  omega

theorem nodup_first (n : Nat) (l : List α) (distinct : l.Nodup) : (first key n l).Nodup :=
  ((List.mergeSort_perm l _).nodup_iff.mpr distinct).sublist (List.take_sublist ..)

theorem leads_of_first (n : Nat) (l : List α) (distinct : l.Nodup) (separates : Separates key l)
    (picked : α → Bool) (same : ∀ a ∈ l, a ∈ first key n l ↔ picked a = true) :
    Leads key n l picked := by
  have isPicked (a : α) : a ∈ first key n l ↔ a ∈ l.filter picked := by
    rw [List.mem_filter]
    constructor
    · intro member
      have inList := ((mem_first n l separates a).mp member).1
      exact ⟨inList, (same a inList).mp member⟩
    · rintro ⟨inList, pick⟩
      exact (same a inList).mpr pick
  have perm : (first key n l).Perm (l.filter picked) :=
    (List.perm_ext_iff_of_nodup (nodup_first n l distinct) (distinct.filter _)).mpr isPicked
  have size : min n l.length = l.countP picked := by
    rw [List.countP_eq_length_filter, ← perm.length_eq, length_first]
  refine ⟨by omega, fun other inList unpicked => ?_⟩
  have late : n ≤ rank key l other := by
    by_contra early
    have member := (mem_first n l separates other).mpr ⟨inList, by omega⟩
    rw [(same other inList).mp member] at unpicked
    cases unpicked
  refine ⟨?_, fun a inList' pick => ?_⟩
  · have short : rank key l other ≤ l.length := List.countP_le_length
    omega
  · have early := ((mem_first n l separates a).mp ((same a inList').mpr pick)).2
    by_contra notLess
    have monotone := rank_le_rank l (not_lt.mp notLess)
    omega

theorem first_of_leads (n : Nat) (l : List α) (separates : Separates key l) (picked : α → Bool)
    (leads : Leads key n l picked) (a : α) (inList : a ∈ l) :
    a ∈ first key n l ↔ picked a = true := by
  obtain ⟨few, behind⟩ := leads
  rw [mem_first n l separates, and_iff_right inList]
  constructor
  · intro early
    by_contra unpicked
    obtain ⟨full, ahead⟩ := behind a inList (by simpa using unpicked)
    have many : l.countP picked ≤ rank key l a :=
      List.countP_mono_left fun b member pick => by simpa using ahead b member pick
    omega
  · intro pick
    refine lt_of_lt_of_le (rank_lt l a inList picked pick fun b member less => ?_) few
    by_contra unpicked
    exact less.asymm ((behind b member (by simpa using unpicked)).2 a inList pick)

theorem first_eq_iff (n : Nat) (l : List α) (distinct : l.Nodup) (separates : Separates key l)
    (picked : α → Bool) :
    (∀ a ∈ l, a ∈ first key n l ↔ picked a = true) ↔ Leads key n l picked :=
  ⟨leads_of_first n l distinct separates picked, first_of_leads n l separates picked⟩

theorem countP_first_iff (n : Nat) (l : List α) (distinct : l.Nodup) (separates : Separates key l)
    (picked : α → Bool) :
    (first key n l).countP picked = min n (l.countP picked) ↔
      (∀ a ∈ l, picked a = false → n ≤ rank key l a) ∨ ∀ a ∈ l, picked a = true → rank key l a < n := by
  have size : (first key n l).length = min n l.length := length_first n l
  have bound : (first key n l).countP picked ≤ min n (l.countP picked) := countP_first_le n l picked
  have total : l.countP picked ≤ l.length := List.countP_le_length
  constructor
  · intro most
    by_cases many : n < l.countP picked
    · have full : (first key n l).countP picked = (first key n l).length := by omega
      rw [List.countP_eq_length] at full
      refine .inl fun a inList unpicked => ?_
      by_contra early
      have pick := full a ((mem_first n l separates a).mpr ⟨inList, by omega⟩)
      rw [pick] at unpicked
      cases unpicked
    · have subperm : ((first key n l).filter picked).Subperm (l.filter picked) :=
        (subperm_first n l).filter picked
      have same := subperm.perm_of_length_le (by
        rw [← List.countP_eq_length_filter, ← List.countP_eq_length_filter]
        omega)
      refine .inr fun a inList pick => ?_
      have member := same.mem_iff.mpr (List.mem_filter.mpr ⟨inList, pick⟩)
      exact ((mem_first n l separates a).mp (List.mem_filter.mp member).1).2
  · rintro (late | early)
    · have full : (first key n l).countP picked = (first key n l).length := by
        rw [List.countP_eq_length]
        intro a member
        obtain ⟨inList, before⟩ := (mem_first n l separates a).mp member
        by_contra unpicked
        have after := late a inList (by simpa using unpicked)
        omega
      omega
    · have subperm : (l.filter picked).Subperm ((first key n l).filter picked) := by
        refine (distinct.filter picked).subperm fun a member => ?_
        obtain ⟨inList, pick⟩ := List.mem_filter.mp member
        exact List.mem_filter.mpr ⟨(mem_first n l separates a).mpr ⟨inList, early a inList pick⟩, pick⟩
      have least := subperm.length_le
      rw [← List.countP_eq_length_filter, ← List.countP_eq_length_filter] at least
      omega

theorem le_of_not_mem_first (n : Nat) (l : List α) (separates : Separates key l) {a b : α}
    (member : a ∈ first key n l) (inList : b ∈ l) (out : b ∉ first key n l) : key a ≤ key b := by
  have early := ((mem_first n l separates a).mp member).2
  have late : n ≤ rank key l b := by
    by_contra before
    exact out ((mem_first n l separates b).mpr ⟨inList, by omega⟩)
  by_contra notLe
  have monotone := rank_le_rank l (not_le.mp notLe).le
  omega

end Ranking
