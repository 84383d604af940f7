import Mathlib.Tactic

set_option autoImplicit false

/-- A finite map that remembers the order in which its keys were first inserted. -/
structure InsertionMap (κ ν : Type) where
  entries : List (κ × ν)
  nodup : (entries.map Prod.fst).Nodup

namespace InsertionMap

variable {κ ν : Type} [DecidableEq κ]

instance [DecidableEq ν] : DecidableEq (InsertionMap κ ν) := fun a b =>
  decidable_of_iff (a.entries = b.entries) ⟨fun same => by cases a; cases b; cases same; rfl,
    congrArg entries⟩

def empty : InsertionMap κ ν := { entries := [], nodup := List.nodup_nil }

def size (m : InsertionMap κ ν) : Nat := m.entries.length

def get (m : InsertionMap κ ν) (key : κ) : Option ν :=
  (m.entries.find? fun entry => entry.1 == key).map Prod.snd

def delete (m : InsertionMap κ ν) (key : κ) : InsertionMap κ ν :=
  { entries := m.entries.filter fun entry => entry.1 != key
    nodup := m.nodup.sublist (List.filter_sublist.map Prod.fst) }

def overwrite (key : κ) (value : ν) (entry : κ × ν) : κ × ν :=
  if entry.1 = key then (key, value) else entry

theorem overwrite_key (key : κ) (value : ν) (entry : κ × ν) : (overwrite key value entry).1 = entry.1 := by
  unfold overwrite
  split
  next same => exact same.symm
  next => rfl

-- A key that is already there keeps its place.
def set (m : InsertionMap κ ν) (key : κ) (value : ν) : InsertionMap κ ν :=
  if present : key ∈ m.entries.map Prod.fst then
    { entries := m.entries.map (overwrite key value)
      nodup := by
        have same : Prod.fst ∘ overwrite key value = Prod.fst := funext (overwrite_key key value)
        rw [List.map_map, same]
        exact m.nodup }
  else
    { entries := m.entries ++ [(key, value)]
      nodup := by
        rw [List.map_append]
        apply List.Nodup.append m.nodup (List.nodup_singleton key)
        rw [List.disjoint_comm]
        exact List.singleton_disjoint.mpr present }

theorem get_eq_some_iff (m : InsertionMap κ ν) (key : κ) (value : ν) :
    m.get key = some value ↔ (key, value) ∈ m.entries := by
  unfold get
  constructor
  · intro found
    obtain ⟨⟨other, stored⟩, isFirst, rfl⟩ := Option.map_eq_some_iff.mp found
    have same : other = key := by simpa using List.find?_some isFirst
    exact same ▸ List.mem_of_find?_eq_some isFirst
  · intro member
    have some : (m.entries.find? fun entry => entry.1 == key).isSome = true :=
      List.find?_isSome.mpr ⟨(key, value), member, beq_self_eq_true key⟩
    obtain ⟨entry, isFirst⟩ := Option.isSome_iff_exists.mp some
    have same : entry.1 = key := by simpa using List.find?_some isFirst
    have unique := List.inj_on_of_nodup_map m.nodup (List.mem_of_find?_eq_some isFirst) member same
    rw [isFirst, unique]
    rfl

theorem get_eq_none_iff (m : InsertionMap κ ν) (key : κ) :
    m.get key = none ↔ key ∉ m.entries.map Prod.fst := by
  rw [get, Option.map_eq_none_iff, List.find?_eq_none]
  constructor
  · intro none present
    obtain ⟨entry, member, same⟩ := List.mem_map.mp present
    exact none entry member (beq_iff_eq.mpr same)
  · intro absent entry member same
    exact absent (List.mem_map.mpr ⟨entry, member, beq_iff_eq.mp same⟩)

@[simp]
theorem get_empty (key : κ) : (empty : InsertionMap κ ν).get key = none := rfl

theorem mem_entries_set (m : InsertionMap κ ν) (key : κ) (value : ν) (entry : κ × ν) :
    entry ∈ (m.set key value).entries ↔ entry = (key, value) ∨ (entry ∈ m.entries ∧ entry.1 ≠ key) := by
  unfold set
  split
  next present =>
    simp only [List.mem_map]
    constructor
    · rintro ⟨old, member, rfl⟩
      unfold overwrite
      split
      next same => exact .inl rfl
      next other => exact .inr ⟨member, other⟩
    · rintro (rfl | ⟨member, other⟩)
      · obtain ⟨old, member, same⟩ := List.mem_map.mp present
        exact ⟨old, member, if_pos same⟩
      · exact ⟨entry, member, if_neg other⟩
  next absent =>
    rw [List.mem_append, List.mem_singleton, or_comm]
    refine or_congr_right ⟨fun member => ⟨member, fun same => absent ?_⟩, And.left⟩
    exact same ▸ List.mem_map_of_mem member

theorem mem_entries_delete (m : InsertionMap κ ν) (key : κ) (entry : κ × ν) :
    entry ∈ (m.delete key).entries ↔ entry ∈ m.entries ∧ entry.1 ≠ key := by
  simp [delete]

theorem get_set (m : InsertionMap κ ν) (key other : κ) (value : ν) :
    (m.set key value).get other = if other = key then some value else m.get other := by
  apply Option.ext
  intro found
  rw [get_eq_some_iff, mem_entries_set]
  split
  next same =>
    subst same
    simp [eq_comm]
  next different => simp [get_eq_some_iff, different]

theorem set_eq_self_iff (m : InsertionMap κ ν) (key : κ) (value : ν) : m.set key value = m ↔ m.get key = some value := by
  constructor
  · intro same
    rw [← same, get_set, if_pos rfl]
  · intro stored
    have member := (get_eq_some_iff m key value).mp stored
    have kept (entry : κ × ν) (isEntry : entry ∈ m.entries) : overwrite key value entry = entry := by
      unfold overwrite
      split
      next same => exact List.inj_on_of_nodup_map m.nodup member isEntry same.symm
      next => rfl
    rw [set, dif_pos (List.mem_map_of_mem member)]
    simp only [List.map_congr_left kept, List.map_id']

theorem get_delete (m : InsertionMap κ ν) (key other : κ) :
    (m.delete key).get other = if other = key then none else m.get other := by
  apply Option.ext
  intro found
  rw [get_eq_some_iff, mem_entries_delete]
  split
  next same => simp [same]
  next different => simp [get_eq_some_iff, different]

theorem size_set (m : InsertionMap κ ν) (key : κ) (value : ν) :
    (m.set key value).size = if (m.get key).isSome then m.size else m.size + 1 := by
  by_cases present : key ∈ m.entries.map Prod.fst
  · have some : (m.get key).isSome = true := by
      rw [Option.isSome_iff_ne_none, Ne, get_eq_none_iff]
      exact not_not.mpr present
    rw [if_pos some, set, dif_pos present]
    exact List.length_map _
  · rw [(get_eq_none_iff m key).mpr present, set, dif_neg present]
    simp [size]

theorem size_delete_le (m : InsertionMap κ ν) (key : κ) : (m.delete key).size ≤ m.size :=
  List.length_filter_le ..

end InsertionMap
