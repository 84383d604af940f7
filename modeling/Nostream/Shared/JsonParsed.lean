import Nostream.Shared.JsonRoundTrip

set_option autoImplicit false

namespace Json

open Utf16

theorem setMember_keys (members : List (JsString × JsonValue)) (member : JsString × JsonValue)
    (distinct : (members.map Prod.fst).Nodup) : ((setMember members member).map Prod.fst).Nodup := by
  unfold setMember
  split
  · have keys : (members.map fun old => if old.1 = member.1 then member else old).map Prod.fst = members.map Prod.fst := by
      rw [List.map_map]
      refine List.map_congr_left fun old _ => ?_
      rw [Function.comp_apply]
      split
      next same => exact same.symm
      next => rfl
    rw [keys]
    exact distinct
  next fresh =>
    rw [List.contains_iff_mem] at fresh
    rw [List.map_append, List.map_singleton]
    exact List.nodup_append.mpr ⟨distinct, List.nodup_singleton _, by
      rintro key inMembers other isMember rfl
      rw [List.mem_singleton] at isMember
      exact fresh (isMember ▸ inMembers)⟩

theorem mem_setMember (members : List (JsString × JsonValue)) (member kept : JsString × JsonValue)
    (found : kept ∈ setMember members member) : kept ∈ members ∨ kept = member := by
  unfold setMember at found
  split at found
  · obtain ⟨old, inMembers, rfl⟩ := List.mem_map.mp found
    split
    · exact .inr rfl
    · exact .inl inMembers
  · exact (List.mem_append.mp found).imp id List.mem_singleton.mp

theorem objectOf_wellFormed (members : List (JsString × JsonValue))
    (each : ∀ member ∈ members, WellFormed member.2) : WellFormed (objectOf members) := by
  have keeps (kept : List (JsString × JsonValue)) (distinct : (kept.map Prod.fst).Nodup)
      (wellFormed : ∀ member ∈ kept, WellFormed member.2) :
      ((members.foldl setMember kept).map Prod.fst).Nodup ∧
        ∀ member ∈ members.foldl setMember kept, WellFormed member.2 := by
    induction members generalizing kept with
    | nil => exact ⟨distinct, wellFormed⟩
    | cons first rest ih =>
      refine ih (fun member inRest => each member (List.mem_cons_of_mem first inRest)) _
        (setMember_keys kept first distinct) ?_
      intro member found
      rcases mem_setMember kept first member found with old | rfl
      · exact wellFormed member old
      · exact each member (List.mem_cons_self ..)
  have final := keeps [] List.nodup_nil (by simp)
  exact .object _ final.1 final.2

theorem readWord_wellFormed (text rest : JsString) (value : JsonValue) (ran : readWord text = some (value, rest)) :
    WellFormed value := by
  unfold readWord at ran
  dsimp only at ran
  split_ifs at ran with isNull isTrue isFalse literal
  · cases ran
    exact .null
  · cases ran
    exact .boolean true
  · cases ran
    exact .boolean false
  · cases ran
    exact .number _ literal

structure ReadsWellFormed (fuel : Nat) : Prop where
  value : ∀ text rest value, readValue fuel text = some (value, rest) → WellFormed value
  items : ∀ text rest items, readItems fuel text = some (items, rest) → ∀ item ∈ items, WellFormed item
  members : ∀ text rest members, readMembers fuel text = some (members, rest) → ∀ member ∈ members, WellFormed member.2

section Readers

variable (fuel : Nat) (ih : ReadsWellFormed fuel)

include ih

theorem readValue_wellFormed (text rest : JsString) (value : JsonValue)
    (ran : readValue (fuel + 1) text = some (value, rest)) : WellFormed value := by
  rw [readValue] at ran
  split at ran
  next => cases ran
  next u after _ =>
    split_ifs at ran with isString isArray isObject
    · obtain ⟨⟨s, left⟩, _, same⟩ := Option.map_eq_some_iff.mp ran
      cases same
      exact .string s
    · split at ran
      next => cases ran
      next v behind _ =>
        split_ifs at ran with isEnd
        · cases ran
          exact .array [] (by simp)
        · obtain ⟨⟨items, left⟩, inner, same⟩ := Option.map_eq_some_iff.mp ran
          cases same
          exact .array items (ih.items _ _ items inner)
    · split at ran
      next => cases ran
      next v behind _ =>
        split_ifs at ran with isEnd
        · cases ran
          exact .object [] List.nodup_nil (by simp)
        · obtain ⟨⟨members, left⟩, inner, same⟩ := Option.map_eq_some_iff.mp ran
          cases same
          exact objectOf_wellFormed members (ih.members _ _ members inner)
    · exact readWord_wellFormed _ rest value ran

theorem readItems_wellFormed (text rest : JsString) (items : List JsonValue)
    (ran : readItems (fuel + 1) text = some (items, rest)) : ∀ item ∈ items, WellFormed item := by
  rw [readItems] at ran
  split at ran
  next => cases ran
  next first left read =>
    have wellFormed := ih.value text left first read
    split at ran
    next => cases ran
    next u after _ =>
      split_ifs at ran with more isEnd
      · obtain ⟨⟨others, behind⟩, inner, same⟩ := Option.map_eq_some_iff.mp ran
        cases same
        exact List.forall_mem_cons.mpr ⟨wellFormed, ih.items _ _ others inner⟩
      · cases ran
        exact List.forall_mem_singleton.mpr wellFormed

theorem readMembers_wellFormed (text rest : JsString) (members : List (JsString × JsonValue))
    (ran : readMembers (fuel + 1) text = some (members, rest)) : ∀ member ∈ members, WellFormed member.2 := by
  rw [readMembers] at ran
  split at ran
  next => cases ran
  next key left _ =>
    split at ran
    next => cases ran
    next value behind read =>
      have wellFormed := ih.value left behind value read
      split at ran
      next => cases ran
      next u after _ =>
        split_ifs at ran with more isEnd
        · obtain ⟨⟨others, remaining⟩, inner, same⟩ := Option.map_eq_some_iff.mp ran
          cases same
          exact List.forall_mem_cons.mpr ⟨wellFormed, ih.members _ _ others inner⟩
        · cases ran
          exact List.forall_mem_singleton.mpr wellFormed

end Readers

theorem readsWellFormed (fuel : Nat) : ReadsWellFormed fuel := by
  induction fuel with
  | zero =>
    constructor <;> intro text rest read ran <;>
      simp [readValue, readItems, readMembers] at ran
  | succ fuel ih =>
    exact ⟨readValue_wellFormed fuel ih, readItems_wellFormed fuel ih, readMembers_wellFormed fuel ih⟩

theorem parse_wellFormed (text : JsString) (value : JsonValue) (parsed : parse text = some value) : WellFormed value := by
  unfold parse at parsed
  split at parsed
  next _ rest ran =>
    split_ifs at parsed
    cases parsed
    exact (readsWellFormed text.length).value text rest value ran
  next => cases parsed

end Json
