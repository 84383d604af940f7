import Nostream.Repositories.QueryAgreement

set_option autoImplicit false

namespace Nostream.QueryEquivalence

open Utf16 Hex Sql FilterCriteria FilterAgreement QueryAgreement

def Unsatisfiable (filter : SubscriptionFilter) : Prop :=
  filter.ids = some [] ∨ filter.authors = some [] ∨ filter.kinds = some [] ∨
    (∃ c ∈ filter.criteria, c.2 = []) ∨
    ∃ since ∈ filter.since, ∃ untilTime ∈ filter.untilTime, untilTime < since

-- A value with a lone surrogate reaches the database with U+FFFD in its place.
def OneTagCriterion (filter : SubscriptionFilter) : Prop :=
  match filter.criteria with
  | [] => True
  | [(_, values)] => ∀ value ∈ values, toWellFormed value ∈ values
  | criteria => ∃ c ∈ criteria, ∀ value ∈ c.2, wellFormed value = false

structure AgreementCondition (filter : SubscriptionFilter) : Prop where
  unambiguous : Unambiguous filter
  bindable : Bindable filter
  tags : Unsatisfiable filter ∨ OneTagCriterion filter

def Agrees (filter : SubscriptionFilter) (row : DBEvent) (eventTags : List EventTag) : Prop :=
  (findByFilter filter).valid = true ∧
    ((findByFilter filter).selects eventTags row = true ↔
      isEventMatchingFilter filter (toNostrEvent row) = true)

theorem tagMatching_iff (letter : Char) (unit : UInt16) (encoded : encode [letter] = [unit])
    (values : List JsString) (tag : List (List Char)) :
    isTagMatching [35, unit] values (tag.map encode) = true ↔
      ∃ value rest, tag = [letter] :: value :: rest ∧ encode value ∈ values := by
  match tag with
  | [] => simp [isTagMatching]
  | [name] => simp [isTagMatching]
  | name :: value :: rest =>
    have sameName : encode name = [unit] ↔ name = [letter] := by
      rw [← encoded]
      exact encode_injective.eq_iff
    simp only [isTagMatching, List.map_cons, List.getElem?_cons_succ, List.getElem?_cons_zero,
      Bool.and_eq_true, beq_iff_eq, sameName, List.contains_iff_mem, List.cons.injEq]
    constructor
    · rintro ⟨same, member⟩
      exact ⟨value, rest, ⟨same, rfl, rfl⟩, member⟩
    · rintro ⟨_, _, ⟨same, rfl, rfl⟩, member⟩
      exact ⟨same, member⟩

theorem matching_tag_iff (letter : Char) (unit : UInt16) (encoded : encode [letter] = [unit])
    (values : List JsString) (row : DBEvent) :
    (∃ tag ∈ (toNostrEvent row).tags, isTagMatching [35, unit] values tag = true) ↔
      ∃ value rest, ([letter] :: value :: rest) ∈ row.eventTags ∧ encode value ∈ values := by
  simp only [toNostrEvent, List.mem_map, exists_exists_and_eq_and, tagMatching_iff letter unit encoded]
  constructor
  · rintro ⟨_, member, value, rest, rfl, inside⟩
    exact ⟨value, rest, member, inside⟩
  · rintro ⟨value, rest, member, inside⟩
    exact ⟨_, member, value, rest, rfl, inside⟩

theorem selected_tag_iff (letter : Char) (unit : UInt16) (isLetter : letter.isAlpha = true)
    (encoded : encode [letter] = [unit]) (values : List JsString) (row : DBEvent)
    (eventTags : List EventTag) (index : IndexesLetters eventTags row) :
    (∃ tag ∈ eventTags, tag.eventId = row.eventId ∧ TagHolds tag ([35, unit], values)) ↔
      ∃ value ∈ values, decode value ≠ [] ∧
        ∃ rest, ([letter] :: decode value :: rest) ∈ row.eventTags := by
  simp only [TagHolds, decode_letterOf encoded]
  constructor
  · rintro ⟨tag, member, id, name, value, inside, text⟩
    exact ⟨value, inside, (mem_tagProjection row letter _).mp
      ((indexed_iff eventTags row index letter isLetter _).mp ⟨tag, member, id, name, text⟩)⟩
  · rintro ⟨value, inside, found⟩
    obtain ⟨tag, member, id, name, text⟩ := (indexed_iff eventTags row index letter isLetter _).mpr
      ((mem_tagProjection row letter _).mpr found)
    exact ⟨tag, member, id, name, value, inside, text⟩

theorem decode_ne_nil {value : JsString} (nonempty : value ≠ []) : decode value ≠ [] := by
  match value with
  | [] => exact (nonempty rfl).elim
  | [_] => simp [decode]
  | u :: v :: rest => by_cases pair : isHigh u && isLow v <;> simp [decode, pair]

theorem one_criterion_agrees (c : JsString × List JsString) (isKey : isLowerCaseTagKey c.1 = true)
    (nonempty : ∀ value ∈ c.2, value ≠ []) (row : DBEvent) (eventTags : List EventTag)
    (index : IndexesLetters eventTags row) (closed : ∀ value ∈ c.2, toWellFormed value ∈ c.2) :
    (∃ tag ∈ eventTags, tag.eventId = row.eventId ∧ TagHolds tag c) ↔
      ∃ tag ∈ (toNostrEvent row).tags, isTagMatching c.1 c.2 tag = true := by
  obtain ⟨key, values⟩ := c
  obtain ⟨letter, unit, isLetter, rfl, encoded⟩ := letterKey key isKey
  rw [selected_tag_iff letter unit isLetter encoded values row eventTags index,
    matching_tag_iff letter unit encoded values row]
  constructor
  · rintro ⟨value, inside, _, rest, member⟩
    exact ⟨decode value, rest, member, closed value inside⟩
  · rintro ⟨value, rest, member, inside⟩
    refine ⟨encode value, inside, decode_ne_nil (nonempty _ inside), rest, ?_⟩
    rwa [decode_encode]

theorem two_criteria_never (filter : SubscriptionFilter) (accepted : Accepted filter)
    (c d : JsString × List JsString) (rest : List (JsString × List JsString))
    (shape : filter.criteria = c :: d :: rest) (tag : EventTag) :
    ¬ ∀ e ∈ filter.criteria, TagHolds tag e := by
  intro holds
  obtain ⟨letter, unit, _, keyC, encodedC⟩ := letterKey c.1 (accepted.keys c (by simp [shape]))
  obtain ⟨other, otherUnit, _, keyD, encodedD⟩ := letterKey d.1 (accepted.keys d (by simp [shape]))
  have nameC := (holds c (by simp [shape])).1
  have nameD := (holds d (by simp [shape])).1
  rw [keyC, decode_letterOf encodedC] at nameC
  rw [keyD, decode_letterOf encodedD] at nameD
  have sameUnit : [unit] = [otherUnit] := by rw [← encodedC, ← encodedD, ← nameC, ← nameD]
  have distinct := filter.distinct
  simp only [shape, List.map_cons, List.nodup_cons, List.mem_cons, not_or] at distinct
  exact distinct.1.1 (by rw [keyC, keyD, (List.cons.inj sameUnit).1])

theorem ill_formed_never (c : JsString × List JsString) (isKey : isLowerCaseTagKey c.1 = true)
    (illFormed : ∀ value ∈ c.2, wellFormed value = false) (row : DBEvent) :
    ¬ ∃ tag ∈ (toNostrEvent row).tags, isTagMatching c.1 c.2 tag = true := by
  obtain ⟨key, values⟩ := c
  obtain ⟨letter, unit, _, rfl, encoded⟩ := letterKey key isKey
  rw [matching_tag_iff letter unit encoded values row]
  rintro ⟨value, rest, _, inside⟩
  have bad := illFormed _ inside
  simp at bad

theorem tags_agree (filter : SubscriptionFilter) (accepted : Accepted filter) (row : DBEvent)
    (eventTags : List EventTag) (index : IndexesLetters eventTags row)
    (one : OneTagCriterion filter) :
    (filter.criteria = [] ∨ ∃ tag ∈ eventTags, tag.eventId = row.eventId ∧
        ∀ c ∈ filter.criteria, TagHolds tag c) ↔
      ∀ c ∈ filter.criteria, ∃ tag ∈ (toNostrEvent row).tags, isTagMatching c.1 c.2 tag = true := by
  match shape : filter.criteria with
  | [] => simp
  | [c] =>
    have member : c ∈ filter.criteria := by simp [shape]
    simp only [OneTagCriterion, shape] at one
    have agrees := one_criterion_agrees c (accepted.keys c member) (accepted.values c member) row
      eventTags index one
    simpa using agrees
  | c :: d :: rest =>
    simp only [OneTagCriterion, shape] at one
    obtain ⟨bad, member, illFormed⟩ := one
    have never := two_criteria_never filter accepted c d rest shape
    rw [shape] at never
    constructor
    · rintro (none | ⟨tag, _, _, holds⟩)
      · cases none
      · exact (never tag holds).elim
    · intro all
      exact (ill_formed_never bad (accepted.keys bad (shape ▸ member)) illFormed row
        (all bad member)).elim

theorem unsatisfiable_rejects (filter : SubscriptionFilter) (impossible : Unsatisfiable filter)
    (event : Event) :
    ¬ (BaseMatch filter event ∧ ∀ c ∈ filter.criteria, c.2 ≠ []) := by
  rintro ⟨⟨ids, kinds, since, untilTime, authors⟩, tags⟩
  rcases impossible with none | none | none | ⟨c, member, none⟩ | ⟨s, atS, u, atU, before⟩
  · simp [none] at ids
  · simp [none] at authors
  · simp [none] at kinds
  · exact tags c member none
  · rw [Option.mem_def] at atS atU
    simp only [atS, Option.any_some, decide_eq_false_iff_not] at since
    simp only [atU, Option.any_some, decide_eq_false_iff_not] at untilTime
    omega

theorem agrees_of_condition (filter : SubscriptionFilter) (accepted : Accepted filter)
    (condition : AgreementCondition filter) (row : DBEvent) (stored : IsStored row)
    (eventTags : List EventTag) (index : IndexesLetters eventTags row) :
    Agrees filter row eventTags := by
  refine ⟨(valid_iff filter accepted).mpr ⟨condition.unambiguous, condition.bindable⟩, ?_⟩
  rw [selects_iff filter accepted condition.unambiguous row stored eventTags,
    matching_iff filter accepted]
  rcases condition.tags with impossible | one
  · have never := unsatisfiable_rejects filter impossible (toNostrEvent row)
    constructor
    · rintro ⟨base, none | ⟨tag, _, _, holds⟩⟩
      · exact (never ⟨base, by simp [none]⟩).elim
      · refine (never ⟨base, fun c member empty => ?_⟩).elim
        obtain ⟨_, value, inside, _⟩ := holds c member
        simp [empty] at inside
    · rintro ⟨base, matched⟩
      refine (never ⟨base, fun c member empty => ?_⟩).elim
      obtain ⟨tag, _, found⟩ := matched c member
      unfold isTagMatching at found
      split at found <;> simp [empty] at found
  · exact and_congr_right fun _ => tags_agree filter accepted row eventTags index one

end Nostream.QueryEquivalence
