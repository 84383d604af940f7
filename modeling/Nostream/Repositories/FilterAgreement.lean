import Nostream.Repositories.FilterCriteria

set_option autoImplicit false

namespace Nostream.FilterAgreement

open Utf16 Hex Sql FilterCriteria

structure IsStored (row : DBEvent) : Prop where
  eventId : row.eventId.length = 32
  eventPubkey : row.eventPubkey.length = 32
  eventKind : int4Range row.eventKind = true
  eventCreatedAt : int4Range row.eventCreatedAt = true
  eventTags : ∀ tag ∈ row.eventTags, ∀ text ∈ tag, storable text = true

def tagPair : List (List Char) → Option (List Char × List Char)
  | [letter] :: value :: _ => if value = [] then none else some ([letter], value)
  | _ => none

def tagProjection (row : DBEvent) : List (List Char × List Char) := row.eventTags.filterMap tagPair

def isLetterName : List Char → Bool
  | [letter] => letter.isAlpha
  | _ => false

def IndexesLetters (eventTags : List EventTag) (row : DBEvent) : Prop :=
  ((eventTags.filter fun tag => tag.eventId == row.eventId && isLetterName tag.tagName).map
      fun tag => (tag.tagName, tag.tagValue)).Perm
    ((tagProjection row).filter fun (name, _) => isLetterName name)

theorem mem_tagProjection (row : DBEvent) (letter : Char) (value : List Char) :
    ([letter], value) ∈ tagProjection row ↔
      value ≠ [] ∧ ∃ rest, ([letter] :: value :: rest) ∈ row.eventTags := by
  simp only [tagProjection, List.mem_filterMap]
  constructor
  · rintro ⟨tag, member, pair⟩
    unfold tagPair at pair
    split at pair
    · split_ifs at pair with nonempty
      simp only [Option.some.injEq, Prod.mk.injEq, List.cons.injEq, and_true] at pair
      obtain ⟨rfl, rfl⟩ := pair
      exact ⟨nonempty, _, member⟩
    · cases pair
  · rintro ⟨nonempty, rest, member⟩
    exact ⟨_, member, by simp [tagPair, nonempty]⟩

theorem indexed_iff (eventTags : List EventTag) (row : DBEvent) (index : IndexesLetters eventTags row)
    (letter : Char) (isLetter : letter.isAlpha = true) (value : List Char) :
    (∃ tag ∈ eventTags, tag.eventId = row.eventId ∧ tag.tagName = [letter] ∧ tag.tagValue = value) ↔
      ([letter], value) ∈ tagProjection row := by
  have same := index.mem_iff (a := ([letter], value))
  simp only [List.mem_map, List.mem_filter, Bool.and_eq_true, beq_iff_eq, Prod.mk.injEq,
    isLetterName, isLetter, and_true] at same
  rw [← same]
  constructor
  · rintro ⟨tag, member, id, name, text⟩
    exact ⟨tag, ⟨member, id, by simp [name, isLetter]⟩, name, text⟩
  · rintro ⟨tag, ⟨member, id, _⟩, name, text⟩
    exact ⟨tag, member, id, name, text⟩

theorem letterKey (key : JsString) (isKey : isLowerCaseTagKey key = true) :
    ∃ (letter : Char) (unit : UInt16), letter.isAlpha = true ∧ key = [35, unit] ∧
      encode [letter] = [unit] := by
  unfold isLowerCaseTagKey at isKey
  split at isKey
  next hash unit =>
    simp only [Bool.and_eq_true, beq_iff_eq, decide_eq_true_eq] at isKey
    have scalar : isSurrogate unit = false := by
      simp only [isSurrogate, isHigh, isLow, Bool.or_eq_false_iff, Bool.and_eq_false_iff,
        decide_eq_false_iff_not]
      omega
    have code : (Char.ofNat unit.toNat).val.toNat = unit.toNat := toNat_ofNat unit.toNat (by omega)
    have sign : hash = 35 := UInt16.toNat_inj.mp isKey.1.1
    refine ⟨Char.ofNat unit.toNat, unit, ?_, by rw [sign], ?_⟩
    · have isLower : (Char.ofNat unit.toNat).isLower = true := by
        show (_ && _) = true
        simp only [Bool.and_eq_true, decide_eq_true_eq, ge_iff_le, UInt32.le_iff_toNat_le, code]
        exact ⟨isKey.1.2, isKey.2⟩
      show (_ || _) = true
      rw [isLower, Bool.or_true]
    · rw [encode_cons, encodeChar_scalar unit scalar]
      rfl
  next => cases isKey

theorem decode_letterOf {letter : Char} {unit : UInt16} (encoded : encode [letter] = [unit]) :
    decode (letterOf [35, unit]) = [letter] := by
  have name : letterOf [35, unit] = encode [letter] := encoded.symm
  rw [name, decode_encode]

theorem isGenericTagQuery_of_lowerCase (key : JsString) (isKey : isLowerCaseTagKey key = true) :
    isGenericTagQuery key = true := by
  unfold isLowerCaseTagKey at isKey
  split at isKey
  next hash letter =>
    simp only [Bool.and_eq_true, beq_iff_eq, decide_eq_true_eq] at isKey
    simp [isGenericTagQuery, isKey.1.1, isKey.1.2, isKey.2]
  next => cases isKey

structure Accepted (filter : SubscriptionFilter) : Prop where
  ids : ∀ start ∈ filter.ids.getD [], prefixSchema start = true
  authors : ∀ start ∈ filter.authors.getD [], prefixSchema start = true
  keys : ∀ c ∈ filter.criteria, isLowerCaseTagKey c.1 = true
  values : ∀ c ∈ filter.criteria, ∀ value ∈ c.2, value ≠ []

theorem accepted_of_schema (filter : SubscriptionFilter) (schema : filterSchema filter = true) :
    Accepted filter := by
  simp only [filterSchema, Bool.and_eq_true, List.all_eq_true] at schema
  obtain ⟨⟨⟨⟨⟨⟨ids, authors⟩, _⟩, _⟩, _⟩, _⟩, criteria⟩ := schema
  refine ⟨ids, authors, fun c member => (criteria c member).1, fun c member value inside => ?_⟩
  have checked := (criteria c member).2 value inside
  simp only [Bool.not_eq_true', List.isEmpty_eq_false_iff] at checked
  exact checked.1

theorem lower_of_prefixSchema {start : JsString} (accepted : prefixSchema start = true) :
    isLowerHex start = true := by
  simp only [prefixSchema, Bool.and_eq_true] at accepted
  exact accepted.1.1

theorem tagQueries_eq (filter : SubscriptionFilter) (accepted : Accepted filter) :
    tagQueries filter = filter.criteria :=
  List.filter_eq_self.mpr fun c member => isGenericTagQuery_of_lowerCase c.1 (accepted.keys c member)

def BaseMatch (filter : SubscriptionFilter) (event : Event) : Prop :=
  (filter.ids.any fun ids => !ids.any (startsWith event.id)) = false ∧
    (filter.kinds.any fun kinds => !kinds.contains event.kind) = false ∧
    (filter.since.any fun since => decide (event.createdAt < since)) = false ∧
    (filter.untilTime.any fun untilTime => decide (event.createdAt > untilTime)) = false ∧
    (filter.authors.any fun authors => !authors.any (startsWith event.pubkey)) = false

theorem matching_iff (filter : SubscriptionFilter) (accepted : Accepted filter) (event : Event) :
    isEventMatchingFilter filter event = true ↔
      BaseMatch filter event ∧ ∀ c ∈ filter.criteria, ∃ tag ∈ event.tags, isTagMatching c.1 c.2 tag = true := by
  have generic := tagQueries_eq filter accepted
  unfold tagQueries at generic
  simp only [isEventMatchingFilter, BaseMatch, generic]
  split_ifs <;> simp_all

def TagHolds (tag : EventTag) (c : JsString × List JsString) : Prop :=
  tag.tagName = decode (letterOf c.1) ∧ ∃ value ∈ c.2, tag.tagValue = decode value

theorem test_text (chars : List Char) (other : List Char) :
    test (.text chars) .equal (.text other) = some true ↔ chars = other := by
  by_cases same : chars = other <;> simp [test, Value.compare, Operator.accepts, same]

theorem tagCondition_hold (row : DBEvent) (tag : Option EventTag) (key value : JsString) :
    (tagCondition key value).holds [eventsSource, eventTagsSource] (joinedRow row tag) = true ↔
      ∃ found, tag = some found ∧ found.tagName = decode (letterOf key) ∧
        found.tagValue = decode value := by
  have name : resolve [eventsSource, eventTagsSource] (.qualified .eventTags .tagName) =
      some (.eventTags, .tagName, .text) := by decide
  have text : resolve [eventsSource, eventTagsSource] (.qualified .eventTags .tagValue) =
      some (.eventTags, .tagValue, .text) := by decide
  cases tag with
  | none => simp [tagCondition, Operand.eval, name, text, joinedRow, test, Value.compare]
  | some found =>
    simp [tagCondition, Operand.eval, name, text, joinedRow, tagColumn, test_text]

theorem tagCriteria_hold (row : DBEvent) (tag : Option EventTag) (c : JsString × List JsString) :
    (tagCriteria c).all (·.holds [eventsSource, eventTagsSource] (joinedRow row tag)) = true ↔
      ∃ found, tag = some found ∧ TagHolds found c := by
  obtain ⟨key, values⟩ := c
  cases values with
  | nil => simp [tagCriteria, TagHolds]
  | cons first rest =>
    rw [tagCriteria, orGroup_holds _ _ _ (by simp)]
    simp only [List.mem_map, exists_exists_and_eq_and, tagCondition_hold, TagHolds]
    constructor
    · rintro ⟨value, member, found, same, name, text⟩
      exact ⟨found, same, name, value, member, text⟩
    · rintro ⟨found, same, name, value, member, text⟩
      exact ⟨value, member, found, same, name, text⟩
    simp

def Unambiguous (filter : SubscriptionFilter) : Prop :=
  filter.criteria = [] ∨ filter.ids.getD [] = []

theorem resolve_event (filter : SubscriptionFilter) (field : Column)
    (own : field = .eventPubkey ∨ field = .eventKind ∨ field = .eventCreatedAt) :
    resolve (findByFilter filter).sources (.bare field) =
      some (.events, field, if field = .eventPubkey then .bytea else .int4) := by
  unfold Query.sources
  rcases own with rfl | rfl | rfl <;> split <;> decide

theorem ids_hold (filter : SubscriptionFilter) (accepted : Accepted filter)
    (unambiguous : Unambiguous filter) (row : DBEvent) (stored : IsStored row) (tag : Option EventTag) :
    (hexCriteria [.eventId] filter.ids).all
        (·.holds (findByFilter filter).sources (joinedRow row tag)) = true ↔
      (filter.ids.any fun ids => !ids.any (startsWith (toHex row.eventId))) = false := by
  rcases unambiguous with noTags | noIds
  · have alone : (findByFilter filter).sources = [eventsSource] := by
      simp [Query.sources, findByFilter, tagQueries, noTags]
    rw [alone]
    exact hexCriteria_hold _ _ .eventId row.eventId filter.ids
      (fun start member => lower_of_prefixSchema (accepted.ids start member))
      stored.eventId (by decide) rfl
  · rcases ids : filter.ids with _ | _ | ⟨first, rest⟩
    · simp [hexCriteria]
    · simp [hexCriteria]
    · simp [ids] at noIds

theorem accepts_iff (filter : SubscriptionFilter) (accepted : Accepted filter)
    (unambiguous : Unambiguous filter) (row : DBEvent) (stored : IsStored row) (tag : Option EventTag) :
    (findByFilter filter).accepts row tag = true ↔
      BaseMatch filter (toNostrEvent row) ∧
        ((filter.criteria.flatMap tagCriteria).all
          (·.holds (findByFilter filter).sources (joinedRow row tag))) = true := by
  have ids := ids_hold filter accepted unambiguous row stored tag
  have authors := hexCriteria_hold (findByFilter filter).sources (joinedRow row tag) .eventPubkey
    row.eventPubkey filter.authors
    (fun start member => lower_of_prefixSchema (accepted.authors start member))
    stored.eventPubkey (resolve_event filter .eventPubkey (by simp)) rfl
  have kinds := kindCriteria_hold (findByFilter filter).sources (joinedRow row tag) filter.kinds
    row.eventKind (resolve_event filter .eventKind (by simp)) rfl
  have since := since_hold (findByFilter filter).sources (joinedRow row tag) filter.since
    row.eventCreatedAt (resolve_event filter .eventCreatedAt (by simp)) rfl
  have untilTime := until_hold (findByFilter filter).sources (joinedRow row tag) filter.untilTime
    row.eventCreatedAt (resolve_event filter .eventCreatedAt (by simp)) rfl
  have wheres : (findByFilter filter).wheres =
      hexCriteria [.eventPubkey] filter.authors ++ hexCriteria [.eventId] filter.ids ++
        kindCriteria filter.kinds ++ timeCriteria .atLeast filter.since ++
        timeCriteria .atMost filter.untilTime ++ filter.criteria.flatMap tagCriteria := by
    rw [findByFilter, tagQueries_eq filter accepted]
  rw [Query.accepts, wheres]
  simp only [List.all_append, Bool.and_eq_true, ids, authors, kinds, since, untilTime, BaseMatch,
    toNostrEvent]
  tauto

theorem selects_iff (filter : SubscriptionFilter) (accepted : Accepted filter)
    (unambiguous : Unambiguous filter) (row : DBEvent) (stored : IsStored row)
    (eventTags : List EventTag) :
    (findByFilter filter).selects eventTags row = true ↔
      BaseMatch filter (toNostrEvent row) ∧ (filter.criteria = [] ∨
        ∃ tag ∈ eventTags, tag.eventId = row.eventId ∧ ∀ c ∈ filter.criteria, TagHolds tag c) := by
  have each := accepts_iff filter accepted unambiguous row stored
  simp only [Query.selects, List.any_eq_true, each]
  have isTag : (findByFilter filter).isTagQuery = !filter.criteria.isEmpty := by
    simp only [findByFilter, tagQueries_eq filter accepted]
  by_cases noTags : filter.criteria = []
  · simp [Query.joined, isTag, noTags]
  · have both : (findByFilter filter).sources = [eventsSource, eventTagsSource] := by
      simp [Query.sources, isTag, noTags]
    have clauses (tag : Option EventTag) :
        ((filter.criteria.flatMap tagCriteria).all
          (·.holds (findByFilter filter).sources (joinedRow row tag))) = true ↔
          ∀ c ∈ filter.criteria, ∃ found, tag = some found ∧ TagHolds found c := by
      rw [both, List.all_flatMap, List.all_eq_true]
      exact forall₂_congr fun c _ => tagCriteria_hold row tag c
    obtain ⟨first, member⟩ := List.exists_mem_of_ne_nil _ noTags
    simp only [Query.joined, isTag, noTags, List.isEmpty_eq_false_iff.mpr noTags, Bool.not_false,
      if_true, clauses, false_or]
    constructor
    · rintro ⟨tag, inJoin, base, holds⟩
      obtain ⟨found, rfl, _⟩ := holds first member
      rw [mem_leftJoin, beq_iff_eq] at inJoin
      refine ⟨base, found, inJoin.1, inJoin.2.symm, fun c inside => ?_⟩
      obtain ⟨_, same, satisfied⟩ := holds c inside
      exact Option.some.inj same ▸ satisfied
    · rintro ⟨base, tag, inTable, id, holds⟩
      refine ⟨some tag, ?_, base, fun c inside => ⟨tag, rfl, holds c inside⟩⟩
      rw [mem_leftJoin, beq_iff_eq]
      exact ⟨inTable, id.symm⟩

end Nostream.FilterAgreement
