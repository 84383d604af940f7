import Nostream.Repositories.FilterAgreement

set_option autoImplicit false

namespace Nostream.QueryAgreement

open Utf16 Hex Sql FilterCriteria FilterAgreement

structure Bindable (filter : SubscriptionFilter) : Prop where
  kinds : ∀ kind ∈ filter.kinds.getD [], int4Range kind = true
  since : ∀ time ∈ filter.since, int4Range time = true
  untilTime : ∀ time ∈ filter.untilTime, int4Range time = true
  values : ∀ c ∈ filter.criteria, ∀ value ∈ c.2, storable (decode value) = true

theorem hexCriteria_valid (sources : List (Source TableName Column)) (field : Column)
    (found : resolve sources (.bare field) = some (.events, field, .bytea))
    (values : Option (List JsString)) : (hexCriteria [field] values).all (·.valid sources) = true := by
  match values with
  | none => rfl
  | some [] => rfl
  | some (first :: rest) =>
    rw [hexCriteria_cons, orGroup_valid]
    intro condition member
    obtain ⟨value, _, emitted⟩ := (mem_hexConditions _ _ _).mp member
    cases group : lengthGroup value with
    | exact =>
      simp only [group, lengthConditions, List.map_cons, List.map_nil, List.mem_singleton] at emitted
      simp [emitted, Cond.valid, Operand.type, Operand.takes, found, Value.fits]
    | even | odd =>
      simp only [group, lengthConditions, List.map_cons, List.map_nil, List.mem_flatMap,
        List.mem_singleton] at emitted
      obtain ⟨start, _, rfl⟩ := emitted
      simp [Cond.valid, Operand.type, Operand.takes, found, Value.fits]

theorem hexCriteria_ambiguous (sources : List (Source TableName Column)) (field : Column)
    (missing : resolve sources (.bare field) = none) (first : JsString) (rest : List JsString) :
    (hexCriteria [field] (some (first :: rest))).all (·.valid sources) = false := by
  rw [hexCriteria_cons, Bool.eq_false_iff]
  intro valid
  rw [orGroup_valid] at valid
  obtain ⟨condition, member⟩ := List.exists_mem_of_ne_nil _ (hexConditions_ne_nil field first rest)
  have bad := valid condition member
  obtain ⟨value, _, emitted⟩ := (mem_hexConditions _ _ _).mp member
  cases group : lengthGroup value with
  | exact =>
    simp only [group, lengthConditions, List.map_cons, List.map_nil, List.mem_singleton] at emitted
    simp [emitted, Cond.valid, Operand.type, missing] at bad
  | even | odd =>
    simp only [group, lengthConditions, List.map_cons, List.map_nil, List.mem_flatMap,
      List.mem_singleton] at emitted
    obtain ⟨start, _, rfl⟩ := emitted
    simp [Cond.valid, Operand.type, Operand.takes, missing] at bad

theorem kindCriteria_valid (sources : List (Source TableName Column))
    (found : resolve sources (.bare .eventKind) = some (.events, .eventKind, .int4))
    (kinds : Option (List Int)) :
    (kindCriteria kinds).all (·.valid sources) = true ↔
      ∀ kind ∈ kinds.getD [], int4Range kind = true := by
  match kinds with
  | none => simp [kindCriteria]
  | some [] => simp [kindCriteria, Cond.valid]
  | some (first :: rest) =>
    simp [kindCriteria, Cond.valid, Operand.type, Operand.takes, found, Value.fits]

theorem timeCriteria_valid (sources : List (Source TableName Column))
    (found : resolve sources (.bare .eventCreatedAt) = some (.events, .eventCreatedAt, .int4))
    (operator : Operator) (time : Option Int) :
    (timeCriteria operator time).all (·.valid sources) = true ↔
      ∀ value ∈ time, int4Range value = true := by
  cases time <;>
    simp [timeCriteria, Cond.valid, Operand.type, Operand.takes, found, Value.fits]

theorem storable_letter {letter : Char} (isLetter : letter.isAlpha = true) :
    storable [letter] = true := by
  have different : letter ≠ Char.ofNat 0 := by
    rintro rfl
    exact absurd isLetter (by decide)
  simp [storable, Ne.symm different]

theorem tagCriteria_valid (c : JsString × List JsString) (isKey : isLowerCaseTagKey c.1 = true) :
    (tagCriteria c).all (·.valid [eventsSource, eventTagsSource]) = true ↔
      ∀ value ∈ c.2, storable (decode value) = true := by
  have name : resolve [eventsSource, eventTagsSource] (.qualified .eventTags .tagName) =
      some (.eventTags, .tagName, .text) := by decide
  have text : resolve [eventsSource, eventTagsSource] (.qualified .eventTags .tagValue) =
      some (.eventTags, .tagValue, .text) := by decide
  obtain ⟨key, values⟩ := c
  obtain ⟨letter, unit, isLetter, rfl, encoded⟩ := letterKey key isKey
  cases values with
  | nil => simp [tagCriteria, Cond.valid]
  | cons first rest =>
    rw [tagCriteria, orGroup_valid]
    · simp only [List.forall_mem_map, tagCondition, Cond.valid, Operand.takes, Operand.type, name,
        text, Option.map_some, Value.fits, decode_letterOf encoded, storable_letter isLetter,
        Bool.true_and]
    · simp

theorem valid_iff (filter : SubscriptionFilter) (accepted : Accepted filter) :
    (findByFilter filter).valid = true ↔ Unambiguous filter ∧ Bindable filter := by
  have pubkey := resolve_event filter .eventPubkey (by simp)
  have kind := resolve_event filter .eventKind (by simp)
  have createdAt := resolve_event filter .eventCreatedAt (by simp)
  have authors := hexCriteria_valid (findByFilter filter).sources .eventPubkey pubkey filter.authors
  have kinds := kindCriteria_valid (findByFilter filter).sources kind filter.kinds
  have since := timeCriteria_valid (findByFilter filter).sources createdAt .atLeast filter.since
  have untilTime := timeCriteria_valid (findByFilter filter).sources createdAt .atMost filter.untilTime
  have isTag : (findByFilter filter).isTagQuery = !filter.criteria.isEmpty := by
    simp only [findByFilter, tagQueries_eq filter accepted]
  have ids : (hexCriteria [.eventId] filter.ids).all (·.valid (findByFilter filter).sources) = true ↔
      Unambiguous filter := by
    unfold Unambiguous
    by_cases noTags : filter.criteria = []
    · have alone : (findByFilter filter).sources = [eventsSource] := by
        simp [Query.sources, isTag, noTags]
      simp [noTags, alone, hexCriteria_valid [eventsSource] .eventId (by decide) filter.ids]
    · have both : (findByFilter filter).sources = [eventsSource, eventTagsSource] := by
        simp [Query.sources, isTag, noTags]
      rw [both]
      cases filter.ids with
      | none => simp [hexCriteria]
      | some given =>
        cases given with
        | nil => simp [hexCriteria, Cond.valid]
        | cons first rest =>
          simp [noTags, hexCriteria_ambiguous _ .eventId
            (show resolve [eventsSource, eventTagsSource] (.bare .eventId) = none by decide)]
  have tags : (filter.criteria.flatMap tagCriteria).all (·.valid (findByFilter filter).sources) = true ↔
      ∀ c ∈ filter.criteria, ∀ value ∈ c.2, storable (decode value) = true := by
    by_cases noTags : filter.criteria = []
    · simp [noTags]
    · have both : (findByFilter filter).sources = [eventsSource, eventTagsSource] := by
        simp [Query.sources, isTag, noTags]
      rw [both, List.all_flatMap, List.all_eq_true]
      exact forall₂_congr fun c member => tagCriteria_valid c (accepted.keys c member)
  have wheres : (findByFilter filter).wheres =
      hexCriteria [.eventPubkey] filter.authors ++ hexCriteria [.eventId] filter.ids ++
        kindCriteria filter.kinds ++ timeCriteria .atLeast filter.since ++
        timeCriteria .atMost filter.untilTime ++ filter.criteria.flatMap tagCriteria := by
    rw [findByFilter, tagQueries_eq filter accepted]
  rw [Query.valid, wheres, createdAt]
  simp only [List.all_append, Bool.and_eq_true, authors, ids, kinds, since, untilTime, tags,
    Option.isSome_some, and_true, true_and]
  constructor
  · rintro ⟨⟨⟨⟨unambiguous, kinds⟩, since⟩, untilTime⟩, values⟩
    exact ⟨unambiguous, kinds, since, untilTime, values⟩
  · rintro ⟨unambiguous, kinds, since, untilTime, values⟩
    exact ⟨⟨⟨⟨unambiguous, kinds⟩, since⟩, untilTime⟩, values⟩

end Nostream.QueryAgreement
