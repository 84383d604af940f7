import Nostream.Handlers.SubscribeMessageHandler
import Nostream.Migrations.TagIndex
import Nostream.Repositories.FilterUnion
import Nostream.Repositories.QueryAgreement

set_option autoImplicit false

namespace Nostream.StoredOnce

open Utf16 Hex Sql Database FilterAgreement QueryAgreement FilterUnion TagIndex
open SubscribeMessageHandler

def sentId : OutgoingMessage → Option JsString
  | .event _ event => some event.id
  | _ => none

def sentIds (messages : List OutgoingMessage) : List JsString := messages.filterMap sentId

def withoutTags (filter : SubscriptionFilter) : SubscriptionFilter :=
  { filter with
    criteria := []
    distinct := List.nodup_nil }

def meetsCriteria (filter : SubscriptionFilter) (pair : List Char × List Char) : Bool :=
  filter.criteria.all fun c =>
    pair.1 == decode (letterOf c.1) && c.2.any fun value => pair.2 == decode value

def matchingTags (filter : SubscriptionFilter) (r : DBEvent) : Nat :=
  (tagProjection r).countP (meetsCriteria filter)

def joinedRows (filter : SubscriptionFilter) (r : DBEvent) : Nat :=
  if isEventMatchingFilter (withoutTags filter) (toNostrEvent r) then
    if filter.criteria.isEmpty then 1 else matchingTags filter r
  else 0

def rowsAhead (database : Database) (filter : SubscriptionFilter) (r : DBEvent) : Nat :=
  (database.events.map fun other =>
    if database.sortKey (findByFilter filter).orderBy other <
        database.sortKey (findByFilter filter).orderBy r then joinedRows filter other else 0).sum

def OnceCondition (database : Database) : List SubscriptionFilter → Prop
  | [filter] => (findByFilter filter).valid = true → ∀ r ∈ database.events,
    r.deletedAt.isNone = true → isEventMatchingFilter filter (toNostrEvent r) = true →
      joinedRows filter r ≤ 1 ∨ (findByFilter filter).limit ≤ rowsAhead database filter r + 1
  | _ => True

def isSent (filters : List SubscriptionFilter) (r : DBEvent) : Bool :=
  r.deletedAt.isNone && isClientSubscribedToEvent filters (toNostrEvent r)

theorem sentIds_fetchAndSend (subscriptionId : JsString) (filters : List SubscriptionFilter)
    (findEvents : List DBEvent) :
    sentIds (fetchAndSend subscriptionId filters findEvents) =
      (findEvents.filter (isSent filters)).map fun r => toHex r.eventId := by
  induction findEvents with
  | nil => rfl
  | cons r rest ih =>
    simp only [sentIds, fetchAndSend, List.filterMap_append] at ih ⊢
    by_cases kept : r.deletedAt.isNone = true
    · by_cases subscribed : isClientSubscribedToEvent filters (toNostrEvent r) = true
      · simp [isSent, kept, subscribed, createOutgoingEventMessage, sentId] at ih ⊢
        exact ⟨rfl, ih⟩
      · simpa [isSent, kept, subscribed] using ih
    · simpa [isSent, kept] using ih

theorem nodup_sentIds (database : Database) (constrained : Constrained database.events)
    (subscriptionId : JsString) (filters : List SubscriptionFilter) (findEvents : List DBEvent)
    (inside : ∀ r ∈ findEvents, r ∈ database.events) :
    (sentIds (fetchAndSend subscriptionId filters findEvents)).Nodup ↔
      ∀ r ∈ database.events, isSent filters r = true → findEvents.count r ≤ 1 := by
  rw [sentIds_fetchAndSend]
  have once : ((findEvents.filter (isSent filters)).map fun r => toHex r.eventId).Nodup ↔
      (findEvents.filter (isSent filters)).Nodup := by
    refine ⟨fun distinct => distinct.of_map _, List.Nodup.map_on fun a inA b inB same => ?_⟩
    exact eq_of_eventId database.events constrained b a (inside b (List.mem_filter.mp inB).1)
      (inside a (List.mem_filter.mp inA).1) (toHex_injective same)
  rw [once, List.nodup_iff_count_le_one]
  constructor
  · intro few r _ sent
    have count := few r
    rwa [List.count_filter sent] at count
  · intro few r
    by_cases member : r ∈ findEvents.filter (isSent filters)
    · obtain ⟨found, sent⟩ := List.mem_filter.mp member
      rw [List.count_filter sent]
      exact few r (inside r found) sent
    · simp [List.count_eq_zero_of_not_mem member]

theorem nodup_of_constrained (events : EventsTable) (constrained : Constrained events) : events.Nodup :=
  constrained.imp fun apart same => apart.1 (congrArg _ same)

def copies (database : Database) (query : Query) (r : DBEvent) : Nat :=
  (query.joined database.eventTags r).countP (query.accepts r)

theorem candidates_eq (database : Database) (query : Query) :
    database.candidates query =
      database.events.flatMap fun r => List.replicate (copies database query r) r := by
  simp [Database.candidates, copies, List.countP_eq_length_filter]

theorem count_flatMap_replicate (l : List DBEvent) (distinct : l.Nodup) (times : DBEvent → Nat)
    (r : DBEvent) (member : r ∈ l) :
    (l.flatMap fun other => List.replicate (times other) other).count r = times r := by
  induction l with
  | nil => cases member
  | cons first rest ih =>
    obtain ⟨fresh, tail⟩ := List.nodup_cons.mp distinct
    rw [List.flatMap_cons, List.count_append]
    by_cases same : first = r
    · subst same
      have none : (rest.flatMap fun other => List.replicate (times other) other).count first = 0 := by
        refine List.count_eq_zero_of_not_mem fun inRest => ?_
        obtain ⟨other, inside, isOther⟩ := List.mem_flatMap.mp inRest
        exact fresh (List.eq_of_mem_replicate isOther ▸ inside)
      simp [none]
    · have inRest := (List.mem_cons.mp member).resolve_left (Ne.symm same)
      simp [ih tail inRest, List.count_replicate, same]

theorem meetsCriteria_iff (filter : SubscriptionFilter) (tag : EventTag) :
    meetsCriteria filter (tag.tagName, tag.tagValue) = true ↔
      ∀ c ∈ filter.criteria, TagHolds tag c := by
  simp [meetsCriteria, TagHolds]

theorem baseMatch_iff (filter : SubscriptionFilter) (accepted : Accepted filter) (event : Event) :
    isEventMatchingFilter (withoutTags filter) event = true ↔ BaseMatch filter event := by
  have bare : Accepted (withoutTags filter) :=
    ⟨accepted.ids, accepted.authors, by simp [withoutTags], by simp [withoutTags]⟩
  rw [matching_iff _ bare]
  exact and_iff_left (by simp [withoutTags])

theorem copies_eq (database : Database) (filter : SubscriptionFilter) (accepted : Accepted filter)
    (unambiguous : Unambiguous filter) (r : DBEvent) (stored : IsStored r)
    (mirrored : ((database.eventTags.filter fun tag => tag.eventId == r.eventId).map fun tag =>
      (tag.tagName, tag.tagValue)).Perm (tagProjection r)) :
    copies database (findByFilter filter) r = joinedRows filter r := by
  have base := baseMatch_iff filter accepted (toNostrEvent r)
  have each := accepts_iff filter accepted unambiguous r stored
  have isTag : (findByFilter filter).isTagQuery = !filter.criteria.isEmpty := by
    simp only [findByFilter, tagQueries_eq filter accepted]
  unfold copies joinedRows Query.joined
  by_cases noTags : filter.criteria = []
  · have same : (findByFilter filter).accepts r none =
        isEventMatchingFilter (withoutTags filter) (toNostrEvent r) := by
      rw [Bool.eq_iff_iff, each, base]
      simp [noTags]
    simp [isTag, noTags, same, List.countP_cons]
  · have both : (findByFilter filter).sources = [eventsSource, eventTagsSource] := by
      simp [Query.sources, isTag, noTags]
    have clauses (tag : Option EventTag) : (findByFilter filter).accepts r tag = true ↔
        BaseMatch filter (toNostrEvent r) ∧
          ∀ c ∈ filter.criteria, ∃ found, tag = some found ∧ TagHolds found c := by
      rw [each, both, List.all_flatMap, List.all_eq_true]
      exact and_congr_right fun _ => forall₂_congr fun c _ => tagCriteria_hold r tag c
    obtain ⟨first, member⟩ := List.exists_mem_of_ne_nil _ noTags
    have unmatched : (findByFilter filter).accepts r none = false := by
      rw [Bool.eq_false_iff]
      intro accepts
      obtain ⟨_, isNone, _⟩ := ((clauses none).mp accepts).2 first member
      cases isNone
    have matched (tag : EventTag) : (findByFilter filter).accepts r (some tag) =
        (isEventMatchingFilter (withoutTags filter) (toNostrEvent r) &&
          meetsCriteria filter (tag.tagName, tag.tagValue)) := by
      rw [Bool.eq_iff_iff, clauses, Bool.and_eq_true, base, meetsCriteria_iff]
      simp
    have own : (database.eventTags.filter fun tag => r.eventId == tag.eventId) =
        database.eventTags.filter fun tag => tag.eventId == r.eventId :=
      List.filter_congr fun tag _ => Bool.beq_comm
    simp only [isTag, List.isEmpty_eq_false_iff.mpr noTags, Bool.not_false, if_true, Bool.false_eq_true,
      if_false, countP_leftJoin _ _ _ _ unmatched, matched, own]
    cases isEventMatchingFilter (withoutTags filter) (toNostrEvent r) with
    | false => simp
    | true =>
      have pairs := mirrored.countP_eq (meetsCriteria filter)
      rw [List.countP_map] at pairs
      simpa [matchingTags, Function.comp_def] using pairs

section Single

variable (database : Database) (filter : SubscriptionFilter) (accepted : Accepted filter)
  (unambiguous : Unambiguous filter) (stored : ∀ r ∈ database.events, IsStored r)
  (constrained : Constrained database.events)
  (mirrors : Mirrors { events := database.events, eventTags := database.eventTags })

include accepted unambiguous stored mirrors

theorem copies_row (r : DBEvent) (member : r ∈ database.events) :
    copies database (findByFilter filter) r = joinedRows filter r :=
  copies_eq database filter accepted unambiguous r (stored r member) (mirrors.exact r member)

theorem rank_eq (r : DBEvent) :
    Ranking.rank (database.sortKey (findByFilter filter).orderBy)
      (database.candidates (findByFilter filter)) r = rowsAhead database filter r := by
  rw [Ranking.rank, candidates_eq, List.countP_flatMap, rowsAhead]
  refine congrArg List.sum (List.map_congr_left fun other member => ?_)
  have own := copies_row database filter accepted unambiguous stored mirrors other member
  simp [List.countP_replicate, own]

include constrained

theorem count_rows (r : DBEvent) (member : r ∈ database.events) :
    (database.rows (findByFilter filter)).count r =
      min (joinedRows filter r) ((findByFilter filter).limit - rowsAhead database filter r) := by
  have separates := separates_sortKey database (findByFilter filter).orderBy _
    (candidates_subset database (findByFilter filter))
  have own := copies_row database filter accepted unambiguous stored mirrors r member
  have distinct := nodup_of_constrained database.events constrained
  rw [Database.rows, Ranking.count_first _ _ separates,
    rank_eq database filter accepted unambiguous stored mirrors, candidates_eq,
    count_flatMap_replicate _ distinct _ r member, own]

end Single

theorem nodup_unionRows (database : Database) (query : Query) (subqueries : List Query) :
    (database.unionRows query subqueries).Nodup :=
  Ranking.nodup_first _ _ (List.nodup_dedup _)

theorem stored_sent_once_iff (database : Database) (filters : List SubscriptionFilter)
    (schema : filters.all filterSchema = true) (stored : ∀ r ∈ database.events, IsStored r)
    (constrained : Constrained database.events)
    (mirrors : Mirrors { events := database.events, eventTags := database.eventTags })
    (subscriptionId : JsString) :
    (sentIds (storedMessages database subscriptionId filters)).Nodup ↔
      OnceCondition database filters := by
  match filters with
  | [] => simp [storedMessages, findByFilters, sentIds, OnceCondition]
  | [filter] =>
    have accepted := accepted_of_schema filter (by simpa using schema)
    by_cases valid : (findByFilter filter).valid = true
    · have unambiguous := ((valid_iff filter accepted).mp valid).1
      have inside := rows_subset database (findByFilter filter)
      simp only [storedMessages, findByFilters, valid, if_true, OnceCondition, true_implies]
      rw [nodup_sentIds database constrained subscriptionId [filter] _ inside]
      refine forall₂_congr fun r member => ?_
      rw [count_rows database filter accepted unambiguous stored constrained mirrors r member]
      simp only [isSent, isClientSubscribedToEvent, List.any_cons, List.any_nil, Bool.or_false,
        Bool.and_eq_true, and_imp]
      refine forall₂_congr fun _ _ => ?_
      omega
    · simp [storedMessages, findByFilters, sentIds, OnceCondition, valid]
  | filter :: second :: rest =>
    simp only [OnceCondition, iff_true, storedMessages, findByFilters]
    split
    next rows found =>
      split_ifs at found with valid
      cases found
      rw [nodup_sentIds database constrained subscriptionId _ _ (unionRows_subset database _ _)]
      exact fun r _ _ => List.nodup_iff_count_le_one.mp (nodup_unionRows database _ _) r
    next => simp [sentIds]

def topicsRow : DBEvent :=
  { storedNote 1 1700000000 (List.replicate 32 2) with
    eventTags := [["t".toList, "nostr".toList], ["t".toList, "lightning".toList]] }

def topics : Database where
  events := [topicsRow]
  eventTags := exactRows topicsRow
  place _ := 0
  placed := by simp [Ranking.Separates]

theorem topics_indexed : Indexed { events := topics.events, eventTags := topics.eventTags } :=
  ⟨List.pairwise_singleton .., by decide⟩

theorem topics_stored : ∀ r ∈ topics.events, IsStored r := by
  intro r member
  rw [List.mem_singleton.mp member]
  constructor <;> decide

theorem one_topic_sent_once :
    (sentIds (storedMessages topics (js "feed") [{ criteria := [(js "#t", [js "nostr"])] }])).Nodup := by
  have sent := stored_sent_once_iff topics [{ criteria := [(js "#t", [js "nostr"])] }] (by decide)
    topics_stored topics_indexed.constrained topics_indexed.mirrors (js "feed")
  refine sent.mpr fun _ r member _ _ => .inl ?_
  rw [List.mem_singleton.mp member]
  decide

def twoTopics : SubscriptionFilter := { criteria := [(js "#t", [js "nostr", js "lightning"])] }

theorem two_topics_sent_twice :
    ¬ ∀ (database : Database) (filters : List SubscriptionFilter), filters.all filterSchema = true →
      (∀ r ∈ database.events, IsStored r) → Constrained database.events →
        Mirrors { events := database.events, eventTags := database.eventTags } →
          ∀ subscriptionId, (sentIds (storedMessages database subscriptionId filters)).Nodup := by
  intro claim
  have accepted := accepted_of_schema twoTopics (by decide)
  have found : topics.findByFilters [twoTopics] = .ok (topics.rows (findByFilter twoTopics)) := by
    simp only [findByFilters, show (findByFilter twoTopics).valid = true by decide, if_true]
  have distinct := claim topics [twoTopics] (by decide) topics_stored topics_indexed.constrained
    topics_indexed.mirrors (js "feed")
  rw [storedMessages, found] at distinct
  have few := (nodup_sentIds topics topics_indexed.constrained _ _ _ (rows_subset topics _)).mp
    distinct topicsRow (by decide) (by decide)
  rw [count_rows topics twoTopics accepted (.inr rfl) topics_stored topics_indexed.constrained
    topics_indexed.mirrors topicsRow (by decide)] at few
  exact absurd few (by decide)

end Nostream.StoredOnce
