import Nostream.Handlers.StoredOnce

set_option autoImplicit false

namespace Nostream.NewestEvents

open Utf16 Hex Sql Database FilterAgreement QueryAgreement FilterUnion TagIndex
open SubscribeMessageHandler StoredOnce

def sentEvent : OutgoingMessage → Option Event
  | .event _ event => some event
  | _ => none

def sentEvents (messages : List OutgoingMessage) : List Event := messages.filterMap sentEvent

def isLive (r : DBEvent) : Bool := r.deletedAt.isNone

def matching (database : Database) (filter : SubscriptionFilter) : List DBEvent :=
  database.events.filter fun r => isEventMatchingFilter filter (toNostrEvent r)

def newer (database : Database) (filter : SubscriptionFilter) (r : DBEvent) : Nat :=
  Ranking.rank (database.sortKey .descending) (matching database filter) r

structure NewestSent (database : Database) (filter : SubscriptionFilter) (limit : Nat)
    (messages : List OutgoingMessage) : Prop where
  distinct : (sentEvents messages).Nodup
  length : (sentEvents messages).length = min limit ((matching database filter).countP isLive)
  newest : ∀ r ∈ matching database filter, isLive r = true → toNostrEvent r ∉ sentEvents messages →
    ∀ event ∈ sentEvents messages, r.eventCreatedAt ≤ event.createdAt

def HasRoom (database : Database) (filter : SubscriptionFilter) (limit : Nat) : Prop :=
  (∀ r ∈ matching database filter, isLive r = false → limit ≤ newer database filter r) ∨
    ∀ r ∈ matching database filter, isLive r = true → newer database filter r < limit

instance (database : Database) (filter : SubscriptionFilter) (limit : Nat) :
    Decidable (HasRoom database filter limit) := inferInstanceAs (Decidable (_ ∨ _))

def LimitCondition (database : Database) (filter : SubscriptionFilter) (limit : Nat) : Prop :=
  min limit ((matching database filter).countP isLive) = 0 ∨
    (Bindable filter ∧ HasRoom database filter limit)

theorem sentEvents_fetchAndSend (subscriptionId : JsString) (filters : List SubscriptionFilter)
    (findEvents : List DBEvent) :
    sentEvents (fetchAndSend subscriptionId filters findEvents) =
      (findEvents.filter (isSent filters)).map toNostrEvent := by
  have none : sentEvents [createEndOfStoredEventsNoticeMessage subscriptionId] = [] := rfl
  rw [sentEvents] at none
  rw [sentEvents, fetchAndSend, List.filterMap_append, none, List.append_nil, List.filterMap_map]
  have all : sentEvent ∘ createOutgoingEventMessage subscriptionId = some := rfl
  rw [all, List.filterMap_some, List.filter_map, List.filter_filter]
  congr 1
  exact List.filter_congr fun r _ => Bool.and_comm ..

theorem matching_subset (database : Database) (filter : SubscriptionFilter) :
    ∀ r ∈ matching database filter, r ∈ database.events := fun _ member => List.mem_of_mem_filter member

theorem createdAt_le_of_sortKey (database : Database) {a b : DBEvent}
    (ahead : database.sortKey .descending a ≤ database.sortKey .descending b) :
    b.eventCreatedAt ≤ a.eventCreatedAt := by
  rw [sortKey, sortKey, Prod.Lex.toLex_le_toLex] at ahead
  omega

section Single

variable (database : Database) (filter : SubscriptionFilter) (limit : Int)
  (accepted : Accepted filter) (noTags : filter.criteria = []) (limited : filter.limit = some limit)
  (stored : ∀ r ∈ database.events, IsStored r) (constrained : Constrained database.events)

include accepted noTags

theorem accepts_matching (r : DBEvent) (isStored : IsStored r) :
    (findByFilter filter).accepts r none = isEventMatchingFilter filter (toNostrEvent r) := by
  rw [Bool.eq_iff_iff, accepts_iff filter accepted (.inl noTags) r isStored, matching_iff filter accepted]
  simp [noTags]

include stored

theorem candidates_matching : database.candidates (findByFilter filter) = matching database filter := by
  have isTag : (findByFilter filter).isTagQuery = false := by
    simp [findByFilter, tagQueries_eq filter accepted, noTags]
  simp only [Database.candidates, matching, Query.joined, isTag, Bool.false_eq_true, if_false]
  generalize database.events = events at stored
  induction events with
  | nil => rfl
  | cons r rest ih =>
    have first := accepts_matching filter accepted noTags r (stored r List.mem_cons_self)
    have others := ih fun other member => stored other (List.mem_cons_of_mem r member)
    rw [List.flatMap_cons, others, List.filter_cons, List.filter_cons, first]
    cases isEventMatchingFilter filter (toNostrEvent r) <;> rfl

include limited

theorem rows_matching :
    database.rows (findByFilter filter) =
      Ranking.first (database.sortKey .descending) limit.toNat (matching database filter) := by
  rw [rows, candidates_matching database filter accepted noTags stored]
  simp [findByFilter, limited]

omit accepted noTags limited stored in
theorem isSent_matching (r : DBEvent) (matched : isEventMatchingFilter filter (toNostrEvent r) = true) :
    isSent [filter] r = isLive r := by
  simp [isSent, isLive, isClientSubscribedToEvent, matched]

theorem sentEvents_rows (subscriptionId : JsString) :
    sentEvents (fetchAndSend subscriptionId [filter] (database.rows (findByFilter filter))) =
      ((Ranking.first (database.sortKey .descending) limit.toNat (matching database filter)).filter
        isLive).map toNostrEvent := by
  rw [sentEvents_fetchAndSend, rows_matching database filter limit accepted noTags limited stored]
  congr 1
  refine List.filter_congr fun r member => isSent_matching filter r ?_
  exact (List.mem_filter.mp ((Ranking.subperm_first _ _).subset member)).2

include constrained

theorem newestSent_rows (subscriptionId : JsString) :
    NewestSent database filter limit.toNat
        (fetchAndSend subscriptionId [filter] (database.rows (findByFilter filter))) ↔
      (Ranking.first (database.sortKey .descending) limit.toNat (matching database filter)).countP isLive =
        min limit.toNat ((matching database filter).countP isLive) := by
  have sent := sentEvents_rows database filter limit accepted noTags limited stored subscriptionId
  have separates := separates_sortKey database .descending _ (matching_subset database filter)
  have inside : ∀ r ∈ (Ranking.first (database.sortKey .descending) limit.toNat
      (matching database filter)).filter isLive, r ∈ database.events := fun r member =>
    matching_subset database filter r ((Ranking.subperm_first _ _).subset (List.mem_filter.mp member).1)
  constructor
  · intro promised
    have length := promised.length
    rwa [sent, List.length_map, ← List.countP_eq_length_filter] at length
  · intro length
    refine ⟨?_, ?_, ?_⟩
    · rw [sent]
      refine List.Nodup.map_on (fun a inA b inB same => ?_) ?_
      · exact eq_of_eventId database.events constrained b a (inside b inB) (inside a inA)
          (toHex_injective (congrArg Event.id same))
      · exact (Ranking.nodup_first _ _ ((nodup_of_constrained _ constrained).filter _)).filter _
    · rw [sent, List.length_map, ← List.countP_eq_length_filter, length]
    · intro r member live missing event isSent
      rw [sent, List.mem_map] at missing isSent
      obtain ⟨other, found, rfl⟩ := isSent
      have out : r ∉ Ranking.first (database.sortKey .descending) limit.toNat (matching database filter) :=
        fun early => missing ⟨r, List.mem_filter.mpr ⟨early, live⟩, rfl⟩
      have ahead := Ranking.le_of_not_mem_first _ _ separates (List.mem_filter.mp found).1 member out
      exact createdAt_le_of_sortKey database ahead

theorem newestSent_valid (valid : (findByFilter filter).valid = true) (subscriptionId : JsString) :
    NewestSent database filter limit.toNat (storedMessages database subscriptionId [filter]) ↔
      HasRoom database filter limit.toNat := by
  have messages : storedMessages database subscriptionId [filter] =
      fetchAndSend subscriptionId [filter] (database.rows (findByFilter filter)) := by
    simp [storedMessages, findByFilters, valid]
  have distinct : (matching database filter).Nodup := (nodup_of_constrained _ constrained).filter _
  have separates := separates_sortKey database .descending _ (matching_subset database filter)
  rw [messages, newestSent_rows database filter limit accepted noTags limited stored constrained]
  exact Ranking.countP_first_iff limit.toNat _ distinct separates isLive

end Single

theorem newest_iff (database : Database) (filter : SubscriptionFilter) (limit : Int)
    (schema : filterSchema filter = true) (noTags : filter.criteria = []) (limited : filter.limit = some limit)
    (stored : ∀ r ∈ database.events, IsStored r) (constrained : Constrained database.events)
    (subscriptionId : JsString) :
    NewestSent database filter limit.toNat (storedMessages database subscriptionId [filter]) ↔
      LimitCondition database filter limit.toNat := by
  have accepted := accepted_of_schema filter schema
  by_cases valid : (findByFilter filter).valid = true
  · have bindable := ((valid_iff filter accepted).mp valid).2
    have room := newestSent_valid database filter limit accepted noTags limited stored constrained valid
      subscriptionId
    refine ⟨fun promised => .inr ⟨bindable, room.mp promised⟩, ?_⟩
    rintro (empty | ⟨_, fits⟩)
    · rw [Nat.min_eq_zero_iff] at empty
      rcases empty with none | none
      · exact room.mpr (.inl fun r _ _ => none ▸ Nat.zero_le _)
      · rw [List.countP_eq_zero] at none
        exact room.mpr (.inr fun r member live => (none r member live).elim)
    · exact room.mpr fits
  · have unbindable : ¬ Bindable filter := fun bindable =>
      valid ((valid_iff filter accepted).mpr ⟨.inl noTags, bindable⟩)
    have messages : storedMessages database subscriptionId [filter] = [] := by
      simp [storedMessages, findByFilters, valid]
    rw [messages]
    constructor
    · intro promised
      exact .inl promised.length.symm
    · rintro (empty | ⟨bindable, _⟩)
      · exact ⟨List.nodup_nil, empty.symm, by simp [sentEvents]⟩
      · exact (unbindable bindable).elim

def noteFilter : SubscriptionFilter := { kinds := some [1], limit := some 1 }

theorem isStored_note (kind createdAt : Int) (first : UInt8) (kindFits : int4Range kind = true)
    (createdAtFits : int4Range createdAt = true) :
    IsStored (storedNote kind createdAt (List.replicate 32 first)) :=
  ⟨rfl, rfl, kindFits, createdAtFits, by simp [storedNote]⟩

theorem note_sent :
    NewestSent noteAndProfile noteFilter 1 (storedMessages noteAndProfile (js "feed") [noteFilter]) := by
  have stored : ∀ r ∈ noteAndProfile.events, IsStored r := by
    simp only [noteAndProfile, List.forall_mem_cons, List.not_mem_nil, false_implies, implies_true, and_true]
    exact ⟨isStored_note 1 _ 2 rfl rfl, isStored_note 0 _ 3 rfl rfl⟩
  have constrained : Constrained noteAndProfile.events := by
    unfold Constrained
    decide
  refine (newest_iff noteAndProfile noteFilter 1 (by decide) rfl rfl stored constrained (js "feed")).mpr
    (.inr ⟨?_, by decide⟩)
  constructor <;> simp [noteFilter, int4Range]

def newestDeleted : Database where
  events := [storedNote 1 1700000000 (List.replicate 32 2),
    { storedNote 1 1700000001 (List.replicate 32 3) with deletedAt := some 1700000002 }]
  eventTags := []
  place r := (r.eventId.headD 0).toNat
  placed := by
    unfold Ranking.Separates
    decide

theorem live_note_not_sent :
    ¬ ∀ (database : Database) (filter : SubscriptionFilter) (limit : Int), filterSchema filter = true →
      filter.criteria = [] → filter.limit = some limit → (∀ r ∈ database.events, IsStored r) →
        Constrained database.events → ∀ subscriptionId,
          NewestSent database filter limit.toNat (storedMessages database subscriptionId [filter]) := by
  intro claim
  have stored : ∀ r ∈ newestDeleted.events, IsStored r := by
    simp only [newestDeleted, List.forall_mem_cons, List.not_mem_nil, false_implies, implies_true, and_true]
    have deleted := isStored_note 1 1700000001 3 rfl rfl
    exact ⟨isStored_note 1 _ 2 rfl rfl,
      ⟨deleted.eventId, deleted.eventPubkey, deleted.eventKind, deleted.eventCreatedAt, deleted.eventTags⟩⟩
  have constrained : Constrained newestDeleted.events := by
    unfold Constrained
    decide
  have promised := claim newestDeleted noteFilter 1 (by decide) rfl rfl stored constrained (js "feed")
  have accepted := accepted_of_schema noteFilter (by decide)
  rw [newestSent_valid newestDeleted noteFilter 1 accepted rfl rfl stored constrained (by decide)] at promised
  exact absurd promised (by decide)

end Nostream.NewestEvents
