import Nostream.Repositories.UnionOfFilters

set_option autoImplicit false

namespace Nostream.FilterUnion

open Utf16 Hex Sql Database

def picks (database : Database) (query : Query) (r : DBEvent) : Bool :=
  decide (r ∈ database.candidates query) &&
    decide (Ranking.rank (database.sortKey query.orderBy) (database.candidates query) r < query.limit)

def pickedBy (database : Database) (queries : List Query) (r : DBEvent) : Bool :=
  queries.any fun query => picks database query r

def picked (database : Database) (queries : List Query) : List DBEvent :=
  database.events.dedup.filter (pickedBy database queries)

structure FitsFirst (database : Database) (query : Query) (queries : List Query) : Prop where
  few : (picked database queries).length ≤ query.limit
  behind : ∀ r ∈ database.candidates query, pickedBy database queries r = false →
    (picked database queries).length = query.limit ∧
      ∀ a ∈ picked database queries,
        database.sortKey query.orderBy a < database.sortKey query.orderBy r

def UnionCondition (database : Database) : List SubscriptionFilter → Prop
  | [] => True
  | [_] => True
  | filter :: second :: rest =>
    if (filter :: second :: rest).all fun f => (findByFilter f).valid then
      FitsFirst database (findByFilter filter) ((filter :: second :: rest).map findByFilter)
    else ∀ f ∈ filter :: second :: rest, (findByFilter f).valid = true →
      ∀ r, picks database (findByFilter f) r = false

def selected (database : Database) (filters : List SubscriptionFilter) : Set DBEvent :=
  { r | ∃ rows, database.findByFilters filters = .ok rows ∧ r ∈ rows }

theorem mem_candidates (database : Database) (query : Query) (r : DBEvent) :
    r ∈ database.candidates query ↔ r ∈ database.events ∧ query.selects database.eventTags r = true := by
  simp only [Database.candidates, List.mem_flatMap, List.mem_map, List.mem_filter, Query.selects, List.any_eq_true]
  constructor
  · rintro ⟨event, inTable, tag, accepted, rfl⟩
    exact ⟨inTable, tag, accepted⟩
  · rintro ⟨inTable, tag, accepted⟩
    exact ⟨r, inTable, tag, accepted, rfl⟩

theorem candidates_subset (database : Database) (query : Query) :
    ∀ r ∈ database.candidates query, r ∈ database.events :=
  fun r member => ((mem_candidates database query r).mp member).1

theorem separates_sortKey (database : Database) (orderBy : Direction) (l : List DBEvent)
    (inside : ∀ r ∈ l, r ∈ database.events) : Ranking.Separates (database.sortKey orderBy) l := by
  intro a inA b inB tie
  refine database.placed a (inside a inA) b (inside b inB) ?_
  cases orderBy <;> exact congrArg (fun key => (ofLex key).2) tie

theorem mem_rows (database : Database) (query : Query) (r : DBEvent) :
    r ∈ database.rows query ↔ picks database query r = true := by
  rw [rows, Ranking.mem_first _ _ (separates_sortKey database _ _ (candidates_subset database query))]
  simp [picks]

theorem picks_event (database : Database) (query : Query) (r : DBEvent)
    (pick : picks database query r = true) : r ∈ database.candidates query := by
  simp only [picks, Bool.and_eq_true, decide_eq_true_eq] at pick
  exact pick.1

theorem selected_single (database : Database) (filter : SubscriptionFilter) (r : DBEvent) :
    r ∈ selected database [filter] ↔
      (findByFilter filter).valid = true ∧ picks database (findByFilter filter) r = true := by
  simp only [selected, findByFilters, Set.mem_ofPred_eq, ← mem_rows]
  by_cases valid : (findByFilter filter).valid = true <;> simp [valid]

theorem selected_rejected (database : Database) (filter second : SubscriptionFilter)
    (rest : List SubscriptionFilter)
    (rejected : ((filter :: second :: rest).all fun f => (findByFilter f).valid) = false) :
    selected database (filter :: second :: rest) = ∅ := by
  ext r
  simp [selected, findByFilters, rejected]

theorem selected_valid (database : Database) (filter second : SubscriptionFilter)
    (rest : List SubscriptionFilter)
    (valid : ((filter :: second :: rest).all fun f => (findByFilter f).valid) = true) (r : DBEvent) :
    r ∈ selected database (filter :: second :: rest) ↔
      r ∈ database.unionRows (findByFilter filter) ((second :: rest).map findByFilter) := by
  simp [selected, findByFilters, valid]

theorem mem_branches (database : Database) (query : Query) (subqueries : List Query) (r : DBEvent) :
    r ∈ database.branches query subqueries ↔
      r ∈ database.candidates query ∨ pickedBy database subqueries r = true := by
  simp [branches, pickedBy, mem_rows]

theorem branches_subset (database : Database) (query : Query) (subqueries : List Query) :
    ∀ r ∈ database.branches query subqueries, r ∈ database.events := by
  intro r member
  rcases (mem_branches ..).mp member with candidate | pick
  · exact candidates_subset database query r candidate
  · obtain ⟨subquery, _, pick⟩ := List.any_eq_true.mp pick
    exact candidates_subset database subquery r (picks_event database subquery r pick)

theorem pickedBy_branches (database : Database) (query : Query) (subqueries : List Query) (r : DBEvent)
    (pick : pickedBy database (query :: subqueries) r = true) :
    r ∈ database.branches query subqueries := by
  rw [mem_branches]
  simp only [pickedBy, List.any_cons, Bool.or_eq_true] at pick ⊢
  exact pick.imp_left (picks_event database query r)

theorem countP_branches (database : Database) (query : Query) (subqueries : List Query) :
    (database.branches query subqueries).countP (pickedBy database (query :: subqueries)) =
      (picked database (query :: subqueries)).length := by
  rw [List.countP_eq_length_filter]
  refine List.Perm.length_eq ((List.perm_ext_iff_of_nodup ?_ ?_).mpr fun r => ?_)
  · exact (List.nodup_dedup _).filter _
  · exact (List.nodup_dedup _).filter _
  · rw [picked, List.mem_filter, List.mem_filter, List.mem_dedup]
    refine and_congr_left fun pick => ?_
    have inBranches := pickedBy_branches database query subqueries r pick
    exact iff_of_true inBranches (branches_subset database query subqueries r inBranches)

theorem mem_picked (database : Database) (query : Query) (subqueries : List Query) (r : DBEvent) :
    r ∈ picked database (query :: subqueries) ↔
      r ∈ database.branches query subqueries ∧ pickedBy database (query :: subqueries) r = true := by
  rw [picked, List.mem_filter, List.mem_dedup]
  refine and_congr_left fun pick => ?_
  have inBranches := pickedBy_branches database query subqueries r pick
  exact iff_of_true (branches_subset database query subqueries r inBranches) inBranches

theorem leads_iff (database : Database) (query : Query) (subqueries : List Query) :
    Ranking.Leads (database.sortKey query.orderBy) query.limit (database.branches query subqueries)
        (pickedBy database (query :: subqueries)) ↔
      FitsFirst database query (query :: subqueries) := by
  rw [Ranking.Leads, countP_branches]
  constructor
  · rintro ⟨few, behind⟩
    refine ⟨few, fun r candidate unpicked => ?_⟩
    obtain ⟨full, ahead⟩ := behind r ((mem_branches ..).mpr (.inl candidate)) unpicked
    refine ⟨full, fun a inPicked => ?_⟩
    obtain ⟨inBranches, pick⟩ := (mem_picked ..).mp inPicked
    exact ahead a inBranches pick
  · rintro ⟨few, behind⟩
    refine ⟨few, fun r inBranches unpicked => ?_⟩
    have candidate : r ∈ database.candidates query := by
      refine ((mem_branches ..).mp inBranches).resolve_right fun pick => ?_
      simp only [pickedBy, List.any_cons, Bool.or_eq_false_iff] at unpicked
      exact absurd (unpicked.2.symm.trans pick) (by simp)
    obtain ⟨full, ahead⟩ := behind r candidate unpicked
    exact ⟨full, fun a inBranches pick => ahead a ((mem_picked ..).mpr ⟨inBranches, pick⟩)⟩

theorem rows_subset (database : Database) (query : Query) :
    ∀ r ∈ database.rows query, r ∈ database.events := by
  intro r member
  have pick := (mem_rows database query r).mp member
  exact candidates_subset database query r (picks_event database query r pick)

theorem unionRows_subset (database : Database) (query : Query) (subqueries : List Query) :
    ∀ r ∈ database.unionRows query subqueries, r ∈ database.events := by
  intro r member
  have separates := separates_sortKey database query.orderBy _
    (branches_subset database query subqueries)
  exact branches_subset database query subqueries r ((Ranking.mem_first _ _ separates r).mp member).1

theorem findByFilters_subset (database : Database) (filters : List SubscriptionFilter)
    (rows : List DBEvent) (found : database.findByFilters filters = .ok rows) :
    ∀ r ∈ rows, r ∈ database.events := by
  unfold findByFilters at found
  split at found
  · cases found
  · split at found <;> cases found
    exact rows_subset database _
  · split at found <;> cases found
    exact unionRows_subset database _ _

theorem mem_union_single (database : Database) (filters : List SubscriptionFilter) (r : DBEvent) :
    (r ∈ ⋃ filter ∈ filters, selected database [filter]) ↔
      ∃ filter ∈ filters, (findByFilter filter).valid = true ∧
        picks database (findByFilter filter) r = true := by
  simp only [Set.mem_iUnion, selected_single, exists_prop]

theorem union_valid (database : Database) (filter second : SubscriptionFilter)
    (rest : List SubscriptionFilter)
    (valid : ((filter :: second :: rest).all fun f => (findByFilter f).valid) = true) :
    (selected database (filter :: second :: rest) =
        ⋃ f ∈ filter :: second :: rest, selected database [f]) ↔
      FitsFirst database (findByFilter filter) ((filter :: second :: rest).map findByFilter) := by
  have subset := branches_subset database (findByFilter filter) ((second :: rest).map findByFilter)
  have separates := separates_sortKey database (findByFilter filter).orderBy _ subset
  have single (r : DBEvent) : (r ∈ ⋃ f ∈ filter :: second :: rest, selected database [f]) ↔
      pickedBy database ((filter :: second :: rest).map findByFilter) r = true := by
    rw [mem_union_single, pickedBy, List.any_map, List.any_eq_true]
    refine exists_congr fun f => and_congr_right fun member => ?_
    exact and_iff_right (List.all_eq_true.mp valid f member)
  have inFirst (r : DBEvent) (member : r ∈ selected database (filter :: second :: rest)) :
      r ∈ database.branches (findByFilter filter) ((second :: rest).map findByFilter) := by
    rw [selected_valid database filter second rest valid] at member
    exact ((Ranking.mem_first _ _ separates r).mp member).1
  have distinct : (database.branches (findByFilter filter) ((second :: rest).map findByFilter)).Nodup :=
    List.nodup_dedup _
  rw [List.map_cons, ← leads_iff, ← Ranking.first_eq_iff _ _ distinct separates, Set.ext_iff]
  constructor
  · intro same r _
    exact (selected_valid database filter second rest valid r).symm.trans ((same r).trans (single r))
  · intro same r
    rw [single]
    constructor
    · intro member
      exact (same r (inFirst r member)).mp ((selected_valid database filter second rest valid r).mp member)
    · intro pick
      have member := pickedBy_branches database _ _ r pick
      exact (selected_valid database filter second rest valid r).mpr ((same r member).mpr pick)

theorem union_rejected (database : Database) (filter second : SubscriptionFilter)
    (rest : List SubscriptionFilter)
    (rejected : ((filter :: second :: rest).all fun f => (findByFilter f).valid) = false) :
    (selected database (filter :: second :: rest) =
        ⋃ f ∈ filter :: second :: rest, selected database [f]) ↔
      ∀ f ∈ filter :: second :: rest, (findByFilter f).valid = true →
        ∀ r, picks database (findByFilter f) r = false := by
  rw [selected_rejected database filter second rest rejected, eq_comm, Set.eq_empty_iff_forall_notMem]
  simp only [mem_union_single, not_exists, not_and, Bool.not_eq_true]
  exact ⟨fun none f member valid r => none r f member valid, fun none r f member valid => none f member valid r⟩

theorem selected_eq_union_iff (database : Database) (filters : List SubscriptionFilter) :
    (selected database filters = ⋃ filter ∈ filters, selected database [filter]) ↔
      UnionCondition database filters := by
  match filters with
  | [] => simp [UnionCondition, selected, findByFilters]
  | [filter] => simp [UnionCondition]
  | filter :: second :: rest =>
    cases valid : (filter :: second :: rest).all fun f => (findByFilter f).valid with
    | true => rw [UnionCondition, if_pos valid, union_valid database filter second rest valid]
    | false =>
      rw [UnionCondition, if_neg (by simp [valid]), union_rejected database filter second rest valid]

theorem fitsFirst_of_distinct (database : Database) (query : Query) (subqueries : List Query)
    (once : (database.candidates query).Nodup) :
    FitsFirst database query (query :: subqueries) ↔
      (picked database (query :: subqueries)).length ≤ query.limit := by
  refine ⟨FitsFirst.few, fun few => ⟨few, fun r candidate unpicked => ?_⟩⟩
  have separates := separates_sortKey database query.orderBy _ (candidates_subset database query)
  have own : ∀ a ∈ database.rows query, a ∈ picked database (query :: subqueries) := by
    intro a member
    have pick := (mem_rows database query a).mp member
    have event := candidates_subset database query a (picks_event database query a pick)
    exact List.mem_filter.mpr ⟨List.mem_dedup.mpr event, by simp [pickedBy, pick]⟩
  have late : query.limit ≤ Ranking.rank (database.sortKey query.orderBy) (database.candidates query) r := by
    simp only [pickedBy, List.any_cons, Bool.or_eq_false_iff, picks, candidate] at unpicked
    simpa using unpicked.1
  have long : query.limit ≤ (database.candidates query).length := late.trans List.countP_le_length
  have full : (database.rows query).length = query.limit :=
    (Ranking.length_first ..).trans (min_eq_left long)
  have distinct : (database.rows query).Nodup := Ranking.nodup_first _ _ once
  have subperm : (database.rows query).Subperm (picked database (query :: subqueries)) :=
    distinct.subperm own
  have same := subperm.perm_of_length_le (by omega)
  refine ⟨same.length_eq ▸ full, fun a inPicked => ?_⟩
  have early := ((Ranking.mem_first _ _ separates a).mp (same.mem_iff.mpr inPicked)).2
  by_contra notLess
  have monotone := Ranking.rank_le_rank (database.candidates query) (not_lt.mp notLess)
  omega

theorem union_of_filters (database : Database) (filters : List SubscriptionFilter) :
    ((selected database filters = ⋃ filter ∈ filters, selected database [filter]) ↔
      UnionCondition database filters) ∧
    ∀ others, others.Perm filters → UnionCondition database filters →
      UnionCondition database others → selected database others = selected database filters := by
  refine ⟨selected_eq_union_iff database filters, fun others perm condition otherCondition => ?_⟩
  rw [(selected_eq_union_iff database filters).mpr condition,
    (selected_eq_union_iff database others).mpr otherCondition]
  ext r
  simp only [Set.mem_iUnion, perm.mem_iff]

def storedNote (kind : Int) (createdAt : Int) (eventId : Bytes) : DBEvent :=
  { eventId := eventId, eventPubkey := List.replicate 32 1, eventCreatedAt := createdAt, eventKind := kind,
    eventTags := [], eventContent := [], eventSignature := [], eventDeduplication := none,
    remoteAddress := none, expiresAt := none, deletedAt := none }

def noteAndProfile : Database where
  events := [storedNote 1 1700000000 (List.replicate 32 2), storedNote 0 1700000001 (List.replicate 32 3)]
  eventTags := []
  place r := (r.eventId.headD 0).toNat
  placed := by
    unfold Ranking.Separates
    decide

theorem notes_and_profiles_united :
    selected noteAndProfile [{ kinds := some [0] }, { kinds := some [1] }] =
      selected noteAndProfile [{ kinds := some [1] }, { kinds := some [0] }] := by
  have condition (kind : Int) (other : Int) (which : (kind = 1 ∧ other = 0) ∨ (kind = 0 ∧ other = 1)) :
      UnionCondition noteAndProfile [{ kinds := some [kind] }, { kinds := some [other] }] := by
    rcases which with ⟨rfl, rfl⟩ | ⟨rfl, rfl⟩ <;> rw [UnionCondition, if_pos (by decide)] <;>
      exact (fitsFirst_of_distinct noteAndProfile _ _ (by decide)).mpr (by decide)
  exact (union_of_filters noteAndProfile [{ kinds := some [1] }, { kinds := some [0] }]).2 _
    (List.Perm.swap ..) (condition 1 0 (by simp)) (condition 0 1 (by simp))

theorem one_note_one_profile_not_united :
    ¬ ∀ (database : Database) (filters : List SubscriptionFilter), filters ≠ [] →
      filters.all filterSchema = true →
        selected database filters = ⋃ filter ∈ filters, selected database [filter] := by
  intro claim
  have united := claim noteAndProfile
    [{ kinds := some [1], limit := some 1 }, { kinds := some [0], limit := some 1 }] (by simp) (by decide)
  rw [selected_eq_union_iff, UnionCondition, if_pos (by decide)] at united
  exact absurd united.few (by decide)

end Nostream.FilterUnion
