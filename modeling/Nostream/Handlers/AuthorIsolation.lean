import Nostream.Handlers.StrategyTables
import Nostream.Repositories.Writes
import Nostream.Shared.Unwinding
import Nostream.Utils.RecordedCrypto

set_option autoImplicit false

namespace Nostream.AuthorIsolation

open Utf16 Hex Sql Effects EventRepository StrategyTables Writes Unwinding

structure Execution where
  webSocket : IWebSocketAdapter
  fates : Fates
  event : Event

namespace Execution

def author (execution : Execution) : Bytes := ofHex execution.event.pubkey

def table (events : EventsTable) (execution : Execution) : EventsTable :=
  (((eventStrategyFactory execution.event).execute execution.webSocket (eventRepository execution.fates)
    execution.event).run { table := events }).2.table

end Execution

def rowsOf (author : Bytes) (events : EventsTable) : EventsTable :=
  events.filter fun r => r.eventPubkey == author

def Attributed (event : Event) (events : EventsTable) : Prop :=
  ∀ r ∈ events, r.eventId = ofHex event.id → r.eventPubkey = ofHex event.pubkey

theorem hasId_rowsOf (event : Event) (events : EventsTable) (attributed : Attributed event events) :
    hasId (rowsOf (ofHex event.pubkey) events) (ofHex event.id) = hasId events (ofHex event.id) := by
  rw [Bool.eq_iff_iff, hasId_iff, hasId_iff]
  constructor
  · rintro ⟨r, member, id⟩
    exact ⟨r, (List.mem_filter.mp member).1, id⟩
  · rintro ⟨r, member, id⟩
    exact ⟨r, List.mem_filter.mpr ⟨member, by simpa using attributed r member id⟩, id⟩

theorem rowsOf_append_own (author : Bytes) (events : EventsTable) (new : DBEvent)
    (own : new.eventPubkey = author) : rowsOf author (events ++ [new]) = rowsOf author events ++ [new] := by
  simp [rowsOf, own]

theorem rowsOf_append_other (author : Bytes) (events : EventsTable) (new : DBEvent)
    (other : new.eventPubkey ≠ author) : rowsOf author (events ++ [new]) = rowsOf author events := by
  simp [rowsOf, other]

theorem create_own (fate : Fate) (event : Event) (events : EventsTable)
    (attributed : Attributed event events) :
    rowsOf (ofHex event.pubkey) ((create fate event).run events).2 =
      ((create fate event).run (rowsOf (ofHex event.pubkey) events)).2 := by
  have same : inserts fate event (rowsOf (ofHex event.pubkey) events) = inserts fate event events := by
    rw [inserts, inserts, hasId_rowsOf event events attributed]
  rw [create_eq, create_eq, same]
  dsimp only
  split
  · exact rowsOf_append_own _ _ _ rfl
  · rfl

theorem create_other (fate : Fate) (event : Event) (events : EventsTable) (author : Bytes)
    (other : ofHex event.pubkey ≠ author) :
    rowsOf author ((create fate event).run events).2 = rowsOf author events := by
  simp only [create_eq]
  split
  · exact rowsOf_append_other _ _ _ other
  · rfl

theorem sameKey_author (row : EventRow) (r : DBEvent) (same : sameKey row r = true) :
    r.eventPubkey = row.eventPubkey := ((sameIndexKey_iff _ _).mp same).2.1

theorem find_rowsOf (row : EventRow) (events : EventsTable) :
    (rowsOf row.eventPubkey events).find? (sameKey row) = events.find? (sameKey row) := by
  rw [rowsOf, List.find?_filter]
  refine congrArg (fun test => events.find? test) (funext fun r => ?_)
  by_cases same : sameKey row r = true
  · simp [same, sameKey_author row r same]
  · simp [same]

theorem merged_own (row : EventRow) (events : EventsTable) :
    rowsOf row.eventPubkey (merged row events) = merged row (rowsOf row.eventPubkey events) := by
  rw [rowsOf, merged, List.filter_map]
  refine congrArg _ (List.filter_congr fun r _ => ?_)
  simp only [Function.comp_apply]
  split <;> rfl

theorem merged_other (row : EventRow) (events : EventsTable) (author : Bytes)
    (other : row.eventPubkey ≠ author) : rowsOf author (merged row events) = rowsOf author events := by
  rw [rowsOf, merged, List.filter_map]
  have kept : events.filter ((fun r => r.eventPubkey == author) ∘ fun r =>
      if sameKey row r then mergeRow r row.stored else r) = rowsOf author events := by
    refine List.filter_congr fun r _ => ?_
    simp only [Function.comp_apply]
    split <;> rfl
  rw [kept]
  refine (List.map_congr_left fun r member => if_neg fun same => ?_).trans (List.map_id _)
  have own := (List.mem_filter.mp member).2
  rw [sameKey_author row r same, beq_iff_eq] at own
  exact other own

theorem any_rowsOf (author : Bytes) (events : EventsTable) (test : DBEvent → Bool)
    (inside : ∀ r ∈ events, test r = true → r.eventPubkey = author) :
    (rowsOf author events).any test = events.any test := by
  rw [Bool.eq_iff_iff, List.any_eq_true, List.any_eq_true]
  constructor
  · rintro ⟨r, member, holds⟩
    exact ⟨r, (List.mem_filter.mp member).1, holds⟩
  · rintro ⟨r, member, holds⟩
    exact ⟨r, List.mem_filter.mpr ⟨member, by simpa using inside r member holds⟩, holds⟩

theorem insertMerge_own (row : EventRow) (events : EventsTable)
    (attributed : ∀ r ∈ events, r.eventId = row.eventId → r.eventPubkey = row.eventPubkey) :
    insertMerge row (rowsOf row.eventPubkey events) =
      (insertMerge row events).map fun outcome => (outcome.1, rowsOf row.eventPubkey outcome.2) := by
  have found : (rowsOf row.eventPubkey events).find? (fun r => sameIndexKey r row.stored) =
      events.find? fun r => sameIndexKey r row.stored := find_rowsOf row events
  have conflict := any_rowsOf row.eventPubkey events
    (fun r => !sameIndexKey r row.stored && r.eventId == row.eventId)
    (fun r member holds => attributed r member (by simp at holds; exact holds.2))
  have known := any_rowsOf row.eventPubkey events (fun r => r.eventId == row.eventId)
    (fun r member holds => attributed r member (by simpa using holds))
  unfold insertMerge
  rw [found, conflict, known]
  cases storable : row.storable with
  | false => rfl
  | true =>
    simp only [Bool.not_true, Bool.false_eq_true, if_false]
    cases events.find? fun r => sameIndexKey r row.stored with
    | some existing =>
      dsimp only
      split_ifs
      · rfl
      · exact congrArg (fun written => Except.ok (1, written)) (merged_own row events).symm
      · rfl
    | none =>
      dsimp only
      split_ifs
      · rfl
      · exact congrArg (fun written => Except.ok (1, written)) (rowsOf_append_own _ _ row.stored rfl).symm

theorem upsert_own (fate : Fate) (event : Event) (deduplication : Option (List JsString))
    (events : EventsTable) (attributed : Attributed event events) :
    rowsOf (ofHex event.pubkey) ((EventRepository.upsert fate event deduplication).run events).2 =
      ((EventRepository.upsert fate event deduplication).run (rowsOf (ofHex event.pubkey) events)).2 := by
  have own : insertMerge (upsertRow event deduplication) (rowsOf (ofHex event.pubkey) events) = _ :=
    insertMerge_own (upsertRow event deduplication) events attributed
  simp only [EventRepository.upsert, Statement.execute, Statement.outcome, own]
  cases insertMerge (upsertRow event deduplication) events <;> cases fate <;> rfl

theorem upsert_other (fate : Fate) (event : Event) (deduplication : Option (List JsString))
    (events : EventsTable) (author : Bytes) (other : ofHex event.pubkey ≠ author) :
    rowsOf author ((EventRepository.upsert fate event deduplication).run events).2 =
      rowsOf author events := by
  rcases upsert_written fate event deduplication events with same | ⟨count, _, outcome⟩
  · rw [same]
  · generalize ((EventRepository.upsert fate event deduplication).run events).2 = written at outcome
    cases outcome with
    | appended => exact rowsOf_append_other author events _ other
    | replaced => exact merged_other _ events author other
    | kept => rfl

theorem delete_own (fate : Fate) (now : Int) (event : Event) (ids : List JsString)
    (events : EventsTable) :
    rowsOf (ofHex event.pubkey) ((deleteByPubkeyAndIds fate now event.pubkey ids).run events).2 =
      ((deleteByPubkeyAndIds fate now event.pubkey ids).run (rowsOf (ofHex event.pubkey) events)).2 := by
  rw [Writes.delete_table, Writes.delete_table]
  split_ifs
  · rw [rowsOf, marked, List.filter_map]
    refine congrArg _ (List.filter_congr fun r _ => ?_)
    simp only [Function.comp_apply]
    split <;> rfl
  · rfl

theorem delete_other (fate : Fate) (now : Int) (event : Event) (ids : List JsString)
    (events : EventsTable) (author : Bytes) (other : ofHex event.pubkey ≠ author) :
    rowsOf author ((deleteByPubkeyAndIds fate now event.pubkey ids).run events).2 =
      rowsOf author events := by
  rw [Writes.delete_table]
  split_ifs
  · rw [rowsOf, marked, List.filter_map]
    have kept : events.filter ((fun r => r.eventPubkey == author) ∘ fun r =>
        if isDeletable (ofHex event.pubkey) (ids.map ofHex) r then { r with deletedAt := some now }
        else r) = rowsOf author events := by
      refine List.filter_congr fun r _ => ?_
      simp only [Function.comp_apply]
      split <;> rfl
    rw [kept]
    refine (List.map_congr_left fun r member => if_neg fun deletable => ?_).trans (List.map_id _)
    have own := (List.mem_filter.mp member).2
    simp only [isDeletable, Bool.and_eq_true, beq_iff_eq] at deletable own
    exact other (deletable.1.1.symm.trans own)
  · rfl

theorem attributed_marked (fate : Fate) (now : Int) (event : Event) (ids : List JsString)
    (events : EventsTable) (attributed : Attributed event events) :
    Attributed event ((deleteByPubkeyAndIds fate now event.pubkey ids).run events).2 := by
  intro r member id
  obtain ⟨old, inTable, _, rfl⟩ := delete_rows fate now event ids events r member
  exact attributed old inTable id

theorem strategy_own (fates : Fates) (event : Event) (events : EventsTable)
    (attributed : Attributed event events) (strategy : EventStrategy) :
    rowsOf (ofHex event.pubkey) (strategyTable (eventRepository fates) event events strategy) =
      strategyTable (eventRepository fates) event (rowsOf (ofHex event.pubkey) events) strategy := by
  cases strategy with
  | ephemeral => rfl
  | default => exact create_own fates.insert event events attributed
  | replaceable => exact upsert_own fates.upsert event none events attributed
  | parameterizedReplaceable => exact upsert_own fates.upsert event _ events attributed
  | delete =>
    simp only [strategyTable]
    by_cases none : DeleteEventStrategy.eventIdsToDelete event = []
    · rw [if_pos none, if_pos none]
      exact create_own fates.insert event events attributed
    · rw [if_neg none, if_neg none]
      have own := delete_own fates.update fates.now event (DeleteEventStrategy.eventIdsToDelete event) events
      have kept := attributed_marked fates.update fates.now event
        (DeleteEventStrategy.eventIdsToDelete event) events attributed
      simp only [eventRepository] at own ⊢
      cases fate : fates.update with
      | completes =>
        rw [fate] at own kept
        refine (create_own fates.insert event _ kept).trans ?_
        rw [own]
        rfl
      | rejected reason =>
        rw [fate] at own
        exact own
      | lostReply reason =>
        rw [fate] at own
        exact own

theorem strategy_other (fates : Fates) (event : Event) (events : EventsTable) (author : Bytes)
    (other : ofHex event.pubkey ≠ author) (strategy : EventStrategy) :
    rowsOf author (strategyTable (eventRepository fates) event events strategy) =
      rowsOf author events := by
  cases strategy with
  | ephemeral => rfl
  | default => exact create_other fates.insert event events author other
  | replaceable => exact upsert_other fates.upsert event none events author other
  | parameterizedReplaceable => exact upsert_other fates.upsert event _ events author other
  | delete =>
    simp only [strategyTable]
    have marked := delete_other fates.update fates.now event (DeleteEventStrategy.eventIdsToDelete event)
      events author other
    split
    · exact create_other fates.insert event events author other
    · split
      next reason reached ran =>
        rwa [show ((deleteByPubkeyAndIds ..).run events).2 = reached from congrArg Prod.snd ran] at marked
      next count reached ran =>
        rw [show ((deleteByPubkeyAndIds ..).run events).2 = reached from congrArg Prod.snd ran] at marked
        exact (create_other fates.insert event reached author other).trans marked

theorem strategy_ids (fates : Fates) (event : Event) (events : EventsTable) (strategy : EventStrategy)
    (r : DBEvent) (member : r ∈ strategyTable (eventRepository fates) event events strategy) :
    (∃ old ∈ events, r.eventId = old.eventId ∧ r.eventPubkey = old.eventPubkey) ∨
      (r.eventId = ofHex event.id ∧ r.eventPubkey = ofHex event.pubkey) := by
  have ids (a b : DBEvent) (shown : toNostrEvent a = toNostrEvent b) :
      a.eventId = b.eventId ∧ a.eventPubkey = b.eventPubkey :=
    ⟨toHex_injective (congrArg Event.id shown), toHex_injective (congrArg Event.pubkey shown)⟩
  rcases strategy_rows fates event events strategy r member with ⟨old, inTable, shown⟩ | ⟨_, _, shown⟩
  · exact .inl ⟨old, inTable, ids r old shown⟩
  · exact .inr (ids r _ shown)

theorem ofHex_id (crypto : Secp256k1) (a b : Event) (validA : isEventIdValid crypto a = true)
    (validB : isEventIdValid crypto b = true) (same : ofHex a.id = ofHex b.id) : a.id = b.id := by
  simp only [isEventIdValid, beq_iff_eq, getEventHash] at validA validB
  rw [validA, validB, ofHex_toHex, ofHex_toHex] at same
  rw [validA, validB, same]

theorem table_eq (execution : Execution) (events : EventsTable) :
    execution.table events = strategyTable (eventRepository execution.fates) execution.event events
      (eventStrategyFactory execution.event) :=
  execute_table execution.webSocket (eventRepository execution.fates) execution.event
    { table := events } (eventStrategyFactory execution.event)

theorem authors_isolated (crypto : Secp256k1) (executions : List Execution) (events : EventsTable)
    (valid : ∀ execution ∈ executions, isEventIdValid crypto execution.event = true)
    (idsDetermine : ∀ a ∈ executions, ∀ b ∈ executions, a.event.id = b.event.id →
      SameSignedFields a.event b.event)
    (attributed : ∀ execution ∈ executions, Attributed execution.event events) (author : Bytes) :
    rowsOf author (executions.foldl Execution.table events) =
      rowsOf author ((executions.filter fun execution => execution.author == author).foldl
        Execution.table events) := by
  have unwinds : Unwinds Execution.table (rowsOf author) (fun execution => execution.author == author)
      (fun reached => ∀ execution ∈ executions, Attributed execution.event reached)
      (· ∈ executions) := by
    constructor
    · intro reached execution good member other inList r inTable id
      rw [table_eq] at inTable
      rcases strategy_ids _ _ _ _ r inTable with ⟨old, inOld, sameId, samePubkey⟩ | ⟨sameId, samePubkey⟩
      · rw [samePubkey]
        exact good other inList old inOld (sameId ▸ id)
      · have same := ofHex_id crypto execution.event other.event (valid execution member)
          (valid other inList) (sameId ▸ id)
        rw [samePubkey, (idsDetermine execution member other inList same).pubkey]
    · intro reached execution good member isOwn
      rw [table_eq, table_eq, ← beq_iff_eq.mp isOwn]
      exact strategy_own execution.fates execution.event reached (good execution member) _
    · intro reached execution good member isOther
      rw [table_eq]
      exact strategy_other execution.fates execution.event reached author
        (by simpa [Execution.author] using isOther) _
  exact unwinds.noninterference executions (fun _ member => member) events attributed

def rivalDeletion : Event :=
  { id := toHex [0x68, 0xe4, 0x16, 0xc2, 0x39, 0xef, 0x7e, 0x75, 0xe2, 0xce, 0x72, 0xf2, 0x85, 0x95, 0x32, 0xef,
       0x16, 0xd2, 0x74, 0xab, 0x4d, 0xaa, 0x2d, 0x09, 0xfb, 0xf5, 0xf7, 0xdf, 0x01, 0x6a, 0x44, 0x0b]
    pubkey := toHex [0x2f, 0x8b, 0xde, 0x4d, 0x1a, 0x07, 0x20, 0x93, 0x55, 0xb4, 0xa7, 0x25, 0x0a, 0x5c, 0x51, 0x28,
       0xe8, 0x8b, 0x84, 0xbd, 0xdc, 0x61, 0x9a, 0xb7, 0xcb, 0xa8, 0xd5, 0x69, 0xb2, 0x40, 0xef, 0xe4]
    createdAt := 1700000001
    kind := 5
    tags := [[js "e", note.id]]
    content := []
    sig := toHex [0x87, 0xf5, 0x20, 0x93, 0xeb, 0x7b, 0x6b, 0xd8, 0x17, 0x09, 0x22, 0xff, 0x5c, 0xcd, 0x82, 0xa0,
       0x5e, 0x8f, 0xf6, 0x8a, 0xd0, 0x57, 0x89, 0xaa, 0xe5, 0xbf, 0xa0, 0xb0, 0xe2, 0xfa, 0x0d, 0x4a,
       0x00, 0xfb, 0xc0, 0x87, 0xfb, 0x8e, 0xbe, 0xb6, 0xed, 0xad, 0xa3, 0x6c, 0xf3, 0x15, 0xc7, 0x79,
       0x2b, 0x4e, 0x07, 0x9e, 0x32, 0x80, 0xa1, 0x34, 0x66, 0x5d, 0xf3, 0xcf, 0x40, 0xd5, 0x7f, 0x4a] }

def rivalry : List Execution := [⟨{}, {}, note⟩, ⟨{}, {}, rivalDeletion⟩]

theorem rival_deletion_ignored :
    rowsOf (ofHex note.pubkey) (rivalry.foldl Execution.table []) =
      rowsOf (ofHex note.pubkey) ([⟨{}, {}, note⟩].foldl Execution.table []) := by
  have different : note.id ≠ rivalDeletion.id := by decide +kernel
  have kept : rivalry.filter (fun execution => execution.author == ofHex note.pubkey) =
      [⟨{}, {}, note⟩] := by
    have other : (ofHex rivalDeletion.pubkey == ofHex note.pubkey) = false := by decide +kernel
    simp [rivalry, Execution.author, other]
  have isolated := authors_isolated (recordedCrypto ([note, rivalDeletion].map recorded)) rivalry []
    (by simp only [rivalry, List.forall_mem_cons]; decide +kernel)
    (by simp [rivalry, different, different.symm]; exact ⟨⟨rfl, rfl, rfl, rfl, rfl⟩, ⟨rfl, rfl, rfl, rfl, rfl⟩⟩)
    (by simp [Attributed]) (ofHex note.pubkey)
  rwa [kept] at isolated

end Nostream.AuthorIsolation
