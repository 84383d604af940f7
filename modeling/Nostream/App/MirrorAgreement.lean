import Nostream.App.StaticMirroringWorker
import Nostream.Handlers.StrategyTables
import Nostream.Repositories.Writes
import Nostream.Utils.RecordedCrypto

set_option autoImplicit false

namespace Nostream.MirrorAgreement

open Utf16 Hex Sql Effects EventRepository Writes StrategyTables

def live (table : EventsTable) : EventsTable := table.filter fun r => r.deletedAt.isNone

def SameRows (a b : EventsTable) : Prop := (live a).Perm (live b)

def mirrored (worker : StaticMirroringWorker) (now : Int) (received : Event) (table : EventsTable) :
    EventsTable :=
  let worker := { worker with repository := eventRepository { now := now } }
  ((worker.onMessage (.event worker.subscriptionId received)).run { table := table }).2.table

def executed (webSocket : IWebSocketAdapter) (now : Int) (event : Event) (table : EventsTable) :
    EventsTable :=
  (((eventStrategyFactory event).execute webSocket (eventRepository { now := now }) event).run
    { table := table }).2.table

def Replaces (event : Event) (table : EventsTable) : Prop :=
  let row := upsertRow event (replacementDeduplication event)
  row.storable = true ∧ ∃ existing, table.find? (sameKey row) = some existing ∧
    existing.eventCreatedAt < event.createdAt ∧
    ∀ r ∈ table, sameKey row r = false → r.eventId ≠ ofHex event.id

def IsIgnored (event : Event) (table : EventsTable) : Prop :=
  (insertRow event).storable = false ∨ hasId table (ofHex event.id) = true

def SameEffect (event : Event) (table : EventsTable) : Prop :=
  match eventStrategyFactory event with
  | .default => True
  | .ephemeral => IsIgnored event table
  | .delete => ∀ r ∈ table, isDeletable (ofHex event.pubkey)
      ((DeleteEventStrategy.eventIdsToDelete event).map ofHex) r = false
  | .replaceable | .parameterizedReplaceable =>
    (insertRow event).storable = false ∨
      (hasId table (ofHex event.id) = true ∧ ¬ Replaces event table)

theorem create_ignored (event : Event) (table : EventsTable) (ignored : IsIgnored event table) :
    ((create .completes event).run table).2 = table := by
  rw [create_completes, if_neg]
  rcases ignored with unstorable | known
  · simp [unstorable]
  · simp [known]

theorem create_appended (event : Event) (table : EventsTable)
    (storable : (insertRow event).storable = true) (fresh : hasId table (ofHex event.id) = false) :
    ((create .completes event).run table).2 = table ++ [(insertRow event).stored] := by
  rw [create_completes, if_pos]
  simp [storable, fresh]

theorem live_append (table : EventsTable) (event : Event) :
    live (table ++ [(insertRow event).stored]) = live table ++ [(insertRow event).stored] := by
  simp [live, EventRow.stored]

theorem ephemeral_same (event : Event) (table : EventsTable) :
    SameRows ((create .completes event).run table).2 table ↔ IsIgnored event table := by
  by_cases ignored : IsIgnored event table
  · simp [create_ignored event table ignored, SameRows, ignored]
  · have open' := ignored
    rw [IsIgnored, not_or, Bool.not_eq_false, Bool.not_eq_true] at open'
    rw [create_appended event table open'.1 open'.2, SameRows, live_append]
    refine iff_of_false (fun same => ?_) ignored
    have longer := same.length_eq
    simp at longer

theorem isDeletable_live {pubkey : Bytes} {ids : List Bytes} {r : DBEvent}
    (deletable : isDeletable pubkey ids r = true) : r.deletedAt.isNone = true := by
  simp only [isDeletable, Bool.and_eq_true] at deletable
  exact deletable.2

theorem live_marked (now : Int) (event : Event) (ids : List JsString) (table : EventsTable) :
    live (marked now event ids table) =
      (live table).filter fun r => !isDeletable (ofHex event.pubkey) (ids.map ofHex) r := by
  induction table with
  | nil => rfl
  | cons r rest ih =>
    simp only [live, marked, List.map_cons] at ih ⊢
    by_cases deletable : isDeletable (ofHex event.pubkey) (ids.map ofHex) r = true
    · simp [deletable, isDeletable_live deletable, ih]
    · simp only [deletable, Bool.false_eq_true, if_false]
      by_cases kept : r.deletedAt.isNone = true
      · simp [kept, ih, deletable]
      · simp [kept, ih]

theorem marked_same (now : Int) (event : Event) (ids : List JsString) (table : EventsTable) :
    SameRows table (marked now event ids table) ↔
      ∀ r ∈ table, isDeletable (ofHex event.pubkey) (ids.map ofHex) r = false := by
  rw [SameRows, live_marked]
  constructor
  · intro same r member
    have all := List.filter_eq_self.mp (List.filter_sublist.eq_of_length same.length_eq.symm)
    by_contra deletable
    rw [Bool.not_eq_false] at deletable
    have kept := all r (List.mem_filter.mpr ⟨member, isDeletable_live deletable⟩)
    simp [deletable] at kept
  · intro none
    rw [List.filter_eq_self.mpr]
    intro r member
    simp [none r (List.mem_of_mem_filter member)]

theorem delete_same (now : Int) (event : Event) (ids : List JsString) (table : EventsTable) :
    SameRows ((create .completes event).run table).2
        ((create .completes event).run (marked now event ids table)).2 ↔
      ∀ r ∈ table, isDeletable (ofHex event.pubkey) (ids.map ofHex) r = false := by
  rw [← marked_same now event ids table]
  by_cases ignored : IsIgnored event table
  · have ignoredToo : IsIgnored event (marked now event ids table) := by
      simpa [IsIgnored] using ignored
    rw [create_ignored event table ignored, create_ignored event _ ignoredToo]
  · rw [IsIgnored, not_or, Bool.not_eq_false, Bool.not_eq_true] at ignored
    rw [create_appended event table ignored.1 ignored.2,
      create_appended event _ ignored.1 (by simpa using ignored.2), SameRows, live_append, live_append,
      List.perm_append_right_iff, SameRows]

/-- After the upsert no row with the event's id lacks a deduplication value, which create leaves out. -/
theorem upserted_deduplication (event : Event) (deduplication : Option (List JsString))
    (table written : EventsTable) (count : Nat) (fresh : hasId table (ofHex event.id) = false)
    (outcome : Merged (upsertRow event deduplication) table count written) (r : DBEvent)
    (member : r ∈ written) (id : r.eventId = ofHex event.id) : r.eventDeduplication.isSome = true := by
  have absent (found : r ∈ table) : False := by
    rw [← Bool.not_eq_true, hasId_iff] at fresh
    exact fresh ⟨r, found, id⟩
  rcases merged_rows _ _ _ _ outcome r member with old | rfl | ⟨replaced, _, same, rfl⟩
  · exact (absent old).elim
  · rfl
  · exact ((sameIndexKey_iff _ _).mp same).2.2.2.1

theorem countP_live_merged (row : EventRow) (table : EventsTable) :
    (live (merged row table)).countP (fun r => sameKey row r && r.eventCreatedAt == row.eventCreatedAt) =
      table.countP (sameKey row) := by
  induction table with
  | nil => rfl
  | cons r rest ih =>
    simp only [live, merged, List.map_cons] at ih ⊢
    by_cases same : sameKey row r = true
    · have key : sameKey row (mergeRow r row.stored) = true := mergeRow_sameKey row r same
      have renewed : (mergeRow r row.stored).eventCreatedAt = row.eventCreatedAt := rfl
      have alive : (mergeRow r row.stored).deletedAt.isNone = true := rfl
      simp [same, key, renewed, alive, ih]
    · by_cases kept : r.deletedAt.isNone = true <;> simp [same, kept, ih]

theorem replaced_differs (row : EventRow) (table : EventsTable) (existing : DBEvent)
    (found : table.find? (sameKey row) = some existing)
    (older : existing.eventCreatedAt < row.eventCreatedAt) : ¬ SameRows table (merged row table) := by
  intro same
  have counts := same.countP_eq fun r => sameKey row r && r.eventCreatedAt == row.eventCreatedAt
  rw [countP_live_merged] at counts
  have fewer : (live table).countP (fun r => sameKey row r && r.eventCreatedAt == row.eventCreatedAt) ≤
      (table.filter (sameKey row)).countP fun r => r.eventCreatedAt == row.eventCreatedAt := by
    rw [List.countP_filter, live, List.countP_filter]
    refine List.countP_mono_left fun r _ both => ?_
    simp only [Bool.and_eq_true] at both ⊢
    exact ⟨both.1.2, both.1.1⟩
  rw [counts, List.countP_eq_length_filter (p := sameKey row)] at fewer
  have all := List.countP_eq_length.mp (le_antisymm List.countP_le_length fewer)
  have newest := all existing
    (List.mem_filter.mpr ⟨List.mem_of_find?_eq_some found, List.find?_some found⟩)
  simp only [beq_iff_eq] at newest
  omega

theorem upsert_completes (event : Event) (deduplication : Option (List JsString)) (table : EventsTable) :
    (∃ count, (upsertRow event deduplication).storable = true ∧
        Merged (upsertRow event deduplication) table count
          ((EventRepository.upsert .completes event deduplication).run table).2) ∨
      (((EventRepository.upsert .completes event deduplication).run table).2 = table ∧
        ∀ count written, (upsertRow event deduplication).storable = true →
          ¬ Merged (upsertRow event deduplication) table count written) := by
  cases ran : insertMerge (upsertRow event deduplication) table with
  | ok result =>
    obtain ⟨count, written⟩ := result
    have reached : (EventRepository.upsert .completes event deduplication).run table =
        (.ok count, written) := by
      simp [EventRepository.upsert, Statement.execute, Statement.outcome, ran]
    rw [reached]
    exact .inl ⟨count, (insertMerge_ok ..).mp ran⟩
  | error reason =>
    refine .inr ⟨by simp [EventRepository.upsert, Statement.execute, Statement.outcome, ran], ?_⟩
    intro count written storable outcome
    have ok := (insertMerge_ok ..).mpr ⟨storable, outcome⟩
    rw [ran] at ok
    cases ok

theorem replacing_same (event : Event) (table : EventsTable) :
    SameRows ((create .completes event).run table).2
        ((EventRepository.upsert .completes event (replacementDeduplication event)).run table).2 ↔
      ((insertRow event).storable = false ∨
        (hasId table (ofHex event.id) = true ∧ ¬ Replaces event table)) := by
  have outcomes := upsert_completes event (replacementDeduplication event) table
  generalize upserted : ((EventRepository.upsert .completes event
    (replacementDeduplication event)).run table).2 = written at outcomes
  by_cases storable : (insertRow event).storable = true
  · by_cases known : hasId table (ofHex event.id) = true
    · rw [create_ignored event table (.inr known)]
      simp only [storable, known, Bool.true_eq_false, false_or, true_and]
      rcases outcomes with ⟨count, fits, outcome⟩ | ⟨rfl, none⟩
      · cases outcome with
        | appended _ newId => exact absurd known (by simpa [upsertRow, insertRow] using newId)
        | replaced existing found older noOther =>
          refine iff_of_false (replaced_differs _ table existing found older) ?_
          exact not_not_intro ⟨fits, existing, found, older, noOther⟩
        | kept existing found newer =>
          refine iff_of_true (List.Perm.refl _) ?_
          rintro ⟨_, other, alsoFound, older, _⟩
          rw [found] at alsoFound
          cases alsoFound
          exact absurd older (not_lt.mpr newer)
      · refine iff_of_true (List.Perm.refl _) ?_
        rintro ⟨fits, existing, found, older, noOther⟩
        exact none _ _ fits (.replaced existing found older noOther)
    · rw [Bool.not_eq_true] at known
      rw [create_appended event table storable known, SameRows, live_append]
      refine iff_of_false (fun same => ?_) (by simp [storable, known])
      have member := List.mem_of_mem_filter (same.mem_iff.mp (List.mem_append_right _ (List.mem_singleton.mpr rfl)))
      have some : (insertRow event).stored.eventDeduplication.isSome = true := by
        rcases outcomes with ⟨count, _, outcome⟩ | ⟨rfl, _⟩
        · exact upserted_deduplication event _ table written count known outcome _ member rfl
        · rw [← Bool.not_eq_true, hasId_iff] at known
          exact (known ⟨_, member, rfl⟩).elim
      cases some
  · rw [Bool.not_eq_true] at storable
    rw [create_ignored event table (.inl storable)]
    refine iff_of_true ?_ (.inl storable)
    rcases outcomes with ⟨count, fits, _⟩ | ⟨rfl, _⟩
    · rw [insertRow_storable event _ fits] at storable
      cases storable
    · exact List.Perm.refl _

theorem mirrored_eq (worker : StaticMirroringWorker) (now : Int) (received : Event) (table : EventsTable)
    (accepted : worker.accepts received = .ok true) :
    mirrored worker now received table =
      ((create .completes (addExpirationMetadata received)).run table).2 := by
  rw [mirrored, StaticMirroringWorker.onMessage_table]
  exact if_pos accepted

theorem executed_delete (webSocket : IWebSocketAdapter) (now : Int) (event : Event) (table : EventsTable)
    (strategy : eventStrategyFactory event = .delete) :
    executed webSocket now event table =
      ((create .completes event).run
        (marked now event (DeleteEventStrategy.eventIdsToDelete event) table)).2 := by
  rw [executed, execute_table, strategy]
  by_cases none : DeleteEventStrategy.eventIdsToDelete event = []
  · simp [strategyTable, none, marked, isDeletable, eventRepository]
  · simp only [strategyTable, none, if_false]
    rfl

theorem mirror_agrees_iff (worker : StaticMirroringWorker) (webSocket : IWebSocketAdapter) (now : Int)
    (received : Event) (table : EventsTable) (accepted : worker.accepts received = .ok true) :
    SameRows (mirrored worker now received table)
        (executed webSocket now (addExpirationMetadata received) table) ↔
      SameEffect (addExpirationMetadata received) table := by
  rw [mirrored_eq worker now received table accepted]
  generalize addExpirationMetadata received = event
  have dispatch := eventStrategyFactory_correct event
  unfold SameEffect
  cases strategy : eventStrategyFactory event with
  | default =>
    rw [executed, execute_table, strategy]
    exact iff_of_true (List.Perm.refl _) trivial
  | ephemeral =>
    rw [executed, execute_table, strategy]
    exact ephemeral_same event table
  | delete =>
    rw [executed_delete webSocket now event table strategy]
    exact delete_same now event _ table
  | replaceable =>
    have upserted := replacing_same event table
    rw [replacementDeduplication, if_pos (dispatch.replaceable.mpr strategy)] at upserted
    rw [executed, execute_table, strategy]
    exact upserted
  | parameterizedReplaceable =>
    have upserted := replacing_same event table
    rw [replacementDeduplication, if_neg (by simp [dispatch.replaceable, strategy])] at upserted
    rw [executed, execute_table, strategy]
    exact upserted

def mirrorWorker : StaticMirroringWorker :=
  { crypto := crypto
    config := { address := js "ws://localhost", filters := some [{}], limits := some {} }
    subscriptionId := js "mirror"
    repository := eventRepository {}
    findByPubkey := fun _ => .ok none
    settings := {}
    relayPublicKey := []
    expiryClock := 1700000000
    acceptClock := 1700000000 }

theorem note_mirrored :
    mirrorWorker.accepts note = .ok true ∧
      (SameRows (mirrored mirrorWorker 0 note []) (executed {} 0 (addExpirationMetadata note) []) ↔
        SameEffect (addExpirationMetadata note) []) :=
  ⟨by decide +kernel, mirror_agrees_iff mirrorWorker {} 0 note [] (by decide +kernel)⟩

theorem fleeting_note_stored :
    ¬ ∀ (worker : StaticMirroringWorker) (webSocket : IWebSocketAdapter) (now : Int) (received : Event)
        (table : EventsTable), worker.accepts received = .ok true →
      SameRows (mirrored worker now received table)
        (executed webSocket now (addExpirationMetadata received) table) := by
  intro claim
  have same := claim mirrorWorker {} 0 fleetingNote [] (by decide +kernel)
  have mirroredOne : (live (mirrored mirrorWorker 0 fleetingNote [])).length = 1 := by decide +kernel
  have executedNone : (live (executed {} 0 (addExpirationMetadata fleetingNote) [])).length = 0 := by
    decide +kernel
  have lengths := same.length_eq
  omega

end Nostream.MirrorAgreement
