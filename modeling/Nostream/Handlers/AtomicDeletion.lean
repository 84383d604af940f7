import Nostream.Handlers.DeletedForGood

set_option autoImplicit false

namespace Nostream.AtomicDeletion

open Utf16 Hex Sql Effects EventRepository Writes StrategyTables

structure AllOrNothing (event : Event) (before after : EventsTable) : Prop where
  marked : ∀ (i : Nat) (r r' : DBEvent), before[i]? = some r → after[i]? = some r' →
    r.deletedAt = none → r'.deletedAt ≠ none → hasId after (ofHex event.id) = true
  unstored : hasId after (ofHex event.id) = false → after = before

def marks (event : Event) (r : DBEvent) : Bool :=
  isDeletable (ofHex event.pubkey) ((DeleteEventStrategy.eventIdsToDelete event).map ofHex) r

theorem allOrNothing_iff (event : Event) (before after : EventsTable) :
    AllOrNothing event before after ↔ hasId after (ofHex event.id) = true ∨ after = before := by
  constructor
  · intro whole
    cases stored : hasId after (ofHex event.id) with
    | true => exact .inl rfl
    | false => exact .inr (whole.unstored stored)
  · rintro (stored | rfl)
    · exact ⟨fun _ _ _ _ _ _ _ => stored, fun unstored => by simp [stored] at unstored⟩
    · refine ⟨fun i r r' found found' live isMarked => ?_, fun _ => rfl⟩
      rw [found] at found'
      cases found'
      exact (isMarked live).elim

theorem marked_eq_iff (now : Int) (event : Event) (table : EventsTable) :
    marked now event (DeleteEventStrategy.eventIdsToDelete event) table = table ↔
      ∀ r ∈ table, marks event r = false := by
  rw [marked]
  conv_lhs => rhs; rw [← List.map_id table]
  rw [List.map_inj_left]
  refine forall₂_congr fun r _ => ?_
  by_cases deletable : marks event r = true
  · have live : r.deletedAt = none := by
      simp only [marks, isDeletable, Bool.and_eq_true, Option.isNone_iff_eq_none] at deletable
      exact deletable.2
    have changed : { r with deletedAt := some now } ≠ r := fun same => by
      rw [← same] at live
      cases live
    rw [if_pos (show isDeletable _ _ r = true from deletable)]
    simp [changed, deletable]
  · rw [if_neg (show ¬ isDeletable _ _ r = true from deletable)]
    simpa using deletable

theorem hasId_create (fate : Fate) (event : Event) (table : EventsTable) :
    hasId ((create fate event).run table).2 (ofHex event.id) =
      (hasId table (ofHex event.id) || inserts fate event table) := by
  rw [create_eq]
  cases inserted : inserts fate event table with
  | true =>
    have own : (insertRow event).stored.eventId = ofHex event.id := rfl
    simp [hasId, own]
  | false => simp

theorem create_unstored (fate : Fate) (event : Event) (table : EventsTable)
    (unstored : inserts fate event table = false) : ((create fate event).run table).2 = table := by
  simp [create_eq, unstored]

theorem execute_table (webSocket : IWebSocketAdapter) (fates : Fates) (event : Event) (world : World)
    (some : DeleteEventStrategy.eventIdsToDelete event ≠ []) :
    ((DeleteEventStrategy.execute webSocket (eventRepository fates) event).run world).2.table =
      let ids := DeleteEventStrategy.eventIdsToDelete event
      match fates.update with
      | .completes => ((create fates.insert event).run (marked fates.now event ids world.table)).2
      | .rejected _ => world.table
      | .lostReply _ => marked fates.now event ids world.table := by
  rw [StrategyTables.delete_table]
  simp only [strategyTable, some, if_false]
  cases fate : fates.update <;>
    simp only [eventRepository, deleteByPubkeyAndIds, fate] <;> rfl

theorem inserts_marked (fate : Fate) (now : Int) (event : Event) (ids : List JsString) (table : EventsTable) :
    inserts fate event (marked now event ids table) = inserts fate event table := by
  simp [inserts]

theorem execute_unmarked (webSocket : IWebSocketAdapter) (fates : Fates) (event : Event) (world : World)
    (noIds : DeleteEventStrategy.eventIdsToDelete event = []) :
    hasId ((DeleteEventStrategy.execute webSocket (eventRepository fates) event).run world).2.table
        (ofHex event.id) = true ∨
      ((DeleteEventStrategy.execute webSocket (eventRepository fates) event).run world).2.table = world.table := by
  have reached : ((DeleteEventStrategy.execute webSocket (eventRepository fates) event).run world).2.table =
      ((create fates.insert event).run world.table).2 := by
    rw [StrategyTables.delete_table]
    simp only [strategyTable, noIds, if_true]
    rfl
  rw [reached, hasId_create]
  cases inserted : inserts fates.insert event world.table with
  | true => exact .inl (Bool.or_true _)
  | false => exact .inr (create_unstored _ _ _ inserted)

theorem create_marked_iff (fate : Fate) (now : Int) (event : Event) (table reached : EventsTable)
    (ran : ((create fate event).run
      (marked now event (DeleteEventStrategy.eventIdsToDelete event) table)).2 = reached) :
    hasId reached (ofHex event.id) = true ∨ reached = table ↔
      hasId table (ofHex event.id) = true ∨ (∀ r ∈ table, marks event r = false) ∨
        ((insertRow event).storable = true ∧ writes fate = true) := by
  subst ran
  simp only [hasId_create, hasId_marked, inserts_marked, Bool.or_eq_true]
  cases inserted : inserts fate event table with
  | true =>
    simp only [inserts, Bool.and_eq_true] at inserted
    simp [inserted.1.1, inserted.1.2]
  | false =>
    rw [create_unstored fate event _ (by rw [inserts_marked, inserted]), marked_eq_iff]
    simp only [inserts, Bool.and_eq_false_iff, Bool.not_eq_false'] at inserted
    cases known : hasId table (ofHex event.id) with
    | true => simp
    | false =>
      have lost : ¬ ((insertRow event).storable = true ∧ writes fate = true) := by
        rintro ⟨storable, written⟩
        simp [storable, written, known] at inserted
      simp [lost]

theorem all_or_nothing_iff (webSocket : IWebSocketAdapter) (fates : Fates) (event : Event) (world : World) :
    AllOrNothing event world.table
        ((DeleteEventStrategy.execute webSocket (eventRepository fates) event).run world).2.table ↔
      hasId world.table (ofHex event.id) = true ∨ writes fates.update = false ∨
        (∀ r ∈ world.table, marks event r = false) ∨
        (fates.update = .completes ∧ (insertRow event).storable = true ∧ writes fates.insert = true) := by
  rw [allOrNothing_iff]
  by_cases noIds : DeleteEventStrategy.eventIdsToDelete event = []
  · have unmarked : ∀ r ∈ world.table, marks event r = false := by simp [marks, isDeletable, noIds]
    exact iff_of_true (execute_unmarked webSocket fates event world noIds) (.inr (.inr (.inl unmarked)))
  · rw [execute_table webSocket fates event world noIds]
    cases fates.update with
    | rejected reason => simp [writes]
    | lostReply reason => simp [writes, marked_eq_iff]
    | completes =>
      have issued : writes .completes = true := rfl
      simpa [issued] using create_marked_iff fates.insert fates.now event world.table _ rfl

theorem lone_mark :
    ¬ ∀ (webSocket : IWebSocketAdapter) (fates : Fates) (event : Event) (world : World),
      isDeleteEvent event = true → eventSchema event = true →
        AllOrNothing event world.table
          ((DeleteEventStrategy.execute webSocket (eventRepository fates) event).run world).2.table := by
  intro claim
  have whole := claim {} { insert := .rejected .other } DeletedForGood.deletion
    { table := [(insertRow note).stored] } (by decide) (by decide +kernel)
  have unchanged := whole.unstored (by decide +kernel)
  exact absurd unchanged (by decide +kernel)

end Nostream.AtomicDeletion
