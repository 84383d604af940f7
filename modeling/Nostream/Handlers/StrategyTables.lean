import Nostream.Handlers.EventStrategies
import Nostream.Repositories.Writes

set_option autoImplicit false

namespace Nostream.StrategyTables

open Utf16 Effects EventRepository Writes

def strategyTable (repository : IEventRepository) (event : Event) (table : EventsTable) :
    EventStrategy → EventsTable
  | .ephemeral => table
  | .default => ((repository.create event).run table).2
  | .replaceable => ((repository.upsert event none).run table).2
  | .parameterizedReplaceable =>
    ((repository.upsert event (some (ParameterizedReplaceableEventStrategy.deduplication event))).run
      table).2
  | .delete =>
    let ids := DeleteEventStrategy.eventIdsToDelete event
    if ids = [] then ((repository.create event).run table).2
    else match (repository.deleteByPubkeyAndIds event.pubkey ids).run table with
      | (.error _, marked) => marked
      | (.ok _, marked) => ((repository.create event).run marked).2

def SameTable (before after : World) : Prop := after.table = before.table

instance : Std.Refl SameTable := ⟨fun _ => rfl⟩

instance : IsTrans World SameTable := ⟨fun _ _ _ first second => second.trans first⟩

theorem keeps_emitMessage (webSocket : IWebSocketAdapter) (message : OutgoingMessage) :
    Keeps SameTable (webSocket.emitMessage message) := fun _ => rfl

theorem keeps_emitBroadcast (webSocket : IWebSocketAdapter) (event : Event) :
    Keeps SameTable (webSocket.emitBroadcast event) := by
  intro world
  unfold IWebSocketAdapter.emitBroadcast
  split <;> rfl

theorem keeps_acknowledge (webSocket : IWebSocketAdapter) (event : Event) (count : Nat) :
    Keeps SameTable (acknowledge webSocket event count) :=
  keeps_bind (keeps_emitMessage _ _) fun _ =>
    keeps_ite (keeps_emitBroadcast _ _) (keeps_pure _)

theorem keeps_onError (webSocket : IWebSocketAdapter) (event : Event) (reason : Thrown) :
    Keeps SameTable (ReplaceableEventStrategy.onError webSocket event reason) := by
  cases reason with
  | error message => exact keeps_ite (keeps_emitMessage _ _) (keeps_emitMessage _ _)
  | other => exact keeps_pure _

theorem write_table (webSocket : IWebSocketAdapter) (event : Event)
    (statement : Effect EventsTable Thrown Nat) (world : World) :
    ((onTable statement >>= acknowledge webSocket event).run world).2.table =
      (statement.run world.table).2 := by
  have ran : (onTable statement).run world =
      ((statement.run world.table).1, world.withTable (statement.run world.table).2) := rfl
  cases outcome : (statement.run world.table).1 with
  | error reason =>
    rw [outcome] at ran
    rw [bind_error ran]
    rfl
  | ok count =>
    rw [outcome] at ran
    rw [bind_ok ran]
    exact keeps_acknowledge webSocket event count _

theorem delete_table (webSocket : IWebSocketAdapter) (repository : IEventRepository) (event : Event)
    (world : World) :
    ((DeleteEventStrategy.execute webSocket repository event).run world).2.table =
      strategyTable repository event world.table .delete := by
  unfold DeleteEventStrategy.execute
  by_cases none : DeleteEventStrategy.eventIdsToDelete event = []
  · rw [if_neg (by simp [none])]
    simpa [strategyTable, none] using write_table webSocket event (repository.create event) world
  · rw [if_pos none]
    simp only [strategyTable, none, if_false]
    cases ran : (repository.deleteByPubkeyAndIds event.pubkey
        (DeleteEventStrategy.eventIdsToDelete event)).run world.table with
    | mk outcome marked =>
      have lifted : (onTable (repository.deleteByPubkeyAndIds event.pubkey
          (DeleteEventStrategy.eventIdsToDelete event))).run world = (outcome, world.withTable marked) := by
        simp [onTable, ran]
      cases outcome with
      | error reason =>
        rw [bind_error lifted]
        rfl
      | ok count =>
        rw [bind_ok lifted]
        exact write_table webSocket event (repository.create event) (world.withTable marked)

theorem replaceable_table (webSocket : IWebSocketAdapter) (repository : IEventRepository) (event : Event)
    (world : World) :
    ((ReplaceableEventStrategy.execute webSocket repository event).run world).2.table =
      ((repository.upsert event none).run world.table).2 := by
  have written := write_table webSocket event (repository.upsert event none) world
  rw [ReplaceableEventStrategy.execute, handle_run]
  split
  next ran =>
    rw [ran] at written
    exact written
  next reason reached ran =>
    rw [ran] at written
    exact (keeps_onError webSocket event reason reached).trans written

theorem execute_table (webSocket : IWebSocketAdapter) (repository : IEventRepository) (event : Event)
    (world : World) (strategy : EventStrategy) :
    ((strategy.execute webSocket repository event).run world).2.table =
      strategyTable repository event world.table strategy := by
  cases strategy with
  | replaceable => exact replaceable_table webSocket repository event world
  | ephemeral => exact keeps_acknowledge webSocket event 1 world
  | delete => exact delete_table webSocket repository event world
  | parameterizedReplaceable => exact write_table webSocket event _ world
  | default => exact write_table webSocket event _ world

theorem strategy_rows (fates : Fates) (event : Event) (table : EventsTable) (strategy : EventStrategy)
    (r : DBEvent) (member : r ∈ strategyTable (eventRepository fates) event table strategy) :
    (∃ old ∈ table, toNostrEvent r = toNostrEvent old) ∨ (strategy ≠ .ephemeral ∧
      (insertRow event).storable = true ∧ toNostrEvent r = toNostrEvent (insertRow event).stored) := by
  have created (before : EventsTable) (inserted : r ∈ ((create fates.insert event).run before).2) :
      r ∈ before ∨
        ((insertRow event).storable = true ∧ toNostrEvent r = toNostrEvent (insertRow event).stored) := by
    rcases create_rows _ event before r inserted with old | ⟨storable, rfl⟩
    · exact .inl old
    · exact .inr ⟨storable, rfl⟩
  have upserted (deduplication : Option (List JsString))
      (written : r ∈ ((EventRepository.upsert fates.upsert event deduplication).run table).2) :
      (∃ old ∈ table, toNostrEvent r = toNostrEvent old) ∨
        ((insertRow event).storable = true ∧ toNostrEvent r = toNostrEvent (insertRow event).stored) := by
    rcases upsert_written fates.upsert event deduplication table with same | ⟨count, storable, outcome⟩
    · rw [same] at written
      exact .inl ⟨r, written, rfl⟩
    · have fits := insertRow_storable event deduplication storable
      rcases merged_rows _ table _ count outcome r written with old | rfl | ⟨existing, _, same, rfl⟩
      · exact .inl ⟨r, old, rfl⟩
      · exact .inr ⟨fits, rfl⟩
      · obtain ⟨_, pubkey, kind, _⟩ := (sameIndexKey_iff _ _).mp same
        refine .inr ⟨fits, ?_⟩
        simp only [toNostrEvent, mergeRow, pubkey, kind]
        rfl
  cases strategy with
  | ephemeral => exact .inl ⟨r, member, rfl⟩
  | default => exact (created table member).imp (fun old => ⟨r, old, rfl⟩) (⟨by simp, ·⟩)
  | replaceable => exact (upserted none member).imp id (⟨by simp, ·⟩)
  | parameterizedReplaceable => exact (upserted _ member).imp id (⟨by simp, ·⟩)
  | delete =>
    simp only [strategyTable] at member
    split at member
    · exact (created table member).imp (fun old => ⟨r, old, rfl⟩) (⟨by simp, ·⟩)
    · have survivors (marked : EventsTable) (outcome : Except Thrown Nat)
          (ran : ((eventRepository fates).deleteByPubkeyAndIds event.pubkey
            (DeleteEventStrategy.eventIdsToDelete event)).run table = (outcome, marked))
          (kept : r ∈ marked) : ∃ old ∈ table, toNostrEvent r = toNostrEvent old := by
        have reached : ((deleteByPubkeyAndIds fates.update fates.now event.pubkey
            (DeleteEventStrategy.eventIdsToDelete event)).run table).2 = marked := congrArg Prod.snd ran
        obtain ⟨old, inTable, _, rfl⟩ := delete_rows _ _ event _ table r (reached ▸ kept)
        exact ⟨old, inTable, rfl⟩
      split at member
      next reason marked ran => exact .inl (survivors marked _ ran member)
      next count marked ran =>
        rcases created marked member with old | new
        · exact .inl (survivors marked _ ran old)
        · exact .inr ⟨by simp, new⟩

end Nostream.StrategyTables
