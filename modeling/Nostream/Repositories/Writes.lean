import Nostream.Repositories.EventRepository

set_option autoImplicit false

namespace Nostream.Writes

open Utf16 Hex Sql Effects EventRepository

def hasId (table : EventsTable) (id : Bytes) : Bool := table.any fun r => r.eventId == id

def writes : Fate → Bool
  | .rejected _ => false
  | _ => true

theorem hasId_iff (table : EventsTable) (id : Bytes) :
    hasId table id = true ↔ ∃ r ∈ table, r.eventId = id := by
  simp [hasId]

theorem sameIndexKey_iff (a b : DBEvent) :
    sameIndexKey a b = true ↔
      replaceableEventsIdx a.eventKind = true ∧ a.eventPubkey = b.eventPubkey ∧
        a.eventKind = b.eventKind ∧ a.eventDeduplication.isSome = true ∧
        a.eventDeduplication = b.eventDeduplication := by
  simp only [sameIndexKey, Bool.and_eq_true, beq_iff_eq]
  constructor
  · rintro ⟨⟨⟨⟨⟨idx, _⟩, pubkey⟩, kind⟩, present⟩, same⟩
    exact ⟨idx, pubkey, kind, present, same⟩
  · rintro ⟨idx, pubkey, kind, present, same⟩
    exact ⟨⟨⟨⟨⟨idx, kind ▸ idx⟩, pubkey⟩, kind⟩, present⟩, same⟩

theorem sameIndexKey_none (a b : DBEvent) (none : b.eventDeduplication = none) :
    sameIndexKey a b = false := by
  rw [Bool.eq_false_iff, Ne, sameIndexKey_iff]
  rintro ⟨_, _, _, present, same⟩
  simp [same, none] at present

theorem insertIgnore_eq (event : Event) (table : EventsTable) :
    insertIgnore (insertRow event) table =
      if !(insertRow event).storable then .error invalidValue
      else if hasId table (ofHex event.id) then .ok (0, table)
      else .ok (1, table ++ [(insertRow event).stored]) := by
  have alone (r : DBEvent) : sameIndexKey r (insertRow event).stored = false :=
    sameIndexKey_none r _ rfl
  have id : (insertRow event).eventId = ofHex event.id := rfl
  simp only [insertIgnore, alone, Bool.or_false, hasId, id]
  rfl

def inserts (fate : Fate) (event : Event) (table : EventsTable) : Bool :=
  (insertRow event).storable && writes fate && !hasId table (ofHex event.id)

theorem create_eq (fate : Fate) (event : Event) (table : EventsTable) :
    (create fate event).run table =
      (.ok (if inserts fate event table ∧ fate = .completes then 1 else 0),
        if inserts fate event table then table ++ [(insertRow event).stored] else table) := by
  simp only [create, handle_run, EventRepository.insert, Statement.execute, Statement.outcome,
    insertIgnore_eq, inserts]
  by_cases storable : (insertRow event).storable = true <;>
    by_cases known : hasId table (ofHex event.id) = true <;>
      cases fate <;> simp [writes, storable, known]

theorem create_completes (event : Event) (table : EventsTable) :
    ((create .completes event).run table).2 =
      if (insertRow event).storable && !hasId table (ofHex event.id) then
        table ++ [(insertRow event).stored]
      else table := by
  simp [create_eq, inserts, writes]

theorem insertRow_storable (event : Event) (deduplication : Option (List JsString))
    (storable : (upsertRow event deduplication).storable = true) :
    (insertRow event).storable = true := by
  simp only [EventRow.storable, upsertRow, insertRow, Bool.and_eq_true] at storable ⊢
  exact ⟨storable.1, rfl⟩

theorem encode_decode_tags (tags : List Tag) (fits : (tags.all (·.all jsonbStorable)) = true) :
    (tags.map (·.map decode)).map (·.map encode) = tags := by
  rw [List.all_eq_true] at fits
  have same (tag : Tag) (member : tag ∈ tags) : (tag.map decode).map encode = tag := by
    have texts := List.all_eq_true.mp (fits tag member)
    rw [List.map_map]
    conv_rhs => rw [← List.map_id tag]
    refine List.map_congr_left fun text inTag => encode_decode text ?_
    have stored := texts text inTag
    simp only [jsonbStorable, Bool.and_eq_true] at stored
    exact stored.1
  rw [List.map_map]
  conv_rhs => rw [← List.map_id tags]
  exact List.map_congr_left same

def sameKey (row : EventRow) (r : DBEvent) : Bool := sameIndexKey r row.stored

def merged (row : EventRow) (table : EventsTable) : EventsTable :=
  table.map fun r => if sameKey row r then mergeRow r row.stored else r

inductive Merged (row : EventRow) (table : EventsTable) : Nat → EventsTable → Prop
  | appended (fresh : table.find? (sameKey row) = none) (newId : hasId table row.eventId = false) :
      Merged row table 1 (table ++ [row.stored])
  | replaced (existing : DBEvent) (found : table.find? (sameKey row) = some existing)
      (older : existing.eventCreatedAt < row.eventCreatedAt)
      (noOther : ∀ r ∈ table, sameKey row r = false → r.eventId ≠ row.eventId) :
      Merged row table 1 (merged row table)
  | kept (existing : DBEvent) (found : table.find? (sameKey row) = some existing)
      (newer : row.eventCreatedAt ≤ existing.eventCreatedAt) : Merged row table 0 table

theorem insertMerge_ok (row : EventRow) (table written : EventsTable) (rowCount : Nat) :
    insertMerge row table = .ok (rowCount, written) ↔
      row.storable = true ∧ Merged row table rowCount written := by
  have other : (table.any fun r => !sameIndexKey r row.stored && r.eventId == row.eventId) = false ↔
      ∀ r ∈ table, sameKey row r = false → r.eventId ≠ row.eventId := by
    simp [sameKey]
  constructor
  · intro ran
    have storable : row.storable = true := by
      by_contra unstorable
      rw [insertMerge, if_pos (by simpa using unstorable)] at ran
      cases ran
    refine ⟨storable, ?_⟩
    rw [insertMerge, if_neg (by simp [storable])] at ran
    split at ran
    · next existing found =>
      by_cases older : existing.eventCreatedAt < row.eventCreatedAt
      · rw [if_pos older] at ran
        split at ran
        · cases ran
        · next free =>
          cases ran
          exact .replaced existing found older (other.mp (by simpa using free))
      · rw [if_neg older] at ran
        cases ran
        exact .kept existing found (not_lt.mp older)
    · next found =>
      split at ran
      · cases ran
      · next free =>
        cases ran
        exact .appended found (by simpa [hasId] using free)
  · rintro ⟨storable, outcome⟩
    unfold insertMerge
    rw [if_neg (by simp [storable])]
    cases outcome with
    | appended fresh newId =>
      rw [show table.find? (fun r => sameIndexKey r row.stored) = none from fresh]
      simp only [hasId] at newId
      simp [newId]
    | replaced existing found older noOther =>
      rw [show table.find? (fun r => sameIndexKey r row.stored) = some existing from found]
      simp only [older, if_true, other.mpr noOther]
      rfl
    | kept existing found newer =>
      rw [show table.find? (fun r => sameIndexKey r row.stored) = some existing from found]
      simp only [not_lt.mpr newer, if_false]

theorem execute_ok (statement : Statement) (fate : Fate) (table written : EventsTable) (rowCount : Nat) :
    (statement.execute fate).run table = (.ok rowCount, written) ↔
      fate = .completes ∧ statement table = .ok (rowCount, written) := by
  cases ran : statement table <;> cases fate <;>
    simp [Statement.execute, Statement.outcome, ran, Prod.ext_iff]

theorem execute_error (statement : Statement) (fate : Fate) (table written : EventsTable)
    (reason : Thrown) (ran : (statement.execute fate).run table = (.error reason, written)) :
    written = table ∨ ∃ rowCount, statement table = .ok (rowCount, written) := by
  simp only [Statement.execute, Statement.outcome] at ran
  split at ran <;> cases ran
  · exact .inl rfl
  · next written => exact .inr ⟨_, written⟩
  · exact .inl rfl

theorem upsert_ok (fate : Fate) (event : Event) (deduplication : Option (List JsString))
    (table written : EventsTable) (rowCount : Nat) :
    (upsert fate event deduplication).run table = (.ok rowCount, written) ↔
      fate = .completes ∧ (upsertRow event deduplication).storable = true ∧
        Merged (upsertRow event deduplication) table rowCount written := by
  rw [upsert, execute_ok, insertMerge_ok]

theorem mergeRow_sameKey (row : EventRow) (r : DBEvent) (same : sameKey row r = true) :
    sameKey row (mergeRow r row.stored) = true := by
  have key := (sameIndexKey_iff _ _).mp same
  exact (sameIndexKey_iff _ _).mpr key

def marked (now : Int) (event : Event) (ids : List JsString) (table : EventsTable) : EventsTable :=
  table.map fun r =>
    if isDeletable (ofHex event.pubkey) (ids.map ofHex) r then { r with deletedAt := some now } else r

theorem delete_table (fate : Fate) (now : Int) (event : Event) (ids : List JsString)
    (table : EventsTable) :
    ((deleteByPubkeyAndIds fate now event.pubkey ids).run table).2 =
      if writes fate then marked now event ids table else table := by
  cases fate <;> rfl

@[simp]
theorem hasId_marked (now : Int) (event : Event) (ids : List JsString) (table : EventsTable)
    (id : Bytes) : hasId (marked now event ids table) id = hasId table id := by
  simp only [hasId, marked, List.any_map]
  refine List.any_congr rfl fun r => ?_
  simp only [Function.comp_apply]
  split <;> rfl

theorem create_rows (fate : Fate) (event : Event) (table : EventsTable) (r : DBEvent)
    (member : r ∈ ((create fate event).run table).2) :
    r ∈ table ∨ ((insertRow event).storable = true ∧ r = (insertRow event).stored) := by
  rw [create_eq] at member
  change r ∈ ite _ _ _ at member
  split at member
  next written =>
    simp only [inserts, Bool.and_eq_true] at written
    rcases List.mem_append.mp member with old | new
    · exact .inl old
    · exact .inr ⟨written.1.1, List.mem_singleton.mp new⟩
  next => exact .inl member

theorem merged_rows (row : EventRow) (table written : EventsTable) (count : Nat)
    (outcome : Merged row table count written) (r : DBEvent) (member : r ∈ written) :
    r ∈ table ∨ r = row.stored ∨
      ∃ existing ∈ table, sameKey row existing = true ∧ r = mergeRow existing row.stored := by
  cases outcome with
  | appended fresh newId =>
    rcases List.mem_append.mp member with old | new
    · exact .inl old
    · exact .inr (.inl (List.mem_singleton.mp new))
  | replaced existing found older noOther =>
    obtain ⟨old, inTable, rfl⟩ := List.mem_map.mp member
    by_cases same : sameKey row old = true
    · exact .inr (.inr ⟨old, inTable, same, by rw [if_pos same]⟩)
    · exact .inl (by rwa [if_neg same])
  | kept existing found newer => exact .inl member

theorem upsert_written (fate : Fate) (event : Event) (deduplication : Option (List JsString))
    (table : EventsTable) :
    ((upsert fate event deduplication).run table).2 = table ∨
      ∃ count, (upsertRow event deduplication).storable = true ∧
        Merged (upsertRow event deduplication) table count
          ((upsert fate event deduplication).run table).2 := by
  cases ran : (upsert fate event deduplication).run table with
  | mk outcome written =>
    cases outcome with
    | ok count =>
      obtain ⟨_, storable, outcome⟩ := (upsert_ok ..).mp ran
      exact .inr ⟨count, storable, outcome⟩
    | error reason =>
      rcases execute_error _ fate table written reason ran with same | ⟨count, outcome⟩
      · exact .inl same
      · exact .inr ⟨count, (insertMerge_ok ..).mp outcome⟩

theorem delete_rows (fate : Fate) (now : Int) (event : Event) (ids : List JsString)
    (table : EventsTable) (r : DBEvent)
    (member : r ∈ ((deleteByPubkeyAndIds fate now event.pubkey ids).run table).2) :
    ∃ old ∈ table, ∃ deletedAt, r = { old with deletedAt := deletedAt } := by
  rw [delete_table] at member
  split at member
  · obtain ⟨old, inTable, rfl⟩ := List.mem_map.mp member
    refine ⟨old, inTable, ?_⟩
    split
    · exact ⟨_, rfl⟩
    · exact ⟨old.deletedAt, rfl⟩
  · exact ⟨r, member, r.deletedAt, rfl⟩

end Nostream.Writes
