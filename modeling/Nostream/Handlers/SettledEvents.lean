import Nostream.Handlers.SubmissionPool

set_option autoImplicit false

namespace Nostream.SettledEvents

open Utf16 Hex Sql Effects EventRepository Writes SubmissionStages SubmissionPool

def bound (event : Event) : EventRow := upsertRow event (replacementDeduplication event)

def Settled (event : Event) (table : EventsTable) : Prop :=
  if isReplacing event then
    ∃ existing, table.find? (sameKey (bound event)) = some existing ∧
      event.createdAt ≤ existing.eventCreatedAt
  else ∃ r ∈ table, r.eventId = ofHex event.id ∧ replaceableEventsIdx r.eventKind = false

structure Inherits (before : EventsTable) (heir : DBEvent → DBEvent) : Prop where
  key : ∀ row r, sameKey row (heir r) = sameKey row r
  later : ∀ row existing, before.find? (sameKey row) = some existing →
    existing.eventCreatedAt ≤ (heir existing).eventCreatedAt
  plain : ∀ r ∈ before, replaceableEventsIdx r.eventKind = false →
    (heir r).eventId = r.eventId ∧ (heir r).eventKind = r.eventKind

def Succeeds (before after : EventsTable) : Prop :=
  ∃ heir new, Inherits before heir ∧ after = before.map heir ++ new

theorem inherits_self (table : EventsTable) : Inherits table id :=
  ⟨fun _ _ => rfl, fun _ _ _ => le_refl _, fun _ _ _ => ⟨rfl, rfl⟩⟩

theorem succeeds_append (table new : EventsTable) : Succeeds table (table ++ new) :=
  ⟨id, new, inherits_self table, by rw [List.map_id]⟩

theorem succeeds_self (table : EventsTable) : Succeeds table table := by
  simpa using succeeds_append table []

theorem settled_succeeds (event : Event) (before after : EventsTable)
    (settled : Settled event before) (succeeds : Succeeds before after) : Settled event after := by
  obtain ⟨heir, new, inherits, rfl⟩ := succeeds
  unfold Settled at settled ⊢
  split at settled
  next replacing =>
    obtain ⟨existing, found, newer⟩ := settled
    rw [if_pos replacing]
    have same : sameKey (bound event) ∘ heir = sameKey (bound event) :=
      funext fun r => inherits.key (bound event) r
    refine ⟨heir existing, ?_, newer.trans (inherits.later _ _ found)⟩
    rw [List.find?_append, List.find?_map, same, found]
    rfl
  next replacing =>
    obtain ⟨r, member, id, plain⟩ := settled
    rw [if_neg replacing]
    obtain ⟨sameId, sameKind⟩ := inherits.plain r member plain
    exact ⟨heir r, List.mem_append_left _ (List.mem_map_of_mem member), sameId.trans id, sameKind ▸ plain⟩

theorem sameKey_eq (a b : EventRow) (r : DBEvent) (ofA : sameKey a r = true) (ofB : sameKey b r = true) :
    sameKey a = sameKey b := by
  obtain ⟨_, pubkeyA, kindA, _, deduplicationA⟩ := (sameIndexKey_iff _ _).mp ofA
  obtain ⟨_, pubkeyB, kindB, _, deduplicationB⟩ := (sameIndexKey_iff _ _).mp ofB
  funext other
  rw [Bool.eq_iff_iff, sameKey, sameKey, sameIndexKey_iff, sameIndexKey_iff, ← pubkeyA, ← pubkeyB,
    ← kindA, ← kindB, ← deduplicationA, ← deduplicationB]

theorem create_succeeds (fate : Fate) (event : Event) (table : EventsTable) :
    Succeeds table ((create fate event).run table).2 := by
  rw [create_eq]
  dsimp only
  split
  · exact succeeds_append table _
  · exact succeeds_self table

theorem merged_succeeds (row : EventRow) (table : EventsTable) (existing : DBEvent)
    (found : table.find? (sameKey row) = some existing)
    (older : existing.eventCreatedAt < row.eventCreatedAt) : Succeeds table (merged row table) := by
  refine ⟨fun r => if sameKey row r then mergeRow r row.stored else r, [], ⟨?_, ?_, ?_⟩, by simp [merged]⟩
  · intro other r
    split <;> rfl
  · intro other first isFirst
    split
    next same =>
      have keys := sameKey_eq row other first same (List.find?_some isFirst)
      rw [keys, isFirst] at found
      cases found
      exact older.le
    next => exact le_refl _
  · intro r _ plain
    split
    next same =>
      rw [((sameIndexKey_iff _ _).mp same).1] at plain
      cases plain
    next => exact ⟨rfl, rfl⟩

theorem upsert_succeeds (fate : Fate) (event : Event) (deduplication : Option (List JsString))
    (table : EventsTable) :
    Succeeds table ((EventRepository.upsert fate event deduplication).run table).2 := by
  rcases upsert_written fate event deduplication table with same | ⟨count, _, outcome⟩
  · rw [same]
    exact succeeds_self table
  · generalize ((EventRepository.upsert fate event deduplication).run table).2 = after at outcome
    cases outcome with
    | appended => exact succeeds_append table _
    | replaced existing found older noOther => exact merged_succeeds _ table existing found older
    | kept => exact succeeds_self table

theorem delete_succeeds (fate : Fate) (now : Int) (event : Event) (ids : List JsString)
    (table : EventsTable) :
    Succeeds table ((deleteByPubkeyAndIds fate now event.pubkey ids).run table).2 := by
  rw [Writes.delete_table]
  split
  · refine ⟨fun r => if isDeletable (ofHex event.pubkey) (ids.map ofHex) r then
      { r with deletedAt := some now } else r, [], ⟨?_, ?_, ?_⟩, by simp [marked]⟩
    · intro other r
      split <;> rfl
    · intro _ existing _
      split <;> exact le_refl _
    · intro r _ _
      split <;> exact ⟨rfl, rfl⟩
  · exact succeeds_self table

theorem write_succeeds (fates : Fates) (event : Event) (table : EventsTable) :
    Succeeds table ((write fates event).run table).2 := by
  cases replacing : isReplacing event with
  | true =>
    rw [write_replacing fates event replacing]
    exact upsert_succeeds fates.upsert event _ table
  | false =>
    rw [write_creating fates event replacing]
    exact create_succeeds fates.insert event table

theorem advance_succeeds (fates : Fates) (submission advanced : Submission) (before after : EventsTable)
    (moved : Advance fates submission before advanced after) : Succeeds before after := by
  cases moved with
  | failed => exact delete_succeeds fates.update fates.now submission.event _ before
  | deleted => exact delete_succeeds fates.update fates.now submission.event _ before
  | written outcome after stage ran =>
    have succeeds := write_succeeds fates submission.event before
    rwa [ran] at succeeds

inductive Puts (event : Event) (before : EventsTable) : EventsTable → Prop
  | inserted (creating : isReplacing event = false) (unknown : hasId before (ofHex event.id) = false) :
      Puts event before (before ++ [(insertRow event).stored])
  | appended (replacing : isReplacing event = true) (fresh : before.find? (sameKey (bound event)) = none)
      (unknown : hasId before (ofHex event.id) = false) :
      Puts event before (before ++ [(bound event).stored])
  | replaced (replacing : isReplacing event = true) (existing : DBEvent)
      (found : before.find? (sameKey (bound event)) = some existing)
      (older : existing.eventCreatedAt < event.createdAt)
      (noOther : ∀ r ∈ before, sameKey (bound event) r = false → r.eventId ≠ ofHex event.id) :
      Puts event before (merged (bound event) before)

theorem find_merged (row : EventRow) (table : EventsTable) (existing : DBEvent)
    (found : table.find? (sameKey row) = some existing) :
    (merged row table).find? (sameKey row) = some (mergeRow existing row.stored) := by
  have same : (sameKey row ∘ fun r => if sameKey row r then mergeRow r row.stored else r) =
      sameKey row := by
    funext r
    dsimp only [Function.comp_apply]
    split <;> rfl
  rw [merged, List.find?_map, same, found, Option.map_some, if_pos (List.find?_some found)]

theorem bound_sameKey (event : Event) (replacing : isReplacing event = true) :
    sameKey (bound event) (bound event).stored = true :=
  (sameIndexKey_iff _ _).mpr ⟨(replacing_kind event).symm.trans replacing, rfl, rfl, rfl, rfl⟩

theorem puts_settles (event : Event) (before after : EventsTable) (puts : Puts event before after) :
    ¬ Settled event before ∧ Settled event after := by
  unfold Settled
  cases puts with
  | inserted creating unknown =>
    rw [if_neg (by simp [creating]), if_neg (by simp [creating])]
    refine ⟨?_, (insertRow event).stored, by simp, rfl, (replacing_kind event).symm.trans creating⟩
    rintro ⟨r, member, id, _⟩
    exact absurd ((hasId_iff ..).mpr ⟨r, member, id⟩) (by simp [unknown])
  | appended replacing fresh unknown =>
    rw [if_pos replacing, if_pos replacing]
    refine ⟨?_, (bound event).stored, ?_, le_refl _⟩
    · rintro ⟨existing, found, _⟩
      exact absurd (fresh.symm.trans found) (by simp)
    · rw [List.find?_append, fresh]
      exact List.find?_cons_of_pos (bound_sameKey event replacing)
  | replaced replacing existing found older noOther =>
    rw [if_pos replacing, if_pos replacing]
    refine ⟨?_, mergeRow existing (bound event).stored, find_merged (bound event) before existing found,
      le_refl _⟩
    rintro ⟨first, isFirst, newer⟩
    rw [found] at isFirst
    cases isFirst
    exact absurd older (not_lt.mpr newer)

theorem merged_puts (event : Event) (replacing : isReplacing event = true) (before after : EventsTable)
    (count : Nat) (outcome : Merged (bound event) before count after) :
    (count = 0 ∧ after = before) ∨ Puts event before after := by
  cases outcome with
  | appended fresh newId => exact .inr (.appended replacing fresh newId)
  | replaced existing found older noOther => exact .inr (.replaced replacing existing found older noOther)
  | kept => exact .inl ⟨rfl, rfl⟩

theorem write_puts (fates : Fates) (event : Event) (before : EventsTable) :
    ((write fates event).run before).2 = before ∨ Puts event before ((write fates event).run before).2 := by
  cases replacing : isReplacing event with
  | true =>
    rw [write_replacing fates event replacing]
    rcases upsert_written fates.upsert event (replacementDeduplication event) before with
      same | ⟨count, _, outcome⟩
    · exact .inl same
    · exact (merged_puts event replacing before _ count outcome).imp And.right id
  | false =>
    rw [write_creating fates event replacing, create_eq]
    dsimp only
    split
    next inserted =>
      simp only [inserts, Bool.and_eq_true, Bool.not_eq_true'] at inserted
      exact .inr (.inserted replacing inserted.2)
    next => exact .inl rfl

theorem counted_puts (fates : Fates) (event : Event) (before after : EventsTable) (count : Nat)
    (counted : count ≠ 0) (ran : (write fates event).run before = (.ok count, after)) :
    Puts event before after := by
  cases replacing : isReplacing event with
  | true =>
    rw [write_replacing fates event replacing] at ran
    obtain ⟨_, _, outcome⟩ := (upsert_ok ..).mp ran
    exact (merged_puts event replacing before after count outcome).resolve_left fun zero => counted zero.1
  | false =>
    rw [write_creating fates event replacing, create_eq, Prod.mk.injEq, Except.ok.injEq] at ran
    obtain ⟨isCount, isAfter⟩ := ran
    split at isCount
    next both =>
      rw [if_pos both.1] at isAfter
      have inserted := both.1
      simp only [inserts, Bool.and_eq_true, Bool.not_eq_true'] at inserted
      exact isAfter ▸ .inserted replacing inserted.2
    next => exact (counted isCount.symm).elim

theorem settled_same (a b : Event) (table : EventsTable) (id : a.id = b.id)
    (same : SameSignedFields a b) : Settled a table ↔ Settled b table := by
  obtain ⟨pubkey, createdAt, kind, tags, content⟩ := same
  cases a
  cases b
  subst id pubkey createdAt kind tags content
  rfl

end Nostream.SettledEvents
