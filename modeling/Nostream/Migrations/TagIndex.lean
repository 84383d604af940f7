import Nostream.Migrations.EventTagsTable
import Nostream.Utils.RecordedCrypto

set_option autoImplicit false

namespace Nostream.TagIndex

open Utf16 Hex Sql EventRepository FilterAgreement Writes JsonText TagStore Backfill

-- The unique constraint on event_id and the partial unique index.
def Constrained (events : EventsTable) : Prop :=
  events.Pairwise fun a b => a.eventId ≠ b.eventId ∧ sameIndexKey a b = false

structure Mirrors (store : TagStore) : Prop where
  exact : ∀ r ∈ store.events,
    ((store.eventTags.filter fun tag => tag.eventId == r.eventId).map fun tag =>
      (tag.tagName, tag.tagValue)).Perm (tagProjection r)
  attached : ∀ tag ∈ store.eventTags, ∃ r ∈ store.events, r.eventId = tag.eventId

-- No character of an indexed name or value is written with a backslash in JSON text.
def PlainTag (tag : List (List Char)) : Prop :=
  ∀ pair ∈ tagPair tag, (∀ c ∈ pair.1, isEscaped c = false) ∧ ∀ c ∈ pair.2, isEscaped c = false

def Plain (tags : List (List (List Char))) : Prop := ∀ tag ∈ tags, PlainTag tag

def BackfillableTag (tag : List (List Char)) : Prop :=
  tag ≠ [] ∧ ∀ pair ∈ tagPair tag, (encode pair.1).length = 1

def exactRows (r : DBEvent) : List EventTag := (tagProjection r).map (eventTag r)

theorem triggerPair_plain (tag : List (List Char)) (plain : PlainTag tag) :
    triggerPair tag = tagPair tag := by
  rcases tag with _ | ⟨name, _ | ⟨value, rest⟩⟩
  · rfl
  · simp [triggerPair, tagText, tagPair]
  · have longName := length_trimQuotes_quoted name
    simp only [triggerPair, tagText, List.getElem?_cons_zero, List.getElem?_cons_succ, Option.map_some]
    by_cases empty : value = []
    · subst empty
      have none : tagPair (name :: [] :: rest) = none := by
        unfold tagPair
        split <;> simp_all
      have nothing : trimQuotes (quoted []) = [] := rfl
      simp [none, nothing]
    · have nonempty : trimQuotes (quoted value) ≠ [] := by
        have longValue := length_trimQuotes_quoted value
        have positive : 0 < value.length := List.length_pos_iff.mpr empty
        exact List.length_pos_iff.mp (by omega)
      rcases name with _ | ⟨letter, _ | ⟨second, more⟩⟩
      · have nothing : trimQuotes (quoted []) = [] := rfl
        simp [tagPair, nothing]
      · have pair : tagPair ([letter] :: value :: rest) = some ([letter], value) := by
          simp [tagPair, empty]
        obtain ⟨plainName, plainValue⟩ := plain _ pair
        rw [trimQuotes_quoted_plain _ plainName, trimQuotes_quoted_plain _ plainValue, pair]
        simp [empty]
      · have long : ¬ (trimQuotes (quoted (letter :: second :: more))).length = 1 := by
          simp only [List.length_cons] at longName
          omega
        simp [tagPair, long]

theorem triggerRows_plain (r : DBEvent) (plain : Plain r.eventTags) : triggerRows r = exactRows r := by
  have same : r.eventTags.filterMap triggerPair = tagProjection r :=
    List.filterMap_congr fun tag member => triggerPair_plain tag (plain tag member)
  rw [triggerRows, exactRows, same]

theorem exactRows_eventId (r : DBEvent) (tag : EventTag) (member : tag ∈ exactRows r) :
    tag.eventId = r.eventId := by
  obtain ⟨pair, _, rfl⟩ := List.mem_map.mp member
  rfl

theorem filter_exactRows (events : EventsTable) (keep : Bytes → Bool) :
    (events.flatMap exactRows).filter (fun tag => keep tag.eventId) =
      (events.filter fun r => keep r.eventId).flatMap exactRows := by
  induction events with
  | nil => rfl
  | cons r rest ih =>
    rw [List.flatMap_cons, List.filter_append, ih]
    by_cases kept : keep r.eventId = true
    · have all : (exactRows r).filter (fun tag => keep tag.eventId) = exactRows r :=
        List.filter_eq_self.mpr fun tag member => by rw [exactRows_eventId r tag member, kept]
      rw [all, List.filter_cons_of_pos (by exact kept), List.flatMap_cons]
    · have none : (exactRows r).filter (fun tag => keep tag.eventId) = [] :=
        List.filter_eq_nil_iff.mpr fun tag member => by rwa [exactRows_eventId r tag member]
      rw [none, List.filter_cons_of_neg (by exact kept), List.nil_append]

theorem constrained_cons (r : DBEvent) (rest : EventsTable) (constrained : Constrained (r :: rest)) :
    (∀ other ∈ rest, r.eventId ≠ other.eventId) ∧ Constrained rest := by
  obtain ⟨apart, tail⟩ := List.pairwise_cons.mp constrained
  exact ⟨fun other member => (apart other member).1, tail⟩

theorem filter_own (events : EventsTable) (constrained : Constrained events) (r : DBEvent)
    (member : r ∈ events) : events.filter (fun other => other.eventId == r.eventId) = [r] := by
  induction events with
  | nil => cases member
  | cons first rest ih =>
    obtain ⟨apart, tail⟩ := constrained_cons first rest constrained
    rcases List.mem_cons.mp member with rfl | inRest
    · rw [List.filter_cons_of_pos (by simp), List.filter_eq_nil_iff.mpr]
      intro other inRest
      simpa using (apart other inRest).symm
    · rw [List.filter_cons_of_neg (by simpa using apart r inRest), ih tail inRest]

theorem eq_of_eventId (events : EventsTable) (constrained : Constrained events) (a b : DBEvent)
    (inA : a ∈ events) (inB : b ∈ events) (same : b.eventId = a.eventId) : b = a := by
  have alone := filter_own events constrained a inA
  have inFilter : b ∈ events.filter fun other => other.eventId == a.eventId :=
    List.mem_filter.mpr ⟨inB, by simpa using same⟩
  rwa [alone, List.mem_singleton] at inFilter

theorem mirrors_of_exact (store : TagStore) (constrained : Constrained store.events)
    (rows : store.eventTags.Perm (store.events.flatMap exactRows)) : Mirrors store := by
  constructor
  · intro r member
    have own : (store.events.flatMap exactRows).filter (fun tag => tag.eventId == r.eventId) =
        exactRows r := by
      rw [filter_exactRows store.events (· == r.eventId), filter_own _ constrained r member]
      exact List.flatMap_singleton ..
    have pairs : (exactRows r).map (fun tag => (tag.tagName, tag.tagValue)) = tagProjection r := by
      rw [exactRows, List.map_map]
      exact List.map_id _
    have same := (rows.filter fun tag => tag.eventId == r.eventId).map
      fun tag => (tag.tagName, tag.tagValue)
    rwa [own, pairs] at same
  · intro tag member
    obtain ⟨r, stored, inRow⟩ := List.mem_flatMap.mp (rows.mem_iff.mp member)
    exact ⟨r, stored, (exactRows_eventId r tag inRow).symm⟩

structure Indexed (store : TagStore) : Prop where
  constrained : Constrained store.events
  rows : store.eventTags.Perm (store.events.flatMap exactRows)

theorem Indexed.mirrors {store : TagStore} (indexed : Indexed store) : Mirrors store :=
  mirrors_of_exact store indexed.constrained indexed.rows

theorem constrained_append (events : EventsTable) (new : DBEvent) (constrained : Constrained events)
    (fresh : ∀ r ∈ events, r.eventId ≠ new.eventId ∧ sameIndexKey r new = false) :
    Constrained (events ++ [new]) :=
  List.pairwise_append.mpr ⟨constrained, List.pairwise_singleton .., fun r member _ inNew =>
    List.mem_singleton.mp inNew ▸ fresh r member⟩

theorem indexed_append (store : TagStore) (new : DBEvent) (indexed : Indexed store)
    (plain : Plain new.eventTags)
    (fresh : ∀ r ∈ store.events, r.eventId ≠ new.eventId ∧ sameIndexKey r new = false) :
    Indexed { events := store.events ++ [new]
              eventTags := processEventTags store.eventTags (.insert new) } := by
  refine ⟨constrained_append _ new indexed.constrained fresh, ?_⟩
  rw [List.flatMap_append, List.flatMap_singleton, ← triggerRows_plain new plain]
  exact indexed.rows.append_right _

theorem sameIndexKey_comm (a b : DBEvent) : sameIndexKey a b = sameIndexKey b a := by
  rw [Bool.eq_iff_iff, sameIndexKey_iff, sameIndexKey_iff]
  constructor <;> rintro ⟨idx, pubkey, kind, present, same⟩ <;>
    exact ⟨kind ▸ idx, pubkey.symm, kind.symm, same ▸ present, same.symm⟩

theorem sameIndexKey_trans (a b c : DBEvent) (first : sameIndexKey a b = true)
    (second : sameIndexKey b c = true) : sameIndexKey a c = true := by
  obtain ⟨idx, pubkey, kind, present, same⟩ := (sameIndexKey_iff _ _).mp first
  obtain ⟨_, pubkey', kind', _, same'⟩ := (sameIndexKey_iff _ _).mp second
  exact (sameIndexKey_iff _ _).mpr
    ⟨idx, pubkey.trans pubkey', kind.trans kind', present, same.trans same'⟩

theorem filter_sameKey (events : EventsTable) (constrained : Constrained events) (row : EventRow)
    (existing : DBEvent) (found : events.find? (sameKey row) = some existing) :
    events.filter (sameKey row) = [existing] ∧
      ∀ r ∈ events, sameKey row r = true ↔ r.eventId = existing.eventId := by
  induction events with
  | nil => cases found
  | cons first rest ih =>
    obtain ⟨apart, tail⟩ := List.pairwise_cons.mp constrained
    by_cases same : sameKey row first = true
    · rw [List.find?_cons_of_pos same] at found
      cases found
      have others (r : DBEvent) (member : r ∈ rest) : sameKey row r = false := by
        rw [Bool.eq_false_iff]
        intro alike
        have twice := sameIndexKey_trans existing row.stored r same (sameIndexKey_comm .. ▸ alike)
        rw [(apart r member).2] at twice
        cases twice
      refine ⟨?_, ?_⟩
      · rw [List.filter_cons_of_pos same, List.filter_eq_nil_iff.mpr]
        simpa using others
      · intro r member
        rcases List.mem_cons.mp member with rfl | inRest
        · simp [same]
        · simp [others r inRest, (apart r inRest).1.symm]
    · rw [List.find?_cons_of_neg same] at found
      obtain ⟨single, key⟩ := ih tail found
      refine ⟨by rw [List.filter_cons_of_neg same, single], ?_⟩
      intro r member
      rcases List.mem_cons.mp member with rfl | inRest
      · exact iff_of_false same (apart existing (List.mem_of_find?_eq_some found)).1
      · exact key r inRest

theorem filter_other (events : EventsTable) (constrained : Constrained events) (old : DBEvent)
    (member : old ∈ events) (new : DBEvent) :
    ((events.map fun r => if r.eventId = old.eventId then new else r).flatMap exactRows).Perm
      ((events.filter fun r => r.eventId != old.eventId).flatMap exactRows ++ exactRows new) := by
  induction events with
  | nil => cases member
  | cons first rest ih =>
    obtain ⟨apart, tail⟩ := constrained_cons first rest constrained
    rcases List.mem_cons.mp member with rfl | inRest
    · have unchanged : rest.map (fun r => if r.eventId = old.eventId then new else r) = rest :=
        (List.map_congr_left fun r inRest => if_neg (apart r inRest).symm).trans (List.map_id _)
      have kept : rest.filter (fun r => r.eventId != old.eventId) = rest :=
        List.filter_eq_self.mpr fun r inRest => by simpa using (apart r inRest).symm
      rw [List.map_cons, if_pos rfl, unchanged, List.filter_cons_of_neg (by simp), kept,
        List.flatMap_cons]
      exact List.perm_append_comm
    · have other : first.eventId ≠ old.eventId := apart old inRest
      rw [List.map_cons, if_neg other, List.filter_cons_of_pos (by simpa using other),
        List.flatMap_cons, List.flatMap_cons, List.append_assoc]
      exact (ih tail inRest).append_left _

theorem indexed_update (store : TagStore) (old new : DBEvent) (indexed : Indexed store)
    (plain : Plain new.eventTags) (member : old ∈ store.events) :
    (processEventTags store.eventTags (.update old new)).Perm
      ((store.events.map fun r => if r.eventId = old.eventId then new else r).flatMap exactRows) := by
  have kept := indexed.rows.filter fun tag => tag.eventId != old.eventId
  rw [filter_exactRows store.events (· != old.eventId)] at kept
  simp only [processEventTags, without, triggerRows_plain new plain]
  exact (kept.append_right _).trans (filter_other _ indexed.constrained old member new).symm

theorem insertIgnore_ok (row : EventRow) (table written : EventsTable) (rowCount : Nat)
    (ran : insertIgnore row table = .ok (rowCount, written)) :
    row.storable = true ∧ ((rowCount = 0 ∧ written = table) ∨
      (rowCount = 1 ∧ written = table ++ [row.stored] ∧
        ∀ r ∈ table, r.eventId ≠ row.stored.eventId ∧ sameIndexKey r row.stored = false)) := by
  unfold insertIgnore at ran
  split_ifs at ran with unstorable conflict
  · cases ran
    exact ⟨by simpa using unstorable, .inl ⟨rfl, rfl⟩⟩
  · cases ran
    refine ⟨by simpa using unstorable, .inr ⟨rfl, rfl, fun r member => ?_⟩⟩
    have free := List.any_eq_false.mp (Bool.not_eq_true _ ▸ conflict) r member
    simpa [EventRow.stored] using free

def PlainChange : RowChange → Prop
  | .insert new => Plain new.eventTags
  | .update _ new => Plain new.eventTags
  | .delete _ => True

def PlainStep (events : EventsTable) (operation : Operation) : Prop :=
  ∀ change ∈ fired events operation, PlainChange change

def PlainRun : EventsTable → List Operation → Prop
  | _, [] => True
  | events, operation :: rest => PlainStep events operation ∧ PlainRun (written events operation) rest

theorem merged_constrained (row : EventRow) (events : EventsTable) (constrained : Constrained events)
    (noOther : ∀ r ∈ events, sameKey row r = false → r.eventId ≠ row.eventId) :
    Constrained (merged row events) := by
  have key (r : DBEvent) (other : DBEvent) :
      sameIndexKey (if sameKey row r then mergeRow r row.stored else r) other = sameIndexKey r other := by
    split <;> rfl
  refine List.pairwise_map.mpr (constrained.imp_of_mem ?_)
  rintro a b inA inB ⟨apart, unlike⟩
  refine ⟨?_, by rw [key, sameIndexKey_comm, key, sameIndexKey_comm, unlike]⟩
  by_cases sameA : sameKey row a = true <;> by_cases sameB : sameKey row b = true
  · have alike := sameIndexKey_trans a row.stored b sameA (sameIndexKey_comm .. ▸ sameB)
    rw [unlike] at alike
    cases alike
  · rw [if_pos sameA, if_neg sameB]
    exact (noOther b inB (by simpa using sameB)).symm
  · rw [if_neg sameA, if_pos sameB]
    exact noOther a inA (by simpa using sameA)
  · rwa [if_neg sameA, if_neg sameB]

def KeepsIndex (operation : Operation) : Prop :=
  ∀ (store : TagStore) (rowCount : Nat) (written : EventsTable), Indexed store →
    statement operation store.events = .ok (rowCount, written) →
      (∀ change ∈ changes store.events rowCount operation, PlainChange change) →
        Indexed { events := written
                  eventTags := (changes store.events rowCount operation).foldl processEventTags
                    store.eventTags }

theorem insert_indexed (event : Event) : KeepsIndex (.insert event) := by
  intro store rowCount written indexed ran plain
  rcases (insertIgnore_ok _ _ _ _ ran).2 with ⟨rfl, rfl⟩ | ⟨rfl, rfl, fresh⟩
  · exact indexed
  · exact indexed_append store _ indexed (plain (.insert _) (by simp [changes])) fresh

theorem upsert_indexed (event : Event) (deduplication : Option (List JsString)) :
    KeepsIndex (.upsert event deduplication) := by
  intro store rowCount written indexed ran plain
  cases ((insertMerge_ok ..).mp ran).2 with
  | appended fresh newId =>
    have unlike := List.find?_eq_none.mp fresh
    have none : store.events.filter (sameKey (upsertRow event deduplication)) = [] :=
      List.filter_eq_nil_iff.mpr unlike
    have one : changes store.events 1 (.upsert event deduplication) =
        [.insert (upsertRow event deduplication).stored] := by simp [changes, upsertChanges, none]
    rw [one, List.forall_mem_singleton] at plain
    rw [one]
    refine indexed_append store _ indexed plain fun r member => ⟨fun same => ?_, ?_⟩
    · have known := (hasId_iff ..).mpr ⟨r, member, same⟩
      exact absurd (newId.symm.trans known) (by simp)
    · exact (Bool.not_eq_true _).mp (unlike r member)
  | replaced existing found older noOther =>
    obtain ⟨single, key⟩ := filter_sameKey _ indexed.constrained _ existing found
    have one : changes store.events 1 (.upsert event deduplication) =
        [.update existing (mergeRow existing (upsertRow event deduplication).stored)] := by
      simp [changes, upsertChanges, single]
    rw [one, List.forall_mem_singleton] at plain
    rw [one]
    have rows := indexed_update store existing _ indexed plain (List.mem_of_find?_eq_some found)
    refine ⟨merged_constrained _ _ indexed.constrained noOther, rows.trans (List.Perm.of_eq ?_)⟩
    simp only [merged, List.flatMap_map]
    refine List.flatMap_congr fun r member => ?_
    simp only [key r member]
    split <;> rfl
  | kept existing found newer => exact indexed

theorem foldl_update (store : TagStore) (indexed : Indexed store) (olds : List DBEvent)
    (inStore : ∀ old ∈ olds, old ∈ store.events) (rewrite : DBEvent → DBEvent)
    (same : ∀ r, exactRows (rewrite r) = exactRows r)
    (plain : ∀ old ∈ olds, Plain (rewrite old).eventTags) :
    ((olds.map fun old => RowChange.update old (rewrite old)).foldl processEventTags
      store.eventTags).Perm (store.events.flatMap exactRows) := by
  induction olds generalizing store with
  | nil => exact indexed.rows
  | cons old rest ih =>
    have inEvents := inStore old (by simp)
    have rows := indexed_update store old (rewrite old) indexed (plain old (by simp)) inEvents
    have unchanged : (store.events.map fun r => if r.eventId = old.eventId then rewrite old else r).flatMap
        exactRows = store.events.flatMap exactRows := by
      rw [List.flatMap_map]
      refine List.flatMap_congr fun r member => ?_
      split
      next sameId => rw [eq_of_eventId _ indexed.constrained old r inEvents member sameId, same]
      next => rfl
    rw [unchanged] at rows
    exact ih { store with eventTags := processEventTags store.eventTags (.update old (rewrite old)) }
      ⟨indexed.constrained, rows⟩ (fun other inRest => inStore other (List.mem_cons_of_mem _ inRest))
      fun other inRest => plain other (List.mem_cons_of_mem _ inRest)

theorem softDelete_indexed (pubkey : Bytes) (ids : List Bytes) (now : Int) :
    KeepsIndex (.softDelete pubkey ids now) := by
  intro store rowCount written indexed ran plain
  cases ran
  have rows := foldl_update store indexed (store.events.filter (isDeletable pubkey ids))
    (fun old member => (List.mem_filter.mp member).1) (fun old => { old with deletedAt := some now })
    (fun _ => rfl) (fun old member => plain _ (List.mem_map_of_mem member))
  refine ⟨List.pairwise_map.mpr (indexed.constrained.imp ?_), ?_⟩
  · rintro a b apart
    split <;> split <;> exact apart
  · refine rows.trans (List.Perm.of_eq (Eq.symm ?_))
    refine (List.flatMap_map ..).trans (List.flatMap_congr fun r _ => ?_)
    split <;> rfl

theorem foldl_delete (olds : List DBEvent) (eventTags : List EventTag) :
    (olds.map RowChange.delete).foldl processEventTags eventTags =
      eventTags.filter fun tag => olds.all fun old => tag.eventId != old.eventId := by
  induction olds generalizing eventTags with
  | nil => exact (List.filter_eq_self.mpr fun _ _ => rfl).symm
  | cons old rest ih =>
    rw [List.map_cons, List.foldl_cons, ih]
    simp only [processEventTags, without, List.filter_filter, List.all_cons]
    exact List.filter_congr fun tag _ => Bool.and_comm ..

theorem remove_indexed (selected : DBEvent → Bool) : KeepsIndex (.remove selected) := by
  intro store rowCount written indexed ran _
  cases ran
  refine ⟨indexed.constrained.sublist List.filter_sublist, ?_⟩
  have rows := indexed.rows.filter fun tag =>
    (store.events.filter selected).all fun old => tag.eventId != old.eventId
  rw [filter_exactRows store.events fun id =>
    (store.events.filter selected).all fun old => id != old.eventId] at rows
  simp only [changes, foldl_delete]
  refine rows.trans (List.Perm.of_eq (congrArg (List.flatMap exactRows) ?_))
  refine List.filter_congr fun r member => ?_
  rw [Bool.eq_iff_iff, List.all_eq_true, Bool.not_eq_true']
  constructor
  · intro survives
    rw [Bool.eq_false_iff]
    intro chosen
    simpa using survives r (List.mem_filter.mpr ⟨member, chosen⟩)
  · intro spared old chosen
    obtain ⟨inEvents, isSelected⟩ := List.mem_filter.mp chosen
    rw [bne_iff_ne]
    intro sameId
    rw [eq_of_eventId _ indexed.constrained old r inEvents member sameId, isSelected] at spared
    cases spared

theorem statement_indexed (operation : Operation) : KeepsIndex operation := by
  cases operation with
  | insert event => exact insert_indexed event
  | upsert event deduplication => exact upsert_indexed event deduplication
  | softDelete pubkey ids now => exact softDelete_indexed pubkey ids now
  | remove selected => exact remove_indexed selected

theorem apply_indexed (store : TagStore) (operation : Operation) (indexed : Indexed store)
    (plain : PlainStep store.events operation) : Indexed (store.apply operation) := by
  have keeps := statement_indexed operation store
  unfold PlainStep fired at plain
  unfold TagStore.apply written fired
  cases ran : statement operation store.events with
  | error reason => exact indexed
  | ok outcome =>
    rw [ran] at plain
    exact keeps outcome.1 outcome.2 indexed ran plain

theorem run_indexed (operations : List Operation) (store : TagStore) (indexed : Indexed store)
    (plain : PlainRun store.events operations) : Indexed (store.run operations) := by
  induction operations generalizing store with
  | nil => exact indexed
  | cons operation rest ih =>
    exact ih (store.apply operation) (apply_indexed store operation indexed plain.1) plain.2

theorem backfillTags_eq (r : DBEvent) (tags : List (List (List Char))) (eventTags : List EventTag)
    (backfillable : ∀ tag ∈ tags, BackfillableTag tag) :
    backfillTags r tags eventTags = .ok (eventTags ++ (tags.filterMap tagPair).map (eventTag r)) := by
  induction tags generalizing eventTags with
  | nil => simp [backfillTags]
  | cons tag rest ih =>
    have tail := fun eventTags => ih eventTags fun other inRest =>
      backfillable other (List.mem_cons_of_mem _ inRest)
    obtain ⟨named, oneUnit⟩ := backfillable tag (by simp)
    rcases tag with _ | ⟨name, _ | ⟨value, more⟩⟩
    · exact (named rfl).elim
    · simp [backfillTags, tagPair, tail]
    · simp only [backfillTags]
      cases pair : tagPair (name :: value :: more) with
      | some found =>
        have unit := oneUnit _ pair
        unfold tagPair at pair
        split at pair
        next letter other rest' same =>
          cases same
          split_ifs at pair with empty
          cases pair
          rw [if_pos ⟨unit, empty⟩, tail]
          simp [tagPair, empty]
        next => cases pair
      | none =>
        have skipped : ¬ ((encode name).length = 1 ∧ value ≠ []) := by
          rintro ⟨unit, nonempty⟩
          have short := length_le_encode name
          rcases name with _ | ⟨letter, _ | ⟨second, others⟩⟩
          · simp at unit
          · simp [tagPair, nonempty] at pair
          · rw [unit] at short
            simp at short
        rw [if_neg skipped, tail, List.filterMap_cons_none pair]

theorem backfill_eq (events : EventsTable) (eventTags : List EventTag) (constrained : Constrained events)
    (backfillable : ∀ r ∈ events, ∀ tag ∈ r.eventTags, BackfillableTag tag)
    (others : ∀ tag ∈ eventTags, ∀ r ∈ events, tag.eventId ≠ r.eventId) :
    backfill events eventTags = .ok (eventTags ++ events.flatMap exactRows) := by
  induction events generalizing eventTags with
  | nil => simp [backfill]
  | cons r rest ih =>
    obtain ⟨apart, tail⟩ := constrained_cons r rest constrained
    have missing : (eventTags.any fun tag => tag.eventId == r.eventId) = false := by
      simpa using fun tag member => others tag member r (by simp)
    have written := backfillTags_eq r r.eventTags eventTags (backfillable r (by simp))
    simp only [backfill, missing, written]
    refine (ih _ tail (fun other inRest => backfillable other (List.mem_cons_of_mem _ inRest)) ?_).trans ?_
    · intro tag member other inRest
      rcases List.mem_append.mp member with old | new
      · exact others tag old other (List.mem_cons_of_mem _ inRest)
      · obtain ⟨pair, _, rfl⟩ := List.mem_map.mp new
        exact apart other inRest
    · rw [List.flatMap_cons, List.append_assoc]
      rfl

theorem tag_index_mirrors (events : EventsTable) (constrained : Constrained events)
    (backfillable : ∀ r ∈ events, ∀ tag ∈ r.eventTags, BackfillableTag tag) :
    ∃ eventTags, backfill events [] = .ok eventTags ∧
      Mirrors { events := events, eventTags := eventTags } ∧
      ∀ operations, PlainRun events operations →
        Mirrors (TagStore.run { events := events, eventTags := eventTags } operations) := by
  have start : Indexed { events := events, eventTags := events.flatMap exactRows } :=
    ⟨constrained, List.Perm.refl _⟩
  refine ⟨events.flatMap exactRows, backfill_eq events [] constrained backfillable (by simp),
    start.mirrors, fun operations plain => ?_⟩
  exact (run_indexed operations _ start plain).mirrors

def taggedNote : Event := { note with tags := [[js "t", js "nostr"], [js "client", js "a\\b"]] }

-- Through the text, not through all characters.
instance (text : List Char) : Decidable (∀ c ∈ text, isEscaped c = false) := List.decidableBAll _ text

instance (tag : List (List Char)) : Decidable (PlainTag tag) :=
  inferInstanceAs (Decidable (∀ pair ∈ tagPair tag,
    (∀ c ∈ pair.1, isEscaped c = false) ∧ ∀ c ∈ pair.2, isEscaped c = false))

instance (tag : List (List Char)) : Decidable (BackfillableTag tag) :=
  inferInstanceAs (Decidable (tag ≠ [] ∧ ∀ pair ∈ tagPair tag, (encode pair.1).length = 1))

instance (tags : List (List (List Char))) : Decidable (Plain tags) :=
  inferInstanceAs (Decidable (∀ tag ∈ tags, PlainTag tag))

instance : DecidablePred PlainChange
  | .insert new => inferInstanceAs (Decidable (Plain new.eventTags))
  | .update _ new => inferInstanceAs (Decidable (Plain new.eventTags))
  | .delete _ => inferInstanceAs (Decidable True)

instance (events : EventsTable) (operation : Operation) : Decidable (PlainStep events operation) :=
  inferInstanceAs (Decidable (∀ change ∈ fired events operation, PlainChange change))

theorem tagged_note_mirrored :
    ∃ eventTags, backfill [(insertRow taggedNote).stored] [] = .ok eventTags ∧
      Mirrors (TagStore.run { events := [(insertRow taggedNote).stored], eventTags := eventTags }
        [.upsert profile none, .upsert laterProfile none, .remove fun r => r.eventKind == 1]) := by
  obtain ⟨eventTags, ran, _, runs⟩ := tag_index_mirrors [(insertRow taggedNote).stored]
    (List.pairwise_singleton ..) (by decide +kernel)
  exact ⟨eventTags, ran, runs _ ⟨by decide +kernel, by decide +kernel, by decide +kernel, trivial⟩⟩

def quotingNote : Event :=
  { note with
    id := toHex [0x67, 0xfd, 0x8f, 0x83, 0x07, 0x23, 0x1c, 0xba, 0x3a, 0x54, 0xe7, 0xa6, 0x6e, 0x35, 0xf7, 0xee,
       0xa8, 0xee, 0xe7, 0xfd, 0xff, 0x94, 0xec, 0x4c, 0xc5, 0xb5, 0xea, 0x00, 0x9a, 0x19, 0x52, 0x0e]
    tags := [[js "t", js "say \"hi\""]]
    sig := toHex [0x3d, 0x31, 0x8b, 0x02, 0xc2, 0xfa, 0x64, 0x6a, 0xc6, 0x8f, 0x52, 0x0a, 0x9e, 0x56, 0xc3, 0x97,
       0x5a, 0x60, 0xdf, 0x6a, 0xcf, 0x4f, 0xde, 0x4c, 0xb6, 0x2c, 0x04, 0x8c, 0x91, 0x91, 0xc6, 0x20,
       0x17, 0x15, 0x07, 0xc7, 0x69, 0xaa, 0xe0, 0x6b, 0xf6, 0xdd, 0x23, 0x50, 0x49, 0xd0, 0xc3, 0xa5,
       0x2a, 0x7c, 0xd4, 0xc8, 0x5e, 0x4a, 0x11, 0x32, 0xe1, 0x3b, 0x6f, 0x77, 0x4f, 0x5e, 0xf3, 0x07] }

example : eventSchema quotingNote = true := by decide +kernel

theorem quoting_note_not_mirrored :
    ¬ ∀ operations, Mirrors (TagStore.run { events := [], eventTags := [] } operations) := by
  intro mirrors
  have rows := (mirrors [.insert quotingNote]).exact (insertRow quotingNote).stored (by decide +kernel)
  revert rows
  decide +kernel

end Nostream.TagIndex
