import Nostream.Handlers.TracedRows
import Nostream.Migrations.ChannelMetadata
import Nostream.Shared.JsonTexts

set_option autoImplicit false

namespace Nostream.DeduplicationUpgrade

open Utf16 Hex Sql EventRepository Writes MessageStages SubmissionStages SubmissionPool
open SettledEvents DeletedForGood AnnouncedOnce TagIndex TracedRows ChannelMetadata
open Runs hiding execute

-- The first index was on the author and the kind alone.
def firstReplaceableEventsIdx (eventKind : Int) : Bool :=
  eventKind == 0 || eventKind == 3 || (eventKind ≥ 10000 && eventKind < 20000)

def firstConflict (a b : DBEvent) : Bool :=
  firstReplaceableEventsIdx a.eventKind && firstReplaceableEventsIdx b.eventKind && a.eventPubkey == b.eventPubkey &&
    a.eventKind == b.eventKind

def addDeduplication (table : EventsTable) : EventsTable :=
  table.map fun r => { r with eventDeduplication := none }

-- right and the text of a bytea, as PostgreSQL has them.
def right (text : List Char) (length : Nat) : List Char := text.drop (text.length - length)

def byteaText (bytes : Bytes) : List Char := '\\' :: 'x' :: decode (toHex bytes)

-- AND binds tighter than OR: a value that is there is written over in the rows of kinds 0 and 3.
def isBackfilled (r : DBEvent) : Bool :=
  [0, 3].contains r.eventKind ||
    ((r.eventKind ≥ 10000 && r.eventKind ≤ 19999) && r.eventDeduplication.isNone)

def setDeduplicationField (table : EventsTable) : EventsTable :=
  table.map fun r =>
    if isBackfilled r then
      { r with eventDeduplication := some [.string (right (byteaText r.eventPubkey) 64), .number r.eventKind] }
    else r

def createUniqueIndex (predicate : Int → Bool) (table : EventsTable) : Option EventsTable :=
  if IndexAccepts predicate table then some table else none

-- The migrations between the first replaceable_events_idx and the present one.
def upgrade (table : EventsTable) : Option EventsTable := do
  let added ← createUniqueIndex previousReplaceableEventsIdx (addDeduplication table)
  -- The index is there already when the field is set.
  let filled ← createUniqueIndex previousReplaceableEventsIdx (setDeduplicationField added)
  createUniqueIndex replaceableEventsIdx (ChannelMetadata.up filled)

def isKeyed (eventKind : Int) : Bool := firstReplaceableEventsIdx eventKind || eventKind == 41

def assigned (r : DBEvent) : DBEvent :=
  { r with
    eventDeduplication :=
      if isKeyed r.eventKind then some [.string (decode (toHex r.eventPubkey)), .number r.eventKind] else none }

/-- The constraints of the first relay's database, and the length that its schema asks of public keys. -/
structure Legacy (table : EventsTable) : Prop where
  ids : table.Pairwise fun a b => a.eventId ≠ b.eventId
  first : table.Pairwise fun a b => firstConflict a b = false
  sized : ∀ r ∈ table, r.eventPubkey.length = 32

theorem decode_toHex_length (bytes : Bytes) : (decode (toHex bytes)).length = 2 * bytes.length := by
  have scalar (n : Nat) (small : n < 16) : isSurrogate (hexDigit n) = false := by
    refine isSurrogate_low _ ?_
    rw [hexDigit_toNat n small]
    split <;> omega
  induction bytes with
  | nil => rfl
  | cons b rest ih =>
    have size := b.toNat_lt
    change (decode (hexDigit (b.toNat / 16) :: hexDigit (b.toNat % 16) :: toHex rest)).length = _
    rw [decode_cons_scalar _ _ (scalar _ (by omega)), decode_cons_scalar _ _ (scalar _ (by omega)), List.length_cons,
      List.length_cons, ih, List.length_cons]
    omega

theorem right_byteaText (bytes : Bytes) (sized : bytes.length = 32) :
    right (byteaText bytes) 64 = decode (toHex bytes) := by
  have digits := decode_toHex_length bytes
  rw [right, byteaText, List.length_cons, List.length_cons, digits, sized]
  rfl

section Upgrading

variable (table : EventsTable)

def filled (r : DBEvent) : DBEvent :=
  { r with
    eventDeduplication :=
      if firstReplaceableEventsIdx r.eventKind then some [.string (decode (toHex r.eventPubkey)), .number r.eventKind]
      else none }

theorem filled_eq (sized : ∀ r ∈ table, r.eventPubkey.length = 32) :
    setDeduplicationField (addDeduplication table) = table.map filled := by
  rw [setDeduplicationField, addDeduplication, List.map_map]
  refine List.map_congr_left fun r member => ?_
  have kinds : isBackfilled { r with eventDeduplication := none } = firstReplaceableEventsIdx r.eventKind := by
    rw [Bool.eq_iff_iff]
    simp only [isBackfilled, firstReplaceableEventsIdx, Bool.or_eq_true, Bool.and_eq_true, List.contains_iff_mem,
      List.mem_cons, List.not_mem_nil, or_false, beq_iff_eq, decide_eq_true_eq, Option.isNone_none, and_true]
    omega
  dsimp only [Function.comp_apply]
  rw [kinds, right_byteaText r.eventPubkey (sized r member), filled]
  split <;> rfl

theorem isOutdated_filled (a : DBEvent) : isOutdated (table.map filled) (filled a) = isOutdated table a := by
  have newest : maxCreatedAt (table.map filled) (filled a) = maxCreatedAt table a := by
    rw [maxCreatedAt, List.filter_map, List.map_map]
    rfl
  rw [isOutdated, newest]
  rfl

theorem up_filled : ChannelMetadata.up (table.map filled) =
    (table.filter fun r => !isOutdated table r).map assigned := by
  have current : deleteOutdated (table.map filled) = (table.filter fun r => !isOutdated table r).map filled := by
    rw [deleteOutdated, List.filter_map]
    congr 1
    exact List.filter_congr fun r _ => congrArg not (isOutdated_filled table r)
  rw [up_eq, current, List.map_map]
  refine List.map_congr_left fun r _ => ?_
  have kind : (filled r).eventKind = r.eventKind := rfl
  rw [Function.comp_apply, kind]
  by_cases channel : r.eventKind = 41
  · simp [channel, assigned, isKeyed, withDeduplication, filled]
  · simp [channel, assigned, isKeyed, filled]

theorem replaceable_of_keyed (eventKind : Int) (keyed : isKeyed eventKind = true) :
    replaceableEventsIdx eventKind = true := by
  simp only [isKeyed, firstReplaceableEventsIdx, replaceableEventsIdx, Bool.or_eq_true, Bool.and_eq_true, beq_iff_eq,
    decide_eq_true_eq] at keyed ⊢
  omega

theorem conflict_assigned (a b : DBEvent) : conflict replaceableEventsIdx (assigned a) (assigned b) = true ↔
    isKeyed a.eventKind = true ∧ a.eventPubkey = b.eventPubkey ∧ a.eventKind = b.eventKind := by
  constructor
  · intro conflicting
    simp only [conflict, Bool.and_eq_true, beq_iff_eq] at conflicting
    obtain ⟨⟨⟨⟨_, pubkey⟩, kind⟩, present⟩, _⟩ := conflicting
    refine ⟨?_, pubkey, kind⟩
    by_contra unkeyed
    rw [assigned, if_neg unkeyed] at present
    cases present
  · rintro ⟨keyed, pubkey, kind⟩
    have keyedB : isKeyed b.eventKind = true := kind ▸ keyed
    have indexB := replaceable_of_keyed b.eventKind keyedB
    simp [conflict, assigned, keyedB, indexB, pubkey, kind]

theorem createUniqueIndex_iff (predicate : Int → Bool) (accepted : EventsTable) :
    createUniqueIndex predicate table = some accepted ↔ IndexAccepts predicate table ∧ table = accepted := by
  unfold createUniqueIndex
  split <;> simp_all

variable (legacy : Legacy table)

include legacy

theorem added_accepted : IndexAccepts previousReplaceableEventsIdx (addDeduplication table) := by
  refine List.pairwise_map.mpr (legacy.first.imp fun _ => ?_)
  simp [conflict]

theorem filled_accepted : IndexAccepts previousReplaceableEventsIdx (table.map filled) := by
  refine List.pairwise_map.mpr (legacy.first.imp ?_)
  intro a b apart
  rw [← Bool.not_eq_true] at apart ⊢
  intro conflicting
  simp only [conflict, Bool.and_eq_true, beq_iff_eq] at conflicting
  obtain ⟨⟨⟨⟨_, pubkey⟩, kind⟩, present⟩, _⟩ := conflicting
  have first : firstReplaceableEventsIdx a.eventKind = true := by
    by_contra other
    rw [filled, if_neg other] at present
    cases present
  have kinds : a.eventKind = b.eventKind := kind
  have pubkeys : a.eventPubkey = b.eventPubkey := pubkey
  apply apart
  rw [firstConflict, ← kinds, ← pubkeys, first]
  simp

theorem assigned_accepted_iff :
    IndexAccepts replaceableEventsIdx ((table.filter fun r => !isOutdated table r).map assigned) ↔ OneNewest table := by
  rw [IndexAccepts, List.pairwise_map, List.pairwise_filter]
  constructor
  · intro accepted
    refine accepted.imp ?_
    intro a b apart kindA kindB pubkey
    by_contra current
    simp only [not_or, Bool.not_eq_true] at current
    have free := apart (by simp [current.1]) (by simp [current.2])
    rw [(conflict_assigned a b).mpr ⟨by rw [kindA]; decide, pubkey, kindA.trans kindB.symm⟩] at free
    cases free
  · intro newest
    refine (legacy.first.and newest).imp ?_
    rintro a b ⟨apart, outdated⟩ currentA currentB
    rw [← Bool.not_eq_true, conflict_assigned a b]
    rintro ⟨keyed, pubkey, kind⟩
    rw [isKeyed, Bool.or_eq_true, beq_iff_eq] at keyed
    rcases keyed with first | channel
    · simp [firstConflict, ← kind, ← pubkey, first] at apart
    · rcases outdated channel (kind ▸ channel) pubkey with outdated | outdated
      · simp [outdated] at currentA
      · simp [outdated] at currentB

theorem upgrade_iff (upgraded : EventsTable) : upgrade table = some upgraded ↔
    OneNewest table ∧ upgraded = (table.filter fun r => !isOutdated table r).map assigned := by
  have added : createUniqueIndex previousReplaceableEventsIdx (addDeduplication table) =
      some (addDeduplication table) := if_pos (added_accepted table legacy)
  have filling : createUniqueIndex previousReplaceableEventsIdx (table.map filled) = some (table.map filled) :=
    if_pos (filled_accepted table legacy)
  rw [upgrade, added, Option.bind_eq_bind, Option.bind_some, filled_eq table legacy.sized, filling, Option.bind_some,
    up_filled, createUniqueIndex_iff, assigned_accepted_iff table legacy, eq_comm]

end Upgrading

structure Outlasts (r s : DBEvent) : Prop where
  eventPubkey : s.eventPubkey = r.eventPubkey
  eventKind : s.eventKind = r.eventKind
  eventDeduplication : s.eventDeduplication = r.eventDeduplication
  own : Marked r s ∨
    (replaceableEventsIdx r.eventKind = true ∧ r.eventDeduplication.isSome = true ∧ r.eventCreatedAt < s.eventCreatedAt)

theorem Outlasts.refl (r : DBEvent) : Outlasts r r := ⟨rfl, rfl, rfl, .inl ⟨r.deletedAt, rfl⟩⟩

theorem Outlasts.marked (r : DBEvent) (deletedAt : Option Int) : Outlasts r { r with deletedAt := deletedAt } :=
  ⟨rfl, rfl, rfl, .inl ⟨deletedAt, rfl⟩⟩

theorem Outlasts.trans (r s t : DBEvent) (first : Outlasts r s) (second : Outlasts s t) : Outlasts r t := by
  refine ⟨second.eventPubkey.trans first.eventPubkey, second.eventKind.trans first.eventKind,
    second.eventDeduplication.trans first.eventDeduplication, ?_⟩
  rcases first.own with ⟨deletedAt, rfl⟩ | ⟨index, keyed, newer⟩
  · exact second.own
  · refine .inr ⟨index, keyed, ?_⟩
    rcases second.own with ⟨deletedAt, rfl⟩ | ⟨_, _, newest⟩
    · exact newer
    · exact newer.trans newest

theorem advance_outlasts (fates : Fates) (submission advanced : Submission) (before after : EventsTable)
    (constrained : Constrained before) (moved : Advance fates submission before advanced after) (r : DBEvent)
    (member : r ∈ before) : ∃ s ∈ after, Outlasts r s := by
  rcases advance_effect fates submission advanced before after moved with rfl | ⟨ids, rfl⟩ | ⟨_, puts⟩
  · exact ⟨r, member, .refl r⟩
  · refine ⟨_, List.mem_map_of_mem member, ?_⟩
    split
    · exact .marked r _
    · exact .refl r
  · cases puts with
    | inserted => exact ⟨r, List.mem_append_left _ member, .refl r⟩
    | appended => exact ⟨r, List.mem_append_left _ member, .refl r⟩
    | replaced replacing existing found older noOther =>
      refine ⟨_, List.mem_map_of_mem member, ?_⟩
      split
      next same =>
        obtain ⟨index, _, _, _, keyed⟩ := (sameIndexKey_iff _ _).mp same
        have isExisting := single_row before constrained submission.event r existing member
          (List.mem_of_find?_eq_some found) same (List.find?_some found)
        exact ⟨rfl, rfl, rfl, .inr ⟨index, by rw [keyed]; rfl, isExisting ▸ older⟩⟩
      next => exact .refl r

section Serving

variable (events : Set Event) (upgraded : EventsTable)

structure Serving (pool : Pool) : Prop where
  handled : Handled (fun _ received => received ∈ events) pool
  constrained : Constrained pool.table
  written : Written upgraded pool
  outlasted : ∀ r ∈ upgraded, ∃ s ∈ pool.table, Outlasts r s

theorem serving_preserved : Preserves step (SubmittedFrom events) (Serving events upgraded) := by
  intro pool action reached serving ok taken
  rcases step_cases pool reached action taken with
    ⟨handler, received, rfl, rfl⟩ | ⟨i, fates, submission, advanced, table, rfl, found, ran, rfl⟩
  · exact ⟨submit_handled _ pool handler received ok serving.handled, serving.constrained,
      submit_written pool handler received upgraded serving.written, serving.outlasted⟩
  · have moved := advance_cases fates submission advanced pool.table table ran
    refine ⟨advance_handled _ pool i fates submission advanced table found moved serving.handled,
      advance_constrained fates submission advanced pool.table table moved serving.constrained,
      advance_written _ pool i fates submission advanced table found moved upgraded serving.handled serving.written,
      ?_⟩
    intro r inUpgraded
    obtain ⟨s, member, outlasts⟩ := serving.outlasted r inUpgraded
    obtain ⟨later, inTable, still⟩ :=
      advance_outlasts fates submission advanced pool.table table serving.constrained moved s member
    exact ⟨later, inTable, outlasts.trans _ _ _ still⟩

theorem assigned_keyed (event : Event) (schema : eventSchema event = true) (r : DBEvent) (isRow : IsRowOf event r)
    (keyed : isKeyed r.eventKind = true) : r.eventDeduplication = (assigned r).eventDeduplication := by
  simp only [eventSchema, pubkeySchema, Bool.and_eq_true, beq_iff_eq] at schema
  obtain ⟨⟨⟨⟨⟨_, lower, length⟩, _⟩, _⟩, _⟩, _⟩ := schema
  have index := replaceable_of_keyed r.eventKind keyed
  have replaceable : isReplaceableEvent event = true := by
    rw [isReplaceableEvent_iff, ← isRow.eventKind]
    simp only [isKeyed, firstReplaceableEventsIdx, Bool.or_eq_true, Bool.and_eq_true, beq_iff_eq,
      decide_eq_true_eq] at keyed
    omega
  have replacing : isReplacing event = true := by rw [isReplacing, replaceable, Bool.true_or]
  rw [isRow.eventDeduplication replacing, assigned, if_pos keyed, bound, replacementDeduplication, if_pos replaceable,
    isRow.eventPubkey, isRow.eventKind, toHex_ofHex event.pubkey lower (by rw [length])]
  rfl

end Serving

def OneEach (table : EventsTable) : Prop :=
  table.Pairwise fun a b => isKeyed a.eventKind = true → ¬ (a.eventPubkey = b.eventPubkey ∧ a.eventKind = b.eventKind)

structure Upgraded (legacy : EventsTable) (events : Set Event) (final : Pool) : Prop where
  oneEach : OneEach final.table
  outlasted : ∀ r ∈ legacy, isOutdated legacy r = false → ∃ s ∈ final.table, Outlasts (assigned r) s
  sources : ∀ s ∈ final.table, (∃ r ∈ legacy, Marked (assigned r) s) ∨
    ∃ submission ∈ final.submissions, ∃ received ∈ events, Accepted submission.handler received ∧
      submission.event = prepared submission.handler received ∧ Carries submission.event s

theorem upgraded_store (legacy : EventsTable) (isLegacy : Legacy legacy) :
    ((upgrade legacy).isSome = true ↔ OneNewest legacy) ∧
      ∀ upgraded, upgrade legacy = some upgraded →
        ∀ (events : Set Event), (∀ event ∈ events, eventSchema event = true) →
          ∀ (trace : List Action) (final : Pool),
            Run step (SubmittedFrom events) { table := upgraded, submissions := [] } trace final →
              Upgraded legacy events final := by
  constructor
  · rw [Option.isSome_iff_exists]
    constructor
    · rintro ⟨upgraded, migrated⟩
      exact ((upgrade_iff legacy isLegacy upgraded).mp migrated).1
    · intro newest
      exact ⟨_, (upgrade_iff legacy isLegacy _).mpr ⟨newest, rfl⟩⟩
  · intro upgraded migrated events schema trace final run
    obtain ⟨newest, rows⟩ := (upgrade_iff legacy isLegacy upgraded).mp migrated
    have accepted : IndexAccepts replaceableEventsIdx upgraded := by
      rw [rows]
      exact (assigned_accepted_iff legacy isLegacy).mpr newest
    have ids : upgraded.Pairwise fun a b => a.eventId ≠ b.eventId := by
      rw [rows]
      exact List.pairwise_map.mpr (isLegacy.ids.filter _)
    have serving := run.invariant (serving_preserved events upgraded)
      ⟨by simp [Handled], ids.and accepted, fun r member => .inl ⟨r, member, r.deletedAt, rfl⟩,
        fun r member => ⟨r, member, .refl r⟩⟩
    have inLegacy (r : DBEvent) : r ∈ upgraded ↔ ∃ old ∈ legacy, isOutdated legacy old = false ∧ assigned old = r := by
      simp [rows, and_assoc]
    have keyed (r : DBEvent) (member : r ∈ final.table) (isKey : isKeyed r.eventKind = true) :
        r.eventDeduplication = (assigned r).eventDeduplication := by
      rcases serving.written r member with ⟨first, inUpgraded, deletedAt, rfl⟩ | ⟨writer, inPool, _, carries⟩
      · obtain ⟨old, _, _, rfl⟩ := (inLegacy first).mp inUpgraded
        rfl
      · obtain ⟨received, inEvents, handles⟩ := serving.handled writer inPool
        obtain ⟨_, shape⟩ := prepared_eq writer.handler received
        refine assigned_keyed writer.event ?_ r carries.isRow isKey
        rw [handles.prepared, shape]
        exact schema received inEvents
    refine ⟨?_, ?_, ?_⟩
    · refine List.Pairwise.imp_of_mem ?_ serving.constrained
      rintro a b inA inB ⟨_, apart⟩ isKey ⟨pubkey, kind⟩
      have sameKey : sameIndexKey a b = true := by
        rw [sameIndexKey_iff]
        refine ⟨replaceable_of_keyed a.eventKind isKey, pubkey, kind, ?_, ?_⟩
        · rw [keyed a inA isKey, assigned, if_pos isKey]
          rfl
        · rw [keyed a inA isKey, keyed b inB (kind ▸ isKey), assigned, assigned, pubkey, kind]
      rw [sameKey] at apart
      cases apart
    · intro r member current
      exact serving.outlasted _ ((inLegacy _).mpr ⟨r, member, current, rfl⟩)
    · intro s member
      refine (serving.written s member).imp ?_ ?_
      · rintro ⟨first, inUpgraded, isMarked⟩
        obtain ⟨old, inOld, _, rfl⟩ := (inLegacy first).mp inUpgraded
        exact ⟨old, inOld, isMarked⟩
      · rintro ⟨writer, inPool, wrote, carries⟩
        obtain ⟨received, inEvents, handles⟩ := serving.handled writer inPool
        exact ⟨writer, inPool, received, inEvents, handles.accepted (.written wrote.1), handles.prepared, carries⟩

def legacyRow (eventKind createdAt : Int) : DBEvent :=
  { eventId := List.replicate 32 createdAt.toNat.toUInt8, eventPubkey := ofHex profile.pubkey, eventCreatedAt := createdAt,
    eventKind := eventKind, eventTags := [], eventContent := [], eventSignature := [], eventDeduplication := none,
    remoteAddress := none, expiresAt := none, deletedAt := none }

def legacyTable : EventsTable := [legacyRow 0 1, legacyRow 30000 2]

theorem legacy_profile_replaced :
    ∃ final, Run step (SubmittedFrom {event | event ∈ [profile]})
        { table := legacyTable.map assigned, submissions := [] } [.submit openHandler profile, .advance 0 {}] final ∧
      final.table.map (fun r => (r.eventId, r.eventKind)) =
        [(ofHex profile.id, 0), ((legacyRow 30000 2).eventId, 30000)] ∧
      Upgraded legacyTable {event | event ∈ [profile]} final := by
  have isLegacy : Legacy legacyTable := ⟨by decide, by decide, by decide +kernel⟩
  have migrated : upgrade legacyTable = some (legacyTable.map assigned) := by decide +kernel
  have schema : ∀ event ∈ [profile], eventSchema event = true := by decide +kernel
  have ran : (Runs.execute step (SubmittedFrom {event | event ∈ [profile]})
      { table := legacyTable.map assigned, submissions := [] } [.submit openHandler profile, .advance 0 {}]).map
        (fun final => final.table.map fun r => (r.eventId, r.eventKind)) =
      some [(ofHex profile.id, 0), ((legacyRow 30000 2).eventId, 30000)] := by decide +kernel
  obtain ⟨final, executed, rows⟩ := Option.map_eq_some_iff.mp ran
  have run := run_of_execute executed
  exact ⟨final, run, rows,
    (upgraded_store legacyTable isLegacy).2 _ migrated {event | event ∈ [profile]} schema _ final run⟩

end Nostream.DeduplicationUpgrade
