import Nostream.Migrations.TagIndex

set_option autoImplicit false

namespace Nostream

open Utf16 Hex

-- Two rows that a unique index with the predicate does not admit together.
def conflict (predicate : Int → Bool) (a b : DBEvent) : Bool :=
  predicate a.eventKind && predicate b.eventKind && a.eventPubkey == b.eventPubkey &&
    a.eventKind == b.eventKind && a.eventDeduplication.isSome && a.eventDeduplication == b.eventDeduplication

def IndexAccepts (predicate : Int → Bool) (table : EventsTable) : Prop :=
  table.Pairwise fun a b => conflict predicate a b = false

instance (predicate : Int → Bool) (table : EventsTable) : Decidable (IndexAccepts predicate table) :=
  inferInstanceAs (Decidable (table.Pairwise _))

-- The predicate before kind 41 was added to it.
def previousReplaceableEventsIdx (eventKind : Int) : Bool :=
  (eventKind == 0 || eventKind == 3 || (eventKind ≥ 10000 && eventKind < 20000)) ||
    (eventKind ≥ 30000 && eventKind < 40000)

namespace ChannelMetadata

def sameTags (a b : DBEvent) : Bool :=
  a.eventPubkey == b.eventPubkey && b.eventKind == 41 && a.eventTags == b.eventTags

def maxCreatedAt (table : EventsTable) (a : DBEvent) : Option Int :=
  ((table.filter (sameTags a)).map DBEvent.eventCreatedAt).max?

def isOutdated (table : EventsTable) (a : DBEvent) : Bool :=
  a.eventKind == 41 && (maxCreatedAt table a).any fun newest => a.eventCreatedAt < newest

def deleteOutdated (table : EventsTable) : EventsTable := table.filter fun a => !isOutdated table a

def withDeduplication (a : DBEvent) : DBEvent :=
  { a with eventDeduplication := some [.string (decode (toHex a.eventPubkey)), .number a.eventKind] }

def setDeduplication (table : EventsTable) : EventsTable :=
  table.map fun a =>
    if a.eventKind = 41 ∧ maxCreatedAt table a = some a.eventCreatedAt then withDeduplication a else a

-- The statements between the DROP INDEX and the CREATE UNIQUE INDEX.
def up (table : EventsTable) : EventsTable := setDeduplication (deleteOutdated table)

theorem sameTags_iff (a b : DBEvent) :
    sameTags a b = true ↔ a.eventPubkey = b.eventPubkey ∧ b.eventKind = 41 ∧ a.eventTags = b.eventTags := by
  simp only [sameTags, Bool.and_eq_true, beq_iff_eq, and_assoc]

theorem maxCreatedAt_iff (table : EventsTable) (a : DBEvent) (newest : Int) :
    maxCreatedAt table a = some newest ↔
      (∃ b ∈ table, sameTags a b = true ∧ b.eventCreatedAt = newest) ∧
        ∀ b ∈ table, sameTags a b = true → b.eventCreatedAt ≤ newest := by
  have each : (∀ time ∈ (table.filter (sameTags a)).map DBEvent.eventCreatedAt, time ≤ newest) ↔
      ∀ b ∈ table, sameTags a b = true → b.eventCreatedAt ≤ newest := by
    rw [List.forall_mem_map]
    simp only [List.mem_filter, and_imp]
  rw [maxCreatedAt, List.max?_eq_some_iff, each]
  simp only [List.mem_map, List.mem_filter, and_assoc]

theorem isOutdated_iff (table : EventsTable) (a : DBEvent) :
    isOutdated table a = true ↔
      a.eventKind = 41 ∧ ∃ b ∈ table, sameTags a b = true ∧ a.eventCreatedAt < b.eventCreatedAt := by
  rw [isOutdated, Bool.and_eq_true, beq_iff_eq]
  refine and_congr_right fun _ => ?_
  constructor
  · intro older
    obtain ⟨newest, found, later⟩ := (Option.any_eq_true _ _).mp older
    obtain ⟨⟨b, member, same, rfl⟩, _⟩ := (maxCreatedAt_iff table a newest).mp found
    exact ⟨b, member, same, by simpa using later⟩
  · rintro ⟨b, member, same, later⟩
    cases found : maxCreatedAt table a with
    | none =>
      rw [maxCreatedAt, List.max?_eq_none_iff, List.map_eq_nil_iff, List.filter_eq_nil_iff] at found
      exact (found b member same).elim
    | some newest =>
      have bound := ((maxCreatedAt_iff table a newest).mp found).2 b member same
      simpa using lt_of_lt_of_le later bound

theorem kept_newest (table : EventsTable) (a : DBEvent) (member : a ∈ deleteOutdated table)
    (kind : a.eventKind = 41) : maxCreatedAt (deleteOutdated table) a = some a.eventCreatedAt := by
  rw [maxCreatedAt_iff]
  refine ⟨⟨a, member, (sameTags_iff a a).mpr ⟨rfl, kind, rfl⟩, rfl⟩, fun b other same => ?_⟩
  have current := (List.mem_filter.mp member).2
  rw [Bool.not_eq_true', ← Bool.not_eq_true, isOutdated_iff] at current
  by_contra later
  exact current ⟨kind, b, (List.mem_filter.mp other).1, same, not_le.mp later⟩

theorem up_eq (table : EventsTable) :
    up table = (deleteOutdated table).map fun a => if a.eventKind = 41 then withDeduplication a else a := by
  refine List.map_congr_left fun a member => ?_
  by_cases kind : a.eventKind = 41
  · rw [if_pos ⟨kind, kept_newest table a member kind⟩, if_pos kind]
  · rw [if_neg fun both => kind both.1, if_neg kind]

def NewestKept (table reached : EventsTable) : Prop :=
  ∀ a ∈ table, a.eventKind = 41 → ∃ newest ∈ table, sameTags a newest = true ∧
    (∀ b ∈ table, sameTags a b = true → b.eventCreatedAt ≤ newest.eventCreatedAt) ∧
      withDeduplication newest ∈ reached

theorem newest_kept (table : EventsTable) : NewestKept table (up table) := by
  intro a member kind
  have own : sameTags a a = true := (sameTags_iff a a).mpr ⟨rfl, kind, rfl⟩
  cases found : maxCreatedAt table a with
  | none =>
    rw [maxCreatedAt, List.max?_eq_none_iff, List.map_eq_nil_iff, List.filter_eq_nil_iff] at found
    exact (found a member own).elim
  | some latest =>
    obtain ⟨⟨newest, inTable, same, rfl⟩, greatest⟩ := (maxCreatedAt_iff table a latest).mp found
    obtain ⟨pubkey, newestKind, tags⟩ := (sameTags_iff a newest).mp same
    refine ⟨newest, inTable, same, greatest, ?_⟩
    rw [up_eq]
    refine List.mem_map.mpr ⟨newest, List.mem_filter.mpr ⟨inTable, ?_⟩, if_pos newestKind⟩
    rw [Bool.not_eq_true', ← Bool.not_eq_true, isOutdated_iff]
    rintro ⟨_, b, other, sameAsNewest, later⟩
    obtain ⟨pubkeyB, kindB, tagsB⟩ := (sameTags_iff newest b).mp sameAsNewest
    have group : sameTags a b = true :=
      (sameTags_iff a b).mpr ⟨pubkey.trans pubkeyB, kindB, tags.trans tagsB⟩
    exact absurd later (not_lt.mpr (greatest b other group))

def OneNewest (table : EventsTable) : Prop :=
  table.Pairwise fun a b => a.eventKind = 41 → b.eventKind = 41 → a.eventPubkey = b.eventPubkey →
    isOutdated table a = true ∨ isOutdated table b = true

theorem conflict_assigned (a b : DBEvent) (previous : conflict previousReplaceableEventsIdx a b = false) :
    conflict replaceableEventsIdx (if a.eventKind = 41 then withDeduplication a else a)
        (if b.eventKind = 41 then withDeduplication b else b) = true ↔
      a.eventKind = 41 ∧ b.eventKind = 41 ∧ a.eventPubkey = b.eventPubkey := by
  have both (kind : Int) (other : kind ≠ 41) :
      replaceableEventsIdx kind = previousReplaceableEventsIdx kind := by
    have apart : (kind == 41) = false := beq_false_of_ne other
    simp [replaceableEventsIdx, previousReplaceableEventsIdx, apart]
  by_cases kindA : a.eventKind = 41
  · by_cases kindB : b.eventKind = 41
    · rw [if_pos kindA, if_pos kindB]
      have predicate : replaceableEventsIdx 41 = true := by decide
      simp only [conflict, withDeduplication, kindA, kindB, predicate, Bool.true_and, Bool.and_eq_true, beq_iff_eq,
        Option.isSome_some, and_true, true_and]
      constructor
      · rintro ⟨pubkey, _⟩
        exact pubkey
      · intro pubkey
        exact ⟨pubkey, by rw [pubkey]⟩
    · rw [if_pos kindA, if_neg kindB]
      have apart : ¬ 41 = b.eventKind := fun same => kindB same.symm
      simp [conflict, withDeduplication, kindA, kindB, apart]
  · by_cases kindB : b.eventKind = 41
    · rw [if_neg kindA, if_pos kindB]
      simp [conflict, withDeduplication, kindA, kindB]
    · rw [if_neg kindA, if_neg kindB]
      rw [conflict, both a.eventKind kindA, both b.eventKind kindB, ← conflict, previous]
      simp [kindA]

theorem migration_accepted_iff (table : EventsTable)
    (previous : IndexAccepts previousReplaceableEventsIdx table) :
    IndexAccepts replaceableEventsIdx (up table) ∧ NewestKept table (up table) ↔ OneNewest table := by
  rw [and_iff_left (newest_kept table), IndexAccepts, up_eq, List.pairwise_map, deleteOutdated,
    List.pairwise_filter]
  constructor
  · intro accepted
    refine (previous.and accepted).imp ?_
    rintro a b ⟨before, apart⟩ kindA kindB pubkey
    by_contra current
    simp only [not_or, Bool.not_eq_true] at current
    have free := apart (by simp [current.1]) (by simp [current.2])
    rw [(conflict_assigned a b before).mpr ⟨kindA, kindB, pubkey⟩] at free
    cases free
  · intro newest
    refine (previous.and newest).imp ?_
    rintro a b ⟨before, outdated⟩ currentA currentB
    rw [← Bool.not_eq_true, conflict_assigned a b before]
    rintro ⟨kindA, kindB, pubkey⟩
    rcases outdated kindA kindB pubkey with outdated | outdated
    · simp [outdated] at currentA
    · simp [outdated] at currentB

def channelRow (channel : String) (createdAt : Int) : DBEvent :=
  { eventId := List.replicate 32 createdAt.toNat.toUInt8, eventPubkey := List.replicate 32 1, eventCreatedAt := createdAt,
    eventKind := 41, eventTags := [["e".toList, channel.toList]], eventContent := [], eventSignature := [],
    eventDeduplication := none, remoteAddress := none, expiresAt := none, deletedAt := none }

theorem one_channel_accepted :
    IndexAccepts replaceableEventsIdx (up [channelRow "a" 1, channelRow "a" 2]) ∧
      NewestKept [channelRow "a" 1, channelRow "a" 2] (up [channelRow "a" 1, channelRow "a" 2]) :=
  (migration_accepted_iff [channelRow "a" 1, channelRow "a" 2] (by decide)).mpr (by
    unfold OneNewest
    decide)

theorem two_channels_refused :
    ¬ ∀ table : EventsTable, IndexAccepts previousReplaceableEventsIdx table →
      (∀ r ∈ table, r.eventKind = 41 → r.eventDeduplication = none) →
        IndexAccepts replaceableEventsIdx (up table) ∧ NewestKept table (up table) := by
  intro claim
  have accepted := (claim [channelRow "a" 1, channelRow "b" 2] (by decide) (by decide)).1
  exact absurd accepted (by decide)

end ChannelMetadata

end Nostream
