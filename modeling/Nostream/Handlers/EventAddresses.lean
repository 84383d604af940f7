import Nostream.Handlers.DeletedForGood

set_option autoImplicit false

namespace Nostream.EventAddresses

open Utf16 Hex Sql EventRepository MessageStages SubmissionStages SubmissionPool SettledEvents DeletedForGood
open TagIndex Writes
open Runs hiding execute
open ParameterizedReplaceableEventStrategy (deduplication)

inductive AddressOf (tags : List Tag) : List JsString → Prop
  | tagged (before after : List Tag) (value : JsString) (more : List JsString)
      (first : ∀ values, EventTags.deduplication :: values ∈ before → values = [])
      (found : tags = before ++ (EventTags.deduplication :: value :: more) :: after) :
      AddressOf tags (value :: more)
  | untagged (none : ∀ values, EventTags.deduplication :: values ∈ tags → values = []) : AddressOf tags [[]]

-- The d identifier of NIP-33.
def identifier (tags : List Tag) : JsString :=
  match tags.find? fun tag => tag.head? == some EventTags.deduplication with
  | some (_ :: value :: _) => value
  | _ => []

def hasAddress (tag : Tag) : Bool := tag.length ≥ 2 && tag.head? == some EventTags.deduplication

-- The first tag named d that has a value, if any does, has the identifier and no other value.
def SingleValued (tags : List Tag) : Prop :=
  ∀ tag, tags.find? hasAddress = some tag → tag = [EventTags.deduplication, identifier tags]

theorem hasAddress_iff (tag : Tag) :
    hasAddress tag = true ↔ ∃ value more, tag = EventTags.deduplication :: value :: more := by
  rcases tag with _ | ⟨name, _ | ⟨value, more⟩⟩ <;> simp [hasAddress]

theorem not_hasAddress_iff (tags : List Tag) :
    (∀ tag ∈ tags, hasAddress tag = false) ↔
      ∀ values, EventTags.deduplication :: values ∈ tags → values = [] := by
  constructor
  · intro none values member
    cases values with
    | nil => rfl
    | cons value more =>
      have has := (hasAddress_iff _).mpr ⟨value, more, rfl⟩
      rw [none _ member] at has
      cases has
  · intro none tag member
    rw [Bool.eq_false_iff, Ne, hasAddress_iff]
    rintro ⟨value, more, rfl⟩
    cases none _ member

theorem deduplication_find (event : Event) :
    deduplication event = (event.tags.find? hasAddress).elim [[]] List.tail := by
  unfold deduplication hasAddress
  split
  next tag isFirst => rw [isFirst]; rfl
  next none => rw [none]; rfl

theorem addressOf_iff (event : Event) (address : List JsString) :
    AddressOf event.tags address ↔ deduplication event = address := by
  rw [deduplication_find]
  constructor
  · rintro (⟨before, after, value, more, first, tags⟩ | valueless)
    · have isFirst : event.tags.find? hasAddress = some (EventTags.deduplication :: value :: more) :=
        List.find?_eq_some_iff_append.mpr ⟨(hasAddress_iff _).mpr ⟨value, more, rfl⟩, before, after, tags,
          fun tag member => by simp [(not_hasAddress_iff before).mpr first tag member]⟩
      rw [isFirst]
      rfl
    · have absent : event.tags.find? hasAddress = none :=
        List.find?_eq_none.mpr fun tag member => by
          simp [(not_hasAddress_iff event.tags).mpr valueless tag member]
      rw [absent]
      rfl
  · rintro rfl
    cases isFirst : event.tags.find? hasAddress with
    | none =>
      refine .untagged ((not_hasAddress_iff event.tags).mp fun tag member => ?_)
      simpa using List.find?_eq_none.mp isFirst tag member
    | some tag =>
      obtain ⟨has, before, after, tags, earlier⟩ := List.find?_eq_some_iff_append.mp isFirst
      obtain ⟨value, more, rfl⟩ := (hasAddress_iff tag).mp has
      exact .tagged before after value more
        ((not_hasAddress_iff before).mp fun other member => by simpa using earlier other member) tags

theorem identifier_untagged (tags : List Tag) (none : tags.find? hasAddress = none) : identifier tags = [] := by
  unfold identifier
  split
  next name value more found =>
    have named := List.find?_some found
    have valued : hasAddress (name :: value :: more) = true := by simpa [hasAddress] using named
    exact absurd valued (List.find?_eq_none.mp none _ (List.mem_of_find?_eq_some found))
  next => rfl

theorem deduplication_single_iff (event : Event) :
    deduplication event = [identifier event.tags] ↔ SingleValued event.tags := by
  rw [deduplication_find, SingleValued]
  cases found : event.tags.find? hasAddress with
  | none => simp [identifier_untagged event.tags found]
  | some tag =>
    obtain ⟨value, more, rfl⟩ := (hasAddress_iff tag).mp (List.find?_some found)
    simp

def Keyed (r : DBEvent) : Prop :=
  isParameterizedReplaceableEvent (toNostrEvent r) = true →
    r.eventDeduplication = some ((deduplication (toNostrEvent r)).map fun value => .string (decode value))

structure Addressed (table : EventsTable) : Prop where
  constrained : Constrained table
  keyed : ∀ r ∈ table, Keyed r

theorem keyed_bound (event : Event) (storable : (bound event).storable = true) : Keyed (bound event).stored := by
  intro parameterized
  have kind : isParameterizedReplaceableEvent event = true := parameterized
  have other : isReplaceableEvent event = false := by
    have range := (isParameterizedReplaceableEvent_iff event).mp kind
    rw [Bool.eq_false_iff, Ne, isReplaceableEvent_iff]
    omega
  have tags : (toNostrEvent (bound event).stored).tags = event.tags := by
    simp only [EventRow.storable, Bool.and_eq_true] at storable
    exact encode_decode_tags (bound event).eventTags storable.1.1.2
  have same : deduplication (toNostrEvent (bound event).stored) = deduplication event := by
    rw [deduplication, tags]
    rfl
  have passed : replacementDeduplication event = some (deduplication event) := by
    rw [replacementDeduplication, other]
    rfl
  rw [same, bound, passed]
  simp only [EventRow.stored, upsertRow, Option.map_some, List.map_map]
  rfl

theorem keyed_insert (event : Event) (creating : isReplacing event = false) : Keyed (insertRow event).stored := by
  intro parameterized
  rw [isReplacing, Bool.or_eq_false_iff] at creating
  have kind : isParameterizedReplaceableEvent event = true := parameterized
  rw [creating.2] at kind
  cases kind

theorem write_keyed (fates : Fates) (event : Event) (before : EventsTable) (keyed : ∀ r ∈ before, Keyed r) :
    ∀ r ∈ ((write fates event).run before).2, Keyed r := by
  intro r member
  cases replacing : isReplacing event with
  | false =>
    rw [write_creating fates event replacing] at member
    rcases create_rows fates.insert event before r member with old | ⟨_, rfl⟩
    · exact keyed r old
    · exact keyed_insert event replacing
  | true =>
    rw [write_replacing fates event replacing] at member
    rcases upsert_written fates.upsert event (replacementDeduplication event) before with
      same | ⟨count, storable, outcome⟩
    · exact keyed r (same ▸ member)
    · rcases merged_rows _ before _ count outcome r member with old | rfl | ⟨existing, inTable, same, rfl⟩
      · exact keyed r old
      · exact keyed_bound event storable
      · -- The row keeps its key, which is the one that the new tags spell.
        obtain ⟨_, pubkey, kind, _, deduplication⟩ := (sameIndexKey_iff _ _).mp same
        intro parameterized
        refine deduplication.trans (keyed_bound event storable ?_)
        rw [isParameterizedReplaceableEvent_iff] at parameterized ⊢
        have sameKind : (toNostrEvent (bound event).stored).kind = existing.eventKind := kind.symm
        rwa [sameKind]

theorem advance_addressed (fates : Fates) (submission advanced : SubmissionStages.Submission)
    (before after : EventsTable) (moved : Advance fates submission before advanced after)
    (addressed : Addressed before) : Addressed after := by
  refine ⟨advance_constrained fates submission advanced before after moved addressed.constrained, ?_⟩
  have deletes (ids : List JsString) : ∀ r ∈ (((eventRepository fates).deleteByPubkeyAndIds
      submission.event.pubkey ids).run before).2, Keyed r := by
    intro r member
    obtain ⟨old, inTable, deletedAt, rfl⟩ :=
      delete_rows fates.update fates.now submission.event ids before r member
    exact addressed.keyed old inTable
  cases moved with
  | failed => exact deletes _
  | deleted => exact deletes _
  | written outcome after stage ran =>
    have keyed := write_keyed fates submission.event before addressed.keyed
    rwa [ran] at keyed

theorem addressed_preserved : Preserves step (fun _ _ => True) fun pool => Addressed pool.table := by
  intro pool action reached addressed _ taken
  rcases step_cases pool reached action taken with
    ⟨handler, received, rfl, rfl⟩ | ⟨i, fates, submission, advanced, table, rfl, found, ran, rfl⟩
  · exact addressed
  · exact advance_addressed fates submission advanced pool.table table
      (advance_cases fates submission advanced pool.table table ran) addressed

theorem sameIndexKey_symm (r s : DBEvent) (apart : sameIndexKey r s = false) : sameIndexKey s r = false := by
  rw [Bool.eq_false_iff, Ne, sameIndexKey_iff] at apart ⊢
  rintro ⟨idx, pubkey, kind, present, deduplication⟩
  exact apart ⟨kind ▸ idx, pubkey.symm, kind.symm, deduplication ▸ present, deduplication.symm⟩

theorem eq_of_sameIndexKey (table : EventsTable) (constrained : Constrained table) (r s : DBEvent)
    (inR : r ∈ table) (inS : s ∈ table) (same : sameIndexKey r s = true) : r = s := by
  by_contra different
  have symmetric : Std.Symm fun a b : DBEvent => sameIndexKey a b = false := ⟨sameIndexKey_symm⟩
  have apart := (constrained.imp And.right).forall inR inS different
  rw [same] at apart
  cases apart

theorem rows_apart (table : EventsTable) (addressed : Addressed table) (r s : DBEvent) (inR : r ∈ table)
    (inS : s ∈ table) (pubkey : r.eventPubkey = s.eventPubkey) (kind : r.eventKind = s.eventKind)
    (parameterized : isParameterizedReplaceableEvent (toNostrEvent r) = true) (address : List JsString)
    (ofR : AddressOf (toNostrEvent r).tags address) (ofS : AddressOf (toNostrEvent s).tags address) : r = s := by
  have same : isParameterizedReplaceableEvent (toNostrEvent s) = true := by
    rw [isParameterizedReplaceableEvent_iff] at parameterized ⊢
    rwa [show (toNostrEvent s).kind = (toNostrEvent r).kind from kind.symm]
  have keyR := addressed.keyed r inR parameterized
  have keyS := addressed.keyed s inS same
  rw [(addressOf_iff _ _).mp ofR] at keyR
  rw [(addressOf_iff _ _).mp ofS] at keyS
  refine eq_of_sameIndexKey table addressed.constrained r s inR inS ((sameIndexKey_iff _ _).mpr
    ⟨?_, pubkey, kind, by simp [keyR], keyR.trans keyS.symm⟩)
  have replacing : isReplacing (toNostrEvent r) = true := by simp [isReplacing, parameterized]
  rwa [replacing_kind] at replacing

theorem addresses_are_keys (table : EventsTable) (addressed : Addressed table) (trace : List Action) (final : Pool)
    (run : Run step (fun _ _ => True) { table := table, submissions := [] } trace final) :
    (∀ a b addressA addressB, AddressOf a.tags addressA → AddressOf b.tags addressB →
        (deduplication a = deduplication b ↔ addressA = addressB)) ∧
      (∀ a b, SingleValued a.tags → SingleValued b.tags →
        (deduplication a = deduplication b ↔ identifier a.tags = identifier b.tags)) ∧
      ∀ r ∈ final.table, ∀ s ∈ final.table, r.eventPubkey = s.eventPubkey → r.eventKind = s.eventKind →
        isParameterizedReplaceableEvent (toNostrEvent r) = true →
        ∀ address, AddressOf (toNostrEvent r).tags address → AddressOf (toNostrEvent s).tags address → r = s := by
  refine ⟨fun a b addressA addressB ofA ofB => ?_, fun a b singleA singleB => ?_, ?_⟩
  · rw [(addressOf_iff a addressA).mp ofA, (addressOf_iff b addressB).mp ofB]
  · rw [(deduplication_single_iff a).mpr singleA, (deduplication_single_iff b).mpr singleB, List.cons.injEq,
      and_iff_left rfl]
  · intro r inR s inS pubkey kind parameterized address
    exact rows_apart final.table (run.invariant addressed_preserved addressed) r s inR inS pubkey kind parameterized
      address

def oneListing : Event :=
  { note with
    id := toHex [0x51, 0x20, 0xe0, 0x90, 0x62, 0x81, 0xb8, 0x42, 0x57, 0x4d, 0x64, 0xe6, 0xa7, 0x91, 0x7e, 0xa9,
       0xb4, 0x47, 0xbf, 0x2d, 0xc2, 0xe1, 0xfa, 0xf4, 0xe1, 0x20, 0x39, 0x5f, 0xe9, 0x86, 0xf9, 0x7c]
    kind := 30000
    tags := [[js "d", js "one"]]
    sig := toHex [0xde, 0xb0, 0x33, 0x9e, 0x50, 0xe3, 0x94, 0x9f, 0x86, 0x29, 0x14, 0x05, 0xd9, 0x3d, 0xc9, 0x81,
       0x23, 0x06, 0xb3, 0x6e, 0xcf, 0xf4, 0xb1, 0x5d, 0x14, 0x83, 0x3a, 0xe6, 0xcc, 0x41, 0x11, 0xb9,
       0x85, 0xf2, 0x92, 0xbd, 0xd7, 0xa3, 0x37, 0xcf, 0xb5, 0xf2, 0x6c, 0x44, 0x29, 0x3c, 0x9a, 0x00,
       0xd8, 0xdb, 0x42, 0x21, 0xbd, 0xcc, 0xa5, 0x6b, 0x01, 0x9f, 0xdb, 0xf0, 0xc9, 0x73, 0x93, 0x5f] }

def twoListing : Event :=
  { oneListing with
    id := toHex [0xf8, 0xf2, 0x4a, 0x0e, 0x5a, 0xb9, 0x4d, 0x46, 0xf7, 0xfc, 0x9c, 0x36, 0xe5, 0x69, 0x07, 0x2e,
       0x6f, 0xfe, 0x4e, 0x9f, 0x3b, 0x9b, 0xcc, 0xbb, 0x71, 0x1c, 0x80, 0x76, 0x66, 0x73, 0xec, 0x71]
    createdAt := 1700000001
    tags := [[js "d", js "one", js "two"]]
    sig := toHex [0xb2, 0x59, 0x58, 0x9b, 0xb5, 0x97, 0x23, 0xa0, 0x21, 0xc6, 0x91, 0x57, 0x44, 0xb3, 0xf5, 0xf4,
       0x7f, 0xb0, 0x1d, 0xd0, 0x6f, 0x43, 0x8a, 0x48, 0x48, 0x66, 0x52, 0x54, 0xad, 0xe2, 0xaa, 0x56,
       0x30, 0x20, 0xa5, 0x04, 0xb2, 0x50, 0xdc, 0x0b, 0x96, 0xfd, 0x6d, 0xa0, 0x14, 0x6e, 0xbf, 0x00,
       0x84, 0xd6, 0x1d, 0xd7, 0xaa, 0x26, 0x8a, 0x0b, 0xa1, 0x00, 0x10, 0xb6, 0x4b, 0xc1, 0x24, 0x6d] }

def listingHandler : EventMessageHandler :=
  { openHandler with crypto := recordedCrypto ([oneListing, twoListing].map recorded) }

def listings : List Action :=
  [.submit listingHandler oneListing, .advance 0 {}, .submit listingHandler twoListing, .advance 1 {}]

theorem addressed_empty : Addressed [] := ⟨.nil, by simp⟩

theorem listings_apart :
    ∃ final, Run step (fun _ _ => True) { table := [], submissions := [] } listings final ∧
      final.table.map (·.eventId) = [ofHex oneListing.id, ofHex twoListing.id] ∧
      ∀ r ∈ final.table, ∀ s ∈ final.table, r.eventPubkey = s.eventPubkey → r.eventKind = s.eventKind →
        isParameterizedReplaceableEvent (toNostrEvent r) = true →
        ∀ address, AddressOf (toNostrEvent r).tags address → AddressOf (toNostrEvent s).tags address → r = s := by
  have ran : (Runs.execute step (fun _ _ => True) { table := [], submissions := [] } listings).map
      (fun final => final.table.map (·.eventId)) = some [ofHex oneListing.id, ofHex twoListing.id] := by
    decide +kernel
  obtain ⟨final, executed, ids⟩ := Option.map_eq_some_iff.mp ran
  have run := run_of_execute executed
  exact ⟨final, run, ids, (addresses_are_keys [] addressed_empty listings final run).2.2⟩

theorem one_identifier_two_keys :
    ¬ ∀ a b : Event, eventSchema a = true → eventSchema b = true → a.pubkey = b.pubkey → a.kind = b.kind →
      isParameterizedReplaceableEvent a = true →
        (deduplication a = deduplication b ↔ identifier a.tags = identifier b.tags) := by
  intro claim
  have same := claim oneListing twoListing (by decide +kernel) (by decide +kernel) rfl rfl (by decide)
  exact absurd (same.mpr (by decide)) (by decide)

/-- The strategy goes on to the next d tag, where NIP-33 stops at the first. -/
theorem valueless_tag_passed_over (event : Event) (value : JsString) (rest : List Tag)
    (tags : event.tags = [EventTags.deduplication] :: [EventTags.deduplication, value] :: rest) :
    identifier event.tags = [] ∧ deduplication event = [value] := by
  rw [deduplication_find, tags]
  exact ⟨rfl, rfl⟩

def lateListing : Event :=
  { oneListing with tags := [[EventTags.deduplication], [EventTags.deduplication, js "x"]] }

def loneListing : Event := { oneListing with tags := [[EventTags.deduplication]] }

theorem late_value_two_keys :
    ¬ ∀ a b : Event, eventSchema a = true → eventSchema b = true → a.pubkey = b.pubkey → a.kind = b.kind →
      isParameterizedReplaceableEvent a = true →
        (deduplication a = deduplication b ↔ identifier a.tags = identifier b.tags) := by
  intro claim
  obtain ⟨blank, key⟩ := valueless_tag_passed_over lateListing (js "x") [] rfl
  have same := (claim lateListing loneListing (by decide +kernel) (by decide +kernel) rfl rfl (by decide)).mpr blank
  rw [key] at same
  exact absurd same (by decide)

end Nostream.EventAddresses
