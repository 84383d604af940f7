import Nostream.Handlers.LastWriterWins

set_option autoImplicit false

namespace Nostream.ChannelOverwrites

open Utf16 Hex Sql EventRepository MessageStages Writes LastWriterWins LastWriterWins.Submission ReplacementKeys

def channelOf (event : Event) : Option JsString :=
  (event.tags.find? fun tag => tag.head? == some EventTags.event).bind fun tag => tag[1]?

structure IsMetadataOf (pubkey : JsString) (submission : Submission) : Prop where
  replaces : submission.Replaces
  kind : submission.event.kind = EventKinds.channelMetadata
  author : submission.event.pubkey = pubkey

def ChannelsKept (submissions : List Submission) (reached : EventsTable) : Prop :=
  ∀ submission ∈ submissions, ∃ newest ∈ submissions,
    channelOf newest.event = channelOf submission.event ∧
      (∀ other ∈ submissions, channelOf other.event = channelOf submission.event →
        other.stamp ≤ newest.stamp) ∧
      newest.row ∈ reached

def metadataKey (pubkey : JsString) : ReplacementKey :=
  (ofHex pubkey, 41, some [.string (decode pubkey), .number 41])

theorem metadata_key (pubkey : JsString) (submission : Submission) (metadata : IsMetadataOf pubkey submission) :
    submission.key = metadataKey pubkey := by
  obtain ⟨_, kind, author⟩ := metadata
  have other : isParameterizedReplaceableEvent submission.event = false := by
    simp [Bool.eq_false_iff, isParameterizedReplaceableEvent_iff, kind, EventKinds.channelMetadata]
  rw [key, eventKey, other, kind, author]
  rfl

section Sequences

variable (pubkey : JsString) (table : EventsTable)

/-- A table without rows that the sequence could meet: neither metadata of the author nor an event of the sequence. -/
structure Unmet (submissions : List Submission) : Prop where
  clean : ∀ r ∈ table, holds (metadataKey pubkey) r = false
  fresh : ∀ r ∈ table, ∀ submission ∈ submissions, r.eventId ≠ submission.bound.eventId

inductive Holding : List Submission → EventsTable → Prop
  | empty : Holding [] table
  | row (submissions : List Submission) (newest : Submission) (member : newest ∈ submissions)
      (greatest : ∀ submission ∈ submissions, submission.stamp ≤ newest.stamp) :
      Holding submissions (table ++ [newest.row])

end Sequences

section Steps

variable {pubkey : JsString} {table : EventsTable}

theorem submit_of_merged (submission : Submission) (replaces : submission.Replaces) (before after : EventsTable)
    (count : Nat) (outcome : Merged submission.bound before count after) : submission.submit before = after := by
  have ran := (upsert_ok .completes submission.prepared (replacementDeduplication submission.prepared) before
    after count).mpr ⟨rfl, replaces.storable, outcome⟩
  rw [submit_eq submission replaces, ran]

theorem sameKey_metadata (submission : Submission) (metadata : IsMetadataOf pubkey submission) :
    sameKey submission.bound = holds (metadataKey pubkey) := by
  funext r
  rw [Bool.eq_iff_iff, sameKey_iff submission metadata.replaces, metadata_key pubkey submission metadata]

theorem holds_row (submission : Submission) (metadata : IsMetadataOf pubkey submission) :
    holds (metadataKey pubkey) submission.row = true := by
  rw [← metadata_key pubkey submission metadata]
  exact holds_self submission metadata.replaces

theorem submit_first (submission : Submission) (metadata : IsMetadataOf pubkey submission)
    (unmet : Unmet pubkey table [submission]) : submission.submit table = table ++ [submission.row] := by
  refine submit_of_merged submission metadata.replaces table _ 1 (.appended ?_ ?_)
  · rw [sameKey_metadata submission metadata, List.find?_eq_none]
    intro r member
    simp [unmet.clean r member]
  · rw [← Bool.not_eq_true, hasId_iff]
    rintro ⟨r, member, id⟩
    exact unmet.fresh r member submission (by simp) id

theorem merged_unmet (submission : Submission) (metadata : IsMetadataOf pubkey submission)
    (unmet : Unmet pubkey table [submission]) : merged submission.bound table = table := by
  rw [merged]
  conv_rhs => rw [← List.map_id table]
  refine List.map_congr_left fun r member => ?_
  rw [sameKey_metadata submission metadata, unmet.clean r member]
  rfl

theorem merged_held (submission held : Submission) (metadata : IsMetadataOf pubkey submission)
    (heldMetadata : IsMetadataOf pubkey held) : merged submission.bound [held.row] = [submission.row] := by
  have heldRow := holds_row held heldMetadata
  rw [merged, List.map_singleton, sameKey_metadata submission metadata, heldRow, if_pos rfl]
  refine congrArg (fun r => [r]) (mergeRow_self submission metadata.replaces held.row ?_)
  rw [metadata_key pubkey submission metadata]
  exact heldRow

theorem submit_next (submission held : Submission) (metadata : IsMetadataOf pubkey submission)
    (heldMetadata : IsMetadataOf pubkey held) (unmet : Unmet pubkey table [submission]) :
    submission.submit (table ++ [held.row]) =
      table ++ [if held.stamp < submission.stamp then submission.row else held.row] := by
  have same := sameKey_metadata submission metadata
  have heldRow := holds_row held heldMetadata
  have none : table.find? (holds (metadataKey pubkey)) = none := by
    rw [List.find?_eq_none]
    intro r member
    simp [unmet.clean r member]
  have found : (table ++ [held.row]).find? (sameKey submission.bound) = some held.row := by
    rw [same, List.find?_append, none]
    simp [heldRow]
  have stamps : held.row.eventCreatedAt < submission.bound.eventCreatedAt ↔ held.stamp < submission.stamp := by
    rw [row_stamp, ← row_stamp submission]
    rfl
  by_cases older : held.stamp < submission.stamp
  · rw [if_pos older]
    have others (r : DBEvent) (member : r ∈ table ++ [held.row]) (apart : sameKey submission.bound r = false) :
        r.eventId ≠ submission.bound.eventId := by
      rcases List.mem_append.mp member with old | new
      · exact unmet.fresh r old submission (by simp)
      · rw [List.mem_singleton.mp new, same, heldRow] at apart
        cases apart
    have replaced := Merged.replaced held.row found (stamps.mpr older) others
    rw [submit_of_merged submission metadata.replaces _ _ _ replaced, merged, List.map_append]
    exact congrArg₂ _ (merged_unmet submission metadata unmet) (merged_held submission held metadata heldMetadata)
  · rw [if_neg older]
    exact submit_of_merged submission metadata.replaces _ _ _
      (.kept held.row found (not_lt.mp (mt stamps.mp older)))

theorem submit_holding (submissions : List Submission) (submission : Submission) (reached : EventsTable)
    (metadata : ∀ other ∈ submissions ++ [submission], IsMetadataOf pubkey other)
    (unmet : Unmet pubkey table (submissions ++ [submission])) (holding : Holding table submissions reached) :
    Holding table (submissions ++ [submission]) (submission.submit reached) := by
  have own := metadata submission (by simp)
  have alone : Unmet pubkey table [submission] :=
    ⟨unmet.clean, fun r member other single =>
      unmet.fresh r member other (List.mem_append_right _ single)⟩
  cases holding with
  | empty =>
    rw [submit_first submission own alone]
    exact .row _ submission (by simp) (by simp)
  | row _ held member greatest =>
    rw [submit_next submission held own (metadata held (List.mem_append_left _ member)) alone]
    split
    next older =>
      refine .row _ submission (by simp) fun other inList => ?_
      rcases List.mem_append.mp inList with old | new
      · exact (greatest other old).trans older.le
      · rw [List.mem_singleton.mp new]
    next newer =>
      refine .row _ held (List.mem_append_left _ member) fun other inList => ?_
      rcases List.mem_append.mp inList with old | new
      · exact greatest other old
      · rw [List.mem_singleton.mp new]
        exact not_lt.mp newer

theorem run_holding (submissions : List Submission)
    (metadata : ∀ submission ∈ submissions, IsMetadataOf pubkey submission)
    (unmet : Unmet pubkey table submissions) : Holding table submissions (run table submissions) := by
  induction submissions using List.reverseRecOn with
  | nil => exact .empty
  | append_singleton submissions submission ih =>
    have before : Unmet pubkey table submissions :=
      ⟨unmet.clean, fun r member other inList => unmet.fresh r member other (List.mem_append_left _ inList)⟩
    have holding := ih (fun other inList => metadata other (List.mem_append_left _ inList)) before
    rw [run, List.foldl_append]
    exact submit_holding submissions submission _ metadata unmet holding

theorem row_tags (submission : Submission) (replaces : submission.Replaces) :
    submission.row.eventTags.map (·.map encode) = submission.event.tags := by
  obtain ⟨_, same⟩ := prepared_eq (submission.handler.storing {}) submission.event
  have tags : submission.bound.eventTags = submission.event.tags := by
    rw [bound, Submission.prepared, same]
    rfl
  have storable := replaces.storable
  simp only [EventRow.storable, Bool.and_eq_true] at storable
  have read := encode_decode_tags submission.bound.eventTags storable.1.1.2
  rw [tags] at read
  rw [row, EventRow.stored, tags]
  exact read

theorem channelOf_row (a b : Submission) (replacesA : a.Replaces) (replacesB : b.Replaces)
    (same : a.row = b.row) : channelOf a.event = channelOf b.event := by
  have tags := row_tags a replacesA
  rw [same, row_tags b replacesB] at tags
  rw [channelOf, channelOf, tags]

theorem one_channel_of_kept (submissions : List Submission)
    (metadata : ∀ submission ∈ submissions, IsMetadataOf pubkey submission)
    (unmet : Unmet pubkey table submissions) (kept : ChannelsKept submissions (run table submissions)) :
    ∀ a ∈ submissions, ∀ b ∈ submissions, channelOf a.event = channelOf b.event := by
  have holding := run_holding submissions metadata unmet
  generalize run table submissions = reached at holding kept
  cases holding with
  | empty => simp
  | row _ held member greatest =>
    have sharesChannel (submission : Submission) (inList : submission ∈ submissions) :
        channelOf submission.event = channelOf held.event := by
      obtain ⟨newest, inNewest, same, _, stored⟩ := kept submission inList
      have isHeld : newest.row = held.row := by
        rcases List.mem_append.mp stored with old | new
        · have clean := unmet.clean newest.row old
          rw [holds_row newest (metadata newest inNewest)] at clean
          cases clean
        · exact List.mem_singleton.mp new
      rw [← same]
      exact channelOf_row newest held (metadata newest inNewest).replaces (metadata held member).replaces isHeld
    intro a inA b inB
    rw [sharesChannel a inA, sharesChannel b inB]

theorem kept_of_one_channel (submissions : List Submission)
    (metadata : ∀ submission ∈ submissions, IsMetadataOf pubkey submission)
    (unmet : Unmet pubkey table submissions)
    (one : ∀ a ∈ submissions, ∀ b ∈ submissions, channelOf a.event = channelOf b.event) :
    ChannelsKept submissions (run table submissions) := by
  have holding := run_holding submissions metadata unmet
  generalize run table submissions = reached at holding
  cases holding with
  | empty => simp [ChannelsKept]
  | row _ held member greatest =>
    intro submission inList
    exact ⟨held, member, one held member submission inList, fun other inOther _ => greatest other inOther,
      List.mem_append_right _ (List.mem_singleton_self _)⟩

end Steps

theorem channels_kept_iff (pubkey : JsString) (table : EventsTable) (submissions : List Submission)
    (metadata : ∀ submission ∈ submissions, IsMetadataOf pubkey submission)
    (unmet : Unmet pubkey table submissions) :
    ChannelsKept submissions (run table submissions) ↔
      ∀ a ∈ submissions, ∀ b ∈ submissions, channelOf a.event = channelOf b.event :=
  ⟨one_channel_of_kept submissions metadata unmet, kept_of_one_channel submissions metadata unmet⟩

def firstMetadata : Event :=
  { note with
    id := toHex [0x2a, 0xea, 0x0e, 0x56, 0x96, 0x1f, 0x16, 0x9c, 0x86, 0x03, 0x00, 0xda, 0x89, 0xb5, 0x18, 0x2c,
       0xf5, 0x0d, 0x2d, 0x08, 0xa3, 0xe5, 0xb0, 0x4e, 0xa5, 0xc0, 0xd7, 0xfe, 0x1c, 0xd6, 0x59, 0xb0]
    kind := 41
    tags := [[js "e", js "000000000000000000000000000000000000000000000000000000000000000a"]]
    sig := toHex [0xf0, 0x02, 0xfb, 0xd1, 0x84, 0x1a, 0xe0, 0x3b, 0xf8, 0x20, 0x11, 0xc4, 0x68, 0x0d, 0xa9, 0x1c,
       0x49, 0xf6, 0x37, 0x01, 0x3c, 0x09, 0x20, 0xcb, 0x33, 0xd5, 0x46, 0xbc, 0x5a, 0xd7, 0x5d, 0xe7,
       0x65, 0x93, 0x39, 0x59, 0x8a, 0x21, 0x8a, 0xfe, 0x25, 0xea, 0xe1, 0xef, 0xed, 0xb9, 0x23, 0x67,
       0x54, 0xf2, 0x8c, 0x72, 0x41, 0x13, 0xd8, 0xe3, 0xf3, 0x41, 0xe7, 0x91, 0x9e, 0x2c, 0xa8, 0x92] }

def secondMetadata : Event :=
  { firstMetadata with
    id := toHex [0xf0, 0x02, 0xb3, 0xb8, 0x51, 0xb7, 0xff, 0x5f, 0x7b, 0xe0, 0xab, 0xbe, 0xb6, 0x4f, 0x7c, 0xb0,
       0x91, 0x84, 0x7e, 0xf8, 0xb4, 0xef, 0x2f, 0xe1, 0xee, 0xaa, 0x0f, 0x23, 0x49, 0xbd, 0x21, 0xd0]
    createdAt := 1700000001
    tags := [[js "e", js "000000000000000000000000000000000000000000000000000000000000000b"]]
    sig := toHex [0xe9, 0x81, 0x4b, 0x88, 0x75, 0x50, 0x1b, 0x0b, 0xef, 0x96, 0xd7, 0xf7, 0x72, 0x6b, 0x00, 0xe4,
       0x23, 0xbb, 0x0c, 0x78, 0xbd, 0xe9, 0xcd, 0xe1, 0x6a, 0xf2, 0x25, 0xa0, 0xe2, 0xf2, 0x27, 0x71,
       0xa0, 0x7b, 0x42, 0x49, 0x37, 0x0d, 0x50, 0x03, 0x06, 0xf5, 0xa1, 0x86, 0x44, 0xb2, 0x66, 0x09,
       0x12, 0x22, 0x24, 0xc2, 0x9b, 0x09, 0x90, 0xe8, 0x47, 0x28, 0x01, 0x04, 0xe9, 0x09, 0xee, 0xf4] }

def metadataHandler : EventMessageHandler :=
  { openHandler with crypto := recordedCrypto ([firstMetadata, secondMetadata].map recorded) }

def channels : List Submission := [⟨metadataHandler, firstMetadata⟩, ⟨metadataHandler, secondMetadata⟩]

theorem channels_metadata : ∀ submission ∈ channels, IsMetadataOf note.pubkey submission := by
  have first : IsMetadataOf note.pubkey ⟨metadataHandler, firstMetadata⟩ :=
    ⟨⟨by decide +kernel, openHandler_accepts _ _ ⟨by decide +kernel, by decide +kernel⟩,
      by decide +kernel, by decide +kernel⟩, rfl, rfl⟩
  have second : IsMetadataOf note.pubkey ⟨metadataHandler, secondMetadata⟩ :=
    ⟨⟨by decide +kernel, openHandler_accepts _ _ ⟨by decide +kernel, by decide +kernel⟩,
      by decide +kernel, by decide +kernel⟩, rfl, rfl⟩
  simp [channels, first, second]

theorem channels_unmet : Unmet note.pubkey [] channels := ⟨by simp, by simp⟩

theorem two_channels_kept_iff :
    ChannelsKept channels (run [] channels) ↔
      ∀ a ∈ channels, ∀ b ∈ channels, channelOf a.event = channelOf b.event :=
  channels_kept_iff note.pubkey [] channels channels_metadata channels_unmet

theorem first_channel_lost :
    ¬ ∀ (pubkey : JsString) (table : EventsTable) (submissions : List Submission),
      (∀ submission ∈ submissions, IsMetadataOf pubkey submission) → Unmet pubkey table submissions →
        ChannelsKept submissions (run table submissions) := by
  intro claim
  have kept := claim note.pubkey [] channels channels_metadata channels_unmet
  have apart : channelOf firstMetadata ≠ channelOf secondMetadata := by decide
  have first : ⟨metadataHandler, firstMetadata⟩ ∈ channels := List.mem_cons_self
  have second : ⟨metadataHandler, secondMetadata⟩ ∈ channels := List.mem_cons_of_mem _ List.mem_cons_self
  exact apart (one_channel_of_kept channels channels_metadata channels_unmet kept _ first _ second)

end Nostream.ChannelOverwrites
