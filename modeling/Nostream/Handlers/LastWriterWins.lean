import Nostream.Handlers.MessageStages
import Nostream.Handlers.ReplacementKeys
import Nostream.Schemas
import Nostream.Shared.Register

set_option autoImplicit false

namespace Nostream.LastWriterWins

open Utf16 Hex Sql Effects EventRepository EventMessageHandler MessageStages StrategyTables Writes Register
open ReplacementKeys

structure Submission where
  handler : EventMessageHandler
  event : Event

namespace Submission

variable (submission : Submission)

def prepared : Event := MessageStages.prepared (submission.handler.storing {}) submission.event

def bound : EventRow := upsertRow submission.prepared (replacementDeduplication submission.prepared)

def row : DBEvent := submission.bound.stored

def key : ReplacementKey := eventKey submission.event

def stamp : Int := submission.event.createdAt

def submit (table : EventsTable) : EventsTable :=
  (((submission.handler.storing {}).handleMessage submission.event).run { table := table }).2.table

structure Replaces : Prop where
  schema : eventSchema submission.event = true
  accepted : Accepted (submission.handler.storing {}) submission.event
  replacing : isReplacing submission.event = true
  storable : submission.bound.storable = true

end Submission

open Submission

theorem row_key (submission : Submission) (replaces : submission.Replaces) :
    rowKey submission.row = submission.key := by
  obtain ⟨_, same⟩ := prepared_eq (submission.handler.storing {}) submission.event
  rw [row, bound, Submission.prepared, same]
  exact rowKey_upsertRow submission.event replaces.replacing

theorem row_id (submission : Submission) : submission.row.eventId = ofHex submission.event.id := by
  obtain ⟨_, same⟩ := prepared_eq (submission.handler.storing {}) submission.event
  rw [row, bound, Submission.prepared, same]
  rfl

theorem row_stamp (submission : Submission) : submission.row.eventCreatedAt = submission.stamp := by
  obtain ⟨_, same⟩ := prepared_eq (submission.handler.storing {}) submission.event
  rw [row, bound, Submission.prepared, same]
  rfl

theorem row_remoteAddress (submission : Submission) :
    submission.row.remoteAddress = some submission.handler.webSocket.clientAddress := by
  obtain ⟨_, same⟩ := prepared_eq (submission.handler.storing {}) submission.event
  rw [row, bound, Submission.prepared, same]
  rfl

theorem prepared_replacing (submission : Submission) (replaces : submission.Replaces) :
    isReplacing submission.prepared = true := by
  obtain ⟨_, same⟩ := prepared_eq (submission.handler.storing {}) submission.event
  rw [Submission.prepared, same]
  exact replaces.replacing

theorem row_kind (submission : Submission) (replaces : submission.Replaces) :
    replaceableEventsIdx submission.row.eventKind = true := by
  rw [← prepared_replacing submission replaces, replacing_kind]
  rfl

theorem sameKey_iff (submission : Submission) (replaces : submission.Replaces) (r : DBEvent) :
    sameKey submission.bound r = true ↔ holds submission.key r = true := by
  obtain ⟨_, same⟩ := prepared_eq (submission.handler.storing {}) submission.event
  rw [bound, Submission.prepared, same]
  exact sameKey_iff_holds submission.event replaces.replacing r

theorem submit_eq (submission : Submission) (replaces : submission.Replaces) (table : EventsTable) :
    submission.submit table =
      ((EventRepository.upsert .completes submission.prepared
        (replacementDeduplication submission.prepared)).run table).2 := by
  have dispatch := eventStrategyFactory_correct submission.prepared
  have replacing := prepared_replacing submission replaces
  have ran := accepted_run (submission.handler.storing {}) submission.event replaces.accepted { table := table }
  rw [submit, ran, executeStrategy_table]
  rcases (isReplacing_iff submission.prepared).mp replacing with strategy | strategy
  · rw [replacementDeduplication, if_pos (dispatch.replaceable.mpr strategy)]
    show strategyTable _ submission.prepared table (eventStrategyFactory submission.prepared) = _
    rw [strategy]
    rfl
  · rw [replacementDeduplication, if_neg (by simp [dispatch.replaceable, strategy])]
    show strategyTable _ submission.prepared table (eventStrategyFactory submission.prepared) = _
    rw [strategy]
    rfl

structure Represents (submissions : List Submission) (table : EventsTable)
    (registers : ReplacementKey → Option Submission) : Prop where
  rows : ∀ key, table.filter (holds key) = (registers key).toList.map Submission.row
  written : ∀ key held, registers key = some held → held ∈ submissions ∧ held.key = key
  others : ∀ r ∈ table, replaceableEventsIdx r.eventKind = false →
    ∀ submission ∈ submissions, r.eventId ≠ ofHex submission.event.id

structure Consistent (submissions : List Submission) : Prop where
  replaces : ∀ submission ∈ submissions, submission.Replaces
  sameEvent : ∀ a ∈ submissions, ∀ b ∈ submissions, a.event.id = b.event.id → a.event = b.event

theorem holds_self (submission : Submission) (replaces : submission.Replaces) :
    holds submission.key submission.row = true := by
  simp [holds, row_kind submission replaces, row_key submission replaces]

theorem id_injective (submissions : List Submission) (consistent : Consistent submissions)
    (a b : Submission) (inA : a ∈ submissions) (inB : b ∈ submissions)
    (same : a.row.eventId = b.row.eventId) : a.event = b.event := by
  have schemaA := (consistent.replaces a inA).schema
  have schemaB := (consistent.replaces b inB).schema
  simp only [eventSchema, idSchema, Bool.and_eq_true, beq_iff_eq] at schemaA schemaB
  rw [row_id, row_id] at same
  refine consistent.sameEvent a inA b inB (ofHex_injective ?_ ?_ ?_ ?_ same) <;> simp_all

theorem holds_of_id (submissions : List Submission) (consistent : Consistent submissions)
    (table : EventsTable) (registers : ReplacementKey → Option Submission)
    (represents : Represents submissions table registers) (submission : Submission)
    (inList : submission ∈ submissions) (r : DBEvent) (member : r ∈ table)
    (id : r.eventId = submission.bound.eventId) : holds submission.key r = true := by
  have sameId : r.eventId = submission.row.eventId := id
  by_cases idx : replaceableEventsIdx r.eventKind = true
  · have inCell : r ∈ table.filter (holds (rowKey r)) :=
      List.mem_filter.mpr ⟨member, by simp [holds, idx]⟩
    rw [represents.rows] at inCell
    obtain ⟨held, found, rfl⟩ := List.mem_map.mp inCell
    obtain ⟨inHistory, heldKey⟩ := represents.written _ held (Option.mem_toList.mp found)
    have event := id_injective submissions consistent held submission inHistory inList sameId
    have sameKey : held.key = submission.key := congrArg eventKey event
    rw [← sameKey]
    exact holds_self held (consistent.replaces held inHistory)
  · rw [Bool.not_eq_true] at idx
    rw [row_id] at sameId
    exact (represents.others r member idx submission inList sameId).elim

theorem mergeRow_self (submission : Submission) (replaces : submission.Replaces) (r : DBEvent)
    (same : holds submission.key r = true) : mergeRow r submission.row = submission.row := by
  simp only [holds, Bool.and_eq_true, beq_iff_eq, ← row_key submission replaces, rowKey, Prod.mk.injEq] at same
  obtain ⟨_, pubkey, kind, deduplication⟩ := same
  rw [mergeRow, pubkey, kind, deduplication, row_remoteAddress, Option.orElse_some,
    ← row_remoteAddress]

theorem filter_merged (submission : Submission) (replaces : submission.Replaces) (table : EventsTable)
    (other : ReplacementKey) :
    (merged submission.bound table).filter (holds other) =
      if other = submission.key then (table.filter (holds other)).map fun _ => submission.row
      else table.filter (holds other) := by
  induction table with
  | nil => simp [merged]
  | cons r rest ih =>
    have tail : (rest.map fun r =>
        if sameKey submission.bound r then mergeRow r submission.bound.stored else r).filter (holds other) =
        if other = submission.key then (rest.filter (holds other)).map fun _ => submission.row
        else rest.filter (holds other) := ih
    rw [merged, List.map_cons]
    by_cases same : sameKey submission.bound r = true
    · have isHeld := (sameKey_iff submission replaces r).mp same
      have replaced : mergeRow r submission.bound.stored = submission.row := mergeRow_self submission replaces r isHeld
      rw [if_pos same, replaced]
      by_cases isKey : other = submission.key
      · subst isKey
        simp [holds_self submission replaces, isHeld, tail]
      · have outside (x : DBEvent) (held : holds submission.key x = true) : holds other x = false := by
          by_contra alsoHeld
          rw [Bool.not_eq_false] at alsoHeld
          exact isKey (holds_unique alsoHeld held)
        simp [outside _ (holds_self submission replaces), outside _ isHeld, tail, isKey]
    · rw [if_neg same]
      by_cases isKey : other = submission.key
      · subst isKey
        rw [sameKey_iff submission replaces] at same
        simp [same, tail]
      · by_cases isHeld : holds other r = true <;> simp [isHeld, tail, isKey]

theorem find_row (submissions : List Submission) (table : EventsTable)
    (registers : ReplacementKey → Option Submission) (represents : Represents submissions table registers)
    (submission : Submission) (replaces : submission.Replaces) :
    table.find? (sameKey submission.bound) = (registers submission.key).map Submission.row := by
  have sameTest : sameKey submission.bound = holds submission.key := by
    funext r
    rw [Bool.eq_iff_iff, sameKey_iff submission replaces]
  rw [sameTest, ← List.head?_filter, represents.rows]
  cases registers submission.key <;> rfl

theorem submit_merged (submissions : List Submission) (consistent : Consistent submissions)
    (table : EventsTable) (registers : ReplacementKey → Option Submission)
    (represents : Represents submissions table registers) (submission : Submission)
    (inList : submission ∈ submissions) :
    ∃ count, Merged submission.bound table count (submission.submit table) := by
  have replaces := consistent.replaces submission inList
  have found := find_row submissions table registers represents submission replaces
  have sameId := holds_of_id submissions consistent table registers represents submission inList
  have outcome : ∃ count written, Merged submission.bound table count written := by
    cases held : registers submission.key with
    | none =>
      rw [held] at found
      refine ⟨_, _, .appended found ?_⟩
      rw [← Bool.not_eq_true, hasId_iff]
      rintro ⟨r, member, id⟩
      have absent := List.find?_eq_none.mp found r member
      rw [sameKey_iff submission replaces] at absent
      exact absent (sameId r member id)
    | some old =>
      rw [held] at found
      by_cases older : old.row.eventCreatedAt < submission.bound.eventCreatedAt
      · refine ⟨_, _, .replaced _ found older fun r member other id => ?_⟩
        rw [← Bool.not_eq_true, sameKey_iff submission replaces] at other
        exact other (sameId r member id)
      · exact ⟨_, _, .kept _ found (not_lt.mp older)⟩
  obtain ⟨count, written, merged⟩ := outcome
  have ran := (upsert_ok .completes submission.prepared
    (replacementDeduplication submission.prepared) table written count).mpr ⟨rfl, replaces.storable, merged⟩
  rw [submit_eq submission replaces, ran]
  exact ⟨count, merged⟩

theorem submit_represents (submissions : List Submission) (consistent : Consistent submissions)
    (table : EventsTable) (registers : ReplacementKey → Option Submission)
    (represents : Represents submissions table registers) (submission : Submission)
    (inList : submission ∈ submissions) :
    Represents submissions (submission.submit table) (put key stamp registers submission) := by
  have replaces := consistent.replaces submission inList
  have found := find_row submissions table registers represents submission replaces
  have isHeld := holds_self submission replaces
  have written (k : ReplacementKey) (held : Submission)
      (member : put key stamp registers submission k = some held) : held ∈ submissions ∧ held.key = k := by
    rcases put_cases key stamp registers submission k held member with old | ⟨rfl, same⟩
    · exact represents.written k held old
    · exact ⟨inList, same⟩
  obtain ⟨count, outcome⟩ :=
    submit_merged submissions consistent table registers represents submission inList
  generalize submission.submit table = reached at outcome
  have rows (k : ReplacementKey) : reached.filter (holds k) =
      (put key stamp registers submission k).toList.map Submission.row := by
    by_cases isKey : k = submission.key
    · subst isKey
      rw [put, Function.update_self]
      cases outcome with
      | appended fresh newId =>
        rw [fresh] at found
        have empty := Option.map_eq_none_iff.mp found.symm
        have stored : holds submission.key submission.bound.stored = true := isHeld
        simp [List.filter_append, represents.rows, empty, stored, write, row]
      | replaced existing isFound older noOther =>
        rw [isFound] at found
        obtain ⟨held, isRegister, rfl⟩ := Option.map_eq_some_iff.mp found.symm
        have older : held.stamp < submission.stamp := by rwa [← row_stamp, ← row_stamp]
        rw [filter_merged submission replaces, if_pos rfl, represents.rows, isRegister]
        simp [write, older]
      | kept existing isFound newer =>
        rw [isFound] at found
        obtain ⟨held, isRegister, rfl⟩ := Option.map_eq_some_iff.mp found.symm
        have newer : ¬ held.stamp < submission.stamp := by
          rw [← row_stamp, ← row_stamp, not_lt]
          exact newer
        rw [represents.rows, isRegister]
        simp [write, newer]
    · rw [put, Function.update_of_ne isKey]
      have notHeld : holds k submission.row = false := by
        by_contra held
        exact isKey (holds_unique (by simpa using held) isHeld)
      cases outcome with
      | appended fresh newId =>
        have stored : holds k submission.bound.stored = false := notHeld
        simp [List.filter_append, represents.rows, stored]
      | replaced existing isFound older noOther =>
        rw [filter_merged submission replaces, if_neg isKey, represents.rows]
      | kept existing isFound newer => exact represents.rows k
  refine ⟨rows, written, fun r member notIndexed => ?_⟩
  have untouched (old : r ∈ table) := represents.others r old notIndexed
  have indexed := row_kind submission replaces
  cases outcome with
  | appended fresh newId =>
    rcases List.mem_append.mp member with old | new
    · exact untouched old
    · rw [List.mem_singleton.mp new] at notIndexed
      rw [show submission.bound.stored = submission.row from rfl, indexed] at notIndexed
      cases notIndexed
  | replaced existing isFound older noOther =>
    obtain ⟨old, inTable, rfl⟩ := List.mem_map.mp member
    by_cases same : sameKey submission.bound old = true
    · rw [if_pos same] at notIndexed
      have still : replaceableEventsIdx (mergeRow old submission.bound.stored).eventKind = true :=
        ((sameIndexKey_iff _ _).mp same).1
      rw [still] at notIndexed
      cases notIndexed
    · rw [if_neg same] at notIndexed ⊢
      exact represents.others old inTable notIndexed
  | kept existing isFound newer => exact untouched member

def run (table : EventsTable) (submissions : List Submission) : EventsTable :=
  submissions.foldl (fun table submission => submission.submit table) table

noncomputable def latest (submissions : List Submission) (k : ReplacementKey) : Option Submission :=
  (submissions.filter (key · = k)).argmax stamp

theorem run_represents (table : EventsTable) (submissions : List Submission)
    (consistent : Consistent submissions)
    (initial : Represents submissions table fun _ => none) :
    Represents submissions (run table submissions) (latest submissions) := by
  have registers : latest submissions = submissions.foldl (put key stamp) fun _ => none := by
    funext k
    rw [puts_argmax, latest]
  rw [registers]
  exact List.foldl_rel (r := Represents submissions) initial
    fun submission inList reached _ represents =>
      submit_represents submissions consistent reached _ represents submission inList

structure Wins (submissions : List Submission) (k : ReplacementKey) (winner : Submission) : Prop where
  arrived : ∃ before after, submissions.filter (key · = k) = before ++ winner :: after ∧
    (∀ earlier ∈ before, earlier.stamp < winner.stamp) ∧ ∀ later ∈ after, later.stamp ≤ winner.stamp

theorem last_writer_wins (table : EventsTable) (submissions : List Submission)
    (consistent : Consistent submissions)
    (clean : ∀ r ∈ table, replaceableEventsIdx r.eventKind = false)
    (fresh : ∀ r ∈ table, ∀ submission ∈ submissions, r.eventId ≠ ofHex submission.event.id) :
    (∀ event, isReplacing event = upsertConflictTarget event.kind ∧
        upsertConflictTarget event.kind = replaceableEventsIdx event.kind) ∧
      ∀ submission ∈ submissions, ∃ winner, Wins submissions submission.key winner ∧
        (run table submissions).filter (holds submission.key) = [winner.row] := by
  refine ⟨fun event => ⟨replacing_kind event, congrFun upsertConflictTarget_correct event.kind⟩,
    fun submission inList => ?_⟩
  have empty (k : ReplacementKey) : table.filter (holds k) = [] := by
    rw [List.filter_eq_nil_iff]
    intro r member
    simp [holds, clean r member]
  have final := run_represents table submissions consistent
    ⟨by simp [empty], by simp, fun r member _ => fresh r member⟩
  cases won : latest submissions submission.key with
  | none =>
    rw [latest, List.argmax_eq_none, List.filter_eq_nil_iff] at won
    exact (won submission inList (by simp)).elim
  | some winner =>
    refine ⟨winner, ⟨argmax_first stamp _ winner won⟩, ?_⟩
    rw [final.rows, won]
    rfl

def profiles : List Submission := [⟨openHandler, laterProfile⟩, ⟨openHandler, profile⟩, ⟨openHandler, profile⟩]

theorem consistent_profiles : Consistent profiles := by
  have later : (Submission.mk openHandler laterProfile).Replaces :=
    ⟨by decide +kernel, openHandler_accepts crypto _ ⟨by decide +kernel, by decide +kernel⟩, by decide +kernel,
      by decide +kernel⟩
  have first : (Submission.mk openHandler profile).Replaces :=
    ⟨by decide +kernel, openHandler_accepts crypto _ ⟨by decide +kernel, by decide +kernel⟩, by decide +kernel,
      by decide +kernel⟩
  have different : laterProfile.id ≠ profile.id := by decide +kernel
  constructor
  · simp [profiles, later, first]
  · simp [profiles, different, different.symm]

theorem profiles_last_writer_wins :
    (∀ event, isReplacing event = upsertConflictTarget event.kind ∧
        upsertConflictTarget event.kind = replaceableEventsIdx event.kind) ∧
      ∀ submission ∈ profiles, ∃ winner, Wins profiles submission.key winner ∧
        (run [] profiles).filter (holds submission.key) = [winner.row] :=
  last_writer_wins [] profiles consistent_profiles (by simp) (by simp)

end Nostream.LastWriterWins
