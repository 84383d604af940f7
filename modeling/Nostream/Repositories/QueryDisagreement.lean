import Nostream.Repositories.QueryEquivalence

set_option autoImplicit false

namespace Nostream.QueryDisagreement

open Utf16 Hex Sql FilterCriteria FilterAgreement QueryAgreement QueryEquivalence

def zeros (count : Nat) : JsString := List.replicate count 48

def padded (start : JsString) : JsString := start ++ zeros (64 - start.length)

def tightRow (filter : SubscriptionFilter) (tags : List (List (List Char))) : DBEvent :=
  { eventId := List.replicate 32 0
    eventPubkey := ofHex (padded ((filter.authors.getD []).headD []))
    eventCreatedAt := filter.since.getD (filter.untilTime.getD 0)
    eventKind := (filter.kinds.getD []).headD 0
    eventTags := tags
    eventContent := []
    eventSignature := []
    eventDeduplication := none
    remoteAddress := none
    expiresAt := none
    deletedAt := none }

def projected (row : DBEvent) : List EventTag :=
  (tagProjection row).map fun (name, value) => ⟨row.eventId, name, value⟩

theorem indexes_projected (row : DBEvent) : IndexesLetters (projected row) row := by
  unfold IndexesLetters projected
  rw [List.filter_map, List.map_map]
  simp [Function.comp_def]

theorem isLowerHex_padded (start : JsString) (lower : isLowerHex start = true) :
    isLowerHex (padded start) = true := by
  have zero : isLowerHexDigit 48 = true := by decide
  simp_all [isLowerHex, padded, zeros]

theorem padded_length (start : JsString) (short : start.length ≤ 64) :
    (padded start).length = 64 := by
  simp [padded, zeros]
  omega

theorem toHex_padded (start : JsString) (lower : isLowerHex start = true)
    (short : start.length ≤ 64) : toHex (ofHex (padded start)) = padded start :=
  toHex_ofHex _ (isLowerHex_padded start lower) (by rw [padded_length start short])

theorem firstAuthor_accepted (filter : SubscriptionFilter) (accepted : Accepted filter) :
    isLowerHex ((filter.authors.getD []).headD []) = true ∧
      ((filter.authors.getD []).headD []).length ≤ 64 := by
  cases authors : filter.authors.getD [] with
  | nil => exact ⟨rfl, by simp⟩
  | cons first rest =>
    have checked := accepted.authors first (by simp [authors])
    simp only [prefixSchema, Bool.and_eq_true, decide_eq_true_eq] at checked
    exact ⟨checked.1.1, checked.2⟩

theorem tightRow_pubkey (filter : SubscriptionFilter) (accepted : Accepted filter)
    (tags : List (List (List Char))) :
    toHex (tightRow filter tags).eventPubkey = padded ((filter.authors.getD []).headD []) := by
  obtain ⟨lower, short⟩ := firstAuthor_accepted filter accepted
  exact toHex_padded _ lower short

theorem isStored_tightRow (filter : SubscriptionFilter) (accepted : Accepted filter)
    (bindable : Bindable filter) (tags : List (List (List Char)))
    (texts : ∀ tag ∈ tags, ∀ text ∈ tag, storable text = true) : IsStored (tightRow filter tags) where
  eventId := rfl
  eventPubkey := by
    obtain ⟨lower, short⟩ := firstAuthor_accepted filter accepted
    have length := padded_length _ short
    have half := ofHex_length _ (isLowerHex_padded _ lower) (by rw [length])
    rw [length] at half
    exact half
  eventKind := by
    have first := bindable.kinds
    cases kinds : filter.kinds.getD [] with
    | nil => simp [tightRow, kinds, int4Range]
    | cons kind rest => simpa [tightRow, kinds] using first kind (by simp [kinds])
  eventCreatedAt := by
    cases since : filter.since with
    | some time => simpa [tightRow, since] using bindable.since time (by simp [since])
    | none =>
      cases untilTime : filter.untilTime with
      | some time => simpa [tightRow, since, untilTime] using
          bindable.untilTime time (by simp [untilTime])
      | none => simp [tightRow, since, untilTime, int4Range]
  eventTags := texts

theorem baseMatch_tightRow (filter : SubscriptionFilter) (accepted : Accepted filter)
    (possible : ¬ Unsatisfiable filter) (noIds : filter.ids = none) (tags : List (List (List Char))) :
    BaseMatch filter (toNostrEvent (tightRow filter tags)) := by
  simp only [Unsatisfiable, not_or] at possible
  obtain ⟨_, someAuthors, someKinds, _, ordered⟩ := possible
  refine ⟨by simp [noIds], ?_, ?_, ?_, ?_⟩
  · cases kinds : filter.kinds with
    | none => simp
    | some given =>
      cases given with
      | nil => exact (someKinds kinds).elim
      | cons kind rest => simp [toNostrEvent, tightRow, kinds]
  · cases since : filter.since <;> simp [toNostrEvent, tightRow, since]
  · cases atMost : filter.untilTime with
    | none => simp
    | some latest =>
      cases atLeast : filter.since with
      | none => simp [toNostrEvent, tightRow, atLeast, atMost]
      | some earliest =>
        have order : ¬ latest < earliest := fun before =>
          ordered ⟨earliest, atLeast, latest, atMost, before⟩
        simp [toNostrEvent, tightRow, atLeast]
        omega
  · have pubkey := tightRow_pubkey filter accepted tags
    cases authors : filter.authors with
    | none => simp
    | some given =>
      cases given with
      | nil => exact (someAuthors authors).elim
      | cons first rest =>
        have found : first <+: padded first := List.prefix_append _ _
        simp only [authors, Option.getD_some, List.headD_cons] at pubkey
        simp [toNostrEvent, pubkey, found]

theorem storable_name (key : JsString) (isKey : isLowerCaseTagKey key = true) :
    storable (decode (letterOf key)) = true := by
  obtain ⟨letter, unit, isLetter, rfl, encoded⟩ := letterKey key isKey
  rw [decode_letterOf encoded]
  exact storable_letter isLetter

theorem replaced_value_disagrees (filter : SubscriptionFilter) (accepted : Accepted filter)
    (bindable : Bindable filter) (unambiguous : Unambiguous filter) (possible : ¬ Unsatisfiable filter)
    (noIds : filter.ids = none) (c : JsString × List JsString) (only : filter.criteria = [c])
    (value : JsString) (inside : value ∈ c.2) (replaced : toWellFormed value ∉ c.2) :
    ∃ row eventTags, IsStored row ∧ IndexesLetters eventTags row ∧ ¬ Agrees filter row eventTags := by
  have member : c ∈ filter.criteria := by simp [only]
  have isKey := accepted.keys c member
  let row := tightRow filter [[decode (letterOf c.1), decode value]]
  have stored : IsStored row := by
    refine isStored_tightRow filter accepted bindable _ ?_
    simp only [forall_eq, List.mem_cons, List.not_mem_nil, or_false]
    rintro text (rfl | rfl)
    · exact storable_name c.1 isKey
    · exact bindable.values c member value inside
  have index := indexes_projected row
  refine ⟨row, projected row, stored, index, fun agrees => ?_⟩
  obtain ⟨letter, unit, isLetter, key, encoded⟩ := letterKey c.1 isKey
  have name : decode (letterOf c.1) = [letter] := by rw [key, decode_letterOf encoded]
  have selected : (findByFilter filter).selects (projected row) row = true := by
    rw [selects_iff filter accepted unambiguous row stored]
    refine ⟨baseMatch_tightRow filter accepted possible noIds _, .inr ?_⟩
    have found := (selected_tag_iff letter unit isLetter encoded c.2 row _ index).mpr
      ⟨value, inside, decode_ne_nil (accepted.values c member value inside), [], by simp [row, tightRow, name]⟩
    rw [← key] at found
    simpa [only] using found
  have matched := (matching_iff filter accepted _).mp (agrees.2.mp selected)
  have tag := matched.2 c member
  rw [key, matching_tag_iff letter unit encoded c.2 row] at tag
  obtain ⟨other, rest, inTags, found⟩ := tag
  simp only [row, tightRow, List.mem_singleton, List.cons.injEq, name] at inTags
  obtain ⟨_, rfl, _⟩ := inTags
  exact replaced found

def readable (values : List JsString) : JsString := (values.find? wellFormed).getD []

theorem separate_tags_disagree (filter : SubscriptionFilter) (accepted : Accepted filter)
    (bindable : Bindable filter) (unambiguous : Unambiguous filter) (possible : ¬ Unsatisfiable filter)
    (noIds : filter.ids = none) (c d : JsString × List JsString) (rest : List (JsString × List JsString))
    (several : filter.criteria = c :: d :: rest)
    (each : ∀ e ∈ filter.criteria, ∃ value ∈ e.2, wellFormed value = true) :
    ∃ row eventTags, IsStored row ∧ IndexesLetters eventTags row ∧ ¬ Agrees filter row eventTags := by
  have found (e : JsString × List JsString) (member : e ∈ filter.criteria) :
      readable e.2 ∈ e.2 ∧ wellFormed (readable e.2) = true := by
    obtain ⟨value, inside, readableValue⟩ := each e member
    have some : (e.2.find? wellFormed).isSome := List.find?_isSome.mpr ⟨value, inside, readableValue⟩
    obtain ⟨first, isFirst⟩ := Option.isSome_iff_exists.mp some
    simp only [readable, isFirst, Option.getD_some]
    exact ⟨List.mem_of_find?_eq_some isFirst, List.find?_some isFirst⟩
  let tags := filter.criteria.map fun e => [decode (letterOf e.1), decode (readable e.2)]
  let row := tightRow filter tags
  have stored : IsStored row := by
    refine isStored_tightRow filter accepted bindable _ ?_
    simp only [tags, List.forall_mem_map, List.mem_cons, List.not_mem_nil, or_false]
    rintro e member text (rfl | rfl)
    · exact storable_name e.1 (accepted.keys e member)
    · exact bindable.values e member _ (found e member).1
  have index := indexes_projected row
  refine ⟨row, projected row, stored, index, fun agrees => ?_⟩
  have matched : isEventMatchingFilter filter (toNostrEvent row) = true := by
    rw [matching_iff filter accepted]
    refine ⟨baseMatch_tightRow filter accepted possible noIds _, fun e member => ?_⟩
    obtain ⟨letter, unit, _, key, encoded⟩ := letterKey e.1 (accepted.keys e member)
    have name : decode (letterOf e.1) = [letter] := by rw [key, decode_letterOf encoded]
    obtain ⟨inside, readableValue⟩ := found e member
    rw [key, matching_tag_iff letter unit encoded e.2 row]
    refine ⟨decode (readable e.2), [], ?_, by rwa [encode_decode _ readableValue]⟩
    exact List.mem_map.mpr ⟨e, member, by rw [name]⟩
  have selected := agrees.2.mpr matched
  rw [selects_iff filter accepted unambiguous row stored] at selected
  rcases selected.2 with none | ⟨tag, _, _, holds⟩
  · simp [several] at none
  · exact two_criteria_never filter accepted c d rest several tag holds

theorem disagrees (filter : SubscriptionFilter) (accepted : Accepted filter)
    (unambiguous : Unambiguous filter) (bindable : Bindable filter) (possible : ¬ Unsatisfiable filter)
    (several : ¬ OneTagCriterion filter) :
    ∃ row eventTags, IsStored row ∧ IndexesLetters eventTags row ∧ ¬ Agrees filter row eventTags := by
  have noIds : filter.ids = none := by
    rcases unambiguous with noTags | noIds
    · exact (several (by simp [OneTagCriterion, noTags])).elim
    · cases ids : filter.ids with
      | none => rfl
      | some given =>
        cases given with
        | nil => exact (possible (.inl ids)).elim
        | cons first rest => simp [ids] at noIds
  cases shape : filter.criteria with
  | nil => exact (several (by simp [OneTagCriterion, shape])).elim
  | cons c others =>
    cases others with
    | nil =>
      simp only [OneTagCriterion, shape, not_forall] at several
      obtain ⟨value, inside, replaced⟩ := several
      exact replaced_value_disagrees filter accepted bindable unambiguous possible noIds c shape
        value inside replaced
    | cons d rest =>
      refine separate_tags_disagree filter accepted bindable unambiguous possible noIds c d rest shape
        fun e member => ?_
      by_contra unreadable
      simp only [not_exists, not_and, Bool.not_eq_true] at unreadable
      refine several ?_
      simp only [OneTagCriterion, shape]
      exact ⟨e, shape ▸ member, unreadable⟩

theorem exists_stored : ∃ row eventTags, IsStored row ∧ IndexesLetters eventTags row := by
  have accepted : Accepted {} := by constructor <;> simp
  have bindable : Bindable {} := by constructor <;> simp
  exact ⟨tightRow {} [], _, isStored_tightRow {} accepted bindable [] (by simp), indexes_projected _⟩

theorem stored_query_agrees_iff (filter : SubscriptionFilter) (schema : filterSchema filter = true) :
    (∀ row, IsStored row → ∀ eventTags, IndexesLetters eventTags row → Agrees filter row eventTags) ↔
      AgreementCondition filter := by
  have accepted := accepted_of_schema filter schema
  constructor
  · intro agrees
    obtain ⟨row, eventTags, stored, index⟩ := exists_stored
    obtain ⟨unambiguous, bindable⟩ :=
      (valid_iff filter accepted).mp (agrees row stored eventTags index).1
    refine ⟨unambiguous, bindable, ?_⟩
    by_contra neither
    rw [not_or] at neither
    obtain ⟨row, eventTags, stored, index, different⟩ :=
      disagrees filter accepted unambiguous bindable neither.1 neither.2
    exact different (agrees row stored eventTags index)
  · intro condition row stored eventTags index
    exact agrees_of_condition filter accepted condition row stored eventTags index

def authoredNotes : SubscriptionFilter :=
  { kinds := some [1], authors := some [js "abcd"], criteria := [(js "#t", [js "nostr"])] }

theorem authored_notes_agree : filterSchema authoredNotes = true ∧
    ((∀ row, IsStored row → ∀ eventTags, IndexesLetters eventTags row →
        Agrees authoredNotes row eventTags) ↔
      AgreementCondition authoredNotes) :=
  ⟨by decide, stored_query_agrees_iff authoredNotes (by decide)⟩

def replyAndMention : SubscriptionFilter :=
  { criteria := [(js "#e", [js "aa"]), (js "#p", [js "bb"])] }

def reply : DBEvent := tightRow {} [["e".toList, "aa".toList], ["p".toList, "bb".toList]]

theorem reply_and_mention_disagree :
    ¬ ∀ filter, filterSchema filter = true → ∀ row, IsStored row → ∀ eventTags,
      IndexesLetters eventTags row → Agrees filter row eventTags := by
  intro claim
  have stored : IsStored reply := by constructor <;> decide
  have agrees := claim replyAndMention (by decide) reply stored _ (indexes_projected reply)
  have selected := agrees.2.mpr (by decide)
  exact absurd selected (by decide)

end Nostream.QueryDisagreement
