import Nostream.Utils.SlidingWindowRateLimiter
import Nostream.Shared.Runs
import Nostream.Shared.Slots

set_option autoImplicit false

namespace Nostream.RateBound

open SlidingWindowRateLimiter SortedSet Slots
open Runs hiding execute

theorem stepOf_timestampAndStep (timestamp step : Nat) :
    stepOf (timestampAndStep timestamp step) = step := by
  have noColon (n : Nat) : ':' ∉ Nat.toDigits 10 n := by
    intro member
    exact absurd (Nat.isDigit_of_mem_toDigits (by decide) (by decide) member) (by decide)
  have pieces : (timestampAndStep timestamp step).splitOn ':' =
      [Nat.toDigits 10 timestamp, Nat.toDigits 10 step] := by
    rw [timestampAndStep, List.splitOn_append_cons_self, List.splitOn_eq_singleton (noColon timestamp),
      List.splitOn_eq_singleton (noColon step)]
    rfl
  rw [stepOf, pieces]
  exact Nat.ofDigitChars_ten_toDigits

def isAdded (hit : Hit) : Bool := hit.next != some .removeRange && hit.next != some .add

-- Too old to share a window with a call that is still to read the set, or is yet to be made.
def Lapsed (options : RateLimiterOptions) (s : State) (timestamp : Nat) : Prop :=
  timestamp + options.period ≤ s.now ∧
    ∀ other ∈ s.hits, other.answer = none → timestamp + options.period ≤ other.timestamp

-- The members that a command takes out of the set, by its range or because the key has expired.
def dropped (options : RateLimiterOptions) (now : Nat) (hit : Hit) (set : SortedSet) :
    List SortedSetMember :=
  if set.isExpired now then set.members
  else match hit.next with
  | some .removeRange =>
    set.members.filter (inRange 0 ((hit.timestamp : Int) - options.period))
  | some .setExpiry => if options.period = 0 then set.members else []
  | _ => []

structure Undisturbed (options : RateLimiterOptions) (s : State) (hit : Hit) : Prop where
  fresh : hit.next = some .add →
    ∀ member ∈ (s.set.found s.now).members, member.value ≠ hit.member.value
  spared : ∀ member ∈ dropped options s.now hit s.set, Lapsed options s member.score

def Allowed (options : RateLimiterOptions) (s : State) : Action → Prop
  | .command i => ∀ hit ∈ s.hits[i]?, Undisturbed options s hit
  | _ => True

theorem found_members (set : SortedSet) (now : Nat) (member : SortedSetMember) :
    member ∈ (set.found now).members ↔ set.isExpired now = false ∧ member ∈ set.members := by
  unfold found
  split <;> simp_all [empty]

theorem removed_members (set : SortedSet) (now : Nat) (min max : Int) :
    (set.removeRangeByScoreFromSortedSet now min max).members =
      (set.found now).members.filter fun member => !inRange min max member := by
  unfold removeRangeByScoreFromSortedSet
  split
  next none => exact none.symm
  next => rfl

theorem expiry_members (set : SortedSet) (now expiry : Nat) :
    (set.setKeyExpiry now expiry).members = if expiry = 0 then [] else (set.found now).members := by
  unfold setKeyExpiry
  split_ifs with either zero zero
  · rfl
  · exact (either.resolve_left zero).symm
  · exact absurd (.inl zero) either
  · rfl

structure Effect (options : RateLimiterOptions) (now : Nat) (hit : Hit) (set after : SortedSet) : Prop where
  kept : ∀ member ∈ set.members, member ∉ dropped options now hit set →
    (hit.next = some .add → member.value ≠ hit.member.value) → member ∈ after.members
  added : hit.next = some .add → hit.member ∈ after.members
  distinct : (set.members.map SortedSetMember.value).Nodup →
    (after.members.map SortedSetMember.value).Nodup

theorem found_distinct (set : SortedSet) (now : Nat)
    (distinct : (set.members.map SortedSetMember.value).Nodup) :
    ((set.found now).members.map SortedSetMember.value).Nodup := by
  unfold found
  split
  · exact List.nodup_nil
  · exact distinct

theorem execute_effect (options : RateLimiterOptions) (now : Nat) (hit called : Hit)
    (set after : SortedSet) (ran : execute options now hit set = some (called, after)) :
    Effect options now hit set after := by
  have alive (member : SortedSetMember) (inSet : member ∈ set.members)
      (stays : member ∉ dropped options now hit set) : member ∈ (set.found now).members := by
    refine (found_members ..).mpr ⟨?_, inSet⟩
    by_contra expired
    exact stays (by rwa [dropped, if_pos (by simpa using expired)])
  have unexpired (member : SortedSetMember) (inFound : member ∈ (set.found now).members) :=
    ((found_members ..).mp inFound).1
  unfold execute at ran
  split at ran
  next => cases ran
  next next =>
    cases ran
    refine ⟨fun member inSet stays _ => ?_, fun add => by simp [next] at add, fun distinct => ?_⟩
    · have inFound := alive member inSet stays
      rw [removed_members, List.mem_filter]
      refine ⟨inFound, ?_⟩
      by_contra outside
      refine stays ?_
      rw [dropped, if_neg (by simp [unexpired member inFound]), next]
      exact List.mem_filter.mpr ⟨inSet, by simpa using outside⟩
    · rw [removed_members]
      exact (found_distinct set now distinct).sublist (List.filter_sublist.map _)
  next next =>
    cases ran
    refine ⟨fun member inSet stays other => ?_, fun _ => ?_, fun distinct => ?_⟩
    · refine List.mem_append_left _ (List.mem_filter.mpr ⟨alive member inSet stays, ?_⟩)
      simpa using other next
    · exact List.mem_append_right _ (List.mem_singleton.mpr rfl)
    · rw [addToSortedSet, List.map_append]
      refine List.nodup_append.mpr ⟨?_, List.nodup_singleton _, ?_⟩
      · exact (found_distinct set now distinct).sublist (List.filter_sublist.map _)
      · intro value inKept other inNew
        obtain ⟨member, kept, rfl⟩ := List.mem_map.mp inKept
        rw [List.mem_singleton.mp inNew]
        simpa using (List.mem_filter.mp kept).2
  next next =>
    cases ran
    exact ⟨fun member inSet stays _ => alive member inSet stays, fun add => by simp [next] at add,
      found_distinct set now⟩
  next next =>
    cases ran
    refine ⟨fun member inSet stays _ => ?_, fun add => by simp [next] at add, fun distinct => ?_⟩
    · have inFound := alive member inSet stays
      rw [expiry_members, if_neg]
      · exact inFound
      · intro zero
        refine stays ?_
        rw [dropped, if_neg (by simp [unexpired member inFound]), next]
        simpa [zero] using inSet
    · rw [expiry_members]
      split
      · exact List.nodup_nil
      · exact found_distinct set now distinct

structure Called (options : RateLimiterOptions) (now : Nat) (set : SortedSet) (hit called : Hit) : Prop where
  timestamp : called.timestamp = hit.timestamp
  step : called.step = hit.step
  added : isAdded called = true → isAdded hit = true ∨ hit.next = some .add
  answered : called.answer = hit.answer ∨ (hit.next = some .getRange ∧
    called.answer = some (decide (hitCount (set.getRangeFromSortedSet now) > options.rate)))
  late : called.answer ≠ none → hit.answer ≠ none ∨ hit.next = some .getRange
  after : isAdded hit = true → hit.next ≠ some .getRange → called.next = none
  reading : hit.next = some .getRange → called.next = some .setExpiry

theorem execute_called (options : RateLimiterOptions) (now : Nat) (hit called : Hit)
    (set after : SortedSet) (ran : execute options now hit set = some (called, after)) :
    Called options now set hit called := by
  unfold execute at ran
  split at ran
  next => cases ran
  all_goals
    next next =>
      cases ran
      constructor <;> simp [isAdded, next]

theorem execute_added (options : RateLimiterOptions) (now : Nat) (hit called : Hit)
    (set after : SortedSet) (ran : execute options now hit set = some (called, after))
    (added : isAdded hit = true) : isAdded called = true := by
  unfold execute at ran
  split at ran
  next => cases ran
  all_goals
    next next =>
      cases ran
      simp_all [isAdded]

def Answered (s : State) : Prop :=
  ∀ hit ∈ s.hits, hit.answer ≠ none → hit.next = some .setExpiry ∨ hit.next = none

theorem act_cases (options : RateLimiterOptions) (s s' : State) (action : Action)
    (taken : act options s action = some s') :
    (∃ milliseconds, action = .advance milliseconds ∧ s' = { s with now := s.now + milliseconds }) ∨
    (∃ step, action = .hit step ∧ s' = { s with hits := s.hits ++ [{ timestamp := s.now, step := step }] }) ∨
    ∃ i hit called set, action = .command i ∧ s.hits[i]? = some hit ∧
      execute options s.now hit s.set = some (called, set) ∧
      s' = { s with set := set, hits := s.hits.set i called } := by
  cases action with
  | advance milliseconds => exact .inl ⟨milliseconds, rfl, (Option.some.inj taken).symm⟩
  | hit step => exact .inr (.inl ⟨step, rfl, (Option.some.inj taken).symm⟩)
  | command i =>
    simp only [act] at taken
    split at taken
    next => cases taken
    next hit found =>
      obtain ⟨⟨called, set⟩, ran, rfl⟩ := Option.map_eq_some_iff.mp taken
      exact .inr (.inr ⟨i, hit, called, set, rfl, found, ran, rfl⟩)

theorem act_answered (options : RateLimiterOptions) (s s' : State) (action : Action)
    (answered : Answered s) (taken : act options s action = some s') : Answered s' := by
  rcases act_cases options s s' action taken with ⟨_, _, rfl⟩ | ⟨step, _, rfl⟩ |
    ⟨i, hit, called, set, _, found, ran, rfl⟩
  · exact answered
  · intro hit member
    rcases List.mem_append.mp member with old | new
    · exact answered hit old
    · simp [List.mem_singleton.mp new]
  · intro other member given
    rcases mem_set_cases member with rfl | old
    · have calls := execute_called options s.now hit other s.set set ran
      by_cases reading : hit.next = some .getRange
      · exact .inl (calls.reading reading)
      · have before := answered hit (List.mem_of_getElem? found) ((calls.late given).resolve_right reading)
        have added : isAdded hit = true := by rcases before with next | next <;> simp [isAdded, next]
        exact .inr (calls.after added reading)
    · exact answered other old given

theorem act_lapsed (options : RateLimiterOptions) (s s' : State) (action : Action) (timestamp : Nat)
    (lapsed : Lapsed options s timestamp) (taken : act options s action = some s') :
    Lapsed options s' timestamp := by
  obtain ⟨old, pending⟩ := lapsed
  rcases act_cases options s s' action taken with ⟨milliseconds, _, rfl⟩ | ⟨step, _, rfl⟩ |
    ⟨i, hit, called, set, _, found, ran, rfl⟩
  · exact ⟨old.trans (Nat.le_add_right ..), pending⟩
  · refine ⟨old, fun other member waiting => ?_⟩
    rcases List.mem_append.mp member with earlier | new
    · exact pending other earlier waiting
    · rw [List.mem_singleton.mp new]
      exact old
  · refine ⟨old, fun other member waiting => ?_⟩
    rcases mem_set_cases member with rfl | earlier
    · have calls := execute_called options s.now hit other s.set set ran
      rw [calls.timestamp]
      refine pending hit (List.mem_of_getElem? found) ?_
      rcases calls.answered with same | ⟨_, given⟩
      · exact same.symm.trans waiting
      · rw [given] at waiting
        cases waiting
    · exact pending other earlier waiting

structure Recorded (options : RateLimiterOptions) (s : State) : Prop where
  distinct : (s.set.members.map SortedSetMember.value).Nodup
  live : ∀ hit ∈ s.hits, isAdded hit = true →
    Lapsed options s hit.timestamp ∨ hit.member ∈ s.set.members
  apart : ∀ (i j : Nat) (a b : Hit), s.hits[i]? = some a → s.hits[j]? = some b → i ≠ j →
    isAdded a = true → isAdded b = true → ¬ Lapsed options s a.timestamp →
      ¬ Lapsed options s b.timestamp → a.member.value ≠ b.member.value

theorem command_live (options : RateLimiterOptions) (s : State) (i : Nat) (hit called : Hit)
    (set : SortedSet) (recorded : Recorded options s) (found : s.hits[i]? = some hit)
    (undisturbed : Undisturbed options s hit)
    (ran : execute options s.now hit s.set = some (called, set)) (other : Hit)
    (member : other ∈ s.hits.set i called) (added : isAdded other = true) :
    Lapsed options s other.timestamp ∨ other.member ∈ set.members := by
  have effect := execute_effect options s.now hit called s.set set ran
  have calls := execute_called options s.now hit called s.set set ran
  have stays (earlier : Hit) (inHits : earlier ∈ s.hits) (added : isAdded earlier = true) :
      Lapsed options s earlier.timestamp ∨ earlier.member ∈ set.members := by
    rcases recorded.live earlier inHits added with lapsed | inSet
    · exact .inl lapsed
    · by_cases gone : earlier.member ∈ dropped options s.now hit s.set
      · exact .inl (undisturbed.spared earlier.member gone)
      · by_cases add : hit.next = some .add
        · by_cases expired : s.set.isExpired s.now = true
          · exact absurd (by rwa [dropped, if_pos expired]) gone
          · have inFound := (found_members ..).mpr ⟨by simpa using expired, inSet⟩
            have other := undisturbed.fresh add earlier.member inFound
            exact .inr (effect.kept earlier.member inSet gone fun _ => other)
        · exact .inr (effect.kept earlier.member inSet gone fun next => absurd next add)
  rcases mem_set_cases member with rfl | old
  · have same : other.member = hit.member := by rw [Hit.member, Hit.member, calls.timestamp, calls.step]
    rw [same, calls.timestamp]
    rcases calls.added added with before | add
    · exact stays hit (List.mem_of_getElem? found) before
    · exact .inr (effect.added add)
  · exact stays other old added

theorem added_apart (options : RateLimiterOptions) (s : State) (hit other : Hit)
    (recorded : Recorded options s) (undisturbed : Undisturbed options s hit)
    (add : hit.next = some .add) (inHits : other ∈ s.hits) (added : isAdded other = true)
    (recent : ¬ Lapsed options s other.timestamp) : other.member.value ≠ hit.member.value := by
  have inSet := (recorded.live other inHits added).resolve_left recent
  refine undisturbed.fresh add other.member ((found_members ..).mpr ⟨?_, inSet⟩)
  by_contra expired
  refine recent (undisturbed.spared other.member ?_)
  rwa [dropped, if_pos (by simpa using expired)]

theorem command_apart (options : RateLimiterOptions) (s : State) (i : Nat) (hit called : Hit)
    (set : SortedSet) (recorded : Recorded options s) (found : s.hits[i]? = some hit)
    (undisturbed : Undisturbed options s hit)
    (ran : execute options s.now hit s.set = some (called, set)) (j : Nat) (other : Hit)
    (foundOther : s.hits[j]? = some other) (different : j ≠ i) (addedCalled : isAdded called = true)
    (addedOther : isAdded other = true) (recent : ¬ Lapsed options s called.timestamp)
    (recentOther : ¬ Lapsed options s other.timestamp) : other.member.value ≠ called.member.value := by
  have calls := execute_called options s.now hit called s.set set ran
  have same : called.member = hit.member := by rw [Hit.member, Hit.member, calls.timestamp, calls.step]
  rw [calls.timestamp] at recent
  rw [same]
  rcases calls.added addedCalled with before | add
  · exact recorded.apart j i other hit foundOther found different addedOther before recentOther recent
  · exact added_apart options s hit other recorded undisturbed add (List.mem_of_getElem? foundOther)
      addedOther recentOther

theorem act_recorded (options : RateLimiterOptions) (s s' : State) (action : Action)
    (recorded : Recorded options s) (allowed : Allowed options s action)
    (taken : act options s action = some s') : Recorded options s' := by
  have lapses (timestamp : Nat) (recent : ¬ Lapsed options s' timestamp) :
      ¬ Lapsed options s timestamp :=
    fun lapsed => recent (act_lapsed options s s' action timestamp lapsed taken)
  have later (timestamp : Nat) := act_lapsed options s s' action timestamp
  rcases act_cases options s s' action taken with ⟨milliseconds, _, rfl⟩ | ⟨step, _, rfl⟩ |
    ⟨i, hit, called, set, rfl, found, ran, rfl⟩
  · refine ⟨recorded.distinct, fun hit member added => ?_, fun i j a b inA inB different addedA addedB
      recentA recentB => ?_⟩
    · exact (recorded.live hit member added).imp_left fun lapsed => later _ lapsed taken
    · exact recorded.apart i j a b inA inB different addedA addedB (lapses _ recentA) (lapses _ recentB)
  · have old (i : Nat) (hit : Hit) (added : isAdded hit = true)
        (found : (s.hits ++ [{ timestamp := s.now, step := step }])[i]? = some hit) :
        s.hits[i]? = some hit := by
      rw [List.getElem?_append] at found
      split at found
      · exact found
      · have new := List.mem_singleton.mp (List.mem_of_getElem? found)
        rw [new] at added
        cases added
    refine ⟨recorded.distinct, fun hit member added => ?_, fun i j a b inA inB different addedA addedB
      recentA recentB => ?_⟩
    · rcases List.mem_append.mp member with earlier | new
      · exact (recorded.live hit earlier added).imp_left fun lapsed => later _ lapsed taken
      · rw [List.mem_singleton.mp new] at added
        cases added
    · exact recorded.apart i j a b (old i a addedA inA) (old j b addedB inB) different addedA addedB
        (lapses _ recentA) (lapses _ recentB)
  · have undisturbed := allowed hit found
    have effect := execute_effect options s.now hit called s.set set ran
    have live := command_live options s i hit called set recorded found undisturbed ran
    have apart := command_apart options s i hit called set recorded found undisturbed ran
    refine ⟨effect.distinct recorded.distinct, fun other member added => ?_, fun j k a b inA inB different
      addedA addedB recentA recentB => ?_⟩
    · exact (live other member added).imp_left fun lapsed => later _ lapsed taken
    · rcases getElem?_set_cases inA with ⟨rfl, rfl⟩ | ⟨notI, oldA⟩ <;>
        rcases getElem?_set_cases inB with ⟨rfl, rfl⟩ | ⟨notI', oldB⟩
      · exact absurd rfl different
      · exact (apart k b oldB notI' addedA addedB (lapses _ recentA) (lapses _ recentB)).symm
      · exact apart j a oldA notI addedB addedA (lapses _ recentB) (lapses _ recentA)
      · exact recorded.apart j k a b oldA oldB different addedA addedB (lapses _ recentA) (lapses _ recentB)

def inWindow (options : RateLimiterOptions) (windowStart : Nat) (hit : Hit) : Bool :=
  windowStart ≤ hit.timestamp && hit.timestamp < windowStart + options.period

theorem not_lapsed (options : RateLimiterOptions) (s : State) (windowStart : Nat) (hit other : Hit)
    (inHits : hit ∈ s.hits) (waiting : hit.answer = none) (inside : inWindow options windowStart hit = true)
    (insideOther : inWindow options windowStart other = true) : ¬ Lapsed options s other.timestamp := by
  rintro ⟨_, pending⟩
  have far := pending hit inHits waiting
  simp only [inWindow, Bool.and_eq_true, decide_eq_true_eq] at inside insideOther
  omega

theorem sum_filter (hits : List Hit) (counts : Hit → Bool) :
    (hits.map fun hit => if counts hit then hit.step else 0).sum = ((hits.filter counts).map Hit.step).sum := by
  induction hits with
  | nil => rfl
  | cons hit rest ih => by_cases counted : counts hit = true <;> simp [counted, ih]

theorem window_counted (options : RateLimiterOptions) (s : State) (windowStart : Nat) (hit : Hit)
    (recorded : Recorded options s) (undisturbed : Undisturbed options s hit) (inHits : hit ∈ s.hits)
    (waiting : hit.answer = none)
    (inside : inWindow options windowStart hit = true) :
    (s.hits.map fun other =>
      if isAdded other && inWindow options windowStart other then other.step else 0).sum ≤
        hitCount (s.set.getRangeFromSortedSet s.now) := by
  have recent (other : Hit) (insideOther : inWindow options windowStart other = true) :=
    not_lapsed options s windowStart hit other inHits waiting inside insideOther
  have inSet (other : Hit) (member : other ∈ s.hits) (added : isAdded other = true)
      (insideOther : inWindow options windowStart other = true) : other.member ∈ (s.set.found s.now).members := by
    have stored := (recorded.live other member added).resolve_left (recent other insideOther)
    refine (found_members ..).mpr ⟨?_, stored⟩
    by_contra expired
    refine recent other insideOther (undisturbed.spared other.member ?_)
    rwa [dropped, if_pos (by simpa using expired)]
  let counted := s.hits.filter fun other => isAdded other && inWindow options windowStart other
  have values : (counted.map fun other => other.member.value).Subperm
      ((s.set.found s.now).members.map SortedSetMember.value) := by
    refine List.Nodup.subperm ?_ ?_
    · refine List.pairwise_map.mpr (List.pairwise_filter.mpr (List.pairwise_iff_getElem.mpr ?_))
      intro i j boundI boundJ less countedI countedJ
      simp only [Bool.and_eq_true] at countedI countedJ
      exact recorded.apart i j _ _ (List.getElem?_eq_getElem boundI) (List.getElem?_eq_getElem boundJ)
        (Nat.ne_of_lt less) countedI.1 countedJ.1 (recent _ countedI.2) (recent _ countedJ.2)
    · intro value member
      obtain ⟨other, inCounted, rfl⟩ := List.mem_map.mp member
      obtain ⟨inHits', counts⟩ := List.mem_filter.mp inCounted
      simp only [Bool.and_eq_true] at counts
      exact List.mem_map_of_mem (inSet other inHits' counts.1 counts.2)
  have steps : counted.map Hit.step = (counted.map fun other => other.member.value).map stepOf := by
    rw [List.map_map]
    exact List.map_congr_left fun other _ => (stepOf_timestampAndStep other.timestamp other.step).symm
  rw [sum_filter, hitCount, getRangeFromSortedSet]
  obtain ⟨part, perm, sublist⟩ := values
  calc (counted.map Hit.step).sum
      = (part.map stepOf).sum := by rw [steps, (perm.map stepOf).sum_eq]
    _ ≤ (((s.set.found s.now).members.map SortedSetMember.value).map stepOf).sum :=
      (sublist.map stepOf).sum_le_sum fun _ _ => Nat.zero_le _

def Bounded (options : RateLimiterOptions) (s : State) : Prop :=
  ∀ windowStart, letThrough options s windowStart ≤ options.rate

theorem isLetThrough_iff (options : RateLimiterOptions) (windowStart : Nat) (hit : Hit) :
    isLetThrough options windowStart hit = true ↔
      hit.answer = some false ∧ inWindow options windowStart hit = true := by
  simp [isLetThrough, inWindow, and_assoc]

theorem command_bounded (options : RateLimiterOptions) (s : State) (i : Nat) (hit called : Hit)
    (set : SortedSet) (answered : Answered s) (recorded : Recorded options s)
    (bounded : Bounded options s) (found : s.hits[i]? = some hit)
    (undisturbed : Undisturbed options s hit)
    (ran : execute options s.now hit s.set = some (called, set)) :
    Bounded options { s with set := set, hits := s.hits.set i called } := by
  have calls := execute_called options s.now hit called s.set set ran
  have inHits := List.mem_of_getElem? found
  intro windowStart
  by_cases same : isLetThrough options windowStart called = isLetThrough options windowStart hit
  · have unchanged := sum_set found called
      (fun hit => if isLetThrough options windowStart hit then hit.step else 0)
      (by simp only [same, calls.step])
    exact unchanged.trans_le (bounded windowStart)
  · -- Only a call that reads the set gets an answer.
    obtain ⟨reading, answer⟩ : hit.next = some .getRange ∧
        called.answer = some (decide (hitCount (s.set.getRangeFromSortedSet s.now) > options.rate)) := by
      refine calls.answered.resolve_left fun unanswered => same ?_
      rw [isLetThrough, isLetThrough, unanswered, calls.timestamp]
    have waiting : hit.answer = none := by
      by_contra given
      rcases answered hit inHits given with next | next <;> simp [next] at reading
    have through : isLetThrough options windowStart called = true := by
      by_contra stopped
      refine same ?_
      have before : isLetThrough options windowStart hit = false := by simp [isLetThrough, waiting]
      rw [before]
      simpa using stopped
    obtain ⟨isFalse, insideCalled⟩ := (isLetThrough_iff options windowStart called).mp through
    have few : hitCount (s.set.getRangeFromSortedSet s.now) ≤ options.rate := by
      rw [answer] at isFalse
      simpa using isFalse
    have inside : inWindow options windowStart hit = true := by
      rwa [inWindow, calls.timestamp] at insideCalled
    have counted := window_counted options s windowStart hit recorded undisturbed inHits waiting inside
    have isAddedHit : isAdded hit = true := by simp [isAdded, reading]
    have weights := sum_set found called
      (fun other => if isAdded other && inWindow options windowStart other then other.step else 0)
      (by simp only [execute_added options s.now hit called s.set set ran isAddedHit, isAddedHit,
        insideCalled, inside, calls.step])
    refine le_trans (List.sum_le_sum fun other member => ?_) (weights.trans_le (counted.trans few))
    split
    next otherThrough =>
      obtain ⟨otherFalse, insideOther⟩ := (isLetThrough_iff options windowStart other).mp otherThrough
      have added : isAdded other = true := by
        rcases mem_set_cases member with rfl | old
        · exact execute_added options s.now hit other s.set set ran isAddedHit
        · rcases answered other old (by simp [otherFalse]) with next | next <;> simp [isAdded, next]
      simp [added, insideOther]
    next => exact Nat.zero_le _

structure Inv (options : RateLimiterOptions) (s : State) : Prop where
  answered : Answered s
  recorded : Recorded options s
  bounded : Bounded options s

theorem act_inv (options : RateLimiterOptions) :
    Preserves (act options) (Allowed options) (Inv options) := by
  rintro s action s' ⟨answered, recorded, bounded⟩ allowed taken
  refine ⟨act_answered options s s' action answered taken,
    act_recorded options s s' action recorded allowed taken, ?_⟩
  rcases act_cases options s s' action taken with ⟨_, _, rfl⟩ | ⟨step, _, rfl⟩ |
    ⟨i, hit, called, set, rfl, found, ran, rfl⟩
  · exact bounded
  · intro windowStart
    have waiting : isLetThrough options windowStart { timestamp := s.now, step := step } = false := rfl
    simpa [letThrough, waiting] using bounded windowStart
  · exact command_bounded options s i hit called set answered recorded bounded found
      (allowed hit found) ran

theorem start_inv (options : RateLimiterOptions) (now : Nat) : Inv options (start now) := by
  refine ⟨?_, ⟨List.nodup_nil, ?_, ?_⟩, fun _ => Nat.zero_le _⟩ <;> simp [Answered, start]

theorem let_through_at_most_rate (options : RateLimiterOptions) (now : Nat) (trace : List Action)
    (s : State) (run : Run (act options) (Allowed options) (start now) trace s) (windowStart : Nat) :
    letThrough options s windowStart ≤ options.rate :=
  (run.invariant (act_inv options) (start_inv options now)).bounded windowStart

instance (options : RateLimiterOptions) (s : State) (timestamp : Nat) :
    Decidable (Lapsed options s timestamp) :=
  inferInstanceAs (Decidable (_ ∧ _))

instance (options : RateLimiterOptions) (s : State) (hit : Hit) : Decidable (Undisturbed options s hit) :=
  decidable_of_iff
    ((hit.next = some .add → ∀ member ∈ (s.set.found s.now).members, member.value ≠ hit.member.value) ∧
      ∀ member ∈ dropped options s.now hit s.set, Lapsed options s member.score)
    ⟨fun ⟨fresh, spared⟩ => ⟨fresh, spared⟩, fun ⟨fresh, spared⟩ => ⟨fresh, spared⟩⟩

instance (options : RateLimiterOptions) (s : State) : DecidablePred (Allowed options s)
  | .command i => inferInstanceAs (Decidable (∀ hit ∈ s.hits[i]?, Undisturbed options s hit))
  | .advance _ => inferInstanceAs (Decidable True)
  | .hit _ => inferInstanceAs (Decidable True)

def perMinute : RateLimiterOptions := { period := 60000, rate := 1 }

def completely (i : Nat) : List Action := List.replicate 4 (.command i)

def stateAfter (trace : List Action) : State :=
  (Runs.execute (act perMinute) (fun _ _ => True) (start 1700000000000) trace).getD (start 0)

def hitsApart : List Action := [.hit 1, .advance 1, .hit 1] ++ completely 0 ++ completely 1

def simultaneousHits : List Action := [.hit 1, .hit 1] ++ completely 0 ++ completely 1

theorem hits_apart_bounded :
    letThrough perMinute (stateAfter hitsApart) 1700000000000 ≤ perMinute.rate :=
  let_through_at_most_rate perMinute 1700000000000 hitsApart _ (run_of_execute (by decide +kernel)) _

theorem simultaneous_hits_unbounded :
    ¬ ∀ (options : RateLimiterOptions) (now : Nat) (trace : List Action) (s : State),
      Run (act options) (fun _ _ => True) (start now) trace s →
        ∀ windowStart, letThrough options s windowStart ≤ options.rate := by
  intro bounded
  have few := bounded perMinute 1700000000000 simultaneousHits (stateAfter simultaneousHits)
    (run_of_execute (by decide +kernel)) 1700000000000
  revert few
  decide +kernel

end Nostream.RateBound
