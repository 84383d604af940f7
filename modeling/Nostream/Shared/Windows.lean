import Mathlib.Tactic

set_option autoImplicit false

-- Sliding windows over the steps recorded under keys.
namespace Windows

structure Recorded (κ : Type) where
  time : Int
  key : κ
  step : Nat

structure Hit (κ : Type) where
  key : κ
  step : Nat
  period : Int
  rate : Int

abbrev Ledger (κ : Type) := List (Recorded κ)

def isWithin (now period time : Int) : Bool := decide (now - period < time) && decide (time ≤ now)

-- Every hit is made, whatever the answers before it are.
def hitEach {η σ : Type} (hit : η → σ → Bool × σ) : List η → Bool → σ → Bool × σ
  | [], limited, s => (limited, s)
  | first :: rest, limited, s => hitEach hit rest (limited || (hit first s).1) (hit first s).2

theorem hitEach_map {η θ σ : Type} (f : θ → η) (hit : η → σ → Bool × σ) (hits : List θ) (limited : Bool) (s : σ) :
    hitEach hit (hits.map f) limited s = hitEach (fun h => hit (f h)) hits limited s := by
  induction hits generalizing limited s with
  | nil => rfl
  | cons first rest ih => exact ih _ _

theorem hitEach_append {η σ : Type} (hit : η → σ → Bool × σ) (hits others : List η) (limited : Bool) (s : σ) :
    hitEach hit (hits ++ others) limited s =
      hitEach hit others (hitEach hit hits limited s).1 (hitEach hit hits limited s).2 := by
  induction hits generalizing limited s with
  | nil => rfl
  | cons first rest ih => exact ih _ _

section Exact

variable {κ : Type} [DecidableEq κ]

def count (now period : Int) (key : κ) (ledger : Ledger κ) : Nat :=
  ((ledger.filter fun recorded => decide (recorded.key = key) && isWithin now period recorded.time).map
    Recorded.step).sum

def hit (now : Int) (h : Hit κ) (ledger : Ledger κ) : Bool × Ledger κ :=
  let ledger := ledger ++ [{ time := now, key := h.key, step := h.step }]
  (decide (h.rate < count now h.period h.key ledger), ledger)

def record (now : Int) (h : Hit κ) : Recorded κ := { time := now, key := h.key, step := h.step }

theorem count_append (now period : Int) (key : κ) (ledger others : Ledger κ) :
    count now period key (ledger ++ others) = count now period key ledger + count now period key others := by
  simp [count]

theorem hitEach_ledger (now : Int) (hits : List (Hit κ)) (limited : Bool) (ledger : Ledger κ) :
    (hitEach (hit now) hits limited ledger).2 = ledger ++ hits.map (record now) := by
  induction hits generalizing limited ledger with
  | nil => simp [hitEach]
  | cons first rest ih =>
    rw [hitEach, ih, List.map_cons]
    simp [hit, record]

theorem hitEach_limited (now : Int) (hits : List (Hit κ)) (limited : Bool) (ledger : Ledger κ) :
    (hitEach (hit now) hits limited ledger).1 = true ↔ limited = true ∨
      ∃ before h after, hits = before ++ h :: after ∧
        h.rate < count now h.period h.key (ledger ++ (before ++ [h]).map (record now)) := by
  induction hits generalizing limited ledger with
  | nil => simp [hitEach]
  | cons first rest ih =>
    have answer : (hit now first ledger).1 = true ↔
        first.rate < count now first.period first.key (ledger ++ [record now first]) := decide_eq_true_iff
    rw [hitEach, ih, Bool.or_eq_true, or_assoc, answer]
    refine or_congr_right ?_
    constructor
    · rintro (exceeded | ⟨before, h, after, rfl, exceeded⟩)
      · exact ⟨[], first, rest, rfl, exceeded⟩
      · refine ⟨first :: before, h, after, rfl, ?_⟩
        simpa [hit, record] using exceeded
    · rintro ⟨before, h, after, split, exceeded⟩
      cases before with
      | nil =>
        cases split
        exact .inl exceeded
      | cons second before =>
        cases split
        refine .inr ⟨before, h, after, rfl, ?_⟩
        simpa [hit, record] using exceeded

end Exact

structure Policy (Limit Message : Type) where
  limits : List Limit
  applies : Limit → Message → Bool
  period : Limit → Int
  rate : Limit → Int

namespace Policy

variable {κ Limit Message : Type} [DecidableEq κ] (policy : Policy Limit Message) (key : Limit → κ)

def messages (limit : Limit) (now : Int) (visits : List (Int × Message)) : Nat :=
  visits.countP fun visit => policy.applies limit visit.2 && isWithin now (policy.period limit) visit.1

def Exceeded (earlier : List (Int × Message)) (now : Int) (message : Message) : Prop :=
  ∃ limit ∈ policy.limits, policy.applies limit message = true ∧
    policy.rate limit < policy.messages limit now (earlier ++ [(now, message)])

def applied (message : Message) : List Limit := policy.limits.filter fun limit => policy.applies limit message

def hitFor (limit : Limit) : Hit κ :=
  { key := key limit, step := 1, period := policy.period limit, rate := policy.rate limit }

def isLimited (now : Int) (message : Message) (ledger : Ledger κ) : Bool × Ledger κ :=
  hitEach (hit now) ((policy.applied message).map (policy.hitFor key)) false ledger

def ledgerAfter (visits : List (Int × Message)) : Ledger κ :=
  visits.foldl (fun ledger visit => (policy.isLimited key visit.1 visit.2 ledger).2) []

def Apart (message : Message) : Prop :=
  policy.limits.Pairwise fun a b =>
    policy.applies a message = true ∨ policy.applies b message = true → key a ≠ key b

theorem ledgerAfter_eq (visits : List (Int × Message)) :
    policy.ledgerAfter key visits =
      visits.flatMap fun visit => (policy.applied visit.2).map fun limit =>
        { time := visit.1, key := key limit, step := 1 } := by
  have kept (ledger : Ledger κ) :
      visits.foldl (fun ledger visit => (policy.isLimited key visit.1 visit.2 ledger).2) ledger =
        ledger ++ visits.flatMap fun visit => (policy.applied visit.2).map fun limit =>
          { time := visit.1, key := key limit, step := 1 } := by
    induction visits generalizing ledger with
    | nil => simp
    | cons visit rest ih =>
      rw [List.foldl_cons, ih, isLimited, hitEach_ledger, List.map_map, List.flatMap_cons, List.append_assoc]
      rfl
  exact kept []

theorem count_message (now : Int) (visit : Int × Message) (limit : Limit) (limits : List Limit) :
    count now (policy.period limit) (key limit)
        (limits.map fun other => { time := visit.1, key := key other, step := 1 }) =
      if isWithin now (policy.period limit) visit.1 then limits.countP fun other => decide (key other = key limit)
      else 0 := by
  induction limits with
  | nil => simp [count]
  | cons other rest ih =>
    have first : count now (policy.period limit) (key limit) [{ time := visit.1, key := key other, step := 1 }] =
        if isWithin now (policy.period limit) visit.1 ∧ key other = key limit then 1 else 0 := by
      by_cases same : key other = key limit <;> by_cases within : isWithin now (policy.period limit) visit.1 <;>
        simp [count, same, within]
    rw [List.map_cons, ← List.singleton_append, count_append, ih, first, List.countP_cons]
    by_cases same : key other = key limit <;> by_cases within : isWithin now (policy.period limit) visit.1 <;>
      simp [same, within, Nat.add_comm]

theorem countP_applied (message : Message) (apart : policy.Apart key message) (limit : Limit)
    (member : limit ∈ policy.limits) :
    (policy.applied message).countP (fun other => decide (key other = key limit)) =
      if policy.applies limit message then 1 else 0 := by
  obtain ⟨front, back, split⟩ := List.append_of_mem member
  rw [Apart, split, List.pairwise_append, List.pairwise_cons] at apart
  obtain ⟨_, ⟨behind, _⟩, ahead⟩ := apart
  have none (limits : List Limit)
      (others : ∀ other ∈ limits, policy.applies other message = true → key other ≠ key limit) :
      (limits.filter fun other => policy.applies other message).countP
        (fun other => decide (key other = key limit)) = 0 := by
    rw [List.countP_eq_zero]
    intro other inside
    obtain ⟨inLimits, applies⟩ := List.mem_filter.mp inside
    simpa using others other inLimits applies
  have before := none front fun other inFront applies => ahead other inFront limit (by simp) (.inl applies)
  have after := none back fun other inBack applies => (behind other inBack (.inr applies)).symm
  rw [applied, split, List.filter_append, List.countP_append, before, List.filter_cons]
  by_cases applies : policy.applies limit message = true <;> simp [applies, after]

theorem count_ledgerAfter (visits : List (Int × Message)) (apart : ∀ visit ∈ visits, policy.Apart key visit.2)
    (limit : Limit) (member : limit ∈ policy.limits) (now : Int) :
    count now (policy.period limit) (key limit) (policy.ledgerAfter key visits) =
      policy.messages limit now visits := by
  rw [ledgerAfter_eq]
  induction visits with
  | nil => rfl
  | cons visit rest ih =>
    have own := policy.countP_applied key visit.2 (apart visit List.mem_cons_self) limit member
    have others := ih fun other inRest => apart other (List.mem_cons_of_mem visit inRest)
    rw [List.flatMap_cons, count_append, others, count_message, own, messages, messages, List.countP_cons]
    by_cases within : isWithin now (policy.period limit) visit.1 <;>
      by_cases applies : policy.applies limit visit.2 = true <;> simp [within, applies, Nat.add_comm]

theorem count_split (now : Int) (message : Message) (apart : policy.Apart key message)
    (front back : List Limit) (limit : Limit) (split : policy.applied message = front ++ limit :: back) :
    count now (policy.period limit) (key limit)
        ((front ++ [limit]).map fun other => { time := now, key := key other, step := 1 }) =
      policy.messages limit now [(now, message)] := by
  have inApplied : limit ∈ policy.applied message := by simp [split]
  obtain ⟨member, applies⟩ := List.mem_filter.mp inApplied
  have alone := policy.countP_applied key message apart limit member
  rw [if_pos applies, split, List.countP_append, List.countP_cons_of_pos (by simp)] at alone
  have first : front.countP (fun other => decide (key other = key limit)) = 0 := by omega
  rw [policy.count_message key now (now, message), List.countP_append, first, messages]
  by_cases within : isWithin now (policy.period limit) now <;> simp [within, applies]

theorem isLimited_iff (earlier : List (Int × Message)) (now : Int) (message : Message)
    (apart : ∀ visit ∈ earlier ++ [(now, message)], policy.Apart key visit.2) :
    (policy.isLimited key now message (policy.ledgerAfter key earlier)).1 = true ↔
      policy.Exceeded earlier now message := by
  have counted (front back : List Limit) (limit : Limit)
      (split : policy.applied message = front ++ limit :: back) :
      count now (policy.period limit) (key limit) (policy.ledgerAfter key earlier ++
        ((front ++ [limit]).map (policy.hitFor key)).map (record now)) =
          policy.messages limit now (earlier ++ [(now, message)]) := by
    have member : limit ∈ policy.limits := (List.mem_filter.mp (by simp [split] : limit ∈ policy.applied message)).1
    have before := policy.count_ledgerAfter key earlier
      (fun visit inEarlier => apart visit (List.mem_append_left _ inEarlier)) limit member now
    have own := policy.count_split key now message (apart (now, message) (by simp)) front back limit split
    rw [count_append, before, List.map_map, messages, messages, List.countP_append]
    exact congrArg _ own
  rw [isLimited, hitEach_limited, Exceeded]
  constructor
  · rintro (never | ⟨before, h, after, split, exceeded⟩)
    · cases never
    · obtain ⟨front, others, applied, rfl, rest⟩ := List.map_eq_append_iff.mp split
      obtain ⟨limit, back, rfl, rfl, _⟩ := List.map_eq_cons_iff.mp rest
      obtain ⟨member, applies⟩ := List.mem_filter.mp (by simp [applied] : limit ∈ policy.applied message)
      refine ⟨limit, member, applies, ?_⟩
      rw [← counted front back limit applied, List.map_append]
      exact exceeded
  · rintro ⟨limit, member, applies, exceeded⟩
    have inApplied : limit ∈ policy.applied message := List.mem_filter.mpr ⟨member, applies⟩
    obtain ⟨front, back, applied⟩ := List.append_of_mem inApplied
    refine .inr ⟨front.map (policy.hitFor key), policy.hitFor key limit, back.map (policy.hitFor key), ?_, ?_⟩
    · rw [applied, List.map_append, List.map_cons]
    · rw [← counted front back limit applied, List.map_append] at exceeded
      exact exceeded

def CountsOnce (isRateLimited : Int → Message → Ledger κ → Bool × Ledger κ)
    (visits : List (Int × Message)) : Prop :=
  ∀ earlier now message later, visits = earlier ++ (now, message) :: later →
    ((isRateLimited now message
        (earlier.foldl (fun ledger visit => (isRateLimited visit.1 visit.2 ledger).2) [])).1 = true ↔
      policy.Exceeded earlier now message)

theorem countsOnce (isRateLimited : Int → Message → Ledger κ → Bool × Ledger κ)
    (visits : List (Int × Message)) (apart : ∀ visit ∈ visits, policy.Apart key visit.2)
    (same : ∀ visit ∈ visits, ∀ ledger,
      isRateLimited visit.1 visit.2 ledger = policy.isLimited key visit.1 visit.2 ledger) :
    policy.CountsOnce isRateLimited visits := by
  rintro earlier now message later rfl
  have inEarlier : ∀ visit ∈ earlier, ∀ ledger,
      isRateLimited visit.1 visit.2 ledger = policy.isLimited key visit.1 visit.2 ledger :=
    fun visit member => same visit (List.mem_append_left _ member)
  have reached : earlier.foldl (fun ledger visit => (isRateLimited visit.1 visit.2 ledger).2) [] =
      policy.ledgerAfter key earlier :=
    List.foldl_ext _ _ _ fun ledger visit member => congrArg Prod.snd (inEarlier visit member ledger)
  rw [reached, same (now, message) (by simp)]
  apply policy.isLimited_iff key
  intro visit member
  rcases List.mem_append.mp member with member | member
  · exact apart visit (List.mem_append_left _ member)
  · exact apart visit (by simp [List.mem_singleton.mp member])

end Policy

end Windows
