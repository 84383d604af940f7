import Nostream.Adapters.RedisAdapter

set_option autoImplicit false

namespace Nostream

structure RateLimiterOptions where
  period : Nat
  rate : Nat

namespace SlidingWindowRateLimiter

def timestampAndStep (timestamp step : Nat) : List Char :=
  Nat.toDigits 10 timestamp ++ ':' :: Nat.toDigits 10 step

-- Number(timestampAndStep.split(':')[1]) for the decimal digits that hit writes.
def stepOf (entry : List Char) : Nat :=
  match (entry.splitOn ':')[1]? with
  | some digits => Nat.ofDigitChars 10 digits 0
  | none => 0

inductive Command where
  | removeRange
  | add
  | getRange
  | setExpiry
  deriving DecidableEq

structure Hit where
  timestamp : Nat
  step : Nat
  next : Option Command := some .removeRange
  answer : Option Bool := none
  deriving DecidableEq

def Hit.member (hit : Hit) : SortedSetMember :=
  { score := hit.timestamp, value := timestampAndStep hit.timestamp hit.step }

def hitCount (entries : List (List Char)) : Nat := (entries.map stepOf).sum

def execute (options : RateLimiterOptions) (now : Nat) (hit : Hit) (set : SortedSet) :
    Option (Hit × SortedSet) :=
  match hit.next with
  | none => none
  | some .removeRange =>
    some ({ hit with next := some .add },
      set.removeRangeByScoreFromSortedSet now 0 ((hit.timestamp : Int) - options.period))
  | some .add => some ({ hit with next := some .getRange }, set.addToSortedSet now hit.member)
  | some .getRange =>
    some ({ hit with
        next := some .setExpiry
        answer := some (decide (hitCount (set.getRangeFromSortedSet now) > options.rate)) },
      set.found now)
  | some .setExpiry => some ({ hit with next := none }, set.setKeyExpiry now options.period)

/-- The clock that the workers and the cache share, one key, and the calls made so far. -/
structure State where
  now : Nat
  set : SortedSet
  hits : List Hit
  deriving DecidableEq

inductive Action where
  | advance (milliseconds : Nat)
  | hit (step : Nat)
  | command (i : Nat)

def act (options : RateLimiterOptions) (s : State) : Action → Option State
  | .advance milliseconds => some { s with now := s.now + milliseconds }
  | .hit step => some { s with hits := s.hits ++ [{ timestamp := s.now, step := step }] }
  | .command i =>
    match s.hits[i]? with
    | none => none
    | some hit => (execute options s.now hit s.set).map fun (called, set) =>
        { s with set := set, hits := s.hits.set i called }

def start (now : Nat) : State := { now := now, set := .empty, hits := [] }

def isLetThrough (options : RateLimiterOptions) (windowStart : Nat) (hit : Hit) : Bool :=
  hit.answer == some false && windowStart ≤ hit.timestamp && hit.timestamp < windowStart + options.period

def letThrough (options : RateLimiterOptions) (s : State) (windowStart : Nat) : Nat :=
  (s.hits.map fun hit => if isLetThrough options windowStart hit then hit.step else 0).sum

end SlidingWindowRateLimiter

end Nostream
