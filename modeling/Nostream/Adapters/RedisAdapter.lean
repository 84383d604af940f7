import Mathlib.Tactic

set_option autoImplicit false

namespace Nostream

structure SortedSetMember where
  score : Nat
  value : List Char
  deriving DecidableEq

/-- A sorted set under one key of the cache, in an order of which nothing is read. -/
structure SortedSet where
  members : List SortedSetMember
  expiresAt : Option Nat
  deriving DecidableEq

namespace SortedSet

def empty : SortedSet := { members := [], expiresAt := none }

def isExpired (set : SortedSet) (now : Nat) : Bool := set.expiresAt.any fun time => time < now

def found (set : SortedSet) (now : Nat) : SortedSet := if set.isExpired now then empty else set

def inRange (min max : Int) (member : SortedSetMember) : Bool :=
  min ≤ (member.score : Int) && (member.score : Int) ≤ max

-- A key without members is removed, and its expiry with it.
def removeRangeByScoreFromSortedSet (set : SortedSet) (now : Nat) (min max : Int) : SortedSet :=
  match (set.found now).members.filter fun member => !inRange min max member with
  | [] => empty
  | kept => { set.found now with members := kept }

def addToSortedSet (set : SortedSet) (now : Nat) (member : SortedSetMember) : SortedSet :=
  { set.found now with
    members := ((set.found now).members.filter fun other => other.value != member.value) ++ [member] }

def getRangeFromSortedSet (set : SortedSet) (now : Nat) : List (List Char) :=
  (set.found now).members.map SortedSetMember.value

def setKeyExpiry (set : SortedSet) (now expiry : Nat) : SortedSet :=
  if expiry = 0 ∨ (set.found now).members = [] then empty
  else { set.found now with expiresAt := some (now + 1000 * expiry) }

end SortedSet

end Nostream
