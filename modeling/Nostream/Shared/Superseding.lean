import Mathlib.Data.Set.Basic

set_option autoImplicit false

-- Stores that give up an entry once a later one takes its place.
namespace Superseding

variable {α : Type*} {supersedes : α → α → Prop} {written kept : Set α}

def surviving (supersedes : α → α → Prop) (written : Set α) : Set α :=
  {a ∈ written | ∀ b ∈ written, ¬ supersedes b a}

structure Keeps (supersedes : α → α → Prop) (written kept : Set α) : Prop where
  subset : kept ⊆ written
  settled : ∀ a ∈ written, a ∈ kept ∨ ∃ b ∈ kept, supersedes b a
  apart : ∀ a ∈ kept, ∀ b ∈ kept, ¬ supersedes b a

theorem Keeps.eq_surviving [IsTrans α supersedes] (keeps : Keeps supersedes written kept) :
    kept = surviving supersedes written := by
  ext a
  constructor
  · intro inKept
    refine ⟨keeps.subset inKept, fun b inWritten later => ?_⟩
    rcases keeps.settled b inWritten with alsoKept | ⟨c, alsoKept, latest⟩
    · exact keeps.apart a inKept b alsoKept later
    · exact keeps.apart a inKept c alsoKept (IsTrans.trans _ _ _ latest later)
  · rintro ⟨inWritten, unsurpassed⟩
    rcases keeps.settled a inWritten with inKept | ⟨b, inKept, later⟩
    · exact inKept
    · exact absurd later (unsurpassed b (keeps.subset inKept))

end Superseding
