import Nostream.Handlers.EventStrategies
import Nostream.Repositories.Writes

set_option autoImplicit false

namespace Nostream.ReplacementKeys

open Utf16 Hex Sql EventRepository Writes

abbrev ReplacementKey := Bytes × Int × Option (List (JsonScalar (List Char)))

instance : DecidableEq ReplacementKey := instDecidableEqProd

-- The values of the strategy are part of the key of addressable events only.
def eventKey (event : Event) : ReplacementKey :=
  (ofHex event.pubkey, event.kind, some
    (if isParameterizedReplaceableEvent event then
      (ParameterizedReplaceableEventStrategy.deduplication event).map fun value => .string (decode value)
    else [.string (decode event.pubkey), .number event.kind]))

def rowKey (r : DBEvent) : ReplacementKey := (r.eventPubkey, r.eventKind, r.eventDeduplication)

def holds (key : ReplacementKey) (r : DBEvent) : Bool :=
  replaceableEventsIdx r.eventKind && rowKey r == key

theorem holds_unique {key other : ReplacementKey} {r : DBEvent} (one : holds key r = true)
    (two : holds other r = true) : key = other := by
  simp only [holds, Bool.and_eq_true, beq_iff_eq] at one two
  rw [← one.2, two.2]

theorem rowKey_upsertRow (event : Event) (replacing : isReplacing event = true) :
    rowKey (upsertRow event (replacementDeduplication event)).stored = eventKey event := by
  have dispatch := eventStrategyFactory_correct event
  rcases (isReplacing_iff event).mp replacing with strategy | strategy
  · have other : isParameterizedReplaceableEvent event = false := by
      simp [Bool.eq_false_iff, dispatch.parameterizedReplaceable, strategy]
    rw [replacementDeduplication, if_pos (dispatch.replaceable.mpr strategy), eventKey, other]
    rfl
  · rw [replacementDeduplication, if_neg (by simp [dispatch.replaceable, strategy]), eventKey,
      if_pos (dispatch.parameterizedReplaceable.mpr strategy)]
    simp only [rowKey, upsertRow, insertRow, EventRow.stored, Option.map_some, List.map_map]
    rfl

theorem sameKey_iff_holds (event : Event) (replacing : isReplacing event = true) (r : DBEvent) :
    sameKey (upsertRow event (replacementDeduplication event)) r = true ↔ holds (eventKey event) r = true := by
  rw [sameKey, sameIndexKey_iff, holds, Bool.and_eq_true, beq_iff_eq, ← rowKey_upsertRow event replacing,
    rowKey, rowKey, Prod.mk.injEq, Prod.mk.injEq]
  constructor
  · rintro ⟨idx, pubkey, kind, _, deduplication⟩
    exact ⟨idx, pubkey, kind, deduplication⟩
  · rintro ⟨idx, pubkey, kind, deduplication⟩
    exact ⟨idx, pubkey, kind, deduplication ▸ rfl, deduplication⟩

end Nostream.ReplacementKeys
