import Nostream.Types
import Nostream.Shared.Hex
import Nostream.Shared.Json
import Nostream.Shared.Numeric

set_option autoImplicit false

namespace Nostream

open Utf16 Hex Numeric

def isHex (s : JsString) : Bool := s.all fun u => (hexValue u).isSome

-- @noble/secp256k1: schnorr.verify sees only the bytes that its hexadecimal arguments denote.
structure Secp256k1 where
  sha256 : Bytes → Bytes
  hexToBytes : JsString → Option Bytes
  verify : Bytes → Bytes → Bytes → Bool
  hexToBytes_hex : ∀ s, isHex s = true → s.length % 2 = 0 → hexToBytes s = some (ofHex s)

def serializeEvent (event : Event) : List JsString :=
  [Json.integer 0, Json.quote event.pubkey, Json.integer event.createdAt, Json.integer event.kind,
    Json.array (event.tags.map fun tag => Json.array (tag.map Json.quote)), Json.quote event.content]

def utf8 (s : JsString) : Bytes := (decode s).flatMap String.utf8EncodeChar

def getEventHash (crypto : Secp256k1) (event : Event) : JsString :=
  toHex (crypto.sha256 (utf8 (Json.array (serializeEvent event))))

def isEventIdValid (crypto : Secp256k1) (event : Event) : Bool :=
  event.id == getEventHash crypto event

structure SameSignedFields (a b : Event) : Prop where
  pubkey : a.pubkey = b.pubkey
  createdAt : a.createdAt = b.createdAt
  kind : a.kind = b.kind
  tags : a.tags = b.tags
  content : a.content = b.content

def isEventSignatureValid (crypto : Secp256k1) (event : Event) : Bool :=
  match crypto.hexToBytes event.sig, crypto.hexToBytes event.id, crypto.hexToBytes event.pubkey with
  | some sig, some id, some pubkey => crypto.verify sig id pubkey
  | _, _, _ => false

def startsWith (input start : JsString) : Bool := start.isPrefixOf input

@[simp] theorem startsWith_iff (input start : JsString) :
    startsWith input start = true ↔ start <+: input := List.isPrefixOf_iff_prefix

def isGenericTagQuery : JsString → Bool
  | [hash, letter] => hash.toNat == 35 &&
      ((97 ≤ letter.toNat && letter.toNat ≤ 122) || (65 ≤ letter.toNat && letter.toNat ≤ 90))
  | _ => false

def isTagMatching (key : JsString) (criteria : List JsString) (tag : Tag) : Bool :=
  match tag, key[1]? with
  | name :: value :: _, some letter => name == [letter] && criteria.contains value
  | _, _ => false

def isEventMatchingFilter (filter : SubscriptionFilter) (event : Event) : Bool :=
  if filter.ids.any fun ids => !ids.any (startsWith event.id) then false
  else if filter.kinds.any fun kinds => !kinds.contains event.kind then false
  else if filter.since.any fun since => event.createdAt < since then false
  else if filter.untilTime.any fun untilTime => event.createdAt > untilTime then false
  else if filter.authors.any fun authors => !authors.any (startsWith event.pubkey) then false
  else if (filter.criteria.filter fun (key, _) => isGenericTagQuery key).any fun (key, criteria) =>
      !event.tags.any (isTagMatching key criteria) then false
  else true

inductive KindOrRange where
  | kind (kind : Int)
  | range (first last : Int)
  deriving DecidableEq

def isEventKindOrRangeMatch (event : Event) : KindOrRange → Bool
  | .kind kind => kind == event.kind
  | .range first last => event.kind ≥ first && event.kind ≤ last

def isReplaceableEvent (event : Event) : Bool :=
  event.kind == EventKinds.setMetadata || event.kind == EventKinds.contactList ||
    event.kind == EventKinds.channelMetadata ||
    (event.kind ≥ EventKinds.replaceableFirst && event.kind ≤ EventKinds.replaceableLast)

def isEphemeralEvent (event : Event) : Bool :=
  event.kind ≥ EventKinds.ephemeralFirst && event.kind ≤ EventKinds.ephemeralLast

def isParameterizedReplaceableEvent (event : Event) : Bool :=
  event.kind ≥ EventKinds.parameterizedReplaceableFirst &&
    event.kind ≤ EventKinds.parameterizedReplaceableLast

def isDeleteEvent (event : Event) : Bool := event.kind == EventKinds.delete

theorem isReplaceableEvent_iff (event : Event) :
    isReplaceableEvent event = true ↔
      event.kind = 0 ∨ event.kind = 3 ∨ event.kind = 41 ∨ (10000 ≤ event.kind ∧ event.kind ≤ 19999) := by
  simp only [isReplaceableEvent, Bool.or_eq_true, beq_iff_eq, Bool.and_eq_true, decide_eq_true_eq, or_assoc]
  rfl

theorem isEphemeralEvent_iff (event : Event) :
    isEphemeralEvent event = true ↔ 20000 ≤ event.kind ∧ event.kind ≤ 29999 := by
  simp only [isEphemeralEvent, Bool.and_eq_true, decide_eq_true_eq]
  rfl

theorem isDeleteEvent_iff (event : Event) : isDeleteEvent event = true ↔ event.kind = 5 := by
  simp only [isDeleteEvent, beq_iff_eq]
  rfl

theorem isParameterizedReplaceableEvent_iff (event : Event) :
    isParameterizedReplaceableEvent event = true ↔ 30000 ≤ event.kind ∧ event.kind ≤ 39999 := by
  simp only [isParameterizedReplaceableEvent, Bool.and_eq_true, decide_eq_true_eq]
  rfl

def getEventExpiration (event : Event) : Option Int :=
  match event.tags.find? fun tag => tag.length ≥ 2 && tag.head? == some EventTags.expiration with
  | some (_ :: rawExpirationTime :: _) =>
    if rawExpirationTime.isEmpty then none
    else match safeInteger rawExpirationTime with
      | some expirationTime =>
        if 0 ≤ expirationTime ∧ expirationTime < 10000000000 then some expirationTime else none
      | none => none
  | _ => none

-- An expiration of zero is falsy and counts as none.
def isExpiredEvent (now : Int) (event : Event) : Bool :=
  match getEventExpiration event with
  | some expirationTime => expirationTime != 0 && expirationTime ≤ now
  | none => false

def addExpirationMetadata (event : Event) : Event :=
  match getEventExpiration event with
  | some expirationTime =>
    if expirationTime = 0 then event else { event with expirationTime := some expirationTime }
  | none => event

theorem addExpirationMetadata_eq (event : Event) :
    ∃ expirationTime, addExpirationMetadata event = { event with expirationTime := expirationTime } := by
  unfold addExpirationMetadata
  split
  · split
    · exact ⟨event.expirationTime, rfl⟩
    · exact ⟨_, rfl⟩
  · exact ⟨event.expirationTime, rfl⟩

theorem addExpirationMetadata_tags (event : Event) : (addExpirationMetadata event).tags = event.tags := by
  obtain ⟨_, shape⟩ := addExpirationMetadata_eq event
  rw [shape]

end Nostream
