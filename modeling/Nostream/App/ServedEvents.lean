import Nostream.App.MirrorWire
import Nostream.Handlers.MessageStages
import Nostream.Handlers.SubscribeMessageHandler
import Nostream.Repositories.ReturnedRows

set_option autoImplicit false

namespace Nostream.ServedEvents

open Utf16 Hex Json Sql Effects EventRepository EventMessageHandler MessageStages StrategyTables Writes
open AcceptedMessages MirrorWire

/-- A mirror gets texts. What the checks, the driver and the columns make of an event with members of other types
depends on the coercions of each of them: coerced is the row that comes of it, if one does. -/
inductive Ingestion where
  | client (handler : EventMessageHandler) (fates : Fates) (event : Event)
  | mirror (worker : StaticMirroringWorker) (fates : Fates) (raw : JsString) (coerced : Option DBEvent)

-- schnorr.verify refuses what is not a string.
def isSigned (crypto : Secp256k1) (value : JsonValue) : Bool :=
  match requiredMember value "sig" readText, requiredMember value "id" readText, requiredMember value "pubkey" readText with
  | some sig, some id, some pubkey =>
    isEventSignatureValid crypto { id, pubkey, createdAt := 0, kind := 0, tags := [], content := [], sig }
  | _, _, _ => false

def isMistyped (crypto : Secp256k1) (subscriptionId raw : JsString) : Bool :=
  (heard subscriptionId raw).any fun value => (readEvent value).isNone && isSigned crypto value

namespace Ingestion

def keyed (crypto : Secp256k1) (handler : EventMessageHandler) (fates : Fates) : EventMessageHandler :=
  ({ handler with crypto := crypto } : EventMessageHandler).storing fates

def keyedMirror (crypto : Secp256k1) (worker : StaticMirroringWorker) (fates : Fates) :
    StaticMirroringWorker :=
  { worker with crypto := crypto, repository := eventRepository fates }

def apply (crypto : Secp256k1) (table : EventsTable) : Ingestion → EventsTable
  | client handler fates event =>
    if eventSchema event then
      (((keyed crypto handler fates).handleMessage event).run { table := table }).2.table
    else table
  | mirror worker fates raw coerced =>
    if isMistyped crypto worker.subscriptionId raw then table ++ coerced.toList
    else ((onText (keyedMirror crypto worker fates) raw).run { table := table }).2.table

def Canonical (crypto : Secp256k1) : Ingestion → Prop
  | client handler fates event =>
    Accepted (keyed crypto handler fates) event → isEphemeralEvent event = false →
      (insertRow (prepared (keyed crypto handler fates) event)).storable = true →
        wellFormed event.content = true
  | mirror worker fates raw coerced =>
    (isMistyped crypto worker.subscriptionId raw = true → coerced = none) ∧
      ∀ event, eventFor worker.subscriptionId raw = some event →
        (keyedMirror crypto worker fates).accepts event = .ok true →
          (insertRow (addExpirationMetadata event)).storable = true → wellFormed event.content = true ∧
            isLowerHex event.pubkey = true ∧ event.pubkey.length % 2 = 0 ∧
            isHex event.sig = true ∧ event.sig.length % 2 = 0

end Ingestion

open Ingestion

def ingest (crypto : Secp256k1) (ingestions : List Ingestion) : EventsTable :=
  ingestions.foldl (Ingestion.apply crypto) []

structure IsVerifiable (crypto : Secp256k1) (event : Event) : Prop where
  id : isEventIdValid crypto event = true
  signature : isEventSignatureValid crypto event = true

structure Restorable (event : Event) : Prop where
  content : wellFormed event.content = true
  pubkey : isLowerHex event.pubkey = true ∧ event.pubkey.length % 2 = 0
  sig : isHex event.sig = true ∧ event.sig.length % 2 = 0

theorem toHex_even (bytes : Bytes) : (toHex bytes).length % 2 = 0 := by
  rw [toHex_length, Nat.mul_mod_right]

theorem isHex_of_lower {s : JsString} (lower : isLowerHex s = true) : isHex s = true := by
  rw [isHex, List.all_eq_true]
  intro u member
  obtain ⟨n, small, rfl⟩ := exists_hexDigit (List.all_eq_true.mp lower u member)
  rw [hexValue_hexDigit n small]
  rfl

theorem restored (event : Event) (restorable : Restorable event)
    (id : isLowerHex event.id = true ∧ event.id.length % 2 = 0)
    (storable : (insertRow event).storable = true) :
    toNostrEvent (insertRow event).stored =
      { event with sig := toHex (ofHex event.sig), remoteAddress := none, expirationTime := none } := by
  rw [ReturnedRows.toNostrEvent_insertRow event storable id restorable.pubkey, toWellFormed,
    encode_decode event.content restorable.content]

theorem stored_verifiable (crypto : Secp256k1) (event : Event) (verifiable : IsVerifiable crypto event)
    (restorable : Restorable event) (storable : (insertRow event).storable = true) :
    IsVerifiable crypto (toNostrEvent (insertRow event).stored) := by
  have idHash := verifiable.id
  simp only [isEventIdValid, beq_iff_eq, getEventHash] at idHash
  have id : isLowerHex event.id = true ∧ event.id.length % 2 = 0 := by
    rw [idHash]
    exact ⟨isLowerHex_toHex _, toHex_even _⟩
  have original := crypto.hexToBytes_hex event.sig restorable.sig.1 restorable.sig.2
  have rewritten := crypto.hexToBytes_hex (toHex (ofHex event.sig))
    (isHex_of_lower (isLowerHex_toHex _)) (toHex_even _)
  rw [ofHex_toHex] at rewritten
  have signature := verifiable.signature
  rw [restored event restorable id storable]
  refine ⟨verifiable.id, ?_⟩
  simp only [isEventSignatureValid, original, rewritten] at signature ⊢
  exact signature

def AllVerifiable (crypto : Secp256k1) (table : EventsTable) : Prop :=
  ∀ r ∈ table, IsVerifiable crypto (toNostrEvent r)

theorem client_verifiable (crypto : Secp256k1) (handler : EventMessageHandler) (fates : Fates)
    (event : Event) (canonical : (client handler fates event).Canonical crypto) (table : EventsTable)
    (before : AllVerifiable crypto table) :
    AllVerifiable crypto ((client handler fates event).apply crypto table) := by
  rw [Ingestion.apply]
  split
  next schema =>
    simp only [eventSchema, pubkeySchema, signatureSchema, Bool.and_eq_true, beq_iff_eq] at schema
    obtain ⟨⟨⟨⟨⟨_, pubkey, pubkeyLength⟩, _⟩, _⟩, _⟩, sig, sigLength⟩ := schema
    rcases handleMessage_table (keyed crypto handler fates) event { table := table } with same | accepted
    · rw [same]
      exact before
    · obtain ⟨_, metadata⟩ := prepared_eq (keyed crypto handler fates) event
      have canonical := canonical accepted
      rw [metadata] at canonical
      rw [accepted_run _ event accepted, executeStrategy_table, metadata]
      have valid := accepted.passed.1
      unfold EventMessageHandler.isEventValid at valid
      split_ifs at valid with id signature
      rw [Bool.not_eq_true, Bool.not_eq_false'] at id signature
      intro r member
      rcases strategy_rows fates _ table _ r member with
        ⟨old, inTable, shown⟩ | ⟨notEphemeral, storable, shown⟩
      · rw [shown]
        exact before old inTable
      · rw [shown]
        have durable : isEphemeralEvent event = false := by
          rw [← Bool.not_eq_true]
          exact fun ephemeral => notEphemeral ((eventStrategyFactory_correct _).ephemeral.mp ephemeral)
        exact stored_verifiable crypto _ ⟨id, signature⟩
          ⟨canonical durable storable, ⟨pubkey, by simp [pubkeyLength]⟩, isHex_of_lower sig,
            by simp [sigLength]⟩ storable
  next => exact before

theorem onText_table (worker : StaticMirroringWorker) (raw : JsString) (world : World) :
    ((onText worker raw).run world).2.table =
      ((eventFor worker.subscriptionId raw).elim world.table fun event =>
        if worker.accepts event = .ok true then
          ((worker.repository.create (addExpirationMetadata event)).run world.table).2
        else world.table) := by
  unfold onText
  cases eventFor worker.subscriptionId raw with
  | none => rfl
  | some event =>
    have reached := worker.onMessage_table event world
    rw [StaticMirroringWorker.onMessage, if_pos rfl] at reached
    exact reached

theorem mirror_verifiable (crypto : Secp256k1) (worker : StaticMirroringWorker) (fates : Fates)
    (raw : JsString) (coerced : Option DBEvent) (canonical : (mirror worker fates raw coerced).Canonical crypto)
    (table : EventsTable) (before : AllVerifiable crypto table) :
    AllVerifiable crypto ((mirror worker fates raw coerced).apply crypto table) := by
  obtain ⟨typed, canonical⟩ := canonical
  rw [Ingestion.apply]
  split
  next mistyped =>
    rw [typed mistyped, Option.toList_none, List.append_nil]
    exact before
  next =>
    rw [onText_table]
    show AllVerifiable crypto ((eventFor worker.subscriptionId raw).elim _ _)
    cases read : eventFor worker.subscriptionId raw with
    | none => exact before
    | some event =>
      show AllVerifiable crypto (if _ then _ else _)
      split
      next accepted =>
        obtain ⟨-, id, signature, -, -, -⟩ := StaticMirroringWorker.accepts_ok _ event accepted
        have canonical := canonical event read accepted
        obtain ⟨_, metadata⟩ := addExpirationMetadata_eq event
        rw [metadata] at canonical ⊢
        intro r member
        rcases create_rows fates.insert _ table r member with old | ⟨storable, rfl⟩
        · exact before r old
        · obtain ⟨content, pubkey, pubkeyEven, sig, sigEven⟩ := canonical storable
          exact stored_verifiable crypto _ ⟨id, signature⟩ ⟨content, ⟨pubkey, pubkeyEven⟩, sig, sigEven⟩ storable
      next => exact before

theorem ingest_verifiable (crypto : Secp256k1) (ingestions : List Ingestion)
    (canonical : ∀ ingestion ∈ ingestions, ingestion.Canonical crypto) :
    AllVerifiable crypto (ingest crypto ingestions) := by
  refine List.foldlRecOn ingestions _ (by simp [AllVerifiable]) fun table before ingestion member => ?_
  cases ingestion with
  | client handler fates event =>
    exact client_verifiable crypto handler fates event (canonical _ member) table before
  | mirror worker fates raw coerced =>
    exact mirror_verifiable crypto worker fates raw coerced (canonical _ member) table before

theorem served_verifiable (crypto : Secp256k1) (ingestions : List Ingestion)
    (canonical : ∀ ingestion ∈ ingestions, ingestion.Canonical crypto)
    (subscriptionId : JsString) (filters : List SubscriptionFilter) (findEvents : List DBEvent)
    (stored : ∀ row ∈ findEvents, row ∈ ingest crypto ingestions) (id : JsString) (event : Event)
    (sent : .event id event ∈ SubscribeMessageHandler.fetchAndSend subscriptionId filters findEvents) :
    IsVerifiable crypto event := by
  obtain ⟨_, _, row, found, _, rfl⟩ :=
    (SubscribeMessageHandler.mem_fetchAndSend subscriptionId filters findEvents id event).mp sent
  exact ingest_verifiable crypto ingestions canonical row (stored row found)

def noteRow : DBEvent := (insertRow (prepared openHandler note)).stored

def profileRow : DBEvent := (insertRow (addExpirationMetadata profile)).stored

def relayed (event : Event) : JsString :=
  stringify (.array [.string (js "EVENT"), .string MirrorAgreement.mirrorWorker.subscriptionId,
    .object (MessageSchema.eventMembers event)])

def noteAndProfile : List Ingestion :=
  [.client openHandler {} note, .mirror MirrorAgreement.mirrorWorker {} (relayed profile) none]

theorem relayed_read (event : Event) (listed : event ∈ [profile, shoutedNote]) :
    eventFor MirrorAgreement.mirrorWorker.subscriptionId (relayed event) = some event := by
  revert event
  decide +kernel

theorem note_and_profile_verifiable :
    (∀ row ∈ [noteRow, profileRow], row ∈ ingest crypto noteAndProfile) ∧
      IsVerifiable crypto (toNostrEvent noteRow) ∧ IsVerifiable crypto (toNostrEvent profileRow) := by
  have stored : ∀ row ∈ [noteRow, profileRow], row ∈ ingest crypto noteAndProfile := by
    decide +kernel
  have canonical : ∀ ingestion ∈ noteAndProfile, ingestion.Canonical crypto := by
    simp only [noteAndProfile, List.forall_mem_cons]
    refine ⟨fun _ _ _ => (show wellFormed note.content = true by decide +kernel), ⟨fun _ => rfl, ?_⟩, by simp⟩
    intro event read _ _
    rw [relayed_read profile (by simp)] at read
    cases read
    decide +kernel
  have served (row : DBEvent) (member : row ∈ [noteRow, profileRow]) : IsVerifiable crypto (toNostrEvent row) := by
    refine served_verifiable crypto noteAndProfile canonical (js "s") [{}] [noteRow, profileRow] stored (js "s") _ ?_
    rw [SubscribeMessageHandler.mem_fetchAndSend]
    refine ⟨rfl, by simp [SubscribeMessageHandler.isClientSubscribedToEvent, isEventMatchingFilter], row, member, ?_, rfl⟩
    revert row
    decide +kernel
  exact ⟨stored, served noteRow (by simp), served profileRow (by simp)⟩

theorem shouted_note_served :
    ¬ ∀ (crypto : Secp256k1), Function.Injective crypto.sha256 → ∀ (ingestions : List Ingestion)
        (subscriptionId : JsString) (filters : List SubscriptionFilter) (findEvents : List DBEvent),
      (∀ row ∈ findEvents, row ∈ ingest crypto ingestions) → ∀ id event,
        .event id event ∈ SubscribeMessageHandler.fetchAndSend subscriptionId filters findEvents →
          IsVerifiable crypto event := by
  intro claim
  let row := (insertRow shoutedNote).stored
  have stored : ∀ r ∈ [row], r ∈ ingest crypto [.mirror MirrorAgreement.mirrorWorker {} (relayed shoutedNote) none] := by
    decide +kernel
  have verifiable := claim crypto crypto_injective _ (js "s") [{}] [row] stored (js "s") (toNostrEvent row)
    ((SubscribeMessageHandler.mem_fetchAndSend ..).mpr ⟨rfl, by decide +kernel, row, by simp, rfl, rfl⟩)
  have invalid : isEventIdValid crypto (toNostrEvent row) = false := by decide +kernel
  rw [verifiable.id] at invalid
  cases invalid

end Nostream.ServedEvents
