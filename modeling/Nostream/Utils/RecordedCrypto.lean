import Nostream.Schemas
import Nostream.Utils.Event

set_option autoImplicit false

namespace Nostream

open Utf16 Hex

structure Recording where
  serialized : List JsString
  id : Bytes
  pubkey : Bytes
  sig : Bytes

-- Digests and signatures that are known to be right; any other input gets a digest of its own.
def recordedSha256 (recordings : List Recording) (bytes : Bytes) : Bytes :=
  match recordings.find? fun recording => utf8 (Json.array recording.serialized) == bytes with
  | some recording => recording.id
  | none => List.replicate 33 0 ++ bytes

def recordedVerify (recordings : List Recording) (sig id pubkey : Bytes) : Bool :=
  recordings.any fun recording =>
    recording.sig == sig && recording.id == id && recording.pubkey == pubkey

def recordedCrypto (recordings : List Recording) : Secp256k1 :=
  { sha256 := recordedSha256 recordings
    hexToBytes := fun s => if isHex s && s.length % 2 == 0 then some (ofHex s) else none
    verify := recordedVerify recordings
    hexToBytes_hex := fun s hex even => by simp [hex, even] }

theorem recordedSha256_injective (recordings : List Recording)
    (size : ∀ recording ∈ recordings, recording.id.length = 32)
    (distinct : (recordings.map Recording.id).Nodup) :
    Function.Injective (recordedSha256 recordings) := by
  intro a b same
  unfold recordedSha256 at same
  cases foundA : recordings.find? fun recording => utf8 (Json.array recording.serialized) == a with
  | none =>
    cases foundB : recordings.find? fun recording => utf8 (Json.array recording.serialized) == b with
    | none => simpa [foundA, foundB] using same
    | some second =>
      have short := congrArg List.length same
      simp [foundA, foundB, size _ (List.mem_of_find?_eq_some foundB)] at short
  | some first =>
    have memberA := List.mem_of_find?_eq_some foundA
    cases foundB : recordings.find? fun recording => utf8 (Json.array recording.serialized) == b with
    | none =>
      have short := congrArg List.length same
      simp [foundA, foundB, size _ memberA] at short
    | some second =>
      simp only [foundA, foundB] at same
      have one := List.inj_on_of_nodup_map distinct memberA (List.mem_of_find?_eq_some foundB) same
      have ofA := List.find?_some foundA
      have ofB := List.find?_some foundB
      simp only [beq_iff_eq] at ofA ofB
      rw [← ofA, ← ofB, one]

def recorded (event : Event) : Recording :=
  { serialized := serializeEvent event
    id := ofHex event.id
    pubkey := ofHex event.pubkey
    sig := ofHex event.sig }

-- Events signed with one key, and their true digests and signatures.
def note : Event :=
  { id := toHex [0xa9, 0xd5, 0x3f, 0xee, 0x64, 0x1f, 0xe5, 0x63, 0xde, 0x94, 0x7f, 0xa3, 0x30, 0xa3, 0xb4, 0x90,
       0x2e, 0x52, 0xe2, 0x49, 0x89, 0x46, 0x60, 0xaa, 0xa5, 0x21, 0xcd, 0x03, 0x9e, 0x89, 0x61, 0x28]
    pubkey := toHex [0xf9, 0x30, 0x8a, 0x01, 0x92, 0x58, 0xc3, 0x10, 0x49, 0x34, 0x4f, 0x85, 0xf8, 0x9d, 0x52, 0x29,
       0xb5, 0x31, 0xc8, 0x45, 0x83, 0x6f, 0x99, 0xb0, 0x86, 0x01, 0xf1, 0x13, 0xbc, 0xe0, 0x36, 0xf9]
    createdAt := 1700000000
    kind := 1
    tags := []
    content := js "hello"
    sig := toHex [0x3e, 0xd4, 0x40, 0xe8, 0x8b, 0xd4, 0x96, 0x99, 0xe7, 0x82, 0x7e, 0x60, 0xdb, 0x9e, 0xae, 0xe0,
       0xaf, 0x74, 0x68, 0xaf, 0xdb, 0x3b, 0x2c, 0x25, 0x33, 0x01, 0xaa, 0x59, 0x2d, 0x00, 0xc7, 0xe0,
       0x8c, 0x5e, 0x0f, 0x64, 0x81, 0x19, 0x44, 0xb6, 0x15, 0x1f, 0x89, 0x59, 0xd2, 0x1c, 0x1b, 0x0b,
       0x48, 0x4f, 0x0f, 0x6d, 0x39, 0x6b, 0xce, 0x62, 0x85, 0xe2, 0x44, 0x54, 0x96, 0xe7, 0x5e, 0x28] }

def shoutedNote : Event :=
  { note with
    id := toHex [0xd7, 0x41, 0x7e, 0xbc, 0x34, 0xab, 0x65, 0xd5, 0x7e, 0xe2, 0x99, 0xae, 0x57, 0x1a, 0x51, 0x66,
       0x8b, 0x0d, 0xe7, 0x70, 0x5c, 0x80, 0xec, 0x62, 0x42, 0x54, 0x87, 0xde, 0x2e, 0x6b, 0xa7, 0xcf]
    pubkey := js "F9308A019258C31049344F85F89D5229B531C845836F99B08601F113BCE036F9"
    sig := toHex [0x56, 0xf2, 0xbd, 0xec, 0x41, 0x8e, 0x29, 0x96, 0x17, 0x69, 0x63, 0xf5, 0x86, 0x20, 0xc4, 0x08,
       0x2a, 0xe2, 0x4f, 0xe6, 0x56, 0x9a, 0xb1, 0x44, 0x6e, 0xf4, 0x2d, 0x04, 0x3b, 0xd1, 0x64, 0x2f,
       0xaf, 0x64, 0xa6, 0x63, 0x7f, 0x43, 0x8a, 0x3d, 0x52, 0x6d, 0xea, 0x4a, 0xef, 0x10, 0x69, 0x86,
       0x32, 0x95, 0x40, 0xc8, 0xfb, 0x54, 0x88, 0xd4, 0x8f, 0xbf, 0x96, 0xbe, 0xbf, 0xda, 0x25, 0x90] }

def fleetingNote : Event :=
  { note with
    id := toHex [0xc1, 0x7c, 0xeb, 0x0c, 0xf6, 0xcb, 0x1a, 0x40, 0xbe, 0x9f, 0xf0, 0x37, 0x46, 0x1c, 0x4c, 0xbc,
       0xf7, 0x22, 0xa9, 0xce, 0x08, 0x6a, 0x53, 0x98, 0x8e, 0x08, 0xe1, 0x8c, 0xf4, 0x2a, 0x6e, 0xa5]
    kind := 20000
    sig := toHex [0x0a, 0xb0, 0x6a, 0x30, 0xda, 0x2f, 0xf5, 0x51, 0x4e, 0xd1, 0x6b, 0xca, 0x5d, 0xc0, 0x1e, 0x0b,
       0x41, 0xf3, 0x36, 0x0f, 0x98, 0xa5, 0xdf, 0x7a, 0xc1, 0x14, 0x12, 0xc1, 0x6c, 0x3b, 0x29, 0x3c,
       0x79, 0x9b, 0xaa, 0xd7, 0xa1, 0x29, 0xd0, 0xeb, 0x6a, 0xbc, 0x2d, 0xca, 0x8d, 0xd7, 0xee, 0x83,
       0x15, 0x6a, 0x85, 0x38, 0x2b, 0x79, 0x62, 0x01, 0xfe, 0x00, 0x14, 0x81, 0x4f, 0x51, 0x10, 0x51] }

def outsizedNote : Event :=
  { note with
    id := toHex [0x37, 0xbd, 0x32, 0xb0, 0x7c, 0x7a, 0x7e, 0xe4, 0x2a, 0xdd, 0x60, 0x6b, 0x0a, 0xfa, 0xd2, 0x54,
       0x88, 0x32, 0x8f, 0x19, 0x46, 0xeb, 0x99, 0xd7, 0x7c, 0x18, 0xbb, 0xe5, 0x25, 0x6c, 0x43, 0x98]
    kind := 2147483648
    sig := toHex [0xaa, 0xa4, 0xb9, 0x8f, 0x04, 0xd8, 0x92, 0xa5, 0x0b, 0xa4, 0x8f, 0x33, 0x44, 0xbb, 0xb9, 0xef,
       0x49, 0xea, 0x91, 0x35, 0x1c, 0xa0, 0x7d, 0xfe, 0xe6, 0x75, 0x76, 0x0b, 0x5c, 0x74, 0x35, 0x9c,
       0xfe, 0x93, 0x63, 0xbb, 0xf2, 0x06, 0xae, 0x28, 0x2e, 0xde, 0x8a, 0x47, 0x04, 0x92, 0xd3, 0x08,
       0x1b, 0x69, 0x56, 0x22, 0x6b, 0x3b, 0x8e, 0xd5, 0xc5, 0x71, 0x8d, 0xe3, 0x36, 0xe2, 0xe6, 0xa3] }

def profile : Event :=
  { note with
    id := toHex [0x9f, 0xae, 0x90, 0xfb, 0xdd, 0x85, 0x1a, 0x56, 0x93, 0xe0, 0x2f, 0xcf, 0xda, 0xf7, 0xb9, 0xb8,
       0xc6, 0x1c, 0xc1, 0x25, 0xbf, 0xc6, 0x66, 0xa7, 0xb0, 0xf0, 0x06, 0xae, 0x5d, 0x3c, 0x86, 0x3a]
    kind := 0
    sig := toHex [0xa4, 0xe4, 0x11, 0x2e, 0x75, 0x79, 0xe5, 0xb9, 0x4f, 0x46, 0xb6, 0x9d, 0xa9, 0x39, 0x6c, 0x40,
       0x23, 0xb9, 0x25, 0x5e, 0x8e, 0xd9, 0x73, 0x6b, 0xf7, 0x81, 0xb2, 0xc7, 0x3c, 0x14, 0xaf, 0x2e,
       0x60, 0x74, 0xd6, 0x13, 0xc9, 0x09, 0x99, 0x89, 0x74, 0x01, 0x7d, 0x03, 0x7e, 0x9e, 0xa6, 0x0f,
       0x55, 0x56, 0xd2, 0x2d, 0x05, 0xbc, 0xea, 0xc7, 0xd4, 0xb5, 0x77, 0x1c, 0xbf, 0x28, 0xda, 0x57] }

def laterProfile : Event :=
  { profile with
    id := toHex [0x98, 0x4c, 0x6e, 0x05, 0x82, 0xd0, 0x79, 0x85, 0x5d, 0xca, 0x3f, 0xe2, 0x17, 0x3f, 0xbe, 0x6e,
       0x5c, 0x35, 0xf3, 0x15, 0xf8, 0x8b, 0xd2, 0xa1, 0x7e, 0x31, 0xc8, 0x97, 0x5d, 0x88, 0x04, 0x53]
    createdAt := 1700000001
    sig := toHex [0xaa, 0xe2, 0xaa, 0xa1, 0xd1, 0x0c, 0x18, 0xd1, 0xa1, 0x10, 0x68, 0x19, 0xe0, 0xd5, 0x93, 0xe3,
       0x94, 0x6f, 0xa8, 0x90, 0xf6, 0x81, 0x5c, 0x5c, 0x0a, 0xb4, 0xed, 0x0a, 0x02, 0x79, 0x6b, 0x55,
       0x96, 0xa4, 0xfb, 0x32, 0x11, 0x6a, 0x3e, 0x0e, 0xe9, 0x0d, 0x2a, 0xd4, 0x11, 0x0c, 0x4f, 0xea,
       0x96, 0xda, 0xce, 0xd6, 0xb4, 0xea, 0x57, 0x12, 0x4c, 0xae, 0x99, 0x9c, 0x3f, 0x72, 0x60, 0xf7] }

def crypto : Secp256k1 :=
  recordedCrypto ([note, shoutedNote, fleetingNote, outsizedNote, profile, laterProfile].map recorded)

theorem crypto_injective : Function.Injective crypto.sha256 :=
  recordedSha256_injective _ (by decide +kernel) (by decide +kernel)

example : [note, fleetingNote, outsizedNote, profile, laterProfile].all eventSchema = true := by
  decide +kernel
example : isEventIdValid crypto shoutedNote = true := by decide +kernel
example : isEventSignatureValid crypto laterProfile = true := by decide +kernel

end Nostream
