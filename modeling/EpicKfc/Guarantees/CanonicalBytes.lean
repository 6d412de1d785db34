import EpicKfc.Guarantees.DigestAgreement

/-!
# Canonical message bytes

The canonical record is read back from its bytes, and every hashed field from the
record. Messages that differ in a hashed field have different bytes, and one
digest for both takes two inputs of one hash.
-/

namespace EpicKfc.Guarantees.CanonicalBytes
open EpicKfc.Lib
open EpicKfc.Lib.JsonText
open EpicKfc.Lib.Keccak (Byte)
open EpicKfc.Source.Client
open EpicKfc.Source.Server
open EpicKfc.Source.Server.Messages
open EpicKfc.Source.Server.BlockchainHashing
open EpicKfc.Guarantees.DigestAgreement (canonicalWith canonicalDict_eq)

/-- What the digest covers. -/
structure HashedFields where
  createdAt : UtcTimestamp
  forwardedFromMessageId : Option Uuid
  id : Uuid
  recipientDeviceId : PositiveInt
  recipientUserId : Uuid
  senderDeviceId : PositiveInt
  senderUserId : Uuid
  wirePayloadJson : WirePayload

def hashedFields (message : Message) : HashedFields where
  createdAt := message.createdAt
  forwardedFromMessageId := message.forwardedFromMessageId
  id := message.id
  recipientDeviceId := message.recipientDeviceId
  recipientUserId := message.recipientUserId
  senderDeviceId := message.senderDeviceId
  senderUserId := message.senderUserId
  wirePayloadJson := message.wirePayloadJson

/-- A column value is written with few digits. -/
theorem readable_positiveInt (value : PositiveInt) : Readable (.number value.val) := by
  have bound : value.val.natAbs < 10 ^ maxIntegerDigits := by
    have positive := value.property
    have large : 10 ^ 10 ≤ 10 ^ maxIntegerDigits :=
      Nat.pow_le_pow_right (by decide) (by decide)
    have small : value.val.natAbs < 10 ^ 10 := by omega
    exact small.trans_le large
  exact (Nat.length_toDigits_le_iff (by decide) (by decide)).mpr bound

theorem readable_optionalStr (id : Option Uuid) : Readable (optionalStr id) := by
  cases id <;> trivial

theorem readable_canonical (message : Message) :
    Readable (.object (canonicalWith (optionalStr message.forwardedFromMessageId) message)) := by
  simp only [Readable, canonicalWith, ReadableMembers, readable_optionalStr, true_and, and_true]
  exact ⟨readable_positiveInt _, readable_positiveInt _⟩

theorem ofJson_optionalStr_inj {first second : Option Uuid}
    (same : ofJson (optionalStr first) = ofJson (optionalStr second)) : first = second := by
  cases first <;> cases second <;>
    simp only [optionalStr, ofJson, Node.string.injEq, reduceCtorEq] at same ⊢
  rw [Uuid.str_injective (codePoints_injective same)]

/-- The bytes determine the record, and the record its fields. -/
theorem hashedFields_eq_of_bytes {first second : Message}
    (same : canonicalMessageBytes first = canonicalMessageBytes second) :
    hashedFields first = hashedFields second := by
  have texts := Json.utf8_injective same
  rw [canonicalDict_eq, canonicalDict_eq] at texts
  have trees := congrArg parse texts
  rw [parse_compact quotes_encodeBasestring (readable_canonical first),
    parse_compact quotes_encodeBasestring (readable_canonical second)] at trees
  simp only [ofJson, ofMembers, canonicalWith, Option.some.injEq, Node.object.injEq,
    List.cons.injEq, Prod.mk.injEq, Node.string.injEq, Node.int.injEq, true_and, and_true] at trees
  obtain ⟨created, forwarded, id, recipientDevice, recipient, senderDevice, sender, payload⟩ := trees
  have str {id id' : Uuid} (texts : codePoints id.str = codePoints id'.str) : id = id' :=
    Uuid.str_injective (codePoints_injective texts)
  simp only [hashedFields, HashedFields.mk.injEq]
  exact ⟨UtcTimestamp.isoformat_injective (codePoints_injective created),
    ofJson_optionalStr_inj forwarded, str id, Subtype.ext recipientDevice, str recipient,
    Subtype.ext senderDevice, str sender, Subtype.ext (codePoints_injective payload)⟩

/-- A change of a hashed field changes the bytes, and keeps the digest only where the hash
has a collision there. -/
theorem canonical_bytes_injective (keccak : List Byte → List Byte) {message changed : Message}
    (differ : hashedFields message ≠ hashedFields changed) :
    canonicalMessageBytes message ≠ canonicalMessageBytes changed ∧
      (deriveMessageDigest keccak message = deriveMessageDigest keccak changed →
        Keccak.Collision keccak (canonicalMessageBytes message) (canonicalMessageBytes changed)) := by
  have bytes : canonicalMessageBytes message ≠ canonicalMessageBytes changed :=
    fun same => differ (hashedFields_eq_of_bytes same)
  refine ⟨bytes, fun digests => ⟨bytes, ?_⟩⟩
  exact (EthereumHash.keccakHex_inj keccak _ _).mp digests

/-- The same message sent and forwarded. -/
def sampleMessage (forwardedFromMessageId : Option Uuid) : Message :=
  createMessage 1 (plainRequest 2) forwardedFromMessageId 7 .newYear2026

theorem sampleMessage_differs :
    hashedFields (sampleMessage none) ≠ hashedFields (sampleMessage (some 3)) := by
  intro same
  cases congrArg HashedFields.forwardedFromMessageId same

theorem canonical_bytes_injective_sample :
    canonicalMessageBytes (sampleMessage none) ≠ canonicalMessageBytes (sampleMessage (some 3)) ∧
      (deriveMessageDigest Keccak.keccak256 (sampleMessage none) =
        deriveMessageDigest Keccak.keccak256 (sampleMessage (some 3)) →
          Keccak.Collision Keccak.keccak256 (canonicalMessageBytes (sampleMessage none))
            (canonicalMessageBytes (sampleMessage (some 3)))) :=
  canonical_bytes_injective Keccak.keccak256 sampleMessage_differs

end EpicKfc.Guarantees.CanonicalBytes
