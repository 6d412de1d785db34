import EpicKfc.Lib.Json
import EpicKfc.Source.Server.Messages

/-!
# Message responses

`MessageResponse` of `server/backend/app/schemas/message.py` as the JSON object a
route returns. The API serialises datetimes in ISO-8601 with one of the two
spellings of the UTC offset.
-/

namespace EpicKfc.Source.Server.MessageApi
open EpicKfc.Lib
open EpicKfc.Source.Server.Messages

structure DateTimeSerializer where
  text : UtcTimestamp → String
  iso : ∀ time, text time = time.isoBody ++ "Z" ∨ text time = time.isoBody ++ "+00:00"

/-- The serialiser that spells the offset `Z`. -/
def zuluSerializer : DateTimeSerializer where
  text := fun time => time.isoBody ++ "Z"
  iso := fun _ => Or.inl rfl

/-- Null or the serialised datetime. -/
def optionalDateTime (serializer : DateTimeSerializer) : Option UtcTimestamp → Json
  | none => .null
  | some time => .string (serializer.text time)

def optionalUuid : Option Uuid → Json
  | none => .null
  | some id => .string id.str

def optionalInt : Option PositiveInt → Json
  | none => .null
  | some value => .number value.val

def messageResponse (serializer : DateTimeSerializer) (message : Message) : Json.Members := [
  ("id", .string message.id.str),
  ("sender_user_id", .string message.senderUserId.str),
  ("sender_device_id", .number message.senderDeviceId.val),
  ("recipient_user_id", .string message.recipientUserId.str),
  ("recipient_device_id", .number message.recipientDeviceId.val),
  ("wire_payload_json", .string message.wirePayloadJson.val),
  ("consumed_one_time_prekey_id", optionalInt message.consumedOneTimePrekeyId),
  ("forwarded_from_message_id", optionalUuid message.forwardedFromMessageId),
  ("created_at", .string (serializer.text message.createdAt)),
  ("access_revoked_at", optionalDateTime serializer message.accessRevokedAt),
  ("sender_deleted_at", optionalDateTime serializer message.senderDeletedAt),
  ("recipient_deleted_at", optionalDateTime serializer message.recipientDeletedAt),
  ("deleted_at", optionalDateTime serializer message.deletedAt)]

theorem serialized_ne_empty (serializer : DateTimeSerializer) (time : UtcTimestamp) :
    serializer.text time ≠ "" := by
  intro empty
  rcases serializer.iso time with zulu | offset
  · have chars := congrArg String.toList (zulu.symm.trans empty)
    simp at chars
  · have chars := congrArg String.toList (offset.symm.trans empty)
    simp at chars

end EpicKfc.Source.Server.MessageApi
