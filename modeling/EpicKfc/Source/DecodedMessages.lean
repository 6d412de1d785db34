import EpicKfc.Source.Client.MessageGateway
import EpicKfc.Source.Server.MessageApi

/-!
# The client's record of a relayed row

`messageFromJson` applied to a `MessageResponse`: which field of the row reaches
which field of the record, and which do not arrive.
-/

namespace EpicKfc.Source
open EpicKfc.Lib
open EpicKfc.Source.Client
open EpicKfc.Source.Client.MessageGateway
open EpicKfc.Source.Server
open EpicKfc.Source.Server.Messages
open EpicKfc.Source.Server.MessageApi

/-- A marker as the client holds it: empty when the column is null. -/
def markerText (serializer : DateTimeSerializer) (marker : Option UtcTimestamp) : String :=
  QJsonValue.toString (some (optionalDateTime serializer marker))

theorem markerText_eq_empty (serializer : DateTimeSerializer) (marker : Option UtcTimestamp) :
    markerText serializer marker = "" ↔ marker = none := by
  cases marker with
  | none => simp [markerText, optionalDateTime, QJsonValue.toString]
  | some time => simp [markerText, optionalDateTime, QJsonValue.toString, serialized_ne_empty]

theorem toInt_positive (number : PositiveInt) :
    QJsonValue.toInt (some (.number number.val)) 0 = number.val := by
  have bounds := number.property
  have fits : -2 ^ 31 ≤ number.val ∧ number.val < 2 ^ 31 := by omega
  simp only [QJsonValue.toInt, fits, and_self, if_true]

/-- The record the client decodes from a row's response. -/
def decoded (parser : DateParser) (serializer : DateTimeSerializer) (message : Message)
    (direction : MessageDirection) : LocalMessage :=
  messageFromJson parser (messageResponse serializer message) direction

/-- Everything the client reads of a row; `forwarded_from_message_id` is not among it. -/
theorem decoded_eq (parser : DateParser) (serializer : DateTimeSerializer) (message : Message)
    (direction : MessageDirection) :
    decoded parser serializer message direction =
      { id := message.id.str
        senderUserId := message.senderUserId.str
        senderDeviceId := message.senderDeviceId.val
        recipientUserId := message.recipientUserId.str
        recipientDeviceId := message.recipientDeviceId.val
        wirePayloadJson := message.wirePayloadJson.val
        consumedOneTimePreKeyId := message.consumedOneTimePrekeyId.map Subtype.val
        createdAt := parser (serializer.text message.createdAt)
        accessRevokedAt := markerText serializer message.accessRevokedAt
        senderDeletedAt := markerText serializer message.senderDeletedAt
        recipientDeletedAt := markerText serializer message.recipientDeletedAt
        deletedAt := markerText serializer message.deletedAt
        direction := direction
        createdAtRaw := serializer.text message.createdAt } := by
  unfold decoded messageFromJson
  simp only [value, messageResponse, Json.lookup_cons, String.reduceEq, if_true, if_false,
    toInt_positive, markerText]
  cases message.consumedOneTimePrekeyId with
  | none => simp [optionalInt, QJsonValue.isDouble, QJsonValue.toString]
  | some prekey => simp [optionalInt, QJsonValue.isDouble, QJsonValue.toString, toInt_positive]

end EpicKfc.Source
