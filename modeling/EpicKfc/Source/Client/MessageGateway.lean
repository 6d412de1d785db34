import EpicKfc.Source.Client.Keccak256
import EpicKfc.Source.Client.Models

/-!
# Fetching relay messages

`HttpMessageGateway::messageFromJson` and `fetchMessages` of
`client/src/gateways/HttpGateways.cpp`. Qt's parser of ISO-8601 texts is a parameter.
-/

namespace EpicKfc.Source.Client.MessageGateway
open EpicKfc.Lib
open EpicKfc.Source.Client.Keccak256 (intMax)

/-- `MessagePageLimit`. -/
def messagePageLimit : Nat := 100

def initialMessageOffset : Nat := 0

/-- `QDateTime::fromString(text, Qt::ISODateWithMs)`. -/
abbrev DateParser := String → QDateTime

def messageFromJson (fromISODateWithMs : DateParser) (object : Json.Members)
    (direction : MessageDirection) : LocalMessage :=
  let createdAt := (value object "created_at").toString
  { id := (value object "id").toString
    senderUserId := (value object "sender_user_id").toString
    senderDeviceId := (value object "sender_device_id").toInt 0
    recipientUserId := (value object "recipient_user_id").toString
    recipientDeviceId := (value object "recipient_device_id").toInt 0
    wirePayloadJson := (value object "wire_payload_json").toString
    consumedOneTimePreKeyId :=
      if (value object "consumed_one_time_prekey_id").isDouble then
        some ((value object "consumed_one_time_prekey_id").toInt 0)
      else none
    createdAt := fromISODateWithMs createdAt
    accessRevokedAt := (value object "access_revoked_at").toString
    senderDeletedAt := (value object "sender_deleted_at").toString
    recipientDeletedAt := (value object "recipient_deleted_at").toString
    deletedAt := (value object "deleted_at").toString
    direction := direction
    createdAtRaw := createdAt }

def messageListFromJson (fromISODateWithMs : DateParser) (array : List Json)
    (direction : MessageDirection) : MessageList :=
  array.map fun item => messageFromJson fromISODateWithMs (QJsonValue.toObject (some item)) direction

/-- The callback's result, where `get` answers the request for the page at an offset.
`none` is an offset that overflows its `int`. -/
def fetchMessages (fromISODateWithMs : DateParser) (get : Nat → Result (List Json))
    (direction : MessageDirection) (offset : Nat) (collected : MessageList) :
    Option (Result MessageList) :=
  match get offset with
  | .error error => some (.error error)
  | .ok array =>
    let page := messageListFromJson fromISODateWithMs array direction
    let collected := collected ++ page
    if page.length < messagePageLimit then some (.ok collected)
    else if offset + messagePageLimit ≤ intMax then
      fetchMessages fromISODateWithMs get direction (offset + messagePageLimit) collected
    else none
termination_by intMax - offset
decreasing_by
  simp only [messagePageLimit] at *
  omega

end EpicKfc.Source.Client.MessageGateway
