import EpicKfc.Source.Client.DeviceKeys

/-!
# Request bodies of the client

The objects that `HttpKeyGateway` and `HttpMessageGateway` send, and the one-time
pre-keys that `createOneTimePreKeys` puts into one of them.
-/

namespace EpicKfc.Source.Client
open EpicKfc.Lib
open EpicKfc.Source.Client.StoreDocuments (Draws)

namespace NativeSignalCryptoProvider

variable (library : NativeLibrary)

def firstPreKeyId : Int := 1
def defaultPreKeyCount : Nat := 8

/-- The loop of `createOneTimePreKeys` from an index on, for `count` more keys. -/
def preKeysFrom (deviceId : Int) (index : Nat) : Nat → Draws → Result (List OneTimePreKey)
  | 0, _ => .ok []
  | count + 1, draws =>
    let (keyPair, draws) := generateRawKeyPair library draws
    if keyPair.publicKey.length ≠ keyBytes ∨ keyPair.privateKey.length ≠ keyBytes then
      .error (cryptoError "OpenSSL one-time pre-key generation failed.")
    else (preKeysFrom deviceId (index + 1) count draws).map fun rest =>
      ⟨deviceId, firstPreKeyId + index, toBase64 keyPair.publicKey, toBase64 keyPair.privateKey,
        false⟩ :: rest

def createOneTimePreKeys (deviceId : Int) (count : Nat) (draws : Draws) :
    Result (List OneTimePreKey) :=
  preKeysFrom library deviceId 0 count draws

end NativeSignalCryptoProvider

namespace RequestBodies

/-- The body of `upsertDeviceKeys`. -/
def deviceKeysBody (material : DeviceKeyMaterial) : Json.Members := Json.ofMembers [
  ("device_id", .number material.deviceId),
  ("registration_id", .number material.registrationId),
  ("identity_key_public_b64", .string material.identityKey),
  ("identity_signing_public_b64", .string material.identitySigningKey),
  ("signed_prekey_id", .number material.signedPreKeyId),
  ("signed_prekey_public_b64", .string material.signedPreKey),
  ("signed_prekey_signature_b64", .string material.signedPreKeySignature)]

def preKeyItem (preKey : OneTimePreKey) : Json := .object (Json.ofMembers [
  ("device_id", .number preKey.deviceId),
  ("prekey_id", .number preKey.preKeyId),
  ("prekey_public_b64", .string preKey.publicKey)])

/-- The body of `uploadOneTimePreKeys`. -/
def preKeysBody (preKeys : List OneTimePreKey) : Json.Members := Json.ofMembers [
  ("prekeys", .array (preKeys.map preKeyItem))]

/-- `MessageService::draftFor` of a user on a device. -/
def draftFor (currentUserId : String) (deviceId : Int) (recipientUserId : String)
    (recipientDeviceId : Int) (wirePayloadJson : String) : LocalMessage where
  id := ""
  senderUserId := currentUserId
  senderDeviceId := deviceId
  recipientUserId := recipientUserId
  recipientDeviceId := recipientDeviceId
  wirePayloadJson := wirePayloadJson
  consumedOneTimePreKeyId := none
  createdAt := none
  direction := .sent

def sendBodyFor (draft : LocalMessage) (consumedPreKeyId : Option Int) : Json.Members :=
  let body := Json.ofMembers [
    ("sender_device_id", .number draft.senderDeviceId),
    ("recipient_user_id", .string draft.recipientUserId),
    ("recipient_device_id", .number draft.recipientDeviceId),
    ("wire_payload_json", .string draft.wirePayloadJson)]
  match consumedPreKeyId with
  | some preKeyId => Json.insert "consumed_one_time_prekey_id" (.number preKeyId) body
  | none => body

end RequestBodies

end EpicKfc.Source.Client
