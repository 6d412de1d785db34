import EpicKfc.Source.Cryptography.WireMessages
import EpicKfc.Source.KeyRequests

/-!
# Public bundles of the cryptography package

What `cryptography/src/signal/libsignalDevice.ts` makes of a device for the backend
and of the backend's answer, and the pre-key batch of `scripts/e2e-with-backend.js`.
`toISOString` of the clock comes from outside; an object without the members of the
interface it is cast to is left out.
-/

namespace EpicKfc.Source.Cryptography
open EpicKfc.Lib
open EpicKfc.Source.Server
open EpicKfc.Source.Server.RequestModels (Pydantic)

/-- libsignal's bundle of a device. -/
structure DeviceType where
  registrationId : Nat
  identityKey : Bytes
  signedPreKey : SignedPublicPreKey
  preKey : Option PublicPreKey
deriving DecidableEq

def DeviceType.withPreKey (bundle : DeviceType) (preKey : Option PublicPreKey) : DeviceType :=
  { bundle with preKey := preKey }

def deviceToPublicBundle (device : GeneratedDevice) : DeviceType where
  registrationId := device.registrationId
  identityKey := device.identityKeyPair.pubKey
  signedPreKey := device.signedPreKeyPublic
  preKey := device.oneTimePreKeyPublic

/-! ## Rows -/

structure DeviceKeysRow where
  userId : String
  deviceId : Nat
  registrationId : Nat
  identityKeyPublicB64 : String
  signedPrekeyId : Nat
  signedPrekeyPublicB64 : String
  signedPrekeySignatureB64 : String
  signedPrekeyCreatedAt : String

structure OneTimePreKeyRow where
  userId : String
  deviceId : Nat
  prekeyId : Nat
  prekeyPublicB64 : String
  usedAt : Option String

def deviceToDbRows (device : GeneratedDevice) (now : String) :
    DeviceKeysRow × List OneTimePreKeyRow :=
  ({ userId := device.userId
     deviceId := device.deviceId
     registrationId := device.registrationId
     identityKeyPublicB64 := toBase64 device.identityKeyPair.pubKey
     signedPrekeyId := device.signedPreKeyId
     signedPrekeyPublicB64 := toBase64 device.signedPreKeyPublic.publicKey
     signedPrekeySignatureB64 := toBase64 device.signedPreKeyPublic.signature
     signedPrekeyCreatedAt := now },
   device.oneTimePreKeyPublic.toList.map fun preKey =>
     ⟨device.userId, device.deviceId, preKey.keyId, toBase64 preKey.publicKey, none⟩)

/-- `deviceKeyUploadPayloadFromRow`; the identity key is sent as the signing key too. -/
def deviceKeyUploadPayloadFromRow (deviceKeys : DeviceKeysRow) : Json.Members := Json.ofMembers [
  ("device_id", .number deviceKeys.deviceId),
  ("registration_id", .number deviceKeys.registrationId),
  ("identity_key_public_b64", .string deviceKeys.identityKeyPublicB64),
  ("identity_signing_public_b64", .string deviceKeys.identityKeyPublicB64),
  ("signed_prekey_id", .number deviceKeys.signedPrekeyId),
  ("signed_prekey_public_b64", .string deviceKeys.signedPrekeyPublicB64),
  ("signed_prekey_signature_b64", .string deviceKeys.signedPrekeySignatureB64)]

/-- The batch that `uploadDevice` posts. -/
def preKeyBatchFromRows (oneTimePreKeys : List OneTimePreKeyRow) : Json.Members := Json.ofMembers [
  ("prekeys", .array (oneTimePreKeys.map fun opk => .object (Json.ofMembers [
    ("device_id", .number opk.deviceId),
    ("prekey_id", .number opk.prekeyId),
    ("prekey_public_b64", .string opk.prekeyPublicB64)])))]

structure StoredDeviceKeysRow extends DeviceKeysRow where
  oneTimePrekeyId : Option Nat
  oneTimePrekeyPublicB64 : Option String

/-- An empty text of a pre-key is false. -/
def publicBundleFromDb (node : NodeRuntime) (row : StoredDeviceKeysRow) : DeviceType where
  registrationId := row.registrationId
  identityKey := node.fromBase64 row.identityKeyPublicB64
  signedPreKey := ⟨row.signedPrekeyId, node.fromBase64 row.signedPrekeyPublicB64,
    node.fromBase64 row.signedPrekeySignatureB64⟩
  preKey :=
    match row.oneTimePrekeyId, row.oneTimePrekeyPublicB64 with
    | some keyId, some publicKey => if publicKey = "" then none else some ⟨keyId, node.fromBase64 publicKey⟩
    | _, _ => none

/-! ## Responses -/

structure ApiPreKeyBundleResponse where
  registrationId : Nat
  deviceId : Nat
  identityKey : String
  signedPreKeyId : Nat
  signedPreKey : String
  signedPreKeySignature : String
  oneTimePreKeyId : Option Nat
  oneTimePreKey : Option String

/-- A member that is a natural number. -/
def numberMember (members : Json.Members) (name : String) : Option Nat :=
  match Json.lookup members name with
  | some (.number value) => if 0 ≤ value then some value.toNat else none
  | _ => none

def textMember (members : Json.Members) (name : String) : Option String :=
  match Json.lookup members name with
  | some (.string value) => some value
  | _ => none

/-- The parsed body of a response as the interface it is cast to. -/
def ApiPreKeyBundleResponse.ofMembers (members : Json.Members) : Option ApiPreKeyBundleResponse := do
  let registrationId ← numberMember members "registrationId"
  let deviceId ← numberMember members "deviceId"
  let identityKey ← textMember members "identityKey"
  let signedPreKeyId ← numberMember members "signedPreKeyId"
  let signedPreKey ← textMember members "signedPreKey"
  let signedPreKeySignature ← textMember members "signedPreKeySignature"
  return ⟨registrationId, deviceId, identityKey, signedPreKeyId, signedPreKey, signedPreKeySignature,
    numberMember members "oneTimePreKeyId", textMember members "oneTimePreKey"⟩

def preKeyBundleFromApiResponse (node : NodeRuntime) (api : ApiPreKeyBundleResponse) : DeviceType :=
  publicBundleFromDb node {
    userId := ""
    deviceId := api.deviceId
    registrationId := api.registrationId
    identityKeyPublicB64 := api.identityKey
    signedPrekeyId := api.signedPreKeyId
    signedPrekeyPublicB64 := api.signedPreKey
    signedPrekeySignatureB64 := api.signedPreKeySignature
    signedPrekeyCreatedAt := ""
    oneTimePrekeyId := api.oneTimePreKeyId
    oneTimePrekeyPublicB64 := api.oneTimePreKey }

/-! ## Requests to the backend -/

/-- The route's request when the package uploads a row. -/
def UploadsRow (pydantic : Pydantic) (row : DeviceKeysRow)
    (request : KeyRelay.DeviceKeyUploadRequest) : Prop :=
  ∃ upload, RequestModels.deviceKeyUploadRequest pydantic
      (.object (deviceKeyUploadPayloadFromRow row)) = .ok upload ∧
    upload.columns = some request

def UploadsPreKeyRows (pydantic : Pydantic) (rows : List OneTimePreKeyRow)
    (batch : KeyRelay.OneTimePreKeyBatchUploadRequest) : Prop :=
  ∃ uploads, RequestModels.oneTimePreKeyBatchUploadRequest pydantic
      (.object (preKeyBatchFromRows rows)) = .ok uploads ∧
    RequestModels.batchColumns uploads = some batch

/-- A row as the desktop client would upload it. -/
def DeviceKeysRow.material (row : DeviceKeysRow) : Client.DeviceKeyMaterial where
  deviceId := row.deviceId
  registrationId := row.registrationId
  identityKey := row.identityKeyPublicB64
  identityPrivateKey := ""
  identitySigningKey := row.identityKeyPublicB64
  identitySigningPrivateKey := ""
  signedPreKeyId := row.signedPrekeyId
  signedPreKey := row.signedPrekeyPublicB64
  signedPreKeyPrivate := ""
  signedPreKeySignature := row.signedPrekeySignatureB64

def OneTimePreKeyRow.preKey (row : OneTimePreKeyRow) : Client.OneTimePreKey :=
  ⟨row.deviceId, row.prekeyId, row.prekeyPublicB64, "", false⟩

variable {pydantic : Pydantic}

theorem uploadsRow_iff {row : DeviceKeysRow} {request : KeyRelay.DeviceKeyUploadRequest} :
    UploadsRow pydantic row request ↔ KeyRequests.UploadsDevice pydantic row.material request :=
  Iff.rfl

theorem uploadsPreKeyRows_iff {rows : List OneTimePreKeyRow}
    {batch : KeyRelay.OneTimePreKeyBatchUploadRequest} :
    UploadsPreKeyRows pydantic rows batch ↔
      KeyRequests.UploadsPreKeys pydantic (rows.map OneTimePreKeyRow.preKey) batch := by
  rw [UploadsPreKeyRows, KeyRequests.UploadsPreKeys, preKeyBatchFromRows,
    Client.RequestBodies.preKeysBody, List.map_map]
  rfl

/-- The package reads of a response what the backend has put into it. -/
theorem ofMembers_response (bundle : KeyRelay.PreKeyBundleResponse) :
    ApiPreKeyBundleResponse.ofMembers (RequestModels.preKeyBundleResponse bundle) =
      some ⟨bundle.registrationId.val.toNat, bundle.deviceId.val.toNat, bundle.identityKeyPublicB64,
        bundle.signedPrekeyId.val.toNat, bundle.signedPrekeyPublicB64,
        bundle.signedPrekeySignatureB64, bundle.oneTimePrekeyId.map (·.val.toNat),
        bundle.oneTimePrekeyPublicB64⟩ := by
  have natural (number : PositiveInt) : 0 ≤ number.val := le_of_lt number.property.1
  obtain ⟨registrationId, deviceId, identityKey, signing, signedPrekeyId, signedPrekey, signature,
    oneTimePrekeyId, oneTimePrekey⟩ := bundle
  simp only [ApiPreKeyBundleResponse.ofMembers, numberMember, textMember,
    RequestModels.preKeyBundleResponse, Json.lookup_cons]
  cases oneTimePrekeyId <;> cases oneTimePrekey <;>
    simp [natural, MessageApi.optionalInt, MessageRoutes.optionalText]

end EpicKfc.Source.Cryptography
