import EpicKfc.Source.Client.KeyService
import EpicKfc.Source.Client.RequestBodies
import EpicKfc.Source.Client.StoreDocuments
import EpicKfc.Source.Server.RequestModels

/-!
# Keys between client and backend

The bodies of `HttpKeyGateway` as the schemas of the key routes read them, and the
bundle of a response as the gateway reads it.
-/

namespace EpicKfc.Source.KeyRequests
open EpicKfc.Lib
open EpicKfc.Lib.StrictModels
open EpicKfc.Source.Client.RequestBodies
open EpicKfc.Source.Server
open EpicKfc.Source.Server.MessageRoutes (optionalText)
open EpicKfc.Source.Server.RequestModels

variable (pydantic : Pydantic)

/-- The route's request when the client uploads this device. -/
def UploadsDevice (material : Client.DeviceKeyMaterial) (request : KeyRelay.DeviceKeyUploadRequest) :
    Prop :=
  ∃ upload, deviceKeyUploadRequest pydantic (.object (deviceKeysBody material)) = .ok upload ∧
    upload.columns = some request

/-- The route's batch when the client uploads these pre-keys. -/
def UploadsPreKeys (preKeys : List Client.OneTimePreKey)
    (batch : KeyRelay.OneTimePreKeyBatchUploadRequest) : Prop :=
  ∃ uploads, oneTimePreKeyBatchUploadRequest pydantic (.object (preKeysBody preKeys)) = .ok uploads ∧
    batchColumns uploads = some batch

/-- The stored columns say what the client's device says. -/
structure Carries (material : Client.DeviceKeyMaterial) (columns : KeyRelay.DeviceKeyMaterial) : Prop where
  registrationId : columns.registrationId.val = material.registrationId
  identityKey : columns.identityKeyPublicB64 = material.identityKey
  identitySigningKey : columns.identitySigningPublicB64 = material.identitySigningKey
  signedPreKeyId : columns.signedPrekeyId.val = material.signedPreKeyId
  signedPreKey : columns.signedPrekeyPublicB64 = material.signedPreKey
  signedPreKeySignature : columns.signedPrekeySignatureB64 = material.signedPreKeySignature

/-- The stored pre-key is one of the client's. -/
def IsPreKey (preKeys : List Client.OneTimePreKey) (prekeyId : PositiveInt) (prekeyPublicB64 : String) :
    Prop :=
  ∃ preKey ∈ preKeys, preKey.preKeyId = prekeyId.val ∧ preKey.publicKey = prekeyPublicB64

variable {pydantic}

theorem required_of_lookup {α : Type} {name : String} {read : Reader α} {members : Json.Members}
    {item : Json} {value : α} (found : Json.lookup members name = some item) :
    required name read members = .ok value ↔ read item = .ok value := by
  simp [required_eq_ok, found]

theorem lookup_deviceKeysBody (material : Client.DeviceKeyMaterial) :
    let body := deviceKeysBody material
    Json.lookup body "device_id" = some (.number material.deviceId) ∧
    Json.lookup body "registration_id" = some (.number material.registrationId) ∧
    Json.lookup body "identity_key_public_b64" = some (.string material.identityKey) ∧
    Json.lookup body "identity_signing_public_b64" = some (.string material.identitySigningKey) ∧
    Json.lookup body "signed_prekey_id" = some (.number material.signedPreKeyId) ∧
    Json.lookup body "signed_prekey_public_b64" = some (.string material.signedPreKey) ∧
    Json.lookup body "signed_prekey_signature_b64" =
      some (.string material.signedPreKeySignature) := by
  simp only [deviceKeysBody]
  refine ⟨?_, ?_, ?_, ?_, ?_, ?_, ?_⟩
  all_goals
    rw [Json.lookup_ofMembers _ (by simp)]
    simp [Json.lookup_cons]

/-- The schema takes a device whose fields are base64, and changes nothing. -/
theorem deviceKeyUploadRequest_body {material : Client.DeviceKeyMaterial} {upload : DeviceKeyUpload} :
    deviceKeyUploadRequest pydantic (.object (deviceKeysBody material)) = .ok upload ↔
      upload.deviceId.val = material.deviceId ∧ upload.registrationId.val = material.registrationId ∧
      (upload.identityKeyPublicB64 = material.identityKey ∧ Base64Field material.identityKey) ∧
      (upload.identitySigningPublicB64 = material.identitySigningKey ∧
        Base64Field material.identitySigningKey) ∧
      upload.signedPrekeyId.val = material.signedPreKeyId ∧
      (upload.signedPrekeyPublicB64 = material.signedPreKey ∧ Base64Field material.signedPreKey) ∧
      (upload.signedPrekeySignatureB64 = material.signedPreKeySignature ∧
        Base64Field material.signedPreKeySignature) := by
  obtain ⟨deviceId, registrationId, identityKey, signing, signedPreKeyId, signedPreKey, signature⟩ :=
    lookup_deviceKeysBody material
  rw [deviceKeyUploadRequest_eq_ok, required_of_lookup deviceId, required_of_lookup registrationId,
    required_of_lookup identityKey, required_of_lookup signing, required_of_lookup signedPreKeyId,
    required_of_lookup signedPreKey, required_of_lookup signature, and_iff_left]
  · simp only [readPositive_eq_ok, readBase64_eq_ok]
  · intro member listed
    simpa using Json.name_mem_of_ofMembers listed

theorem uploadsDevice_iff {material : Client.DeviceKeyMaterial}
    {request : KeyRelay.DeviceKeyUploadRequest} : UploadsDevice pydantic material request ↔
      request.deviceId.val = material.deviceId ∧ Carries material request.material ∧
      Base64Field material.identityKey ∧ Base64Field material.identitySigningKey ∧
      Base64Field material.signedPreKey ∧ Base64Field material.signedPreKeySignature := by
  unfold UploadsDevice
  simp only [deviceKeyUploadRequest_body, DeviceKeyUpload.columns_eq_some]
  constructor
  · rintro ⟨upload, ⟨deviceId, registrationId, ⟨identityKey, identity⟩, ⟨signingKey, signing⟩,
      signedPreKeyId, ⟨signedPreKey, signed⟩, signature, signatureText⟩, device, registration,
      prekeyId, identityColumn, signingColumn, prekeyColumn, signatureColumn⟩
    refine ⟨device.symm.trans deviceId, ?_, identity, signing, signed, signatureText⟩
    exact ⟨registration.symm.trans registrationId, identityColumn.symm.trans identityKey,
      signingColumn.symm.trans signingKey, prekeyId.symm.trans signedPreKeyId,
      prekeyColumn.symm.trans signedPreKey, signatureColumn.symm.trans signature⟩
  · rintro ⟨deviceId, carries, identity, signing, signed, signatureText⟩
    refine ⟨⟨⟨request.deviceId.val, request.deviceId.property.1⟩,
      ⟨_, request.material.registrationId.property.1⟩, _, _,
      ⟨_, request.material.signedPrekeyId.property.1⟩, _, _⟩, ?_, rfl, rfl, rfl, rfl, rfl, rfl, rfl⟩
    exact ⟨deviceId, carries.registrationId, ⟨carries.identityKey, identity⟩,
      ⟨carries.identitySigningKey, signing⟩, carries.signedPreKeyId, ⟨carries.signedPreKey, signed⟩,
      carries.signedPreKeySignature, signatureText⟩

/-! ## One-time pre-keys -/

theorem oneTimePreKeyUpload_item {preKey : Client.OneTimePreKey} {upload : OneTimePreKeyItem} :
    oneTimePreKeyUpload pydantic (preKeyItem preKey) = .ok upload ↔
      upload.deviceId.val = preKey.deviceId ∧ upload.prekeyId.val = preKey.preKeyId ∧
      upload.prekeyPublicB64 = preKey.publicKey ∧ Base64Field preKey.publicKey := by
  have found : Json.lookup (Json.ofMembers [("device_id", .number preKey.deviceId),
        ("prekey_id", .number preKey.preKeyId), ("prekey_public_b64", .string preKey.publicKey)])
        "device_id" = some (.number preKey.deviceId) ∧
      Json.lookup (Json.ofMembers [("device_id", .number preKey.deviceId),
        ("prekey_id", .number preKey.preKeyId), ("prekey_public_b64", .string preKey.publicKey)])
        "prekey_id" = some (.number preKey.preKeyId) ∧
      Json.lookup (Json.ofMembers [("device_id", .number preKey.deviceId),
        ("prekey_id", .number preKey.preKeyId), ("prekey_public_b64", .string preKey.publicKey)])
        "prekey_public_b64" = some (.string preKey.publicKey) := by
    refine ⟨?_, ?_, ?_⟩
    all_goals
      rw [Json.lookup_ofMembers _ (by simp)]
      simp [Json.lookup_cons]
  obtain ⟨deviceId, preKeyId, publicKey⟩ := found
  rw [preKeyItem, oneTimePreKeyUpload_eq_ok, required_of_lookup deviceId,
    required_of_lookup preKeyId, required_of_lookup publicKey, and_iff_left]
  · simp only [readPositive_eq_ok, readBase64_eq_ok]
  · intro member listed
    simpa using Json.name_mem_of_ofMembers listed

/-- A batch that is read has an item for each of the client's pre-keys, in order. -/
theorem oneTimePreKeyBatchUploadRequest_body {preKeys : List Client.OneTimePreKey}
    {uploads : List OneTimePreKeyItem} :
    oneTimePreKeyBatchUploadRequest pydantic (.object (preKeysBody preKeys)) = .ok uploads ↔
      (preKeys.length ≤ maxBatchLength ∧ preKeys ≠ []) ∧
      List.Forall₂ (fun preKey upload => oneTimePreKeyUpload pydantic (preKeyItem preKey) = .ok upload)
        preKeys uploads ∧
      (uploads.map fun upload => (upload.deviceId, upload.prekeyId)).Nodup := by
  have found : Json.lookup (preKeysBody preKeys) "prekeys" = some (.array (preKeys.map preKeyItem)) := by
    rw [preKeysBody, Json.lookup_ofMembers _ (by simp)]
    simp [Json.lookup_cons]
  have listed (uploads : List OneTimePreKeyItem) :
      readList maxBatchLength (oneTimePreKeyUpload pydantic)
        (.array (preKeys.map preKeyItem)) = .ok uploads ↔
      (preKeys.length ≤ maxBatchLength ∧ preKeys ≠ []) ∧
        List.Forall₂ (fun preKey upload =>
          oneTimePreKeyUpload pydantic (preKeyItem preKey) = .ok upload) preKeys uploads := by
    rw [readList, List.length_map]
    split_ifs with long empty
    · simp [fail, long]
    · simp only [List.isEmpty_iff, List.map_eq_nil_iff] at empty
      simp [fail, empty]
    · simp only [List.isEmpty_iff, List.map_eq_nil_iff] at empty
      rw [items_eq_ok, List.forall₂_map_left_iff, and_iff_right ⟨not_lt.mp long, empty⟩]
  rw [oneTimePreKeyBatchUploadRequest, andThen_eq_ok]
  have members : ∀ member ∈ preKeysBody preKeys, member.1 ∈ ["prekeys"] := by
    intro member listed
    simpa using Json.name_mem_of_ofMembers listed
  simp only [strictModel_eq_ok, required_of_lookup found, listed, and_iff_left members]
  constructor
  · rintro ⟨read, ⟨shaped, each⟩, checked⟩
    split_ifs at checked with distinct
    · cases checked
      exact ⟨shaped, each, distinct⟩
    · simp [valueError, fail] at checked
  · rintro ⟨shaped, each, distinct⟩
    exact ⟨uploads, ⟨shaped, each⟩, if_pos distinct⟩

theorem columns_of_mapM {uploads : List OneTimePreKeyItem} {stored : List KeyRelay.OneTimePreKeyUpload} :
    uploads.mapM OneTimePreKeyItem.columns = some stored ↔
      List.Forall₂ (fun upload prekey => upload.columns = some prekey) uploads stored := by
  induction uploads generalizing stored with
  | nil => simp [List.forall₂_nil_left_iff, eq_comm]
  | cons upload rest ih =>
    cases stored with
    | nil => simp [List.mapM_cons, Option.bind_eq_some_iff, List.forall₂_nil_right_iff]
    | cons first others => simp [List.mapM_cons, Option.bind_eq_some_iff, ih]

/-- Every stored pre-key of an uploaded batch is one of the client's. -/
theorem isPreKey_of_uploads {preKeys : List Client.OneTimePreKey}
    {batch : KeyRelay.OneTimePreKeyBatchUploadRequest} (uploaded : UploadsPreKeys pydantic preKeys batch) :
    ∀ prekey ∈ batch.prekeys, IsPreKey preKeys prekey.prekeyId prekey.prekeyPublicB64 := by
  obtain ⟨uploads, read, stored⟩ := uploaded
  obtain ⟨-, each, -⟩ := oneTimePreKeyBatchUploadRequest_body.mp read
  simp only [batchColumns, Option.bind_eq_some_iff] at stored
  obtain ⟨prekeys, columns, shaped⟩ := stored
  split_ifs at shaped with sized
  cases shaped
  intro prekey member
  obtain ⟨upload, listed, kept⟩ := exists_item (columns_of_mapM.mp columns) member
  obtain ⟨preKey, given, item⟩ := exists_item each listed
  obtain ⟨-, prekeyId, prekeyPublic⟩ := OneTimePreKeyItem.columns_eq_some.mp kept
  obtain ⟨-, preKeyId, publicKey, -⟩ := oneTimePreKeyUpload_item.mp item
  exact ⟨preKey, given, preKeyId.symm.trans prekeyId, publicKey.symm.trans prekeyPublic⟩

/-- Numbers and base64 that the schema takes and the columns hold. -/
structure Uploadable (preKey : Client.OneTimePreKey) : Prop where
  deviceId : 0 < preKey.deviceId ∧ preKey.deviceId < 2 ^ 31
  preKeyId : 0 < preKey.preKeyId ∧ preKey.preKeyId < 2 ^ 31
  publicKey : Base64Field preKey.publicKey

/-- Up to a hundred pre-keys of different ids go through, as they are. -/
theorem uploadsPreKeys_of_uploadable {preKeys : List Client.OneTimePreKey} (filled : preKeys ≠ [])
    (short : preKeys.length ≤ maxBatchLength) (each : ∀ preKey ∈ preKeys, Uploadable preKey)
    (distinct : (preKeys.map Client.OneTimePreKey.preKeyId).Nodup) :
    ∃ batch, UploadsPreKeys pydantic preKeys batch ∧
      batch.prekeys.map (·.prekeyId.val) = preKeys.map Client.OneTimePreKey.preKeyId := by
  obtain ⟨uploads, read⟩ := @exists_values _ _
    (fun preKey upload => oneTimePreKeyUpload pydantic (preKeyItem preKey) = .ok upload ∧
      Uploadable preKey) preKeys fun preKey member => by
    have own := each preKey member
    exact ⟨⟨⟨_, own.deviceId.1⟩, ⟨_, own.preKeyId.1⟩, _⟩,
      oneTimePreKeyUpload_item.mpr ⟨rfl, rfl, rfl, own.publicKey⟩, own⟩
  obtain ⟨stored, columns⟩ := @exists_values _ _
    (fun upload prekey => OneTimePreKeyItem.columns upload = some prekey) uploads fun upload member => by
    obtain ⟨preKey, -, item, own⟩ := exists_item read member
    obtain ⟨deviceId, preKeyId, -, -⟩ := oneTimePreKeyUpload_item.mp item
    refine ⟨⟨⟨preKey.deviceId, own.deviceId⟩, ⟨preKey.preKeyId, own.preKeyId⟩, upload.prekeyPublicB64⟩, ?_⟩
    exact OneTimePreKeyItem.columns_eq_some.mpr ⟨deviceId, preKeyId, rfl⟩
  have ids : preKeys.map Client.OneTimePreKey.preKeyId = uploads.map (·.prekeyId.val) :=
    map_eq_of_forall₂ read fun _ _ related => (oneTimePreKeyUpload_item.mp related.1).2.1.symm
  have storedIds : uploads.map (·.prekeyId.val) = stored.map (·.prekeyId.val) :=
    map_eq_of_forall₂ columns fun _ _ kept => (OneTimePreKeyItem.columns_eq_some.mp kept).2.1
  have lengths : preKeys.length = stored.length := read.length_eq.trans columns.length_eq
  have distinctUploads : (uploads.map fun upload => (upload.deviceId, upload.prekeyId)).Nodup := by
    refine .of_map (·.2.val) ?_
    rw [List.map_map]
    exact ids ▸ distinct
  have distinctStored : (stored.map fun prekey => (prekey.deviceId, prekey.prekeyId)).Nodup := by
    refine .of_map (·.2.val) ?_
    rw [List.map_map]
    exact storedIds ▸ ids ▸ distinct
  have shaped : stored ≠ [] ∧ stored.length ≤ maxBatchLength ∧
      (stored.map fun prekey => (prekey.deviceId, prekey.prekeyId)).Nodup := by
    refine ⟨?_, lengths ▸ short, distinctStored⟩
    intro empty
    rw [empty, List.length_nil] at lengths
    exact filled (List.length_eq_zero_iff.mp lengths)
  refine ⟨⟨stored, shaped.1, shaped.2.1, shaped.2.2⟩, ⟨uploads, ?_, ?_⟩, (ids.trans storedIds).symm⟩
  · exact oneTimePreKeyBatchUploadRequest_body.mpr
      ⟨⟨short, filled⟩, read.imp fun _ _ related => related.1, distinctUploads⟩
  · rw [batchColumns, columns_of_mapM.mpr columns, Option.bind_some, dif_pos shaped]

/-! ## Bundles -/

/-- The gateway reads of a response what the backend has put into it. -/
theorem bundleFromJson_response (userId : String) (bundle : KeyRelay.PreKeyBundleResponse) :
    Client.bundleFromJson userId (preKeyBundleResponse bundle) =
      { userId := userId
        registrationId := bundle.registrationId.val
        deviceId := bundle.deviceId.val
        identityKey := bundle.identityKeyPublicB64
        identitySigningKey := bundle.identitySigningPublicB64
        signedPreKeyId := bundle.signedPrekeyId.val
        signedPreKey := bundle.signedPrekeyPublicB64
        signedPreKeySignature := bundle.signedPrekeySignatureB64
        oneTimePreKeyId := bundle.oneTimePrekeyId.map Subtype.val
        oneTimePreKey := bundle.oneTimePrekeyPublicB64.getD "" } := by
  have fits (number : PositiveInt) :
      Client.QJsonValue.toInt (some (.number number.val)) 0 = number.val := by
    have positive := number.property.1
    exact if_pos ⟨by omega, number.property.2⟩
  obtain ⟨registrationId, deviceId, identityKey, signing, signedPrekeyId, signedPrekey, signature,
    oneTimePrekeyId, oneTimePrekey⟩ := bundle
  simp only [Client.bundleFromJson, Client.value, preKeyBundleResponse, Json.lookup_cons]
  cases oneTimePrekeyId <;> cases oneTimePrekey <;>
    simp [fits, MessageApi.optionalInt, optionalText, Client.QJsonValue.toString,
      Client.QJsonValue.isNull]

end EpicKfc.Source.KeyRequests
