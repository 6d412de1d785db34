import EpicKfc.Lib.StrictModels
import EpicKfc.Source.Server.AnchorVerification
import EpicKfc.Source.Server.KeyRelay
import EpicKfc.Source.Server.MessageRoutes
import EpicKfc.Source.Server.WirePayloads

/-!
# Request bodies

The `StrictRequestModel` schemas of `server/backend/app/schemas`, and the answer to a body they
refuse, with `_sanitize_validation_error` of `server/backend/app/main.py`. The texts of faults
that are not the code's own are pydantic's. A schema lets every positive number through; the
columns hold those below `2 ^ 31`.
-/

namespace EpicKfc.Source.Server.RequestModels
open EpicKfc.Lib
open EpicKfc.Lib.StrictModels
open EpicKfc.Lib.JsonText (Text codePoints)
open EpicKfc.Source.Blockchain
open EpicKfc.Source.Server.BlockchainAnchors
open EpicKfc.Source.Server.MessageRoutes
open EpicKfc.Source.Server.WirePayloads

variable {α : Type}

/-! ## Refused bodies -/

def sensitiveValidationFields : List String :=
  ["access_token", "body", "content", "password", "password_hash", "plaintext", "private_key",
    "refresh_token", "refresh_token_hash", "wire_payload_json"]

def sanitizeLocation : Step → Json
  | .name key => .string (if key ∈ sensitiveValidationFields then "[redacted]" else key)
  | .index position => .number position

def sanitizeValidationError (fault : Fault) : Json := .object [
  ("type", .string fault.type),
  ("loc", .array (fault.loc.map sanitizeLocation)),
  ("msg", .string fault.msg)]

/-- The locations of a body's faults begin with `body`. -/
def validationExceptionHandler (faults : List Fault) : HttpResponse :=
  jsonResponse 422 [("detail", .array (faults.map fun fault =>
    sanitizeValidationError { fault with loc := .name "body" :: fault.loc }))]

/-! ## Fields -/

/-- A `ValueError` of a validator. -/
def valueError (text : String) : Checked α := fail "value_error" ("Value error, " ++ text)

def readStr : Reader String
  | .string text => .ok text
  | _ => fail "string_type" "Input should be a valid string"

/-- A `str` field with `validate_eth_hash`. -/
def readEthHash : Reader Hex32 := andThen readStr fun value =>
  match validateEthHash value with
  | .ok hash => .ok hash
  | .error text => valueError text

/-- `Literal["sepolia"]`. -/
def readChain : Reader AnchorChain
  | .string "sepolia" => .ok .sepolia
  | _ => fail "literal_error" "Input should be 'sepolia'"

/-! ## Anchors -/

/-- The fields of `BlockchainVerifyRequest`. -/
def blockchainVerifyRequest : Reader BlockchainVerifyRequest :=
  strictModel ["digest", "record_id", "merkle_root", "transaction_hash", "chain"] fun members =>
    (both (required "digest" readEthHash members)
      (both (defaulted "record_id" none (orNull readEthHash) members)
        (both (defaulted "merkle_root" none (orNull readEthHash) members)
          (both (defaulted "transaction_hash" none (orNull readEthHash) members)
            (defaulted "chain" .sepolia readChain members))))).map
      fun (digest, recordId, merkleRoot, transactionHash, chain) =>
        ⟨digest, recordId, merkleRoot, transactionHash, chain⟩

/-- `BlockchainVerifyResponse`. -/
def verifyResponse (serializer : MessageApi.DateTimeSerializer) (response : BlockchainVerifyResponse) :
    Json.Members := [
  ("valid", .bool response.valid),
  ("chain", .string (anchorChainText response.chain)),
  ("status", optionalText (response.status.map anchorStatusText)),
  ("anchor_id", MessageApi.optionalUuid response.anchorId),
  ("message_id", MessageApi.optionalUuid response.messageId),
  ("batch_id", MessageApi.optionalUuid response.batchId),
  ("record_id", optionalText response.recordId),
  ("digest", .string response.digest),
  ("merkle_root", optionalText response.merkleRoot),
  ("transaction_hash", optionalText response.transactionHash),
  ("contract_address", optionalText response.contractAddress),
  ("anchored_at", MessageApi.optionalDateTime serializer response.anchoredAt),
  ("verified_at", .string (serializer.text response.verifiedAt))]

/-- `verify_blockchain_anchor`: the body is read before the route begins. -/
def verifyBlockchainAnchor (backend : Backend) (context : RequestContext) (body : Json)
    (session : RequestSession) : HttpResponse × RequestSession :=
  match blockchainVerifyRequest body with
  | .error faults => (validationExceptionHandler faults, session)
  | .ok request => enforceRateLimit context (fun session =>
      (jsonResponse 200 (verifyResponse backend.serializer
        (verifyAnchorMetadata session.working.anchors request context.now)), session)) session

theorem readEthHash_eq_ok {value : String} {hash : Hex32} :
    readEthHash (.string value) = .ok hash ↔ Hex32.parse value = some hash := by
  simp only [readEthHash, andThen_eq_ok, readStr, Except.ok.injEq, exists_eq_left', validateEthHash]
  cases Hex32.parse value <;> simp [valueError, fail]

theorem orNull_readEthHash {value : String} {hash : Hex32} (read : Hex32.parse value = some hash) :
    orNull readEthHash (.string value) = .ok (some hash) := by
  simp [orNull, readEthHash_eq_ok.mpr read, Except.map]

/-! ## Numbers, identifiers and texts -/

/-- What pydantic makes of values that are not of the field's type. -/
structure Pydantic where
  intOfText : String → Checked Int
  intOfFraction : String → Checked Int
  uuidOfText : String → Checked Uuid

variable (pydantic : Pydantic)

def readInt : Reader Int
  | .number value => .ok value
  | .bool value => .ok (if value then 1 else 0)
  | .fraction literal => pydantic.intOfFraction literal
  | .string text => pydantic.intOfText text
  | _ => fail "int_type" "Input should be a valid integer"

abbrev Positive := {value : Int // 0 < value}

/-- `Field(gt=0)`. -/
def readPositive : Reader Positive := andThen (readInt pydantic) fun value =>
  if positive : 0 < value then .ok ⟨value, positive⟩
  else fail "greater_than" "Input should be greater than 0"

/-- A column takes what fits an `Integer`; PostgreSQL's driver refuses the rest. -/
def column (value : Positive) : Option PositiveInt :=
  if fits : value.val < 2 ^ 31 then some ⟨value.val, value.property, fits⟩ else none

def readUuid : Reader Uuid
  | .string text => pydantic.uuidOfText text
  | _ => fail "uuid_type" "UUID input should be a string, bytes or UUID object"

/-- `5 characters`. -/
def counted (count : Nat) (noun : String) : String :=
  toString count ++ " " ++ noun ++ if count = 1 then "" else "s"

abbrev Bounded (minimum maximum : Nat) := {text : String // minimum ≤ text.length ∧ text.length ≤ maximum}

/-- `Field(min_length=minimum, max_length=maximum)`. -/
def readText (minimum maximum : Nat) : Reader (Bounded minimum maximum) := andThen readStr fun text =>
  if sized : minimum ≤ text.length ∧ text.length ≤ maximum then .ok ⟨text, sized⟩
  else if text.length < minimum then
    fail "string_too_short" ("String should have at least " ++ counted minimum "character")
  else fail "string_too_long" ("String should have at most " ++ counted maximum "character")

/-- The text of a validator's `ValueError`. -/
def payloadError (error : WirePayloadError) : Checked α :=
  valueError (String.ofList (error.text.map Char.ofNat))

def maxBase64FieldLength : Nat := 8192

/-- A field with `validate_base64`. -/
def readBase64 : Reader String := andThen (readText 1 maxBase64FieldLength) fun value =>
  match validateBase64 (codePoints value.val) maxBase64FieldLength with
  | .error error => payloadError error
  | .ok _ => .ok value.val

/-- A field with `validate_wire_payload_json`, which returns the text as it is. -/
def readWirePayload : Reader Messages.WirePayload := andThen (readText 2 maxWirePayloadBytes) fun value =>
  match validateWirePayloadJson value.val with
  | .error error => payloadError error
  | .ok _ => .ok ⟨value.val, value.property.1⟩

/-- `Field(min_length=1, max_length=maximum)` of a list, whose items are read until one is too many. -/
def readList (maximum : Nat) (read : Reader α) : Reader (List α)
  | .array list =>
    if maximum < list.length then
      fail "too_long" ("List should have at most " ++ counted maximum "item" ++
        " after validation, not " ++ toString list.length)
    else if list.isEmpty then fail "too_short" "List should have at least 1 item after validation, not 0"
    else items read 0 list
  | _ => fail "list_type" "Input should be a valid list"

/-! ## Keys -/

/-- `DeviceKeyUploadRequest` as the schema lets it through. -/
structure DeviceKeyUpload where
  deviceId : Positive
  registrationId : Positive
  identityKeyPublicB64 : String
  identitySigningPublicB64 : String
  signedPrekeyId : Positive
  signedPrekeyPublicB64 : String
  signedPrekeySignatureB64 : String

def deviceKeyUploadRequest : Reader DeviceKeyUpload :=
  strictModel ["device_id", "registration_id", "identity_key_public_b64",
      "identity_signing_public_b64", "signed_prekey_id", "signed_prekey_public_b64",
      "signed_prekey_signature_b64"] fun members =>
    (both (required "device_id" (readPositive pydantic) members)
      (both (required "registration_id" (readPositive pydantic) members)
        (both (required "identity_key_public_b64" readBase64 members)
          (both (required "identity_signing_public_b64" readBase64 members)
            (both (required "signed_prekey_id" (readPositive pydantic) members)
              (both (required "signed_prekey_public_b64" readBase64 members)
                (required "signed_prekey_signature_b64" readBase64 members))))))).map
      fun (deviceId, registrationId, identityKey, identitySigning, signedPrekeyId, signedPrekey,
          signature) =>
        ⟨deviceId, registrationId, identityKey, identitySigning, signedPrekeyId, signedPrekey, signature⟩

def DeviceKeyUpload.columns (upload : DeviceKeyUpload) : Option KeyRelay.DeviceKeyUploadRequest := do
  let deviceId ← column upload.deviceId
  let registrationId ← column upload.registrationId
  let signedPrekeyId ← column upload.signedPrekeyId
  return ⟨deviceId, ⟨registrationId, upload.identityKeyPublicB64, upload.identitySigningPublicB64,
    signedPrekeyId, upload.signedPrekeyPublicB64, upload.signedPrekeySignatureB64⟩⟩

/-- `OneTimePreKeyUpload` as the schema lets it through. -/
structure OneTimePreKeyItem where
  deviceId : Positive
  prekeyId : Positive
  prekeyPublicB64 : String

def oneTimePreKeyUpload : Reader OneTimePreKeyItem :=
  strictModel ["device_id", "prekey_id", "prekey_public_b64"] fun members =>
    (both (required "device_id" (readPositive pydantic) members)
      (both (required "prekey_id" (readPositive pydantic) members)
        (required "prekey_public_b64" readBase64 members))).map
      fun (deviceId, prekeyId, prekeyPublic) => ⟨deviceId, prekeyId, prekeyPublic⟩

def OneTimePreKeyItem.columns (upload : OneTimePreKeyItem) : Option KeyRelay.OneTimePreKeyUpload := do
  let deviceId ← column upload.deviceId
  let prekeyId ← column upload.prekeyId
  return ⟨deviceId, prekeyId, upload.prekeyPublicB64⟩

def maxBatchLength : Nat := 100

/-- `OneTimePreKeyBatchUploadRequest`, with `validate_unique_batch_prekeys`. -/
def oneTimePreKeyBatchUploadRequest : Reader (List OneTimePreKeyItem) :=
  andThen (strictModel ["prekeys"] (required "prekeys" (readList maxBatchLength
      (oneTimePreKeyUpload pydantic)))) fun prekeys =>
    if (prekeys.map fun prekey => (prekey.deviceId, prekey.prekeyId)).Nodup then .ok prekeys
    else valueError "Duplicate device_id and prekey_id in batch."

/-- The batch that the route takes, when every number has a column to go to. -/
def batchColumns (prekeys : List OneTimePreKeyItem) : Option KeyRelay.OneTimePreKeyBatchUploadRequest :=
  (prekeys.mapM OneTimePreKeyItem.columns).bind fun uploads =>
    if shaped : uploads ≠ [] ∧ uploads.length ≤ maxBatchLength ∧
        (uploads.map fun upload => (upload.deviceId, upload.prekeyId)).Nodup then
      some ⟨uploads, shaped.1, shaped.2.1, shaped.2.2⟩
    else none

/-- `PreKeyBundleResponse` by its aliases. -/
def preKeyBundleResponse (bundle : KeyRelay.PreKeyBundleResponse) : Json.Members := [
  ("registrationId", .number bundle.registrationId.val),
  ("deviceId", .number bundle.deviceId.val),
  ("identityKey", .string bundle.identityKeyPublicB64),
  ("identitySigningKey", .string bundle.identitySigningPublicB64),
  ("signedPreKeyId", .number bundle.signedPrekeyId.val),
  ("signedPreKey", .string bundle.signedPrekeyPublicB64),
  ("signedPreKeySignature", .string bundle.signedPrekeySignatureB64),
  ("oneTimePreKeyId", MessageApi.optionalInt bundle.oneTimePrekeyId),
  ("oneTimePreKey", optionalText bundle.oneTimePrekeyPublicB64)]

/-! ## Messages -/

/-- `MessageCreateRequest` as the schema lets it through. -/
structure MessageCreate where
  senderDeviceId : Positive
  recipientUserId : Uuid
  recipientDeviceId : Positive
  wirePayloadJson : Messages.WirePayload
  consumedOneTimePrekeyId : Option Positive

def messageCreateRequest : Reader MessageCreate :=
  strictModel ["sender_device_id", "recipient_user_id", "recipient_device_id", "wire_payload_json",
      "consumed_one_time_prekey_id"] fun members =>
    (both (required "sender_device_id" (readPositive pydantic) members)
      (both (required "recipient_user_id" (readUuid pydantic) members)
        (both (required "recipient_device_id" (readPositive pydantic) members)
          (both (required "wire_payload_json" readWirePayload members)
            (defaulted "consumed_one_time_prekey_id" none (orNull (readPositive pydantic))
              members))))).map
      fun (senderDeviceId, recipientUserId, recipientDeviceId, wirePayloadJson, consumed) =>
        ⟨senderDeviceId, recipientUserId, recipientDeviceId, wirePayloadJson, consumed⟩

def MessageCreate.columns (message : MessageCreate) : Option Messages.MessageCreateRequest := do
  let senderDeviceId ← column message.senderDeviceId
  let recipientDeviceId ← column message.recipientDeviceId
  let consumed ← message.consumedOneTimePrekeyId.mapM column
  return ⟨senderDeviceId, message.recipientUserId, recipientDeviceId, message.wirePayloadJson, consumed⟩

/-! ## What is accepted -/

variable {pydantic}

@[simp] theorem readPositive_eq_ok {number : Int} {value : Positive} :
    readPositive pydantic (.number number) = .ok value ↔ value.val = number := by
  simp only [readPositive, andThen_eq_ok, readInt, Except.ok.injEq, exists_eq_left']
  split
  · next positive => rw [Except.ok.injEq, Subtype.ext_iff, eq_comm]
  · next refused =>
    simp only [fail, reduceCtorEq, false_iff]
    exact fun same => refused (same ▸ value.property)

theorem column_eq_some {value : Positive} {stored : PositiveInt} :
    column value = some stored ↔ value.val = stored.val := by
  unfold column
  split
  · next fits => rw [Option.some.injEq, Subtype.ext_iff]
  · next large =>
    simp only [reduceCtorEq, false_iff]
    exact fun same => large (same ▸ stored.property.2)

/-- A text within its bounds. -/
theorem readText_eq_ok {minimum maximum : Nat} {text : String} {value : Bounded minimum maximum} :
    readText minimum maximum (.string text) = .ok value ↔ value.val = text := by
  simp only [readText, andThen_eq_ok, readStr, Except.ok.injEq, exists_eq_left']
  split
  · rw [Except.ok.injEq, Subtype.ext_iff, eq_comm]
  · next refused =>
    have unequal : ¬ value.val = text := fun same => refused (same ▸ value.property)
    split <;> simp [fail, unequal]

theorem validateBase64_eq_ok {value result : Text} {maxLength : Nat}
    (valid : validateBase64 value maxLength = .ok result) :
    result = value ∧ 1 ≤ value.length ∧ value.length ≤ maxLength := by
  unfold validateBase64 at valid
  split_ifs at valid with empty long space
  split at valid
  · cases valid
  · split_ifs at valid
    cases valid
    exact ⟨rfl, List.length_pos_iff.mpr empty, not_lt.mp long⟩

/-- Base64 that a field takes. -/
def Base64Field (text : String) : Prop :=
  validateBase64 (codePoints text) maxBase64FieldLength = .ok (codePoints text)

@[simp] theorem readBase64_eq_ok {text value : String} :
    readBase64 (.string text) = .ok value ↔ value = text ∧ Base64Field text := by
  simp only [readBase64, andThen_eq_ok, readText_eq_ok, Base64Field]
  constructor
  · rintro ⟨bounded, rfl, valid⟩
    split at valid
    · simp [payloadError, valueError, fail] at valid
    · next result accepted =>
      obtain ⟨same, -⟩ := validateBase64_eq_ok accepted
      rw [same] at accepted
      exact ⟨(Except.ok.inj valid).symm, accepted⟩
  · rintro ⟨rfl, accepted⟩
    obtain ⟨-, sized⟩ := validateBase64_eq_ok accepted
    rw [codePoints, List.length_map, String.length_toList] at sized
    refine ⟨⟨value, sized⟩, rfl, ?_⟩
    simp only [accepted]

theorem readWirePayload_eq_ok {text : String} {value : Messages.WirePayload} :
    readWirePayload (.string text) = .ok value ↔
      value.val = text ∧ validateWirePayloadJson text = .ok text := by
  simp only [readWirePayload, andThen_eq_ok, readText_eq_ok]
  constructor
  · rintro ⟨bounded, rfl, valid⟩
    split at valid
    · simp [payloadError, valueError, fail] at valid
    · next result accepted =>
      obtain ⟨same, -⟩ := validateWirePayloadJson_ok_iff.mp accepted
      rw [same] at accepted
      exact ⟨congrArg Subtype.val (Except.ok.inj valid).symm, accepted⟩
  · rintro ⟨rfl, accepted⟩
    obtain ⟨-, sized, -⟩ := validateWirePayloadJson_ok_iff.mp accepted
    have short := (Json.length_le_utf8 value.val.toList).trans sized
    rw [String.length_toList] at short
    refine ⟨⟨value.val, value.property, short⟩, rfl, ?_⟩
    simp only [accepted]

@[simp] theorem readUuid_string {text : String} : readUuid pydantic (.string text) = pydantic.uuidOfText text :=
  rfl

/-- The text of an encoding passes the validator when it is not too long. -/
theorem validateBase64_encode {bytes : List (BitVec 8)} (filled : bytes ≠ []) {maxLength : Nat}
    (short : (Base64.encode bytes).length ≤ maxLength) :
    validateBase64 (codePoints (String.ofList (Base64.encode bytes))) maxLength =
      .ok (codePoints (String.ofList (Base64.encode bytes))) := by
  have chars : codePoints (String.ofList (Base64.encode bytes)) =
      (Base64.encode bytes).map Char.toNat := by
    rw [codePoints, String.toList_ofList]
  have back : ((Base64.encode bytes).map Char.toNat).map Char.ofNat = Base64.encode bytes := by
    rw [List.map_map]
    exact List.map_id'' (fun char => Char.ofNat_toNat char) _
  have ascii : ((Base64.encode bytes).map Char.toNat).all (· < 128) = true := by
    simp only [List.all_map, List.all_eq_true, Function.comp_apply, decide_eq_true_eq]
    exact Base64.forall_mem_encode (by decide) (by decide) _
  have spaceless : ((Base64.encode bytes).map Char.toNat).any isSpace = false := by
    simp only [List.any_map, List.any_eq_false, Function.comp_apply, Bool.not_eq_true]
    exact Base64.forall_mem_encode (by decide) (by decide) _
  have decoded : b64decode ((Base64.encode bytes).map Char.toNat) = some bytes := by
    rw [b64decode, back, ascii, Base64.isPadded_encode, Base64.decode_encode]
    rfl
  have written : (Base64.encode bytes).map Char.toNat ≠ [] := by
    intro empty
    rw [empty] at decoded
    exact filled (Option.some.inj decoded).symm
  rw [chars, validateBase64, if_neg written, if_neg (by rw [List.length_map]; omega),
    if_neg (by rw [spaceless]; decide), decoded]
  simp only [if_neg filled]

theorem base64Field_encode {bytes : List (BitVec 8)} (filled : bytes ≠ [])
    (short : (Base64.encode bytes).length ≤ maxBase64FieldLength) :
    Base64Field (String.ofList (Base64.encode bytes)) := validateBase64_encode filled short

/-! ## Fields of what is accepted -/

theorem deviceKeyUploadRequest_eq_ok {members : Json.Members} {upload : DeviceKeyUpload} :
    deviceKeyUploadRequest pydantic (.object members) = .ok upload ↔
      (required "device_id" (readPositive pydantic) members = .ok upload.deviceId ∧
        required "registration_id" (readPositive pydantic) members = .ok upload.registrationId ∧
        required "identity_key_public_b64" readBase64 members = .ok upload.identityKeyPublicB64 ∧
        required "identity_signing_public_b64" readBase64 members =
          .ok upload.identitySigningPublicB64 ∧
        required "signed_prekey_id" (readPositive pydantic) members = .ok upload.signedPrekeyId ∧
        required "signed_prekey_public_b64" readBase64 members = .ok upload.signedPrekeyPublicB64 ∧
        required "signed_prekey_signature_b64" readBase64 members =
          .ok upload.signedPrekeySignatureB64) ∧
      ∀ member ∈ members, member.1 ∈ ["device_id", "registration_id", "identity_key_public_b64",
        "identity_signing_public_b64", "signed_prekey_id", "signed_prekey_public_b64",
        "signed_prekey_signature_b64"] := by
  rw [deviceKeyUploadRequest, strictModel_eq_ok, map_eq_ok]
  refine and_congr_left fun _ => ⟨?_, fun fields => ⟨⟨_, _, _, _, _, _, _⟩, ?_, rfl⟩⟩
  · rintro ⟨values, read, rfl⟩
    simpa only [both_eq_ok] using read
  · simpa only [both_eq_ok] using fields

theorem oneTimePreKeyUpload_eq_ok {members : Json.Members} {upload : OneTimePreKeyItem} :
    oneTimePreKeyUpload pydantic (.object members) = .ok upload ↔
      (required "device_id" (readPositive pydantic) members = .ok upload.deviceId ∧
        required "prekey_id" (readPositive pydantic) members = .ok upload.prekeyId ∧
        required "prekey_public_b64" readBase64 members = .ok upload.prekeyPublicB64) ∧
      ∀ member ∈ members, member.1 ∈ ["device_id", "prekey_id", "prekey_public_b64"] := by
  rw [oneTimePreKeyUpload, strictModel_eq_ok, map_eq_ok]
  refine and_congr_left fun _ => ⟨?_, fun fields => ⟨⟨_, _, _⟩, ?_, rfl⟩⟩
  · rintro ⟨values, read, rfl⟩
    simpa only [both_eq_ok] using read
  · simpa only [both_eq_ok] using fields

theorem messageCreateRequest_eq_ok {members : Json.Members} {message : MessageCreate} :
    messageCreateRequest pydantic (.object members) = .ok message ↔
      (required "sender_device_id" (readPositive pydantic) members = .ok message.senderDeviceId ∧
        required "recipient_user_id" (readUuid pydantic) members = .ok message.recipientUserId ∧
        required "recipient_device_id" (readPositive pydantic) members =
          .ok message.recipientDeviceId ∧
        required "wire_payload_json" readWirePayload members = .ok message.wirePayloadJson ∧
        defaulted "consumed_one_time_prekey_id" none (orNull (readPositive pydantic)) members =
          .ok message.consumedOneTimePrekeyId) ∧
      ∀ member ∈ members, member.1 ∈ ["sender_device_id", "recipient_user_id",
        "recipient_device_id", "wire_payload_json", "consumed_one_time_prekey_id"] := by
  rw [messageCreateRequest, strictModel_eq_ok, map_eq_ok]
  refine and_congr_left fun _ => ⟨?_, fun fields => ⟨⟨_, _, _, _, _⟩, ?_, rfl⟩⟩
  · rintro ⟨values, read, rfl⟩
    simpa only [both_eq_ok] using read
  · simpa only [both_eq_ok] using fields

theorem DeviceKeyUpload.columns_eq_some {upload : DeviceKeyUpload}
    {request : KeyRelay.DeviceKeyUploadRequest} : upload.columns = some request ↔
      upload.deviceId.val = request.deviceId.val ∧
      upload.registrationId.val = request.material.registrationId.val ∧
      upload.signedPrekeyId.val = request.material.signedPrekeyId.val ∧
      upload.identityKeyPublicB64 = request.material.identityKeyPublicB64 ∧
      upload.identitySigningPublicB64 = request.material.identitySigningPublicB64 ∧
      upload.signedPrekeyPublicB64 = request.material.signedPrekeyPublicB64 ∧
      upload.signedPrekeySignatureB64 = request.material.signedPrekeySignatureB64 := by
  obtain ⟨deviceId, material⟩ := request
  obtain ⟨registrationId, identityKey, signing, signedPrekeyId, signedPrekey, signature⟩ := material
  simp only [DeviceKeyUpload.columns, Option.bind_eq_bind, Option.bind_eq_some_iff, Option.pure_def,
    Option.some.injEq, column_eq_some]
  constructor
  · rintro ⟨deviceId, device, registrationId, registration, signedPrekeyId, signedId, same⟩
    cases same
    exact ⟨device, registration, signedId, rfl, rfl, rfl, rfl⟩
  · rintro ⟨device, registration, signedId, rfl, rfl, rfl, rfl⟩
    exact ⟨deviceId, device, registrationId, registration, signedPrekeyId, signedId, rfl⟩

theorem OneTimePreKeyItem.columns_eq_some {upload : OneTimePreKeyItem}
    {stored : KeyRelay.OneTimePreKeyUpload} : upload.columns = some stored ↔
      upload.deviceId.val = stored.deviceId.val ∧ upload.prekeyId.val = stored.prekeyId.val ∧
      upload.prekeyPublicB64 = stored.prekeyPublicB64 := by
  obtain ⟨deviceId, prekeyId, prekeyPublic⟩ := stored
  simp only [OneTimePreKeyItem.columns, Option.bind_eq_bind, Option.bind_eq_some_iff,
    Option.pure_def, Option.some.injEq, column_eq_some]
  constructor
  · rintro ⟨deviceId, device, prekeyId, prekey, same⟩
    cases same
    exact ⟨device, prekey, rfl⟩
  · rintro ⟨device, prekey, rfl⟩
    exact ⟨deviceId, device, prekeyId, prekey, rfl⟩

theorem MessageCreate.columns_eq_some {message : MessageCreate}
    {request : Messages.MessageCreateRequest} : message.columns = some request ↔
      message.senderDeviceId.val = request.senderDeviceId.val ∧
      message.recipientUserId = request.recipientUserId ∧
      message.recipientDeviceId.val = request.recipientDeviceId.val ∧
      message.wirePayloadJson = request.wirePayloadJson ∧
      message.consumedOneTimePrekeyId.map Subtype.val =
        request.consumedOneTimePrekeyId.map Subtype.val := by
  obtain ⟨senderDeviceId, recipientUserId, recipientDeviceId, payload, consumed⟩ := request
  have optional (stored : Option PositiveInt) :
      message.consumedOneTimePrekeyId.mapM column = some stored ↔
        message.consumedOneTimePrekeyId.map Subtype.val = stored.map Subtype.val := by
    cases message.consumedOneTimePrekeyId with
    | none => cases stored <;> simp
    | some given => cases stored <;> simp [column_eq_some]
  simp only [MessageCreate.columns, Option.bind_eq_bind, Option.bind_eq_some_iff, Option.pure_def,
    Option.some.injEq, column_eq_some, optional]
  constructor
  · rintro ⟨senderDeviceId, sender, recipientDeviceId, recipient, consumed, kept, same⟩
    cases same
    exact ⟨sender, rfl, recipient, rfl, kept⟩
  · rintro ⟨sender, rfl, recipient, rfl, kept⟩
    exact ⟨senderDeviceId, sender, recipientDeviceId, recipient, consumed, kept, rfl⟩

end EpicKfc.Source.Server.RequestModels
