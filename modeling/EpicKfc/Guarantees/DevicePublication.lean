import EpicKfc.Guarantees.PreKeyAuthenticity
import EpicKfc.Guarantees.PublishedBundles

/-!
# From a generated device to a trusted bundle

What `loadOrCreateDevice` and `createOneTimePreKeys` generate passes the schemas of
the key routes, and every bundle that is later fetched for the device passes the
client's own check of the signed pre-key.
-/

namespace EpicKfc.Guarantees.DevicePublication
open EpicKfc.Lib
open EpicKfc.Source
open EpicKfc.Source.Client (NativeLibrary SigningLibrary)
open EpicKfc.Source.Client.NativeSignalCryptoProvider
open EpicKfc.Source.Client.StoreDocuments (Draws QByteArray)
open EpicKfc.Source.KeyRequests
open EpicKfc.Source.Server
open EpicKfc.Source.Server.KeyRelay
open EpicKfc.Source.Server.RequestModels (Pydantic Base64Field)
open EpicKfc.Guarantees.MessageRoundTrip
open EpicKfc.Guarantees.PreKeyHandOut
open EpicKfc.Guarantees.PublishedBundles

/-- What OpenSSL promises of a signature that it makes. -/
structure SigningLaws (library : NativeLibrary) (signing : SigningLibrary) : Prop where
  sized : ∀ privateKey message signature,
    signing.ed25519Sign privateKey message = some signature → signature.length = signatureBytes
  verifies : ∀ privateKey message signature,
    signing.ed25519Sign privateKey message = some signature →
      library.ed25519Verify (signing.ed25519PublicKey privateKey) message signature = true

/-- A device that `loadOrCreateDevice` has just generated, with a signature that OpenSSL has made. -/
def GeneratedSigned (library : NativeLibrary) (signing : SigningLibrary) (deviceId : Int)
    (device : Client.DeviceKeyMaterial) : Prop :=
  ∃ (existing : Client.DeviceKeyMaterial) (draws : Draws) (registration : Fin defaultRegistrationIdRange)
      (signature : QByteArray), existing.identityKey = "" ∧
    signing.ed25519Sign (generatedKeys library signing draws).signing.privateKey
      (generatedKeys library signing draws).signedPreKey.publicKey = some signature ∧
    loadOrCreateDevice library signing existing deviceId draws registration = .ok device

variable {library : NativeLibrary} {signing : SigningLibrary}

/-! ## Generated keys -/

/-- A generated device writes keys of the right sizes, and the signature of its signed pre-key. -/
theorem keys_of_generated {deviceId : Int} {device : Client.DeviceKeyMaterial}
    (generated : GeneratedSigned library signing deviceId device) :
    ∃ keys : GeneratedKeys, ∃ (signature : QByteArray) (registration : Fin defaultRegistrationIdRange),
      keys.wrongSize = false ∧
      keys.signing.publicKey = signing.ed25519PublicKey keys.signing.privateKey ∧
      signing.ed25519Sign keys.signing.privateKey keys.signedPreKey.publicKey = some signature ∧
      device = keys.device signature deviceId registration := by
  obtain ⟨existing, draws, registration, signature, fresh, signed, created⟩ := generated
  have empty : ¬ (!existing.identityKey.isEmpty) = true := by simp [fresh]
  have kept : ed25519Sign library signing (generatedKeys library signing draws).signing.privateKey
      (generatedKeys library signing draws).signedPreKey.publicKey = signature := by
    rw [ed25519Sign, signed, Option.getD_some]
  rw [loadOrCreateDevice, if_neg empty] at created
  simp only [kept] at created
  split at created
  · cases created
  · next sized =>
    simp only [Bool.or_eq_true, not_or, Bool.not_eq_true] at sized
    refine ⟨_, signature, registration, sized.1, ?_, signed, (Except.ok.inj created).symm⟩
    have wrong := sized.1
    simp only [GeneratedKeys.wrongSize, Bool.or_eq_false_iff] at wrong
    generalize generated : generatedKeys library signing draws = keys at wrong ⊢
    subst generated
    simp only [generatedKeys] at wrong ⊢
    cases rest : (generateRawKeyPair library draws).2 with
    | nil =>
      rw [rest] at wrong
      simp [generateSigningKeyPair, RawKeyPair.wrongSize, keyBytes] at wrong
    | cons privateKey others => rfl

theorem base64Field_toBase64 {bytes : QByteArray} (filled : 0 < bytes.length)
    (short : bytes.length ≤ signatureBytes) : Base64Field (toBase64 bytes) := by
  refine RequestModels.base64Field_encode (List.length_pos_iff.mp filled) ?_
  rw [Base64.length_encode]
  simp only [signatureBytes, RequestModels.maxBase64FieldLength] at short ⊢
  omega

/-- A pair of the right size. -/
theorem base64Field_key {pair : RawKeyPair} (sized : pair.wrongSize = false) :
    Base64Field (toBase64 pair.publicKey) := by
  simp only [RawKeyPair.wrongSize, Bool.or_eq_false_iff, bne_eq_false_iff_eq] at sized
  exact base64Field_toBase64 (by rw [sized.1]; decide) (by rw [sized.1]; decide)

/-- The loop makes pre-keys with ids in a row. -/
theorem preKeysFrom_eq_ok {deviceId : Int} {count : Nat} :
    ∀ {index : Nat} {draws : Draws} {preKeys : List Client.OneTimePreKey},
      preKeysFrom library deviceId index count draws = .ok preKeys →
      preKeys.map Client.OneTimePreKey.preKeyId =
          (List.range' index count).map (firstPreKeyId + Int.ofNat ·) ∧
        ∀ preKey ∈ preKeys, preKey.deviceId = deviceId ∧ Base64Field preKey.publicKey := by
  induction count with
  | zero =>
    intro index draws preKeys created
    cases created
    exact ⟨rfl, by simp⟩
  | succ count ih =>
    intro index draws preKeys created
    simp only [preKeysFrom] at created
    split_ifs at created with failed
    rw [not_or, not_not, not_not] at failed
    obtain ⟨rest, later, rfl⟩ := StrictModels.map_eq_ok.mp created
    obtain ⟨ids, fields⟩ := ih later
    refine ⟨by rw [List.map_cons, ids, List.range'_succ, List.map_cons]; rfl, ?_⟩
    intro preKey member
    obtain rfl | other := List.mem_cons.mp member
    · refine ⟨rfl, base64Field_key ?_⟩
      rw [RawKeyPair.wrongSize, failed.1, failed.2]
      rfl
    · exact fields preKey other

/-! ## Uploads -/

/-- The schema takes a generated device. -/
theorem uploadsDevice_of_generated {pydantic : Pydantic} (laws : SigningLaws library signing)
    {deviceId : PositiveInt} {device : Client.DeviceKeyMaterial}
    (generated : GeneratedSigned library signing deviceId.val device) :
    ∃ request, UploadsDevice pydantic device request ∧ request.deviceId = deviceId := by
  obtain ⟨keys, signature, registration, sized, -, signed, rfl⟩ := keys_of_generated generated
  simp only [GeneratedKeys.wrongSize, Bool.or_eq_false_iff] at sized
  have length := laws.sized _ _ _ signed
  have register : 0 < defaultRegistrationIdMinimum + (registration : Int) ∧
      defaultRegistrationIdMinimum + (registration : Int) < 2 ^ 31 := by
    have bound := registration.isLt
    simp only [defaultRegistrationIdMinimum, defaultRegistrationIdRange] at bound ⊢
    omega
  refine ⟨⟨deviceId, ⟨⟨_, register⟩, _, _, onePositive, _, _⟩⟩, uploadsDevice_iff.mpr ⟨rfl,
    ⟨rfl, rfl, rfl, rfl, rfl, rfl⟩, base64Field_key sized.1.1, base64Field_key sized.1.2,
    base64Field_key sized.2, base64Field_toBase64 (by rw [length]; decide) length.le⟩, rfl⟩

/-- The schema takes a generated batch, whole and in order. -/
theorem uploadsPreKeys_of_created {pydantic : Pydantic} {deviceId : PositiveInt} {count : Nat}
    (some : 0 < count) (few : count ≤ RequestModels.maxBatchLength) {draws : Draws}
    {preKeys : List Client.OneTimePreKey}
    (created : createOneTimePreKeys library deviceId.val count draws = .ok preKeys) :
    ∃ batch, UploadsPreKeys pydantic preKeys batch ∧
      batch.prekeys.map (·.prekeyId.val) = (List.range' 0 count).map (firstPreKeyId + Int.ofNat ·) := by
  obtain ⟨ids, fields⟩ := preKeysFrom_eq_ok created
  have length : preKeys.length = count := by
    have lengths := congrArg List.length ids
    simpa using lengths
  rw [← ids]
  refine uploadsPreKeys_of_uploadable ?_ (length ▸ few) ?_ ?_
  · exact List.length_pos_iff.mp (length ▸ some)
  · intro preKey member
    obtain ⟨device, publicKey⟩ := fields preKey member
    have listed : preKey.preKeyId ∈ (List.range' 0 count).map (firstPreKeyId + Int.ofNat ·) :=
      ids ▸ List.mem_map_of_mem member
    obtain ⟨index, inRange, same⟩ := List.mem_map.mp listed
    have bound := List.mem_range'.mp inRange
    simp only [firstPreKeyId, Int.ofNat_eq_natCast, RequestModels.maxBatchLength] at same few
    refine ⟨device ▸ deviceId.property, ?_, publicKey⟩
    omega
  · rw [ids]
    refine List.Nodup.map ?_ List.nodup_range'
    intro first second same
    simpa [firstPreKeyId] using same

/-! ## Bundles -/

theorem isValidBase64_toBase64 {bytes : QByteArray} (filled : 0 < bytes.length) :
    isValidBase64 (toBase64 bytes) = true := by
  have bytes_ne : bytes ≠ [] := List.length_pos_iff.mp filled
  have written : (toBase64 bytes).isEmpty = false := by
    rw [Bool.eq_false_iff]
    intro empty
    have decoded := fromBase64_toBase64 bytes
    rw [String.isEmpty_iff.mp empty] at decoded
    exact bytes_ne decoded.symm
  rw [isValidBase64, written, fromBase64_toBase64]
  simpa using bytes_ne

/-- The published bundle of a generated device passes `verifySignedPreKey`. -/
theorem verified_of_generated (laws : SigningLaws library signing) {deviceId : Int}
    {device : Client.DeviceKeyMaterial} (generated : GeneratedSigned library signing deviceId device)
    (userId : String) (preKey : Option Client.OneTimePreKey) :
    verifySignedPreKey library (publishedBundle device userId preKey) = .ok () := by
  obtain ⟨keys, signature, registration, sized, paired, signed, rfl⟩ := keys_of_generated generated
  have verifies := paired ▸ laws.verifies _ _ _ signed
  have length := laws.sized _ _ _ signed
  simp only [GeneratedKeys.wrongSize, RawKeyPair.wrongSize, Bool.or_eq_false_iff,
    bne_eq_false_iff_eq] at sized
  obtain ⟨⟨⟨identity, -⟩, ⟨signingKey, -⟩⟩, ⟨signedPreKey, -⟩⟩ := sized
  have filled {bytes : QByteArray} {size : Nat} (length : bytes.length = size) (positive : 0 < size) :
      isValidBase64 (toBase64 bytes) = true := isValidBase64_toBase64 (length ▸ positive)
  simp only [verifySignedPreKey, publishedBundle, GeneratedKeys.device, fromBase64_toBase64,
    filled identity (by decide), filled signingKey (by decide), filled signedPreKey (by decide),
    filled length (by decide), verifies, Bool.and_self, Bool.not_true, Bool.false_eq_true,
    if_false, if_true]

/-- The schemas take what a device generates, and every bundle that is fetched of it is the device
with one of its pre-keys or none, and passes the check of its signed pre-key. -/
theorem generated_device_trusted (pydantic : Pydantic) (laws : SigningLaws library signing)
    {name : DeviceName} {device : Client.DeviceKeyMaterial}
    (generated : GeneratedSigned library signing name.deviceId.val device) {count : Nat}
    (some : 0 < count) (few : count ≤ RequestModels.maxBatchLength) {draws : Draws}
    {preKeys : List Client.OneTimePreKey}
    (created : createOneTimePreKeys library name.deviceId.val count draws = .ok preKeys) :
    (∃ request, UploadsDevice pydantic device request ∧ request.deviceId = name.deviceId) ∧
    (∃ batch, UploadsPreKeys pydantic preKeys batch ∧
      batch.prekeys.map (·.prekeyId.val) = (List.range' 0 count).map (firstPreKeyId + Int.ofNat ·)) ∧
    ∀ (events : List (RequestId × Statement)) (relay : Relay),
      Runs.run relayStep {} events = .some relay →
      (∀ request body, (request, Statement.startUpsert name body) ∈ events →
        UploadsDevice pydantic device body) →
      (∀ request batch, (request, Statement.startUpload name batch) ∈ events →
        UploadsPreKeys pydantic preKeys batch) →
      ∀ record ∈ relay.responses, record.target = name → ∀ userId,
        ∃ preKey : Option Client.OneTimePreKey, (∀ given ∈ preKey, given ∈ preKeys) ∧
          Client.bundleFromJson userId (RequestModels.preKeyBundleResponse record.bundle) =
            publishedBundle device userId preKey ∧
          verifySignedPreKey library (publishedBundle device userId preKey) = .ok () := by
  refine ⟨uploadsDevice_of_generated laws generated, uploadsPreKeys_of_created some few created, ?_⟩
  rintro events relay ends devices batches record member rfl userId
  have publishes := publishes_of_joined devices
    (fun request batch uploads => ⟨preKeys, List.Subset.refl _, batches request batch uploads⟩)
    (joined_of_run ends record member)
  obtain ⟨preKey, given, same⟩ := publishes.bundleFromJson userId
  exact ⟨preKey, given, same, verified_of_generated laws generated userId preKey⟩

/-! ## A device and its bundle -/

/-- OpenSSL signs the sample's pre-key with the sample's key, and is not asked for more. -/
def bobsSignature : SigningLibrary where
  ed25519PublicKey := twoSignings.ed25519PublicKey
  ed25519Sign privateKey message :=
    if privateKey = bobSigning.privateKey ∧ message = bobPreKeyPair.publicKey then
      some bobPreKeySignature
    else none

def bobsTables : SampleTables :=
  { helloTables with
    verified := [(bobSigning.publicKey, bobPreKeyPair.publicKey, bobPreKeySignature)] }

theorem bobsTables_sound : bobsTables.Sound :=
  ⟨helloTables_sound.sizes, helloTables_sound.paired, helloTables_sound.owners,
    helloTables_sound.openings⟩

theorem bobsSignature_laws : SigningLaws bobsTables.native bobsSignature := by
  have made {privateKey message signature : QByteArray}
      (signed : bobsSignature.ed25519Sign privateKey message = some signature) :
      privateKey = bobSigning.privateKey ∧ message = bobPreKeyPair.publicKey ∧
        signature = bobPreKeySignature := by
    simp only [bobsSignature] at signed
    split_ifs at signed with same
    exact ⟨same.1, same.2, (Option.some.inj signed).symm⟩
  constructor
  · intro privateKey message signature signed
    obtain ⟨-, -, rfl⟩ := made signed
    decide
  · intro privateKey message signature signed
    obtain ⟨rfl, rfl, rfl⟩ := made signed
    decide

theorem generatedSigned_bob : GeneratedSigned bobsTables.native bobsSignature 1 bob := by
  have identity : bobIdentityPair ∈ bobsTables.pairs := by simp [bobsTables, helloTables]
  have signedPreKey : bobPreKeyPair ∈ bobsTables.pairs := by simp [bobsTables, helloTables]
  have drawn : generatedKeys bobsTables.native bobsSignature
      [bobIdentityPair.privateKey, bobSigning.privateKey, bobPreKeyPair.privateKey] =
        ⟨bobIdentityPair, bobSigning, bobPreKeyPair⟩ := by
    have signingKey : bobsSignature.ed25519PublicKey bobSigning.privateKey = bobSigning.publicKey := by
      decide
    simp only [generatedKeys, generateRawKeyPair, generateSigningKeyPair,
      bobsTables_sound.paired _ identity, bobsTables_sound.paired _ signedPreKey, signingKey]
  have signed : bobsSignature.ed25519Sign bobSigning.privateKey bobPreKeyPair.publicKey =
      some bobPreKeySignature := by
    simp only [bobsSignature, and_self, if_true]
  refine ⟨⟨0, 0, "", "", "", "", 0, "", "", ""⟩,
    [bobIdentityPair.privateKey, bobSigning.privateKey, bobPreKeyPair.privateKey], firstRegistration,
    bobPreKeySignature, rfl, by rw [drawn]; exact signed, ?_⟩
  have sized : GeneratedKeys.wrongSize ⟨bobIdentityPair, bobSigning, bobPreKeyPair⟩ = false := by
    simp only [GeneratedKeys.wrongSize, wrongSize_of_sound bobsTables_sound identity,
      wrongSize_of_sound bobsTables_sound signedPreKey, Bool.false_or, Bool.or_false]
    decide
  have kept : ed25519Sign bobsTables.native bobsSignature bobSigning.privateKey
      bobPreKeyPair.publicKey = bobPreKeySignature := by
    rw [ed25519Sign, signed, Option.getD_some]
  have filled : bobPreKeySignature.isEmpty = false := by decide
  rw [loadOrCreateDevice, if_neg (by simp), drawn]
  simp only [sized, kept, filled, Bool.or_self, Bool.false_eq_true, if_false]
  rfl

def bobsPreKeys : List Client.OneTimePreKey :=
  [⟨1, 1, toBase64 ephemeralPair.publicKey, toBase64 ephemeralPair.privateKey, false⟩]

theorem created_bob : createOneTimePreKeys bobsTables.native 1 1 [ephemeralPair.privateKey] =
    .ok bobsPreKeys := by
  have member : ephemeralPair ∈ bobsTables.pairs := by simp [bobsTables, helloTables]
  have sizes := bobsTables_sound.sizes _ member
  simp only [createOneTimePreKeys, preKeysFrom, generateRawKeyPair, bobsTables_sound.paired _ member,
    sizes, ne_eq, not_true_eq_false, or_self, if_false]
  rfl

def bobsBatch : OneTimePreKeyBatchUploadRequest where
  prekeys := [⟨onePositive, onePositive, toBase64 ephemeralPair.publicKey⟩]
  nonempty := by simp
  length_le := by simp
  distinct := by simp

theorem uploadsPreKeys_bob {pydantic : Pydantic} :
    UploadsPreKeys pydantic bobsPreKeys bobsBatch := by
  have sized : ephemeralPair.wrongSize = false :=
    wrongSize_of_sound bobsTables_sound (by simp [bobsTables, helloTables])
  refine ⟨[⟨⟨1, by decide⟩, ⟨1, by decide⟩, toBase64 ephemeralPair.publicKey⟩],
    oneTimePreKeyBatchUploadRequest_body.mpr ⟨⟨by decide, by decide⟩, ?_, by decide⟩, rfl⟩
  exact .cons (oneTimePreKeyUpload_item.mpr ⟨rfl, rfl, rfl, base64Field_key sized⟩) .nil

def bobsMaterial : DeviceKeyMaterial where
  registrationId := ⟨bob.registrationId, by decide⟩
  identityKeyPublicB64 := bob.identityKey
  identitySigningPublicB64 := bob.identitySigningKey
  signedPrekeyId := onePositive
  signedPrekeyPublicB64 := bob.signedPreKey
  signedPrekeySignatureB64 := bob.signedPreKeySignature

theorem uploadsDevice_bob {pydantic : Pydantic} :
    UploadsDevice pydantic bob ⟨sampleDevice.deviceId, bobsMaterial⟩ := by
  have sized {pair : RawKeyPair} (member : pair ∈ bobsTables.pairs) :
      Base64Field (toBase64 pair.publicKey) :=
    base64Field_key (wrongSize_of_sound bobsTables_sound member)
  have signing : bobSigning.wrongSize = false := by decide
  refine uploadsDevice_iff.mpr ⟨rfl, ⟨rfl, rfl, rfl, rfl, rfl, rfl⟩, sized ?_,
    base64Field_key signing, sized ?_, base64Field_toBase64 (by decide) (by decide)⟩
  · simp [bobsTables, helloTables]
  · simp [bobsTables, helloTables]

def otherDevice : DeviceName := ⟨2, onePositive⟩

/-- A device and its pre-key are uploaded and fetched twice, while another device is uploaded and
fetched. -/
def deviceRun : List (RequestId × Statement) :=
  [(0, .startUpsert sampleDevice ⟨sampleDevice.deviceId, bobsMaterial⟩),
    (1, .startUpsert otherDevice ⟨otherDevice.deviceId, sampleMaterial "aWQw"⟩),
    (0, .flushUpsert .newYear2026), (0, .commitUpsert),
    (1, .flushUpsert .newYear2026), (1, .commitUpsert),
    (2, .startUpload sampleDevice bobsBatch), (2, .insertPreKey), (2, .commitUpload)] ++
  sampleFetch 3 ++
  [(4, .startFetch otherDevice true), (5, .startFetch sampleDevice true), (4, .selectPreKeys),
    (4, .visitPreKey), (4, .respond), (5, .selectPreKeys), (5, .visitPreKey), (5, .respond)]

/-- The responses are listed latest first. -/
theorem responses_deviceRun : (Runs.run relayStep {} deviceRun).map (fun relay =>
    relay.responses.map fun record => (record.target, record.bundle.oneTimePrekeyId)) =
      some [(sampleDevice, none), (otherDevice, none), (sampleDevice, some onePositive)] := by
  decide +kernel

theorem uploads_deviceRun {pydantic : Pydantic} :
    (∀ request body, (request, Statement.startUpsert sampleDevice body) ∈ deviceRun →
      UploadsDevice pydantic bob body) ∧
    ∀ request batch, (request, Statement.startUpload sampleDevice batch) ∈ deviceRun →
      UploadsPreKeys pydantic bobsPreKeys batch := by
  constructor
  · intro request body uploaded
    have apart : sampleDevice ≠ otherDevice := by decide
    simp only [deviceRun, sampleFetch, List.cons_append, List.nil_append, List.mem_cons,
      Prod.mk.injEq, reduceCtorEq, and_false, List.not_mem_nil, or_false,
      Statement.startUpsert.injEq, true_and, apart, false_and] at uploaded
    obtain ⟨-, rfl⟩ := uploaded
    exact uploadsDevice_bob
  · intro request batch uploaded
    simp only [deviceRun, sampleFetch, List.cons_append, List.nil_append, List.mem_cons,
      Prod.mk.injEq, reduceCtorEq, and_false, List.not_mem_nil, or_false, false_or,
      Statement.startUpload.injEq, true_and] at uploaded
    obtain ⟨-, rfl⟩ := uploaded
    exact uploadsPreKeys_bob

theorem generated_device_trusted_bob : ∃ relay : Relay,
    relay.responses.map (fun record => (record.target, record.bundle.oneTimePrekeyId)) =
      [(sampleDevice, none), (otherDevice, none), (sampleDevice, some onePositive)] ∧
    ∀ record ∈ relay.responses, record.target = sampleDevice →
      ∃ preKey : Option Client.OneTimePreKey, (∀ given ∈ preKey, given ∈ bobsPreKeys) ∧
        Client.bundleFromJson "bob" (RequestModels.preKeyBundleResponse record.bundle) =
          publishedBundle bob "bob" preKey ∧
        verifySignedPreKey bobsTables.native (publishedBundle bob "bob" preKey) = .ok () := by
  obtain ⟨-, -, trusted⟩ := @generated_device_trusted _ _ strictPydantic
    bobsSignature_laws sampleDevice _ generatedSigned_bob _ (by decide) (by decide) _ _ created_bob
  obtain ⟨relay, final, responses⟩ := Option.map_eq_some_iff.mp responses_deviceRun
  obtain ⟨devices, batches⟩ := uploads_deviceRun
  refine ⟨relay, responses, fun record member target => ?_⟩
  exact trusted _ relay final devices batches record member target "bob"

end EpicKfc.Guarantees.DevicePublication
