import EpicKfc.Guarantees.SecretsAtRest
import EpicKfc.Source.Client.ClientRuns
import EpicKfc.Source.Client.DeviceKeys
import EpicKfc.Source.Client.MessageService

/-!
# Encryption and decryption of a message

The recipient derives the sender's shared secret and message key from the other
halves of the keys, and rebuilds the associated data from the payload. What is lost
is the byte order mark that a plaintext may begin with.
-/

namespace EpicKfc.Guarantees.MessageRoundTrip
open EpicKfc.Lib
open EpicKfc.Source.Client
open EpicKfc.Source.Client.StoreDocuments
open EpicKfc.Source.Client.NativeSignalCryptoProvider

/-- What OpenSSL and Qt's text functions promise. -/
structure WireLaws (library : NativeLibrary) : Prop where
  commutes : ∀ first second, (library.x25519PublicKey first).length = keyBytes →
    (library.x25519PublicKey second).length = keyBytes →
      library.x25519 first (library.x25519PublicKey second) =
        library.x25519 second (library.x25519PublicKey first)
  opens : ∀ plaintext key iv aad ciphertext tag,
    library.aesGcmEncrypt plaintext key iv aad = some (ciphertext, tag) →
      library.aesGcmDecrypt ciphertext key iv aad tag = some plaintext
  utf8 : ∀ text, ¬ StartsWithBom text → library.fromUtf8 (toUtf8 text) = text

/-- Qt's reader gives an object back from the text that its writer makes of it. -/
def ReadsBack (library : NativeLibrary) (object : Json.Members) : Prop :=
  library.documentObject (Json.utf8 (toJson object)) = object

/-- A device that `loadOrCreateDevice` has just generated. -/
def Generated (library : NativeLibrary) (signing : SigningLibrary) (device : DeviceKeyMaterial) :
    Prop :=
  ∃ existing deviceId draws registration, existing.identityKey = "" ∧
    loadOrCreateDevice library signing existing deviceId draws registration = .ok device

/-- The payload that `encrypt` wraps. -/
def sealedRoot (library : NativeLibrary) (senderDevice : DeviceKeyMaterial)
    (recipientBundle : PreKeyBundle) (plaintext : String) (draws : Draws) : Option Json.Members :=
  let (ratchetKey, draws) := generateRawKeyPair library draws
  let (ephemeralKey, draws) := generateRawKeyPair library draws
  let sharedSecret := kdfX3dh library (sentSecrets library senderDevice recipientBundle ephemeralKey)
  let key := firstRatchetMessageKey library sharedSecret ratchetKey.privateKey
    (fromBase64 recipientBundle.signedPreKey)
  let iv := NativeSignalCryptoProvider.randomBytes ivBytes draws
  (library.aesGcmEncrypt (toUtf8 plaintext) key iv (aadFor 0 0 ratchetKey.publicKey)).map fun output =>
    sealedPayload senderDevice ratchetKey ephemeralKey iv output.1 output.2

/-- The objects that `encrypt` writes as JSON. -/
def writtenObjects (library : NativeLibrary) (senderDevice : DeviceKeyMaterial)
    (recipientBundle : PreKeyBundle) (plaintext : String) (draws : Draws) : List Json.Members :=
  (sealedRoot library senderDevice recipientBundle plaintext draws).toList.flatMap fun root =>
    [root, envelope root recipientBundle.registrationId]

variable {library : NativeLibrary} {signing : SigningLibrary}

/-! ## Devices -/

/-- The public keys of a device belong to its private keys. -/
structure PairedKeys (library : NativeLibrary) (device : DeviceKeyMaterial) : Prop where
  identity : fromBase64 device.identityKey =
    library.x25519PublicKey (fromBase64 device.identityPrivateKey)
  signedPreKey : fromBase64 device.signedPreKey =
    library.x25519PublicKey (fromBase64 device.signedPreKeyPrivate)
  identitySize : (library.x25519PublicKey (fromBase64 device.identityPrivateKey)).length = keyBytes
  signedPreKeySize :
    (library.x25519PublicKey (fromBase64 device.signedPreKeyPrivate)).length = keyBytes

theorem pairedKeys_of_generated {device : DeviceKeyMaterial}
    (generated : Generated library signing device) : PairedKeys library device := by
  obtain ⟨existing, deviceId, draws, registration, fresh, created⟩ := generated
  have empty : ¬ (!existing.identityKey.isEmpty) = true := by simp [fresh]
  rw [loadOrCreateDevice, if_neg empty] at created
  generalize kept : generatedKeys library signing draws = keys at created
  dsimp only at created
  by_cases failed : (keys.wrongSize ||
      (ed25519Sign library signing keys.signing.privateKey keys.signedPreKey.publicKey).isEmpty) = true
  · rw [if_pos failed] at created
    cases created
  rw [if_neg failed, Except.ok.injEq] at created
  subst created kept
  simp only [GeneratedKeys.wrongSize, RawKeyPair.wrongSize, Bool.or_eq_true, bne_iff_ne, ne_eq, not_or,
    not_not] at failed
  obtain ⟨⟨⟨⟨identitySize, -⟩, -⟩, signedPreKeySize, -⟩, -⟩ := failed
  have identity := generateRawKeyPair_pair library identitySize
  have signedPreKey := generateRawKeyPair_pair library signedPreKeySize
  constructor
  all_goals simp only [GeneratedKeys.device, fromBase64_toBase64]
  · exact identity
  · exact signedPreKey
  · exact identity ▸ identitySize
  · exact signedPreKey ▸ signedPreKeySize

/-- A device is generated when its keys have the right sizes and the pre-key is signed. -/
theorem generated_of_keys {keys : GeneratedKeys} {draws : Draws} {signature : QByteArray} (deviceId : Int)
    (registration : Fin defaultRegistrationIdRange)
    (drawn : generatedKeys library signing draws = keys) (sized : keys.wrongSize = false)
    (signed : signing.ed25519Sign keys.signing.privateKey keys.signedPreKey.publicKey = some signature)
    (filled : signature ≠ []) :
    Generated library signing (keys.device signature deviceId registration) := by
  refine ⟨⟨0, 0, "", "", "", "", 0, "", "", ""⟩, deviceId, draws, registration, rfl, ?_⟩
  have kept : ed25519Sign library signing keys.signing.privateKey keys.signedPreKey.publicKey =
      signature := by
    rw [ed25519Sign, signed, Option.getD_some]
  rw [loadOrCreateDevice, if_neg (by simp), drawn]
  simp only [sized, kept, List.isEmpty_eq_false_iff.mpr filled, Bool.or_false, Bool.false_eq_true,
    if_false]

/-! ## The two derivations -/

theorem x25519Dh_comm (laws : WireLaws library) {first second : QByteArray}
    (size : (library.x25519PublicKey first).length = keyBytes)
    (size' : (library.x25519PublicKey second).length = keyBytes) :
    x25519Dh library first (library.x25519PublicKey second) =
      x25519Dh library second (library.x25519PublicKey first) := by
  rw [x25519Dh, x25519Dh, laws.commutes first second size size']

/-- A generated pair of keys. -/
def IsPair (library : NativeLibrary) (pair : RawKeyPair) : Prop :=
  pair.publicKey = library.x25519PublicKey pair.privateKey ∧ pair.publicKey.length = keyBytes

theorem isPair_of_generated {draws : Draws}
    (sized : (generateRawKeyPair library draws).1.publicKey.length = keyBytes) :
    IsPair library (generateRawKeyPair library draws).1 :=
  ⟨generateRawKeyPair_pair library sized, sized⟩

/-- Both sides reach the same three secrets, from their own halves of the keys. -/
theorem receivedSecrets_eq (laws : WireLaws library) {senderDevice recipientDevice : DeviceKeyMaterial}
    (sender : PairedKeys library senderDevice) (recipient : PairedKeys library recipientDevice)
    {ephemeralKey : RawKeyPair} (pair : IsPair library ephemeralKey) {recipientBundle : PreKeyBundle}
    (identity : recipientBundle.identityKey = recipientDevice.identityKey)
    (signedPreKey : recipientBundle.signedPreKey = recipientDevice.signedPreKey) {x3dh : Json.Members}
    (identityKey : (value x3dh "identityKey").toString = senderDevice.identityKey)
    (ephemeral : (value x3dh "ephemeralKey").toString = toBase64 ephemeralKey.publicKey) :
    receivedSecrets library recipientDevice x3dh =
      sentSecrets library senderDevice recipientBundle ephemeralKey := by
  obtain ⟨pair, size⟩ := pair
  rw [pair] at size
  simp only [receivedSecrets, sentSecrets, identityKey, ephemeral, identity, signedPreKey,
    fromBase64_toBase64, pair, sender.identity, recipient.identity, recipient.signedPreKey]
  rw [x25519Dh_comm laws recipient.signedPreKeySize sender.identitySize,
    x25519Dh_comm laws recipient.identitySize size, x25519Dh_comm laws recipient.signedPreKeySize size]

/-! ## The payload -/

theorem value_sealedPayload (senderDevice : DeviceKeyMaterial) (ratchetKey ephemeralKey : RawKeyPair)
    (iv ciphertext tag : QByteArray) :
    let root := sealedPayload senderDevice ratchetKey ephemeralKey iv ciphertext tag
    (value root "counter").toInt 0 = 0 ∧ (value root "previousCounter").toInt 0 = 0 ∧
      (value root "ciphertext").toString = toBase64 ciphertext ∧
      (value root "iv").toString = toBase64 iv ∧ (value root "authTag").toString = toBase64 tag ∧
      (value root "ratchetPublicKey").toString = toBase64 ratchetKey.publicKey ∧
      (value root "x3dh").toObject = Json.ofMembers [
        ("identityKey", .string senderDevice.identityKey),
        ("ephemeralKey", .string (toBase64 ephemeralKey.publicKey))] := by
  simp only [sealedPayload]
  refine ⟨?_, ?_, ?_, ?_, ?_, ?_, ?_⟩
  all_goals
    rw [value_ofMembers (by simp)]
    simp [Json.lookup_cons, QJsonValue.toInt, QJsonValue.toString, QJsonValue.toObject]

theorem wrapWirePayload_ne_empty (payload : Json.Members) (registrationId : Int) :
    wrapWirePayload payload registrationId ≠ "" := by
  intro empty
  have characters := congrArg String.toList empty
  rw [wrapWirePayload, String.toList_ofList, toJson, Json.compact] at characters
  cases characters

/-- The message key that the sender derives. -/
def sentKey (library : NativeLibrary) (senderDevice : DeviceKeyMaterial) (recipientBundle : PreKeyBundle)
    (ratchetKey ephemeralKey : RawKeyPair) : QByteArray :=
  firstRatchetMessageKey library
    (kdfX3dh library (sentSecrets library senderDevice recipientBundle ephemeralKey))
    ratchetKey.privateKey (fromBase64 recipientBundle.signedPreKey)

/-- A message that is sent wraps what was sealed under the key of two generated pairs. -/
theorem encrypt_eq_ok {senderUserId : String} {senderDevice : DeviceKeyMaterial}
    {recipientBundle : PreKeyBundle} {plaintext : String} {draws : Draws} {payload : EncryptedPayload}
    (sent : encrypt library senderUserId senderDevice recipientBundle plaintext draws = .ok payload) :
    ∃ ratchetKey ephemeralKey iv ciphertext tag,
      IsPair library ratchetKey ∧ IsPair library ephemeralKey ∧
      (sentKey library senderDevice recipientBundle ratchetKey ephemeralKey).length = keyBytes ∧
      library.aesGcmEncrypt (toUtf8 plaintext)
        (sentKey library senderDevice recipientBundle ratchetKey ephemeralKey) iv
        (aadFor 0 0 ratchetKey.publicKey) = some (ciphertext, tag) ∧
      sealedRoot library senderDevice recipientBundle plaintext draws =
        some (sealedPayload senderDevice ratchetKey ephemeralKey iv ciphertext tag) ∧
      payload = ⟨wrapWirePayload (sealedPayload senderDevice ratchetKey ephemeralKey iv ciphertext tag)
        recipientBundle.registrationId, none⟩ := by
  simp only [encrypt] at sent
  split at sent
  · cases sent
  · split at sent
    · cases sent
    · next generated =>
      rw [not_or, not_not, not_not] at generated
      split at sent
      · cases sent
      · next derived =>
        split at sent
        · cases sent
        · next sealed =>
          rw [Except.ok.injEq] at sent
          subst sent
          refine ⟨_, _, _, _, _, isPair_of_generated generated.1, isPair_of_generated generated.2,
            not_not.mp derived, sealed, ?_, rfl⟩
          simp only [sealedRoot, sealed, Option.map_some]

theorem unconsumed_of_encrypt {senderUserId : String} {senderDevice : DeviceKeyMaterial}
    {recipientBundle : PreKeyBundle} {plaintext : String} {draws : Draws} {payload : EncryptedPayload}
    (sent : encrypt library senderUserId senderDevice recipientBundle plaintext draws = .ok payload) :
    payload.consumedOneTimePreKeyId = none := by
  obtain ⟨_, _, _, _, _, -, -, -, -, -, rfl⟩ := encrypt_eq_ok sent
  rfl

/-- A message goes out when its keys are generated and OpenSSL seals it. -/
theorem encrypt_of_sealed {senderDevice : DeviceKeyMaterial} {recipientBundle : PreKeyBundle}
    {plaintext : String} {ratchetKey ephemeralKey : RawKeyPair} {nonce ciphertext tag : QByteArray}
    (filled : (library.trimmed plaintext).isEmpty = false) (ratchet : IsPair library ratchetKey)
    (ephemeral : IsPair library ephemeralKey)
    (derived : (sentKey library senderDevice recipientBundle ratchetKey ephemeralKey).length = keyBytes)
    (sealed : library.aesGcmEncrypt (toUtf8 plaintext)
      (sentKey library senderDevice recipientBundle ratchetKey ephemeralKey)
      (NativeSignalCryptoProvider.randomBytes ivBytes [nonce]) (aadFor 0 0 ratchetKey.publicKey) =
        some (ciphertext, tag)) (senderUserId : String) :
    let draws := [ratchetKey.privateKey, ephemeralKey.privateKey, nonce]
    let root := sealedPayload senderDevice ratchetKey ephemeralKey
      (NativeSignalCryptoProvider.randomBytes ivBytes [nonce]) ciphertext tag
    encrypt library senderUserId senderDevice recipientBundle plaintext draws =
        .ok ⟨wrapWirePayload root recipientBundle.registrationId, none⟩ ∧
      writtenObjects library senderDevice recipientBundle plaintext draws =
        [root, envelope root recipientBundle.registrationId] := by
  have drawn (pair : RawKeyPair) (owned : IsPair library pair) :
      (⟨library.x25519PublicKey pair.privateKey, pair.privateKey⟩ : RawKeyPair) = pair := by
    rw [← owned.1]
  rw [sentKey] at derived sealed
  constructor
  · simp only [encrypt, filled, generateRawKeyPair, drawn _ ratchet, drawn _ ephemeral, ratchet.2,
      ephemeral.2, derived, sealed, ne_eq, not_true_eq_false, or_self, Bool.false_eq_true, if_false]
  · simp only [writtenObjects, sealedRoot, generateRawKeyPair, drawn _ ratchet, drawn _ ephemeral, sealed,
      Option.map_some, Option.toList_some, List.flatMap_cons, List.flatMap_nil, List.append_nil]

/-- The recipient derives the sender's key and opens what was sealed under it. -/
theorem decrypt_sealedPayload (laws : WireLaws library) {senderDevice recipientDevice : DeviceKeyMaterial}
    (sender : PairedKeys library senderDevice) (recipient : PairedKeys library recipientDevice)
    {ratchetKey ephemeralKey : RawKeyPair} (ratchet : IsPair library ratchetKey)
    (ephemeral : IsPair library ephemeralKey) {recipientBundle : PreKeyBundle}
    (identity : recipientBundle.identityKey = recipientDevice.identityKey)
    (signedPreKey : recipientBundle.signedPreKey = recipientDevice.signedPreKey)
    {plaintext iv ciphertext tag : QByteArray}
    (derived : (sentKey library senderDevice recipientBundle ratchetKey ephemeralKey).length = keyBytes)
    (sealed : library.aesGcmEncrypt plaintext
      (sentKey library senderDevice recipientBundle ratchetKey ephemeralKey) iv
      (aadFor 0 0 ratchetKey.publicKey) = some (ciphertext, tag))
    {currentUserId : String} {message : LocalMessage}
    (unwrapped : unwrapWirePayload library message.wirePayloadJson =
      sealedPayload senderDevice ratchetKey ephemeralKey iv ciphertext tag)
    (unconsumed : message.consumedOneTimePreKeyId = none) (oneTimePreKey : Option OneTimePreKey) :
    decrypt library currentUserId recipientDevice message oneTimePreKey =
      .ok (library.fromUtf8 plaintext) := by
  obtain ⟨counter, previousCounter, ciphertextField, ivField, tagField, ratchetField, x3dhField⟩ :=
    value_sealedPayload senderDevice ratchetKey ephemeralKey iv ciphertext tag
  have secrets : receivedSecrets library recipientDevice (value (sealedPayload senderDevice ratchetKey
      ephemeralKey iv ciphertext tag) "x3dh").toObject =
        sentSecrets library senderDevice recipientBundle ephemeralKey := by
    rw [x3dhField]
    refine receivedSecrets_eq laws sender recipient ephemeral identity signedPreKey ?_ ?_
    all_goals
      rw [value_ofMembers (by simp)]
      simp [Json.lookup_cons, QJsonValue.toString]
  have key : receivedKey library recipientDevice (sealedPayload senderDevice ratchetKey ephemeralKey iv
      ciphertext tag) [] = sentKey library senderDevice recipientBundle ratchetKey ephemeralKey := by
    rw [receivedKey, secrets, List.append_nil, ratchetField, fromBase64_toBase64, sentKey,
      firstRatchetMessageKey, firstRatchetMessageKey, signedPreKey, recipient.signedPreKey, ratchet.1,
      x25519Dh_comm laws recipient.signedPreKeySize (ratchet.1 ▸ ratchet.2)]
  have aad : receivedAad (sealedPayload senderDevice ratchetKey ephemeralKey iv ciphertext tag) =
      aadFor 0 0 ratchetKey.publicKey := by
    rw [receivedAad, counter, previousCounter, ratchetField, fromBase64_toBase64]
  have present : ¬ (value (sealedPayload senderDevice ratchetKey ephemeralKey iv ciphertext tag)
      "x3dh").toObject.isEmpty = true := by
    rw [x3dhField]
    simp only [Json.ofMembers, List.foldl_cons, List.foldl_nil, Json.insert]
    split
    · simp
    · split <;> simp
  have opened := laws.opens _ _ _ _ _ _ sealed
  simp only [decrypt, unwrapped]
  rw [if_neg present]
  simp only [oneTimeSecret, unconsumed, key, aad, ciphertextField, ivField, tagField,
    fromBase64_toBase64, opened, derived, ne_eq, not_true_eq_false, if_false]

/-- The recipient opens what the sender has encrypted. -/
theorem decrypt_encrypt (laws : WireLaws library) {senderDevice recipientDevice : DeviceKeyMaterial}
    (sender : PairedKeys library senderDevice) (recipient : PairedKeys library recipientDevice)
    {senderUserId currentUserId plaintext : String} {recipientBundle : PreKeyBundle} {draws : Draws}
    {payload : EncryptedPayload} (identity : recipientBundle.identityKey = recipientDevice.identityKey)
    (signedPreKey : recipientBundle.signedPreKey = recipientDevice.signedPreKey)
    (sent : encrypt library senderUserId senderDevice recipientBundle plaintext draws = .ok payload)
    (json : ∀ object ∈ writtenObjects library senderDevice recipientBundle plaintext draws,
      ReadsBack library object)
    {message : LocalMessage} (wire : message.wirePayloadJson = payload.wirePayloadJson)
    (consumed : message.consumedOneTimePreKeyId = payload.consumedOneTimePreKeyId)
    (oneTimePreKey : Option OneTimePreKey) :
    decrypt library currentUserId recipientDevice message oneTimePreKey =
      .ok (library.fromUtf8 (toUtf8 plaintext)) := by
  obtain ⟨ratchetKey, ephemeralKey, iv, ciphertext, tag, ratchet, ephemeral, derived, sealed, root,
    rfl⟩ := encrypt_eq_ok sent
  rw [writtenObjects, root] at json
  refine decrypt_sealedPayload laws sender recipient ratchet ephemeral identity signedPreKey derived
    sealed ?_ consumed oneTimePreKey
  rw [wire]
  exact unwrapWirePayload_wrapWirePayload library (json _ (by simp)) (json _ (by simp))

/-! ## Messages and local copies -/

theorem createLocalSenderCopy_native {setup : ClientSetup} (native : setup.crypto = provider library)
    {io : ClientIo} {draws : Draws} (drawn : io.draws = draws) (client : ClientState)
    (device : DeviceKeyMaterial) (plaintext : String) :
    MessageService.createLocalSenderCopy setup client device plaintext io =
      (encrypt library client.currentUserId device (MessageService.selfPreKeyBundleFor client device)
        plaintext draws).map (·.wirePayloadJson) := by
  rw [MessageService.createLocalSenderCopy, native, drawn]
  rfl

/-- What a device encrypts for another, and for itself, is decrypted to the same plaintext, unless
that begins with a byte order mark. -/
theorem message_round_trip (laws : WireLaws library) {senderDevice recipientDevice : DeviceKeyMaterial}
    (sender : Generated library signing senderDevice)
    (recipient : Generated library signing recipientDevice) {plaintext : String}
    (unmarked : ¬ StartsWithBom plaintext) :
    (∀ senderUserId recipientUserId publishedPreKey draws payload,
      let bundle := publishedBundle recipientDevice recipientUserId publishedPreKey
      encrypt library senderUserId senderDevice bundle plaintext draws = .ok payload →
      (∀ object ∈ writtenObjects library senderDevice bundle plaintext draws,
        ReadsBack library object) →
      ∀ message : LocalMessage, message.wirePayloadJson = payload.wirePayloadJson →
        message.consumedOneTimePreKeyId = payload.consumedOneTimePreKeyId →
        ∀ currentUserId oneTimePreKey,
          decrypt library currentUserId recipientDevice message oneTimePreKey = .ok plaintext) ∧
    (∀ (setup : ClientSetup) (client : ClientState) io copy, setup.crypto = provider library →
      MessageService.createLocalSenderCopy setup client senderDevice plaintext io = .ok copy →
      (∀ object ∈ writtenObjects library senderDevice
        (MessageService.selfPreKeyBundleFor client senderDevice) plaintext io.draws,
        ReadsBack library object) →
      ∀ message : LocalMessage, message.senderUserId = client.currentUserId →
        message.localSenderCopyWirePayloadJson = copy →
          MessageService.decryptForCurrentUser setup client senderDevice message = .ok plaintext) := by
  have senderKeys := pairedKeys_of_generated sender
  have recipientKeys := pairedKeys_of_generated recipient
  constructor
  · intro senderUserId recipientUserId publishedPreKey draws payload bundle sent json message wire
      consumed currentUserId oneTimePreKey
    rw [decrypt_encrypt laws senderKeys recipientKeys rfl rfl sent json wire consumed oneTimePreKey,
      laws.utf8 plaintext unmarked]
  · intro setup client io copy native created json message own kept
    rw [createLocalSenderCopy_native native rfl] at created
    cases sent : encrypt library client.currentUserId senderDevice
        (MessageService.selfPreKeyBundleFor client senderDevice) plaintext io.draws with
    | error error =>
      rw [sent] at created
      cases created
    | ok payload =>
      simp only [sent, Except.map, Except.ok.injEq] at created
      subst created
      have filled : ¬ message.localSenderCopyWirePayloadJson.isEmpty = true := by
        obtain ⟨_, _, _, _, _, -, -, -, -, -, rfl⟩ := encrypt_eq_ok sent
        rw [kept]
        exact fun empty => wrapWirePayload_ne_empty _ _ (String.isEmpty_iff.mp empty)
      have unconsumed := unconsumed_of_encrypt sent
      rw [MessageService.decryptForCurrentUser, if_neg (not_not.mpr own), if_neg filled, native]
      change decrypt library client.currentUserId senderDevice (MessageService.senderCopy message) none = _
      rw [decrypt_encrypt laws senderKeys senderKeys rfl rfl sent json kept unconsumed.symm none,
        laws.utf8 plaintext unmarked]

/-! ## Two devices -/

/-- A sealing of OpenSSL. -/
structure SealedText where
  plaintext : QByteArray
  key : QByteArray
  iv : QByteArray
  aad : QByteArray
  ciphertext : QByteArray
  tag : QByteArray

/-- What OpenSSL computes, at the inputs of a sample. -/
structure SampleTables where
  pairs : List RawKeyPair
  secrets : List ((RawKeyPair × RawKeyPair) × QByteArray)
  expansions : List ((QByteArray × QByteArray) × QByteArray)
  authenticators : List (QByteArray × QByteArray)
  sealings : List SealedText
  verified : List (QByteArray × QByteArray × QByteArray)
  /-- The payload that is written, and the registration id of its envelope. -/
  root : Json.Members
  registrationId : Int

/-- The secret of two key pairs, in either order. -/
def SampleTables.secret (tables : SampleTables) (first second : QByteArray) : Option QByteArray :=
  (tables.secrets.find? fun row => row.1.1.privateKey = first ∧ row.1.2.privateKey = second ∨
    row.1.1.privateKey = second ∧ row.1.2.privateKey = first).map Prod.snd

def SampleTables.native (tables : SampleTables) : NativeLibrary where
  x25519 privateKey publicKey :=
    (tables.pairs.find? fun pair => pair.publicKey = publicKey).bind fun pair =>
      tables.secret privateKey pair.privateKey
  x25519PublicKey privateKey :=
    ((tables.pairs.find? fun pair => pair.privateKey = privateKey).map RawKeyPair.publicKey).getD []
  ed25519Verify publicKey message signature := tables.verified.contains (publicKey, message, signature)
  hkdfInit := fun _ _ _ => true
  hkdfDerive ikm salt _ _ :=
    (tables.expansions.find? fun row => row.1 = (ikm, salt)).map Prod.snd
  hmac key _ := ((tables.authenticators.find? fun row => row.1 = key).map Prod.snd).getD []
  aesGcmEncrypt plaintext key iv aad :=
    (tables.sealings.find? fun row => row.plaintext = plaintext ∧ row.key = key ∧ row.iv = iv ∧
      row.aad = aad).map fun row => (row.ciphertext, row.tag)
  aesGcmDecrypt ciphertext key iv aad tag :=
    (tables.sealings.find? fun row => row.ciphertext = ciphertext ∧ row.key = key ∧ row.iv = iv ∧
      row.aad = aad ∧ row.tag = tag).map SealedText.plaintext
  uninitialized length := List.replicate length 0
  documentObject text :=
    if text = Json.utf8 (toJson tables.root) then tables.root
    else if text = Json.utf8 (toJson (envelope tables.root tables.registrationId)) then
      envelope tables.root tables.registrationId
    else []
  fromUtf8 := SecretsAtRest.decodeUtf8
  trimmed := id

/-- The tables name each key once, and a sealing is opened to what was sealed. -/
structure SampleTables.Sound (tables : SampleTables) : Prop where
  sizes : ∀ pair ∈ tables.pairs, pair.publicKey.length = keyBytes ∧ pair.privateKey.length = keyBytes
  paired : ∀ pair ∈ tables.pairs, tables.native.x25519PublicKey pair.privateKey = pair.publicKey
  owners : ∀ pair ∈ tables.pairs, (tables.pairs.find? fun other =>
    other.publicKey = pair.publicKey).map RawKeyPair.privateKey = some pair.privateKey
  openings : ∀ row ∈ tables.sealings, tables.native.aesGcmDecrypt row.ciphertext row.key row.iv row.aad
    row.tag = some row.plaintext

theorem SampleTables.secret_comm (tables : SampleTables) (first second : QByteArray) :
    tables.secret first second = tables.secret second first := by
  rw [secret, secret]
  congr 2
  funext row
  rw [decide_eq_decide]
  exact or_comm

theorem SampleTables.sampled {tables : SampleTables} {privateKey : QByteArray}
    (size : (tables.native.x25519PublicKey privateKey).length = keyBytes) :
    ∃ pair, tables.native.x25519PublicKey privateKey = pair.publicKey ∧ pair ∈ tables.pairs ∧
      pair.privateKey = privateKey := by
  simp only [native] at size ⊢
  cases found : tables.pairs.find? fun pair => pair.privateKey = privateKey with
  | none =>
    rw [found] at size
    cases size
  | some pair =>
    exact ⟨pair, rfl, List.mem_of_find?_eq_some found, by simpa using List.find?_some found⟩

theorem SampleTables.x25519_native {tables : SampleTables} (sound : tables.Sound) {pair : RawKeyPair}
    (member : pair ∈ tables.pairs) (privateKey : QByteArray) :
    tables.native.x25519 privateKey pair.publicKey = tables.secret privateKey pair.privateKey := by
  obtain ⟨other, found, same⟩ := Option.map_eq_some_iff.mp (sound.owners pair member)
  simp only [native, found, Option.bind_some, same]

theorem SampleTables.fromUtf8_native (tables : SampleTables) :
    tables.native.fromUtf8 = SecretsAtRest.decodeUtf8 := rfl

theorem SampleTables.wireLaws {tables : SampleTables} (sound : tables.Sound) :
    WireLaws tables.native where
  commutes first second size size' := by
    obtain ⟨pair, owned, member, rfl⟩ := sampled size
    obtain ⟨pair', owned', member', rfl⟩ := sampled size'
    rw [owned, owned', x25519_native sound member, x25519_native sound member']
    exact secret_comm tables _ _
  opens plaintext key iv aad ciphertext tag sealed := by
    obtain ⟨row, found, same⟩ := Option.map_eq_some_iff.mp sealed
    have matched := List.find?_some found
    simp only [Bool.decide_and, Bool.and_eq_true, decide_eq_true_eq] at matched
    obtain ⟨rfl, rfl, rfl, rfl⟩ := matched
    obtain ⟨rfl, rfl⟩ := Prod.mk.inj same
    exact sound.openings row (List.mem_of_find?_eq_some found)
  utf8 _ unmarked := by
    rw [fromUtf8_native]
    exact SecretsAtRest.decodeUtf8_toUtf8 unmarked

theorem head_envelope (payload : Json.Members) (registrationId : Int) :
    (envelope payload registrationId).head?.map Prod.fst = some "bodyB64" := by
  rw [envelope, Json.head_ofMembers]
  simp only [List.map_cons, List.map_nil]
  decide

theorem head_sealedPayload (senderDevice : DeviceKeyMaterial) (ratchetKey ephemeralKey : RawKeyPair)
    (iv ciphertext tag : QByteArray) :
    (sealedPayload senderDevice ratchetKey ephemeralKey iv ciphertext tag).head?.map Prod.fst =
      some "authTag" := by
  rw [sealedPayload, Json.head_ofMembers]
  simp only [List.map_cons, List.map_nil]
  decide

/-- The third character of a text is the first of the first member's name. -/
theorem third_of_head {object : Json.Members} {name : String} {first : Char} {rest : List Char}
    (head : object.head?.map Prod.fst = some name) (letters : name.toList = first :: rest)
    (plain : EthereumHash.escapedChar first = [first]) : (toJson object)[2]? = some first := by
  cases object with
  | nil => cases head
  | cons member members =>
    obtain ⟨key, value⟩ := member
    cases head
    have quoted : EthereumHash.escapedString key = Char.ofNat 0x22 :: first ::
        (rest.flatMap EthereumHash.escapedChar ++ [Char.ofNat 0x22]) := by
      rw [EthereumHash.escapedString, letters, List.flatMap_cons, plain]
      rfl
    rw [toJson, Json.compact, Json.compactMembers, quoted]
    cases Json.compactMembers EthereumHash.escapedString members <;> rfl

theorem texts_differ (senderDevice : DeviceKeyMaterial) (ratchetKey ephemeralKey : RawKeyPair)
    (iv ciphertext tag : QByteArray) (payload : Json.Members) (registrationId : Int) :
    toJson (envelope payload registrationId) ≠
      toJson (sealedPayload senderDevice ratchetKey ephemeralKey iv ciphertext tag) := by
  intro same
  have body := third_of_head (head_envelope payload registrationId) rfl rfl
  rw [same, third_of_head (head_sealedPayload _ _ _ _ _ _) rfl rfl] at body
  exact absurd body (by decide)

theorem SampleTables.readsBack {tables : SampleTables} {senderDevice : DeviceKeyMaterial}
    {ratchetKey ephemeralKey : RawKeyPair} {iv ciphertext tag : QByteArray}
    (root : tables.root = sealedPayload senderDevice ratchetKey ephemeralKey iv ciphertext tag) :
    ReadsBack tables.native tables.root ∧
      ReadsBack tables.native (envelope tables.root tables.registrationId) := by
  have different : Json.utf8 (toJson (envelope tables.root tables.registrationId)) ≠
      Json.utf8 (toJson tables.root) := by
    intro same
    rw [root] at same
    exact texts_differ _ _ _ _ _ _ _ _ (Json.utf8_injective same)
  simp only [ReadsBack, SampleTables.native, if_neg different, if_true, and_self]

/-- The octets of a number, the most significant first. -/
def octets : Nat → Nat → QByteArray
  | 0, _ => []
  | length + 1, value => BitVec.ofNat 8 (value >>> (8 * length)) :: octets length value

def aliceIdentityPair : RawKeyPair where
  publicKey := octets 32 0x6ffef980f013c7ce72b4bcf0386deda270fcca7fc0da8de93a507692d1a0620b
  privateKey := octets 32 0x704a0288adec6dc78633c06c52909b9f9ba8b6aba7b6faa12f6b57b2cfc1e336

def alicePreKeyPair : RawKeyPair where
  publicKey := octets 32 0xb347367eef95c8dfc8c8f05ca55d925428ea9bf823df2c5636a3379f129c9261
  privateKey := octets 32 0xe6bc3b073d5f067d5ec2a75939a772c072a6146b7bb8eec04ddd384636b80962

def bobIdentityPair : RawKeyPair where
  publicKey := octets 32 0x09a6ba3fecc96798727082f581c045e3a2af1a1fbeff27754887f8a7a230577e
  privateKey := octets 32 0x2863c892015a66359f73c026474c2a4a336a3671a02b298faf503e491d71ae97

def bobPreKeyPair : RawKeyPair where
  publicKey := octets 32 0xbe16056336495fa3936fa537c4e47ec8cbe07444f6bd29eec98bf78c4f7ade33
  privateKey := octets 32 0x47607dba051e98f03f7fdd937d4f70a0465c2cade60f0aff0051b4c0b625e219

def ratchetPair : RawKeyPair where
  publicKey := octets 32 0x4d0d1a2012854b34696466b5168c470f36cf2221590832efa196320f27a1a561
  privateKey := octets 32 0x9fe044d28a7a13578b0006843afd2d532c7c81ad98252260d32ac232bab0d351

def ephemeralPair : RawKeyPair where
  publicKey := octets 32 0x1a9f8beafeccab77e9b8d7bb897112154198a50c1537b2f86c653b9c60256704
  privateKey := octets 32 0x55e17fb7880af51937cc01201cbe1b8b6a72fd60427b82df70d6c3a942d46f0c

def aliceSigning : RawKeyPair where
  publicKey := octets 32 0xbad8d03b630d14f44ca7a29a9fb7cc346e7a437acfcc1c224ecd8c13d3688938
  privateKey := octets 32 0xbb10dd348577fbd9187a88f2edddadc2cc3861ea5e074ac1ac631944a388eedd

def bobSigning : RawKeyPair where
  publicKey := octets 32 0xaaaf9480d16f77090d555e0fc15187a4c890826432d5e24379956daebaf1f7ca
  privateKey := octets 32 0x0a933ad96a87e812c1c9ad870f9ec0d1cff87e7350856d860fac36fe02cc7ce6

def alicePreKeySignature : QByteArray :=
  octets 64 0x0906d8323cdb8f8174d0bcdd2121b7dda170b64a15e5cc59f01e7dde56f0efcc64bd248712c4e993287f0f1ac7e7e7d32c493782d5994c4cee8d3eeb2a308107

def bobPreKeySignature : QByteArray :=
  octets 64 0xbd2e5dbf43e6e31689c4f9cfb08fd4d6e5c2aa3320da7af4ca50a035ce4e45a62e054c1125c3248fbd73a49d041e891baf52b556eb46c6949134669a3db7040b

def twoSignings : SigningLibrary where
  ed25519PublicKey privateKey :=
    if privateKey = aliceSigning.privateKey then aliceSigning.publicKey else bobSigning.publicKey
  ed25519Sign privateKey _ :=
    if privateKey = aliceSigning.privateKey then some alicePreKeySignature else some bobPreKeySignature

theorem registrations_pos : 0 < defaultRegistrationIdRange := by decide

def firstRegistration : Fin defaultRegistrationIdRange := ⟨0, registrations_pos⟩

def alice : DeviceKeyMaterial :=
  (GeneratedKeys.mk aliceIdentityPair aliceSigning alicePreKeyPair).device alicePreKeySignature 1
    firstRegistration

def bob : DeviceKeyMaterial :=
  (GeneratedKeys.mk bobIdentityPair bobSigning bobPreKeyPair).device bobPreKeySignature 1
    firstRegistration

def messageNonce : QByteArray := octets 12 0x4ebad02ac6a590f3d8c0dee5
def bobsMessageKey : QByteArray := octets 32 0x0d06edec35e23b6d0e678f662d0a4f875e05ea4ad37c5ac6b8f52afca5aef5fc
def copyMessageKey : QByteArray := octets 32 0x7fcfe929858a32cf241ea85641ebf44c58b7f599b5cfdca391faf9aebc4749bb

def helloRoot : Json.Members := sealedPayload alice ratchetPair ephemeralPair messageNonce
  (octets 5 0xe8625a1b67) (octets 16 0x4427d2db9d4ba19f82cb2dd60b064e87)

def markedRoot : Json.Members := sealedPayload alice ratchetPair ephemeralPair messageNonce
  (octets 8 0x6fbc891f6d995104) (octets 16 0x12354946ac7fe9c257fd45fca1cddf34)

def copyRoot : Json.Members := sealedPayload alice ratchetPair ephemeralPair messageNonce
  (octets 5 0x6c0b92dd4a) (octets 16 0xea55aae567f452e9c9b9fb7fdea73bcf)

def helloTables : SampleTables where
  pairs := [aliceIdentityPair, alicePreKeyPair, bobIdentityPair, bobPreKeyPair, ratchetPair,
    ephemeralPair]
  secrets := [
    ((aliceIdentityPair, bobPreKeyPair), octets 32 0x6c539c2a2615fb5bcfdc96ec1b2152fb20027aa3249f57692cd18a4a95352f42),
    ((ephemeralPair, bobIdentityPair), octets 32 0x2dccfcd7c09b48bc4b875c58d90a2744887b102fc38dfc73246e6a78e8eed83d),
    ((ephemeralPair, bobPreKeyPair), octets 32 0x83116606ac0a6b7cb9a024a5b400363c38e53b06b6a61d18825d1ea19f631230),
    ((ratchetPair, bobPreKeyPair), octets 32 0x7badfaf7951d29d2ed7b738f6f4bcb988d5311ba50d11d2596e6db64b4e82218),
    ((aliceIdentityPair, alicePreKeyPair), octets 32 0x78e494e1f7579b5b0b9470c6822a6ed4b912eeaea4974e9f7da40dbce5851b7e),
    ((ephemeralPair, aliceIdentityPair), octets 32 0xf60b6e29b1e3b972c5213576e00798c003883499da7af202f643129e1b3d8e24),
    ((ephemeralPair, alicePreKeyPair), octets 32 0xe688db0c922167be5132341d07292fd5824ceedd21a166a05ffbab2539770c48),
    ((ratchetPair, alicePreKeyPair), octets 32 0xfd79b869ac5cf47c4d091ceb93e03cba6ec4238dd0d79a7e6004ad273f47a765)]
  expansions := [
    ((octets 32 0x6c539c2a2615fb5bcfdc96ec1b2152fb20027aa3249f57692cd18a4a95352f42 ++
        octets 32 0x2dccfcd7c09b48bc4b875c58d90a2744887b102fc38dfc73246e6a78e8eed83d ++
        octets 32 0x83116606ac0a6b7cb9a024a5b400363c38e53b06b6a61d18825d1ea19f631230, List.replicate keyBytes 0),
      octets 32 0x3fb0eebfb9c102f66c37c483d4e9822216f5d60594d7d5e399f9e164eb681023),
    ((octets 32 0x7badfaf7951d29d2ed7b738f6f4bcb988d5311ba50d11d2596e6db64b4e82218,
        octets 32 0x3fb0eebfb9c102f66c37c483d4e9822216f5d60594d7d5e399f9e164eb681023),
      octets 32 0xa8b68e9699213f7a95df67c64ea69ca392911471e8c5ab337f8b84f9af797c1d ++
        octets 32 0xa8fc00d8f63d621cc3e917d68e6b8b15ad015d2d1ef307eb454ecf40f040b9ba),
    ((octets 32 0x78e494e1f7579b5b0b9470c6822a6ed4b912eeaea4974e9f7da40dbce5851b7e ++
        octets 32 0xf60b6e29b1e3b972c5213576e00798c003883499da7af202f643129e1b3d8e24 ++
        octets 32 0xe688db0c922167be5132341d07292fd5824ceedd21a166a05ffbab2539770c48, List.replicate keyBytes 0),
      octets 32 0xbf0982e83208c190489d657c0b14e04774258ff6a803dedc76ee005e5d024ac2),
    ((octets 32 0xfd79b869ac5cf47c4d091ceb93e03cba6ec4238dd0d79a7e6004ad273f47a765,
        octets 32 0xbf0982e83208c190489d657c0b14e04774258ff6a803dedc76ee005e5d024ac2),
      octets 32 0x9d1154c1bc93c9ad5a05818c17bee2c6bb9dadc04909cf6edc6d99114a259960 ++
        octets 32 0x625959bf5ffe324675d8724fa2f6fda8dfcd9acc04100e3afb7be71ac9185a59)]
  authenticators := [
    (octets 32 0xa8fc00d8f63d621cc3e917d68e6b8b15ad015d2d1ef307eb454ecf40f040b9ba, bobsMessageKey),
    (octets 32 0x625959bf5ffe324675d8724fa2f6fda8dfcd9acc04100e3afb7be71ac9185a59, copyMessageKey)]
  sealings := [
    ⟨toUtf8 "hello", bobsMessageKey, messageNonce, aadFor 0 0 ratchetPair.publicKey,
      octets 5 0xe8625a1b67, octets 16 0x4427d2db9d4ba19f82cb2dd60b064e87⟩,
    ⟨toUtf8 "\uFEFFhello", bobsMessageKey, messageNonce, aadFor 0 0 ratchetPair.publicKey,
      octets 8 0x6fbc891f6d995104, octets 16 0x12354946ac7fe9c257fd45fca1cddf34⟩,
    ⟨toUtf8 "hello", copyMessageKey, messageNonce, aadFor 0 0 ratchetPair.publicKey,
      octets 5 0x6c0b92dd4a, octets 16 0xea55aae567f452e9c9b9fb7fdea73bcf⟩]
  verified := []
  root := helloRoot
  registrationId := bob.registrationId

def markedTables : SampleTables := { helloTables with root := markedRoot }

def copyTables : SampleTables :=
  { helloTables with root := copyRoot, registrationId := alice.registrationId }

theorem helloTables_sound : helloTables.Sound where
  sizes := by decide
  paired := by decide
  owners := by decide
  openings := by decide

theorem sound_of_root {tables : SampleTables} (sound : tables.Sound) (root : Json.Members)
    (registrationId : Int) :
    SampleTables.Sound { tables with root := root, registrationId := registrationId } :=
  ⟨sound.sizes, sound.paired, sound.owners, sound.openings⟩

def helloDraws : Draws := [ratchetPair.privateKey, ephemeralPair.privateKey, messageNonce]

theorem isPair_of_sound {tables : SampleTables} (sound : tables.Sound) {pair : RawKeyPair}
    (member : pair ∈ tables.pairs) : IsPair tables.native pair :=
  ⟨(sound.paired pair member).symm, (sound.sizes pair member).1⟩

theorem wrongSize_of_sound {tables : SampleTables} (sound : tables.Sound) {pair : RawKeyPair}
    (member : pair ∈ tables.pairs) : pair.wrongSize = false := by
  obtain ⟨sized, sized'⟩ := sound.sizes pair member
  rw [RawKeyPair.wrongSize, sized, sized']
  rfl

/-- A device of two sampled pairs. -/
theorem generated_of_sound {tables : SampleTables} (sound : tables.Sound)
    {identity signing preKey : RawKeyPair} (member : identity ∈ tables.pairs)
    (member' : preKey ∈ tables.pairs) (sizes : signing.wrongSize = false)
    (signingKey : twoSignings.ed25519PublicKey signing.privateKey = signing.publicKey)
    {signature : QByteArray}
    (signed : twoSignings.ed25519Sign signing.privateKey preKey.publicKey = some signature)
    (filled : signature ≠ []) :
    Generated tables.native twoSignings
      ((GeneratedKeys.mk identity signing preKey).device signature 1 firstRegistration) := by
  have drawn : generatedKeys tables.native twoSignings
      [identity.privateKey, signing.privateKey, preKey.privateKey] = ⟨identity, signing, preKey⟩ := by
    simp only [generatedKeys, generateRawKeyPair, generateSigningKeyPair, sound.paired _ member,
      sound.paired _ member', signingKey]
  refine generated_of_keys 1 firstRegistration drawn ?_ signed filled
  simp only [GeneratedKeys.wrongSize, wrongSize_of_sound sound member, sizes,
    wrongSize_of_sound sound member', Bool.or_self]

theorem alice_generated {tables : SampleTables} (sound : tables.Sound)
    (pairs : tables.pairs = helloTables.pairs) : Generated tables.native twoSignings alice := by
  refine generated_of_sound sound ?_ ?_ (by decide) (by decide) (by decide)
    (by decide)
  all_goals
    rw [pairs]
    simp [helloTables]

theorem bob_generated {tables : SampleTables} (sound : tables.Sound)
    (pairs : tables.pairs = helloTables.pairs) : Generated tables.native twoSignings bob := by
  refine generated_of_sound sound ?_ ?_ (by decide) (by decide) (by decide)
    (by decide)
  all_goals
    rw [pairs]
    simp [helloTables]

/-- A message between the two, with the copy that its sender kept. -/
def letter (wirePayloadJson localSenderCopyWirePayloadJson : String) : LocalMessage where
  id := "letter"
  senderUserId := aliceId
  senderDeviceId := 1
  recipientUserId := bobId
  recipientDeviceId := 1
  wirePayloadJson := wirePayloadJson
  consumedOneTimePreKeyId := none
  createdAt := none
  localSenderCopyWirePayloadJson := localSenderCopyWirePayloadJson
  direction := .received

def alicesClient : ClientState := { sampleStart with session := some { user := { id := aliceId } } }

def nativeSetup (tables : SampleTables) : ClientSetup :=
  { sampleSetup with crypto := provider tables.native }

def bobsBundle : PreKeyBundle := publishedBundle bob bobId none

theorem sentKey_bob : sentKey helloTables.native alice bobsBundle ratchetPair ephemeralPair =
    bobsMessageKey := by
  simp only [sentKey, sentSecrets, alice, bobsBundle, publishedBundle, bob, GeneratedKeys.device,
    fromBase64_toBase64]
  decide

theorem sentKey_own : sentKey helloTables.native alice
    (MessageService.selfPreKeyBundleFor alicesClient alice) ratchetPair ephemeralPair =
      copyMessageKey := by
  simp only [sentKey, sentSecrets, MessageService.selfPreKeyBundleFor, alice, GeneratedKeys.device,
    fromBase64_toBase64]
  decide

/-- The key does not depend on what is written. -/
theorem sentKey_of_root (tables : SampleTables) (root : Json.Members) (registrationId : Int) :
    sentKey (SampleTables.native { tables with root := root, registrationId := registrationId }) =
      sentKey tables.native := rfl

theorem drawn_nonce : NativeSignalCryptoProvider.randomBytes ivBytes [messageNonce] = messageNonce := rfl

/-- A message that the tables seal goes out, and what it writes is read back. -/
theorem sent_of_sound {tables : SampleTables} (sound : tables.Sound)
    (pairs : tables.pairs = helloTables.pairs) {recipientBundle : PreKeyBundle} (plaintext : String)
    {key ciphertext tag : QByteArray} (filled : plaintext.isEmpty = false)
    (derived : sentKey tables.native alice recipientBundle ratchetPair ephemeralPair = key)
    (size : key.length = keyBytes)
    (root : tables.root = sealedPayload alice ratchetPair ephemeralPair messageNonce ciphertext tag)
    (sealed : tables.native.aesGcmEncrypt (toUtf8 plaintext) key messageNonce
      (aadFor 0 0 ratchetPair.publicKey) = some (ciphertext, tag))
    (registered : tables.registrationId = recipientBundle.registrationId) (senderUserId : String) :
    (∃ payload, encrypt tables.native senderUserId alice recipientBundle plaintext helloDraws =
      .ok payload) ∧
      ∀ object ∈ writtenObjects tables.native alice recipientBundle plaintext helloDraws,
        ReadsBack tables.native object := by
  have ratchet : IsPair tables.native ratchetPair :=
    isPair_of_sound sound (by rw [pairs]; simp [helloTables])
  have ephemeral : IsPair tables.native ephemeralPair :=
    isPair_of_sound sound (by rw [pairs]; simp [helloTables])
  rw [← derived, ← drawn_nonce] at sealed
  obtain ⟨sent, written⟩ := encrypt_of_sealed filled ratchet ephemeral (derived ▸ size) sealed
    senderUserId
  obtain ⟨inner, outer⟩ := SampleTables.readsBack root
  refine ⟨⟨_, sent⟩, ?_⟩
  rw [helloDraws, written, drawn_nonce, ← root, ← registered]
  intro object member
  simp only [List.mem_cons, List.not_mem_nil, or_false] at member
  obtain rfl | rfl := member
  · exact inner
  · exact outer

/-- Alice greets Bob, and keeps a copy. -/
theorem hello_round_trip :
    (∃ payload, encrypt helloTables.native aliceId alice bobsBundle "hello" helloDraws = .ok payload ∧
      decrypt helloTables.native bobId bob (letter payload.wirePayloadJson "") none = .ok "hello") ∧
    ∃ copy, MessageService.createLocalSenderCopy (nativeSetup copyTables) alicesClient alice "hello"
        { draws := helloDraws } = .ok copy ∧
      MessageService.decryptForCurrentUser (nativeSetup copyTables) alicesClient alice (letter "" copy) =
        .ok "hello" := by
  have unmarked : ¬ StartsWithBom "hello" := by simp [StartsWithBom]
  constructor
  · obtain ⟨⟨payload, sent⟩, json⟩ := sent_of_sound helloTables_sound rfl "hello" (by decide)
      sentKey_bob (by decide) (by rw [helloTables, helloRoot]) (by decide) rfl aliceId
    refine ⟨payload, sent, ?_⟩
    exact (message_round_trip (SampleTables.wireLaws helloTables_sound)
      (alice_generated helloTables_sound rfl) (bob_generated helloTables_sound rfl) unmarked).1 aliceId bobId
        none helloDraws payload sent json (letter payload.wirePayloadJson "") rfl
          (unconsumed_of_encrypt sent).symm bobId none
  · have sound : copyTables.Sound := sound_of_root helloTables_sound _ _
    have key : sentKey copyTables.native alice (MessageService.selfPreKeyBundleFor alicesClient alice)
        ratchetPair ephemeralPair = copyMessageKey := by
      rw [copyTables, sentKey_of_root, sentKey_own]
    obtain ⟨⟨payload, sent⟩, json⟩ := sent_of_sound sound rfl "hello" (by decide) key
      (by decide) (by rw [copyTables, copyRoot]) (by decide) rfl alicesClient.currentUserId
    have kept : MessageService.createLocalSenderCopy (nativeSetup copyTables) alicesClient alice "hello"
        { draws := helloDraws } = .ok payload.wirePayloadJson := by
      rw [createLocalSenderCopy_native rfl rfl, sent]
      rfl
    exact ⟨_, kept, (message_round_trip (SampleTables.wireLaws sound) (alice_generated sound rfl)
      (alice_generated sound rfl) unmarked).2 (nativeSetup copyTables) alicesClient
        { draws := helloDraws } payload.wirePayloadJson rfl kept json (letter "" payload.wirePayloadJson)
        rfl rfl⟩

/-- A byte order mark at the start of a message is lost. -/
theorem byte_order_mark_is_lost :
    ¬ ∀ (library : NativeLibrary) (signing : SigningLibrary) senderDevice recipientDevice plaintext draws
        payload message, WireLaws library → Generated library signing senderDevice →
        Generated library signing recipientDevice →
        encrypt library aliceId senderDevice (publishedBundle recipientDevice bobId none) plaintext draws =
          .ok payload →
        (∀ object ∈ writtenObjects library senderDevice (publishedBundle recipientDevice bobId none)
          plaintext draws, ReadsBack library object) →
        LocalMessage.wirePayloadJson message = payload.wirePayloadJson →
        message.consumedOneTimePreKeyId = payload.consumedOneTimePreKeyId →
        decrypt library bobId recipientDevice message none = .ok plaintext := by
  intro roundTrip
  have sound : markedTables.Sound := sound_of_root helloTables_sound _ _
  have laws := SampleTables.wireLaws sound
  have fromAlice := alice_generated sound rfl
  have toBob := bob_generated sound rfl
  have key : sentKey markedTables.native alice bobsBundle ratchetPair ephemeralPair = bobsMessageKey := by
    rw [← sentKey_bob]
    exact congrArg (fun derived => derived alice bobsBundle ratchetPair ephemeralPair)
      (sentKey_of_root helloTables markedRoot helloTables.registrationId)
  obtain ⟨⟨payload, sent⟩, json⟩ := sent_of_sound sound rfl "\uFEFFhello" (by decide) key
    (by decide) (by rw [markedTables, markedRoot]) (by decide) rfl aliceId
  have unconsumed := unconsumed_of_encrypt sent
  have read := roundTrip _ _ alice bob "\uFEFFhello" helloDraws payload (letter payload.wirePayloadJson "")
    laws fromAlice toBob sent json rfl unconsumed.symm
  rw [decrypt_encrypt laws (pairedKeys_of_generated fromAlice) (pairedKeys_of_generated toBob) rfl rfl sent
    json rfl unconsumed.symm none, SampleTables.fromUtf8_native, Except.ok.injEq] at read
  exact absurd read (by decide)

end EpicKfc.Guarantees.MessageRoundTrip
