import EpicKfc.Lib.Base64
import EpicKfc.Source.Client.ClientState
import EpicKfc.Source.Client.EthereumHash

/-!
# The native crypto provider

`client/src/crypto/NativeSignalCryptoProvider.cpp`. What OpenSSL computes is a
parameter; which of its calls are checked, and what a failed one leaves in the
byte array, is the source's. Device and pre-key generation are left out.
-/

namespace EpicKfc.Source.Client
open EpicKfc.Lib
open EpicKfc.Source.Client.StoreDocuments

/-- OpenSSL, and Qt's JSON reader and text functions. -/
structure NativeLibrary where
  /-- A private and a public key to their shared secret. -/
  x25519 : QByteArray → QByteArray → Option QByteArray
  /-- The public key of a generated private key. -/
  x25519PublicKey : QByteArray → QByteArray
  /-- Public key, message, signature. -/
  ed25519Verify : QByteArray → QByteArray → QByteArray → Bool
  /-- Key material, salt and info are accepted. -/
  hkdfInit : QByteArray → QByteArray → QByteArray → Bool
  hkdfDerive : QByteArray → QByteArray → QByteArray → Nat → Option QByteArray
  hmac : QByteArray → QByteArray → QByteArray
  /-- Plaintext, key, nonce and associated data to ciphertext and tag. -/
  aesGcmEncrypt : QByteArray → QByteArray → QByteArray → QByteArray → Option (QByteArray × QByteArray)
  /-- Ciphertext, key, nonce, associated data and tag to plaintext. -/
  aesGcmDecrypt : QByteArray → QByteArray → QByteArray → QByteArray → QByteArray → Option QByteArray
  /-- What an array grown by `resize` holds. -/
  uninitialized : Nat → QByteArray
  /-- `QJsonDocument::fromJson(bytes).object()`. -/
  documentObject : QByteArray → Json.Members
  fromUtf8 : QByteArray → String
  trimmed : String → String

namespace NativeSignalCryptoProvider

variable (library : NativeLibrary)

def keyBytes : Nat := 32
def ivBytes : Nat := 12

def cryptoError (message : String) : ClientError where
  code := .cryptoError
  message := message

/-! ## Bytes and texts -/

/-- `intToBigEndian`, of a 32-bit `int`. -/
def intToBigEndian (value : Int) : QByteArray :=
  let bits := BitVec.ofInt 32 value
  [bits.extractLsb' 24 8, bits.extractLsb' 16 8, bits.extractLsb' 8 8, bits.extractLsb' 0 8]

def fromBase64 (value : String) : QByteArray := Base64.decode value.toList

def toBase64 (value : QByteArray) : String := String.ofList (Base64.encode value)

def isValidBase64 (value : String) : Bool := !value.isEmpty && !(fromBase64 value).isEmpty

/-- The text of `QJsonDocument(object).toJson(QJsonDocument::Compact)`. -/
def toJson (object : Json.Members) : List Char :=
  Json.compact EthereumHash.escapedString (.object object)

def envelope (payload : Json.Members) (registrationId : Int) : Json.Members := Json.ofMembers [
  ("format", .string "libsignal-v1"),
  ("type", .number 3),
  ("bodyB64", .string (toBase64 (Json.utf8 (toJson payload)))),
  ("registrationId", .number registrationId)]

def wrapWirePayload (payload : Json.Members) (registrationId : Int) : String :=
  String.ofList (toJson (envelope payload registrationId))

/-- A payload without the format is taken as it is. -/
def unwrapWirePayload (wirePayloadJson : String) : Json.Members :=
  let payload := library.documentObject (toUtf8 wirePayloadJson)
  if (value payload "format").toString ≠ "libsignal-v1" then payload
  else library.documentObject (fromBase64 (value payload "bodyB64").toString)

/-! ## Keys -/

/-- `x25519Dh`: a failed derivation leaves an array of the secret's length. -/
def x25519Dh (privateKey publicKey : QByteArray) : QByteArray :=
  (library.x25519 privateKey publicKey).getD (library.uninitialized keyBytes)

/-- `hkdfSha256`: only a failed setup gives an empty array. -/
def hkdfSha256 (ikm salt info : QByteArray) (length : Nat) : QByteArray :=
  if library.hkdfInit ikm salt info then
    (library.hkdfDerive ikm salt info length).getD (library.uninitialized length)
  else []

def x3dhInfo : String := "epic-messaging/v1/signal-x3dh-sk"

def kdfX3dh (dhOutputs : QByteArray) : QByteArray :=
  hkdfSha256 library dhOutputs (List.replicate keyBytes 0) (toUtf8 x3dhInfo) keyBytes

def firstRatchetMessageKey (rootKey localRatchetPrivateKey remoteRatchetPublicKey : QByteArray) :
    QByteArray :=
  let dhOutput := x25519Dh library localRatchetPrivateKey remoteRatchetPublicKey
  let rootOut := hkdfSha256 library dhOutput rootKey [] (keyBytes * 2)
  let chainKey := (rootOut.drop keyBytes).take keyBytes
  (library.hmac chainKey [1]).take keyBytes

def aadFor (counter previousCounter : Int) (ratchetPublicKey : QByteArray) : QByteArray :=
  intToBigEndian counter ++ intToBigEndian previousCounter ++ ratchetPublicKey

structure RawKeyPair where
  publicKey : QByteArray
  privateKey : QByteArray

/-- `generateRawKeyPair` for X25519: without a draw it fails and both keys are empty. -/
def generateRawKeyPair : Draws → RawKeyPair × Draws
  | [] => (⟨[], []⟩, [])
  | privateKey :: rest => (⟨library.x25519PublicKey privateKey, privateKey⟩, rest)

/-- `randomBytes`: one of two generators fills the whole array. -/
def randomBytes (size : Nat) (draws : Draws) : QByteArray := (draws.headD []).takeD size 0

/-! ## Operations -/

def verifySignedPreKey (bundle : PreKeyBundle) : Result Unit :=
  let hasRequiredFields := isValidBase64 bundle.identityKey &&
    isValidBase64 bundle.identitySigningKey && isValidBase64 bundle.signedPreKey &&
    isValidBase64 bundle.signedPreKeySignature
  if !hasRequiredFields then
    .error (cryptoError "Pre-key bundle contains invalid base64 fields.")
  else if library.ed25519Verify (fromBase64 bundle.identitySigningKey)
      (fromBase64 bundle.signedPreKey) (fromBase64 bundle.signedPreKeySignature) then .ok ()
  else .error (cryptoError "Pre-key bundle signature is invalid.")

/-- The shared secrets on the sender's side. -/
def sentSecrets (senderDevice : DeviceKeyMaterial) (recipientBundle : PreKeyBundle)
    (ephemeralKey : RawKeyPair) : QByteArray :=
  let dh1 := x25519Dh library (fromBase64 senderDevice.identityPrivateKey)
    (fromBase64 recipientBundle.signedPreKey)
  let dh2 := x25519Dh library ephemeralKey.privateKey (fromBase64 recipientBundle.identityKey)
  let dh3 := x25519Dh library ephemeralKey.privateKey (fromBase64 recipientBundle.signedPreKey)
  dh1 ++ dh2 ++ dh3

def sealedPayload (senderDevice : DeviceKeyMaterial) (ratchetKey ephemeralKey : RawKeyPair)
    (iv ciphertext tag : QByteArray) : Json.Members := Json.ofMembers [
  ("counter", .number 0),
  ("previousCounter", .number 0),
  ("ciphertext", .string (toBase64 ciphertext)),
  ("iv", .string (toBase64 iv)),
  ("authTag", .string (toBase64 tag)),
  ("ratchetPublicKey", .string (toBase64 ratchetKey.publicKey)),
  ("x3dh", .object (Json.ofMembers [
    ("identityKey", .string senderDevice.identityKey),
    ("ephemeralKey", .string (toBase64 ephemeralKey.publicKey))]))]

def encrypt (_senderUserId : String) (senderDevice : DeviceKeyMaterial)
    (recipientBundle : PreKeyBundle) (plaintext : String) (draws : Draws) :
    Result EncryptedPayload :=
  if (library.trimmed plaintext).isEmpty then .error (cryptoError "Cannot send an empty message.")
  else
    let (ratchetKey, draws) := generateRawKeyPair library draws
    let (ephemeralKey, draws) := generateRawKeyPair library draws
    if ratchetKey.publicKey.length ≠ keyBytes ∨ ephemeralKey.publicKey.length ≠ keyBytes then
      .error (cryptoError "OpenSSL ratchet key generation failed.")
    else
      let sharedSecret := kdfX3dh library (sentSecrets library senderDevice recipientBundle ephemeralKey)
      let key := firstRatchetMessageKey library sharedSecret ratchetKey.privateKey
        (fromBase64 recipientBundle.signedPreKey)
      if key.length ≠ keyBytes then .error (cryptoError "Could not derive message key.")
      else
        let iv := randomBytes ivBytes draws
        match library.aesGcmEncrypt (toUtf8 plaintext) key iv (aadFor 0 0 ratchetKey.publicKey) with
        | none => .error (cryptoError "AES-256-GCM encryption failed.")
        | some (ciphertext, tag) =>
          let root := sealedPayload senderDevice ratchetKey ephemeralKey iv ciphertext tag
          .ok ⟨wrapWirePayload root recipientBundle.registrationId, none⟩

/-- The shared secrets on the receiver's side, from the keys the payload carries. -/
def receivedSecrets (currentDevice : DeviceKeyMaterial) (x3dh : Json.Members) : QByteArray :=
  let remoteIdentityKey := fromBase64 (value x3dh "identityKey").toString
  let remoteEphemeralKey := fromBase64 (value x3dh "ephemeralKey").toString
  let dh1 := x25519Dh library (fromBase64 currentDevice.signedPreKeyPrivate) remoteIdentityKey
  let dh2 := x25519Dh library (fromBase64 currentDevice.identityPrivateKey) remoteEphemeralKey
  let dh3 := x25519Dh library (fromBase64 currentDevice.signedPreKeyPrivate) remoteEphemeralKey
  dh1 ++ dh2 ++ dh3

/-- The further secret of a message that consumed a one-time pre-key. -/
def oneTimeSecret (message : LocalMessage) (oneTimePreKey : Option OneTimePreKey)
    (x3dh : Json.Members) : Result QByteArray :=
  match message.consumedOneTimePreKeyId, oneTimePreKey with
  | none, _ => .ok []
  | some _, none =>
    .error (cryptoError "Required one-time pre-key private material is unavailable.")
  | some _, some preKey =>
    .ok (x25519Dh library (fromBase64 preKey.privateKey)
      (fromBase64 (value x3dh "ephemeralKey").toString))

def receivedKey (currentDevice : DeviceKeyMaterial) (root : Json.Members) (secret : QByteArray) :
    QByteArray :=
  let sharedSecret :=
    kdfX3dh library (receivedSecrets library currentDevice (value root "x3dh").toObject ++ secret)
  firstRatchetMessageKey library sharedSecret (fromBase64 currentDevice.signedPreKeyPrivate)
    (fromBase64 (value root "ratchetPublicKey").toString)

def receivedAad (root : Json.Members) : QByteArray :=
  aadFor ((value root "counter").toInt 0) ((value root "previousCounter").toInt 0)
    (fromBase64 (value root "ratchetPublicKey").toString)

def decrypt (_currentUserId : String) (currentDevice : DeviceKeyMaterial) (message : LocalMessage)
    (oneTimePreKey : Option OneTimePreKey) : Result String :=
  let root := unwrapWirePayload library message.wirePayloadJson
  let x3dh := (value root "x3dh").toObject
  if x3dh.isEmpty then
    .error (cryptoError "Ratchet session state is not available for this message yet.")
  else
    match oneTimeSecret library message oneTimePreKey x3dh with
    | .error error => .error error
    | .ok secret =>
      let key := receivedKey library currentDevice root secret
      if key.length ≠ keyBytes then .error (cryptoError "Could not derive message key.")
      else
        let iv := fromBase64 (value root "iv").toString
        let ciphertext := fromBase64 (value root "ciphertext").toString
        let receivedTag := fromBase64 (value root "authTag").toString
        match library.aesGcmDecrypt ciphertext key iv (receivedAad root) receivedTag with
        | none => .error (cryptoError "Message authentication failed.")
        | some plaintext => .ok (library.fromUtf8 plaintext)

def provider : CryptoProvider where
  verifySignedPreKey := verifySignedPreKey library
  encrypt := encrypt library
  decrypt := decrypt library

/-! ## Payloads -/

theorem fromBase64_toBase64 (bytes : QByteArray) : fromBase64 (toBase64 bytes) = bytes := by
  rw [fromBase64, toBase64, String.toList_ofList, Base64.decode_encode]

theorem value_envelope (payload : Json.Members) (registrationId : Int) :
    (value (envelope payload registrationId) "format").toString = "libsignal-v1" ∧
    (value (envelope payload registrationId) "bodyB64").toString =
      toBase64 (Json.utf8 (toJson payload)) := by
  simp only [envelope, Json.ofMembers, List.foldl_cons, List.foldl_nil, value]
  constructor
  · rw [Json.lookup_insert_other _ _ _ _ (by decide), Json.lookup_insert_other _ _ _ _ (by decide),
      Json.lookup_insert_other _ _ _ _ (by decide), Json.lookup_insert_same]
    rfl
  · rw [Json.lookup_insert_other _ _ _ _ (by decide), Json.lookup_insert_same]
    rfl

/-- A payload is unwrapped as it was wrapped, when the reader reads back both texts. -/
theorem unwrapWirePayload_wrapWirePayload {payload : Json.Members} {registrationId : Int}
    (outer : library.documentObject (Json.utf8 (toJson (envelope payload registrationId))) =
      envelope payload registrationId)
    (inner : library.documentObject (Json.utf8 (toJson payload)) = payload) :
    unwrapWirePayload library (wrapWirePayload payload registrationId) = payload := by
  obtain ⟨format, body⟩ := value_envelope payload registrationId
  unfold unwrapWirePayload wrapWirePayload toUtf8
  rw [String.toList_ofList, outer]
  simp only [format, body, fromBase64_toBase64, inner, ne_eq, not_true_eq_false, if_false]

end NativeSignalCryptoProvider

end EpicKfc.Source.Client
