import EpicKfc.Lib.Base64
import EpicKfc.Lib.Footprints

/-!
# Signal messaging of the cryptography package

`cryptography/src/signal`: the in-memory protocol store, generated devices and the
decryption of wire messages. The libsignal library, JSON parsing and AES-256-GCM
come from outside. The library opens a message on the store it is given and may
change the store, also when it throws.
-/

namespace EpicKfc.Source.Cryptography
open EpicKfc.Lib
open EpicKfc.Lib.Base64 (Byte)

abbrev Bytes := List Byte

structure KeyPair where
  pubKey : Bytes
  privKey : Bytes
deriving DecidableEq

/-! ## Addresses -/

/-- Ids of users are names without a dot, as UUIDs are. -/
abbrev UserId := {id : String // '.' ∉ id.toList}

structure SignalProtocolAddress where
  name : UserId
  deviceId : Nat
deriving DecidableEq

/-- `toString` of an address, the key of its entries in a store. -/
def SignalProtocolAddress.encoded (address : SignalProtocolAddress) : String :=
  address.name.val ++ "." ++ Nat.repr address.deviceId

def protocolAddress (userId : UserId) (deviceId : Nat) : SignalProtocolAddress := ⟨userId, deviceId⟩

/-! ## The protocol store -/

/-- `InMemoryProtocolStore`; session records are texts of the library. -/
structure ProtocolStore where
  identityKeyPair : KeyPair
  registrationId : Nat
  preKeys : String → Option KeyPair
  signedPreKeys : String → Option KeyPair
  sessions : String → Option String
  identities : String → Option Bytes

namespace ProtocolStore

def create (identityKeyPair : KeyPair) (registrationId : Nat) : ProtocolStore :=
  ⟨identityKeyPair, registrationId, fun _ => none, fun _ => none, fun _ => none, fun _ => none⟩

def loadPreKey (keyId : Nat) (store : ProtocolStore) : Option KeyPair := store.preKeys (Nat.repr keyId)

def storePreKey (keyId : Nat) (keyPair : KeyPair) (store : ProtocolStore) : ProtocolStore :=
  { store with preKeys := Function.update store.preKeys (Nat.repr keyId) (some keyPair) }

def removePreKey (keyId : Nat) (store : ProtocolStore) : ProtocolStore :=
  { store with preKeys := Function.update store.preKeys (Nat.repr keyId) none }

def storeSignedPreKey (keyId : Nat) (keyPair : KeyPair) (store : ProtocolStore) : ProtocolStore :=
  { store with signedPreKeys := Function.update store.signedPreKeys (Nat.repr keyId) (some keyPair) }

def loadSession (encodedAddress : String) (store : ProtocolStore) : Option String :=
  store.sessions encodedAddress

def storeSession (encodedAddress record : String) (store : ProtocolStore) : ProtocolStore :=
  { store with sessions := Function.update store.sessions encodedAddress (some record) }

def isTrustedIdentity (identifier : String) (identityKey : Bytes) (store : ProtocolStore) : Bool :=
  match store.identities identifier with
  | none => true
  | some existing => existing = identityKey

/-- The store after `saveIdentity`. -/
def saveIdentity (encodedAddress : String) (publicKey : Bytes) (store : ProtocolStore) :
    ProtocolStore :=
  { store with identities := Function.update store.identities encodedAddress (some publicKey) }

end ProtocolStore

/-- The entries of a store, and what it holds besides them. -/
inductive StoreCell where
  | own
  | signedPreKey (keyId : String)
  | preKey (keyId : String)
  | session (encodedAddress : String)
  | identity (identifier : String)
deriving DecidableEq

abbrev StoreCell.Value : StoreCell → Type
  | own => KeyPair × Nat
  | signedPreKey _ => Option KeyPair
  | preKey _ => Option KeyPair
  | session _ => Option String
  | identity _ => Option Bytes

def ProtocolStore.cell (store : ProtocolStore) : (k : StoreCell) → k.Value
  | .own => (store.identityKeyPair, store.registrationId)
  | .signedPreKey keyId => store.signedPreKeys keyId
  | .preKey keyId => store.preKeys keyId
  | .session encodedAddress => store.sessions encodedAddress
  | .identity identifier => store.identities identifier

/-! ## The library -/

inductive DecryptError where
  | format
  | messageType (type : Int)
  | library
  | payloadSyntax
  | envelope
  | keyLength
  | ivLength
  | tagLength
  | authentication
deriving DecidableEq, Repr

/-- The messages of the package itself. -/
def DecryptError.text : DecryptError → Option String
  | .format => some "decryptFromSender: unsupported wire format"
  | .messageType type =>
    some ("decryptFromSender: unsupported message type " ++ Int.repr type)
  | .envelope => some "decryptFromSender: unsupported application payload envelope"
  | .keyLength => some "Symmetric key must be 32 bytes"
  | .ivLength => some "decryptMessage: IV must be 12 bytes"
  | .tagLength => some "decryptMessage: auth tag must be 16 bytes"
  | .authentication => some "decryptMessage: authentication failed"
  | .library | .payloadSyntax => none

/-- The session ciphers of libsignal. -/
structure SignalLibrary where
  /-- The one-time pre-key that the bytes of a first message name. -/
  preKeyId : Bytes → Option Nat
  decryptPreKeyWhisperMessage :
    SignalProtocolAddress → Bytes → ProtocolStore → Except DecryptError Bytes × ProtocolStore
  decryptWhisperMessage :
    SignalProtocolAddress → Bytes → ProtocolStore → Except DecryptError Bytes × ProtocolStore

/-- What a message of a sender may depend on besides its pre-key. -/
def senderReads (address : SignalProtocolAddress) : Set StoreCell :=
  {k | k = .own ∨ (∃ keyId, k = .signedPreKey keyId) ∨ k = .session address.encoded ∨
    k = .identity address.encoded ∨ k = .identity address.name.val}

def senderWrites (address : SignalProtocolAddress) : Set StoreCell :=
  {k | k = .session address.encoded ∨ k = .identity address.encoded}

/-- The entry of the pre-key that a message names. -/
def preKeyCells (named : Option Nat) : Set StoreCell :=
  {k | ∃ keyId ∈ named, k = .preKey (Nat.repr keyId)}

/-- The library needs exactly the one-time pre-key a message names: it reads and removes no other,
and without a session it cannot do without this one. -/
structure ExactPreKeys (library : SignalLibrary) : Prop where
  reads : ∀ address body, Footprints.ReadsWithin ProtocolStore.cell
    (fun store => (library.decryptPreKeyWhisperMessage address body store).1)
    (senderReads address ∪ preKeyCells (library.preKeyId body))
  writes : ∀ address body, Footprints.WritesWithin ProtocolStore.cell
    (fun store => (library.decryptPreKeyWhisperMessage address body store).2)
    (senderWrites address ∪ preKeyCells (library.preKeyId body))
  whispers : ∀ address body, Footprints.WritesWithin ProtocolStore.cell
    (fun store => (library.decryptWhisperMessage address body store).2) (senderWrites address)
  needs : ∀ address body store keyId, library.preKeyId body = some keyId →
    store.loadSession address.encoded = none → store.loadPreKey keyId = none →
      ∃ error, (library.decryptPreKeyWhisperMessage address body store).1 = .error error

/-! ## Devices -/

structure SignedPublicPreKey where
  keyId : Nat
  publicKey : Bytes
  signature : Bytes
deriving DecidableEq

structure PublicPreKey where
  keyId : Nat
  publicKey : Bytes
deriving DecidableEq

structure GeneratedDevice where
  userId : String
  deviceId : Nat
  registrationId : Nat
  identityKeyPair : KeyPair
  store : ProtocolStore
  signedPreKeyId : Nat
  oneTimePreKeyId : Option Nat
  signedPreKeyPublic : SignedPublicPreKey
  oneTimePreKeyPublic : Option PublicPreKey

/-- What `KeyHelper` draws for a device. -/
structure KeyMaterial where
  registrationId : Nat
  identityKeyPair : KeyPair
  preKey : KeyPair
  signedPreKey : KeyPair
  signature : Bytes

def generateDevice (userId : String) (deviceId : Nat) (drawn : KeyMaterial) : GeneratedDevice :=
  let oneTimePreKeyId := 1
  let signedPreKeyId := 1
  let store := ((ProtocolStore.create drawn.identityKeyPair drawn.registrationId).storePreKey
    oneTimePreKeyId drawn.preKey).storeSignedPreKey signedPreKeyId drawn.signedPreKey
  { userId := userId
    deviceId := deviceId
    registrationId := drawn.registrationId
    identityKeyPair := drawn.identityKeyPair
    store := store
    signedPreKeyId := signedPreKeyId
    oneTimePreKeyId := some oneTimePreKeyId
    signedPreKeyPublic := ⟨signedPreKeyId, drawn.signedPreKey.pubKey, drawn.signature⟩
    oneTimePreKeyPublic := some ⟨oneTimePreKeyId, drawn.preKey.pubKey⟩ }

/-! ## Messages -/

structure LibSignalWireMessage where
  format : String
  type : Int
  bodyB64 : String
  registrationId : Option Nat

structure AeadPayloadEnvelopeV1 where
  version : Int
  alg : String
  keyB64 : String
  ivB64 : String
  authTagB64 : String
  ciphertextB64 : String

/-- What the package takes from Node: `JSON.parse` of a payload, and AES-256-GCM decryption by
ciphertext, IV, tag, key and associated data. -/
structure NodeRuntime where
  fromBase64 : String → Bytes
  parseEnvelope : Bytes → Option AeadPayloadEnvelopeV1
  gcmDecrypt : Bytes → Bytes → Bytes → Bytes → String → Option Bytes

def envelopeAad : String := "epic-messaging/libsignal-v1/aead-envelope"

/-- `decryptMessage` of `cryptoEngine.ts`. -/
def decryptMessage (node : NodeRuntime) (ciphertext iv authTag symmetricKey : Bytes)
    (associatedData : String) : Except DecryptError Bytes :=
  if symmetricKey.length ≠ 32 then .error .keyLength
  else if iv.length ≠ 12 then .error .ivLength
  else if authTag.length ≠ 16 then .error .tagLength
  else
    match node.gcmDecrypt ciphertext iv authTag symmetricKey associatedData with
    | none => .error .authentication
    | some plaintext => .ok plaintext

def unwrapApplicationPayloadAead (node : NodeRuntime) (payload : Bytes) :
    Except DecryptError Bytes :=
  match node.parseEnvelope payload with
  | none => .error .payloadSyntax
  | some parsed =>
    if parsed.version ≠ 1 ∨ parsed.alg ≠ "AES-256-GCM" then .error .envelope
    else decryptMessage node (node.fromBase64 parsed.ciphertextB64) (node.fromBase64 parsed.ivB64)
      (node.fromBase64 parsed.authTagB64) (node.fromBase64 parsed.keyB64) envelopeAad

/-- The wrapper's own bookkeeping after a first message: the pre-key it forgets is the one the
device published last. -/
def consumePreKey (wire : LibSignalWireMessage) (device : GeneratedDevice) : GeneratedDevice :=
  match wire.registrationId, device.oneTimePreKeyId with
  | some _, some keyId =>
    { device with
      store := device.store.removePreKey keyId
      oneTimePreKeyId := none
      oneTimePreKeyPublic := none }
  | _, _ => device

/-- `decryptFromSender`, with the device it leaves. -/
def decryptFromSender (node : NodeRuntime) (library : SignalLibrary) (senderUserId : UserId)
    (senderDeviceId : Nat) (wire : LibSignalWireMessage) (recipient : GeneratedDevice) :
    Except DecryptError Bytes × GeneratedDevice :=
  if wire.format ≠ "libsignal-v1" then (.error .format, recipient)
  else
    let address := protocolAddress senderUserId senderDeviceId
    let body := node.fromBase64 wire.bodyB64
    if wire.type = 3 then
      match library.decryptPreKeyWhisperMessage address body recipient.store with
      | (.error error, store) => (.error error, { recipient with store := store })
      | (.ok plain, store) =>
        (unwrapApplicationPayloadAead node plain,
          consumePreKey wire { recipient with store := store })
    else if wire.type = 1 then
      match library.decryptWhisperMessage address body recipient.store with
      | (.error error, store) => (.error error, { recipient with store := store })
      | (.ok plain, store) =>
        (unwrapApplicationPayloadAead node plain, { recipient with store := store })
    else (.error (.messageType wire.type), recipient)

end EpicKfc.Source.Cryptography
