import EpicKfc.Source.Client.NativeSignalCryptoProvider

/-!
# Device keys

`NativeSignalCryptoProvider::loadOrCreateDevice`, and the bundle that the server
publishes for a device. One-time pre-keys are made apart; a bundle may name one.
-/

namespace EpicKfc.Source.Client
open EpicKfc.Lib
open EpicKfc.Source.Client.StoreDocuments

/-- What OpenSSL computes with signing keys. -/
structure SigningLibrary where
  /-- The public key of a generated private key. -/
  ed25519PublicKey : QByteArray → QByteArray
  /-- Private key and message to the signature. -/
  ed25519Sign : QByteArray → QByteArray → Option QByteArray

namespace NativeSignalCryptoProvider

variable (library : NativeLibrary) (signing : SigningLibrary)

def signatureBytes : Nat := 64
def signedPreKeyId : Int := 1
def defaultRegistrationIdMinimum : Int := 10000
def defaultRegistrationIdRange : Nat := 90000

/-- `generateRawKeyPair` for Ed25519. -/
def generateSigningKeyPair : Draws → RawKeyPair × Draws
  | [] => (⟨[], []⟩, [])
  | privateKey :: rest => (⟨signing.ed25519PublicKey privateKey, privateKey⟩, rest)

/-- `ed25519Sign`: a failed signature leaves an array of the signature's length. -/
def ed25519Sign (privateKey message : QByteArray) : QByteArray :=
  (signing.ed25519Sign privateKey message).getD (library.uninitialized signatureBytes)

def RawKeyPair.wrongSize (pair : RawKeyPair) : Bool :=
  pair.publicKey.length != keyBytes || pair.privateKey.length != keyBytes

/-- The pairs that `loadOrCreateDevice` generates. -/
structure GeneratedKeys where
  identity : RawKeyPair
  signing : RawKeyPair
  signedPreKey : RawKeyPair

def generatedKeys (draws : Draws) : GeneratedKeys :=
  let (identity, draws) := generateRawKeyPair library draws
  let (signingPair, draws) := generateSigningKeyPair signing draws
  let (signedPreKey, _) := generateRawKeyPair library draws
  ⟨identity, signingPair, signedPreKey⟩

def GeneratedKeys.wrongSize (keys : GeneratedKeys) : Bool :=
  keys.identity.wrongSize || keys.signing.wrongSize || keys.signedPreKey.wrongSize

def GeneratedKeys.device (keys : GeneratedKeys) (signature : QByteArray) (deviceId : Int)
    (registration : Fin defaultRegistrationIdRange) : DeviceKeyMaterial where
  deviceId := deviceId
  registrationId := defaultRegistrationIdMinimum + registration
  identityKey := toBase64 keys.identity.publicKey
  identityPrivateKey := toBase64 keys.identity.privateKey
  identitySigningKey := toBase64 keys.signing.publicKey
  identitySigningPrivateKey := toBase64 keys.signing.privateKey
  signedPreKeyId := signedPreKeyId
  signedPreKey := toBase64 keys.signedPreKey.publicKey
  signedPreKeyPrivate := toBase64 keys.signedPreKey.privateKey
  signedPreKeySignature := toBase64 signature

def loadOrCreateDevice (existing : DeviceKeyMaterial) (deviceId : Int) (draws : Draws)
    (registration : Fin defaultRegistrationIdRange) : Result DeviceKeyMaterial :=
  if !existing.identityKey.isEmpty then .ok existing
  else
    let keys := generatedKeys library signing draws
    let signature :=
      ed25519Sign library signing keys.signing.privateKey keys.signedPreKey.publicKey
    let keyGenerationFailed := keys.wrongSize || signature.isEmpty
    if keyGenerationFailed then .error (cryptoError "OpenSSL key generation failed.")
    else .ok (keys.device signature deviceId registration)

/-- What the server publishes of a device, with or without a one-time pre-key. -/
def publishedBundle (device : DeviceKeyMaterial) (userId : String)
    (oneTimePreKey : Option OneTimePreKey) : PreKeyBundle where
  userId := userId
  registrationId := device.registrationId
  deviceId := device.deviceId
  identityKey := device.identityKey
  identitySigningKey := device.identitySigningKey
  signedPreKeyId := device.signedPreKeyId
  signedPreKey := device.signedPreKey
  signedPreKeySignature := device.signedPreKeySignature
  oneTimePreKeyId := oneTimePreKey.map OneTimePreKey.preKeyId
  oneTimePreKey := (oneTimePreKey.map OneTimePreKey.publicKey).getD ""

/-! ## Generated pairs -/

/-- A generated pair is a private key with its public key, unless the generation failed. -/
theorem generateRawKeyPair_pair {draws : Draws}
    (sized : (generateRawKeyPair library draws).1.publicKey.length = keyBytes) :
    (generateRawKeyPair library draws).1.publicKey =
      library.x25519PublicKey (generateRawKeyPair library draws).1.privateKey := by
  cases draws with
  | nil => cases sized
  | cons privateKey rest => rfl

end NativeSignalCryptoProvider

end EpicKfc.Source.Client
