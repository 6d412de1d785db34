import EpicKfc.Source.Client.Models

/-!
# The state document of the local store

The per-type JSON conversions of `client/src/storage/JsonLocalStore.cpp` and the
protection of secret strings inside the document. OpenSSL's PBKDF2 and AES-GCM,
Qt's base64 and date texts are parameters; random bytes are drawn from a list
that the caller supplies, an unusable draw being a failed `RAND_bytes`.
-/

namespace EpicKfc.Source.Client.StoreDocuments
open EpicKfc.Lib
open EpicKfc.Source.Client

abbrev QByteArray := List (BitVec 8)

/-- Library functions the store calls. -/
structure StorageLibrary where
  pbkdf2 : QByteArray → QByteArray → Option QByteArray
  /-- Key, nonce, associated data and plaintext to ciphertext and tag. -/
  aesGcmEncrypt : QByteArray → QByteArray → QByteArray → QByteArray → Option (QByteArray × QByteArray)
  /-- Key, nonce, associated data, ciphertext and tag to plaintext. -/
  aesGcmDecrypt : QByteArray → QByteArray → QByteArray → QByteArray → QByteArray → Option QByteArray
  toBase64 : QByteArray → String
  fromBase64 : String → QByteArray
  fromUtf8 : QByteArray → String
  fromISODateWithMs : String → QDateTime
  toISODateWithMs : QDateTime → String
  isLetterOrNumber : Char → Bool
  /-- The path of a file next to another. -/
  siblingPath : String → String → String

def toUtf8 (text : String) : QByteArray := Json.utf8 text.toList

/-! ## Records as objects -/

def userToJson (user : UserProfile) : Json.Members := Json.ofMembers [
  ("id", .string user.id),
  ("username", .string user.username),
  ("email", .string user.email)]

def userFromJson (object : Json.Members) : UserProfile where
  id := (value object "id").toString
  username := (value object "username").toString
  email := (value object "email").toString

def sessionToJson (session : AuthSession) : Json.Members := Json.ofMembers [
  ("currentUser", .object (userToJson session.user)),
  ("accessToken", .string session.tokens.accessToken),
  ("refreshToken", .string session.tokens.refreshToken)]

def sessionFromJson (object : Json.Members) : AuthSession where
  user := userFromJson (value object "currentUser").toObject
  tokens :=
    { accessToken := (value object "accessToken").toString
      refreshToken := (value object "refreshToken").toString
      tokenType := "bearer"
      expiresIn := 0 }

def deviceToJson (material : DeviceKeyMaterial) : Json.Members := Json.ofMembers [
  ("deviceId", .number material.deviceId),
  ("registrationId", .number material.registrationId),
  ("identityKey", .string material.identityKey),
  ("identityPrivateKey", .string material.identityPrivateKey),
  ("identitySigningKey", .string material.identitySigningKey),
  ("identitySigningPrivateKey", .string material.identitySigningPrivateKey),
  ("signedPreKeyId", .number material.signedPreKeyId),
  ("signedPreKey", .string material.signedPreKey),
  ("signedPreKeyPrivate", .string material.signedPreKeyPrivate),
  ("signedPreKeySignature", .string material.signedPreKeySignature)]

def deviceFromJson (object : Json.Members) : DeviceKeyMaterial where
  deviceId := (value object "deviceId").toInt 0
  registrationId := (value object "registrationId").toInt 0
  identityKey := (value object "identityKey").toString
  identityPrivateKey := (value object "identityPrivateKey").toString
  identitySigningKey := (value object "identitySigningKey").toString
  identitySigningPrivateKey := (value object "identitySigningPrivateKey").toString
  signedPreKeyId := (value object "signedPreKeyId").toInt 0
  signedPreKey := (value object "signedPreKey").toString
  signedPreKeyPrivate := (value object "signedPreKeyPrivate").toString
  signedPreKeySignature := (value object "signedPreKeySignature").toString

def preKeyToJson (preKey : OneTimePreKey) : Json.Members := Json.ofMembers [
  ("deviceId", .number preKey.deviceId),
  ("preKeyId", .number preKey.preKeyId),
  ("preKeyPublic", .string preKey.publicKey),
  ("preKeyPrivate", .string preKey.privateKey),
  ("uploaded", .bool preKey.uploaded)]

def preKeyFromJson (object : Json.Members) : OneTimePreKey where
  deviceId := (value object "deviceId").toInt 0
  preKeyId := (value object "preKeyId").toInt 0
  publicKey := (value object "preKeyPublic").toString
  privateKey := (value object "preKeyPrivate").toString
  uploaded := (value object "uploaded").toBool false

def knownUserToJson (user : KnownUser) : Json.Members := Json.ofMembers [
  ("userId", .string user.userId),
  ("username", .string user.username),
  ("deviceId", .number user.deviceId)]

def knownUserFromJson (object : Json.Members) : KnownUser where
  userId := (value object "userId").toString
  username := (value object "username").toString
  deviceId := (value object "deviceId").toInt defaultDeviceId

variable (library : StorageLibrary)

def trustPinToJson (pin : TrustPin) : Json.Members := Json.ofMembers [
  ("userId", .string pin.userId),
  ("deviceId", .number pin.deviceId),
  ("identityKey", .string pin.identityKey),
  ("firstSeenAt", .string (library.toISODateWithMs pin.firstSeenAt))]

def trustPinFromJson (object : Json.Members) : TrustPin where
  userId := (value object "userId").toString
  deviceId := (value object "deviceId").toInt 0
  identityKey := (value object "identityKey").toString
  firstSeenAt := library.fromISODateWithMs (value object "firstSeenAt").toString

def anchorToJson (anchor : BlockchainAnchor) : Json.Members := Json.ofMembers [
  ("anchorId", .string anchor.id),
  ("messageId", .string anchor.messageId),
  ("recordId", .string anchor.recordId),
  ("digest", .string anchor.digest),
  ("merkleRoot", .string anchor.merkleRoot),
  ("transactionHash", .string anchor.transactionHash),
  ("contractAddress", .string anchor.contractAddress),
  ("chain", .string anchor.chain),
  ("status", .string anchor.status),
  ("anchoredAt", .string anchor.anchoredAt)]

def anchorFromJson (object : Json.Members) : BlockchainAnchor where
  id := (value object "anchorId").toString
  messageId := (value object "messageId").toString
  recordId := (value object "recordId").toString
  digest := (value object "digest").toString
  merkleRoot := (value object "merkleRoot").toString
  transactionHash := (value object "transactionHash").toString
  contractAddress := (value object "contractAddress").toString
  chain := (value object "chain").toString
  status := (value object "status").toString
  anchoredAt := (value object "anchoredAt").toString

def directionText : MessageDirection → String
  | .sent => "sent"
  | .received => "received"

def messageToJson (message : LocalMessage) : Json.Members := Json.ofMembers [
  ("id", .string message.id),
  ("senderUserId", .string message.senderUserId),
  ("senderDeviceId", .number message.senderDeviceId),
  ("recipientUserId", .string message.recipientUserId),
  ("recipientDeviceId", .number message.recipientDeviceId),
  ("wirePayloadJson", .string message.wirePayloadJson),
  ("consumedOneTimePreKeyId",
    match message.consumedOneTimePreKeyId with
    | some preKeyId => .number preKeyId
    | none => .null),
  ("createdAt", .string (library.toISODateWithMs message.createdAt)),
  ("createdAtRaw", .string message.createdAtRaw),
  ("accessRevokedAt", .string message.accessRevokedAt),
  ("senderDeletedAt", .string message.senderDeletedAt),
  ("recipientDeletedAt", .string message.recipientDeletedAt),
  ("deletedAt", .string message.deletedAt),
  ("readAt", .string message.readAt),
  ("localSenderCopyWirePayloadJson", .string message.localSenderCopyWirePayloadJson),
  ("direction", .string (directionText message.direction)),
  ("cachedAnchor", .object (anchorToJson message.cachedAnchor))]

def messageFromJson (object : Json.Members) : LocalMessage where
  id := (value object "id").toString
  senderUserId := (value object "senderUserId").toString
  senderDeviceId := (value object "senderDeviceId").toInt 0
  recipientUserId := (value object "recipientUserId").toString
  recipientDeviceId := (value object "recipientDeviceId").toInt 0
  wirePayloadJson := (value object "wirePayloadJson").toString
  consumedOneTimePreKeyId :=
    if (value object "consumedOneTimePreKeyId").isDouble then
      some ((value object "consumedOneTimePreKeyId").toInt 0)
    else none
  createdAt := library.fromISODateWithMs (value object "createdAt").toString
  accessRevokedAt := (value object "accessRevokedAt").toString
  senderDeletedAt := (value object "senderDeletedAt").toString
  recipientDeletedAt := (value object "recipientDeletedAt").toString
  deletedAt := (value object "deletedAt").toString
  readAt := (value object "readAt").toString
  localSenderCopyWirePayloadJson := (value object "localSenderCopyWirePayloadJson").toString
  direction := if (value object "direction").toString = "sent" then .sent else .received
  createdAtRaw := (value object "createdAtRaw").toString
  cachedAnchor := anchorFromJson (value object "cachedAnchor").toObject

/-! ## Secret strings -/

def secretBlobVersion : Int := 1
def secretPbkdf2Iterations : Int := 210000
def secretSaltBytes : Nat := 16
def secretIvBytes : Nat := 12

/-- Random byte strings still to be drawn. -/
abbrev Draws := List QByteArray

/-- `randomBytes`: empty when the generator fails. -/
def randomBytes (size : Nat) : Draws → QByteArray × Draws
  | [] => ([], [])
  | drawn :: rest => (if drawn.length = size then drawn else [], rest)

def deriveStorageKey (passphrase : String) (salt : QByteArray) : Option QByteArray :=
  library.pbkdf2 (toUtf8 passphrase) salt

def secretBlob (iv tag ciphertext : QByteArray) : Json.Members := Json.ofMembers [
  ("version", .number secretBlobVersion),
  ("kdf", .string "PBKDF2-HMAC-SHA256"),
  ("iterations", .number secretPbkdf2Iterations),
  ("iv", .string (library.toBase64 iv)),
  ("authTag", .string (library.toBase64 tag)),
  ("ciphertext", .string (library.toBase64 ciphertext))]

def encryptSecretString (text fieldName passphrase : String) (salt : QByteArray) (draws : Draws) :
    Option Json.Members × Draws :=
  match deriveStorageKey library passphrase salt with
  | none => (none, draws)
  | some key =>
    let (iv, rest) := randomBytes secretIvBytes draws
    if iv.length ≠ secretIvBytes then (none, rest)
    else
      ((library.aesGcmEncrypt key iv (toUtf8 fieldName) (toUtf8 text)).map fun sealed =>
        secretBlob library iv sealed.2 sealed.1, rest)

def decryptSecretString (blob : Json.Members) (fieldName passphrase : String) (salt : QByteArray) :
    Option String :=
  if (value blob "version").toInt 0 ≠ secretBlobVersion then none
  else
    match deriveStorageKey library passphrase salt with
    | none => none
    | some key =>
      (library.aesGcmDecrypt key (library.fromBase64 (value blob "iv").toString) (toUtf8 fieldName)
        (library.fromBase64 (value blob "ciphertext").toString)
        (library.fromBase64 (value blob "authTag").toString)).map library.fromUtf8

def storageError (message : String) : ClientError where
  code := .storageError
  message := message

/-- One secret field of an object, rewritten with the draws that are left. -/
abbrev FieldTransform := String → Json.Members → Draws → Result (Json.Members × Draws)

def protectString (passphrase : String) (salt : QByteArray) : FieldTransform :=
  fun key object draws =>
    match value object key with
    | none | some .null | some (.object _) => .ok (object, draws)
    | some other =>
      match encryptSecretString library (QJsonValue.toString (some other)) key passphrase salt draws with
      | (none, _) => .error (storageError ("Could not encrypt local secret field " ++ key ++ "."))
      | (some encrypted, rest) => .ok (Json.insert key (.object encrypted) object, rest)

def unprotectString (passphrase : String) (salt : QByteArray) : FieldTransform :=
  fun key object draws =>
    match value object key with
    | some (.object blob) =>
      match decryptSecretString library blob key passphrase salt with
      | none => .error (storageError ("Could not decrypt local secret field " ++ key ++ "."))
      | some plaintext => .ok (Json.insert key (.string plaintext) object, draws)
    | _ => .ok (object, draws)

/-- `protectStrings` and `unprotectStrings`: field by field, up to the first failure. -/
def transformStrings (transform : FieldTransform) : List String → Json.Members → Draws →
    Result (Json.Members × Draws)
  | [], object, draws => .ok (object, draws)
  | key :: rest, object, draws => do
    let (object, draws) ← transform key object draws
    transformStrings transform rest object draws

/-- The loop over one array of the document. -/
def transformItems (transform : FieldTransform) (keys : List String) : List Json → Draws →
    Result (List Json × Draws)
  | [], draws => .ok ([], draws)
  | item :: rest, draws => do
    let (object, draws) ← transformStrings transform keys (QJsonValue.toObject (some item)) draws
    let (items, draws) ← transformItems transform keys rest draws
    return (.object object :: items, draws)

def transformArray (transform : FieldTransform) (name : String) (keys : List String)
    (root : Json.Members) (draws : Draws) : Result (Json.Members × Draws) := do
  let (items, draws) ← transformItems transform keys (value root name).toArray draws
  return (Json.insert name (.array items) root, draws)

def transformSession (transform : FieldTransform) (root : Json.Members) (draws : Draws) :
    Result (Json.Members × Draws) :=
  match value root "session" with
  | none => .ok (root, draws)
  | some session => do
    let (object, draws) ←
      transformStrings transform ["accessToken", "refreshToken"] (QJsonValue.toObject (some session)) draws
    return (Json.insert "session" (.object object) root, draws)

/-- The secret fields of a document, in the order both directions visit them. -/
def transformSecrets (transform : FieldTransform) (root : Json.Members) (draws : Draws) :
    Result (Json.Members × Draws) := do
  let (root, draws) ← transformSession transform root draws
  let (root, draws) ← transformArray transform "deviceKeys"
    ["identityPrivateKey", "identitySigningPrivateKey", "signedPreKeyPrivate"] root draws
  let (root, draws) ← transformArray transform "oneTimePreKeys" ["preKeyPrivate"] root draws
  transformArray transform "trustPins" ["identityKey"] root draws

def protectSecrets (passphrase : String) (storedSalt : QByteArray) (root : Json.Members)
    (draws : Draws) : Result Json.Members :=
  if passphrase.isEmpty then
    .error (storageError "A local state passphrase is required before saving real-mode secrets.")
  else
    let (salt, draws) := if storedSalt.isEmpty then randomBytes secretSaltBytes draws else (storedSalt, draws)
    if salt.length ≠ secretSaltBytes then
      .error (storageError "Could not create local state encryption salt.")
    else
      (transformSecrets (protectString library passphrase salt)
        (Json.insert "secretSalt" (.string (library.toBase64 salt)) root) draws).map Prod.fst

def unprotectSecrets (passphrase : String) (salt : QByteArray) (root : Json.Members) :
    Result Json.Members :=
  if passphrase.isEmpty then
    .error (storageError "A local state passphrase is required before loading real-mode secrets.")
  else if salt.length ≠ secretSaltBytes then
    .error (storageError "Local state encryption salt is invalid.")
  else (transformSecrets (unprotectString library passphrase salt) root []).map Prod.fst

/-- A library whose decryption refuses, as AES-GCM does under another key. -/
def refusingLibrary : StorageLibrary where
  pbkdf2 := fun _ _ => some (List.replicate 32 0)
  aesGcmEncrypt := fun _ _ _ plaintext => some (plaintext.map (· ^^^ 0x5a), List.replicate 16 0)
  aesGcmDecrypt := fun _ _ _ _ _ => none
  toBase64 := fun _ => "AAAAAAAAAAAAAAAAAAAAAA=="
  fromBase64 := fun _ => List.replicate 16 0
  fromUtf8 := fun _ => ""
  fromISODateWithMs := fun _ => none
  toISODateWithMs := fun _ => ""
  isLetterOrNumber := Char.isAlphanum
  siblingPath := fun _ fileName => fileName

end EpicKfc.Source.Client.StoreDocuments
