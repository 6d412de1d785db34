import EpicKfc.Lib.Json
import Mathlib.Algebra.Group.Int.Defs

/-!
# The client's domain records and Qt's JSON accessors

`client/src/domain/Models.h`. A `QString` is a string, a `QDateTime` is an
instant in milliseconds or invalid, `Result<T>` is a value or an error. Reading a
`QJsonValue` never fails: a value of another kind reads as the default.
-/

namespace EpicKfc.Source.Client
open EpicKfc.Lib

inductive ErrorCode where
  | invalidCommand
  | invalidConfiguration
  | authRequired
  | networkError
  | tlsError
  | httpError
  | cryptoError
  | trustError
  | storageError
  | notFound
  | operationFailed
deriving DecidableEq, Repr

structure ClientError where
  code : ErrorCode
  message : String
deriving DecidableEq, Repr

abbrev Result (α : Type) := Except ClientError α

inductive MessageDirection where
  | sent
  | received
deriving DecidableEq, Repr

/-- Milliseconds since the epoch; `none` is an invalid date. -/
abbrev QDateTime := Option Int

def defaultDeviceId : Int := 1

structure UserProfile where
  id : String := ""
  username : String := ""
  email : String := ""
deriving DecidableEq, Repr

structure TokenSet where
  accessToken : String := ""
  refreshToken : String := ""
  tokenType : String := ""
  expiresIn : Int := 0
deriving DecidableEq, Repr

structure AuthSession where
  user : UserProfile := {}
  tokens : TokenSet := {}
deriving DecidableEq, Repr

structure UserAddress where
  userId : String
  username : String
  deviceId : Int
deriving DecidableEq, Repr

structure KnownUser where
  userId : String
  username : String
  deviceId : Int
deriving DecidableEq, Repr

structure DeviceKeyMaterial where
  deviceId : Int
  registrationId : Int
  identityKey : String
  identityPrivateKey : String
  identitySigningKey : String
  identitySigningPrivateKey : String
  signedPreKeyId : Int
  signedPreKey : String
  signedPreKeyPrivate : String
  signedPreKeySignature : String
deriving DecidableEq, Repr

structure OneTimePreKey where
  deviceId : Int
  preKeyId : Int
  publicKey : String
  privateKey : String
  uploaded : Bool
deriving DecidableEq, Repr

structure PreKeyBundle where
  userId : String
  registrationId : Int
  deviceId : Int
  identityKey : String
  identitySigningKey : String
  signedPreKeyId : Int
  signedPreKey : String
  signedPreKeySignature : String
  oneTimePreKeyId : Option Int
  oneTimePreKey : String
deriving DecidableEq, Repr

structure TrustPin where
  userId : String
  deviceId : Int
  identityKey : String
  firstSeenAt : QDateTime
deriving DecidableEq, Repr

structure EncryptedPayload where
  wirePayloadJson : String
  consumedOneTimePreKeyId : Option Int
deriving DecidableEq, Repr

structure BlockchainAnchor where
  id : String := ""
  messageId : String := ""
  recordId : String := ""
  digest : String := ""
  merkleRoot : String := ""
  transactionHash : String := ""
  contractAddress : String := ""
  chain : String := ""
  status : String := ""
  anchoredAt : String := ""
deriving DecidableEq, Repr

structure LocalMessage where
  id : String
  senderUserId : String
  senderDeviceId : Int
  recipientUserId : String
  recipientDeviceId : Int
  wirePayloadJson : String
  consumedOneTimePreKeyId : Option Int
  createdAt : QDateTime
  accessRevokedAt : String := ""
  senderDeletedAt : String := ""
  recipientDeletedAt : String := ""
  deletedAt : String := ""
  readAt : String := ""
  localSenderCopyWirePayloadJson : String := ""
  direction : MessageDirection
  createdAtRaw : String := ""
  cachedAnchor : BlockchainAnchor := {}
deriving DecidableEq, Repr

abbrev MessageList := List LocalMessage

/-! ## Qt's JSON accessors -/

/-- `QJsonValue`; `none` is `Undefined`. -/
abbrev QJsonValue := Option Json

namespace QJsonValue

def toString : QJsonValue → String
  | some (.string text) => text
  | _ => ""

/-- `toInt`: an integer that fits an `int`. -/
def toInt (value : QJsonValue) (default : Int) : Int :=
  match value with
  | some (.number number) => if -2 ^ 31 ≤ number ∧ number < 2 ^ 31 then number else default
  | _ => default

def toBool (value : QJsonValue) (default : Bool) : Bool :=
  match value with
  | some (.bool flag) => flag
  | _ => default

def toObject : QJsonValue → Json.Members
  | some (.object members) => members
  | _ => []

def toArray : QJsonValue → List Json
  | some (.array items) => items
  | _ => []

def isDouble : QJsonValue → Bool
  | some (.number _) => true
  | some (.fraction _) => true
  | _ => false

def isNull : QJsonValue → Bool
  | some .null => true
  | _ => false

end QJsonValue

/-- `QJsonObject::value`. -/
def value (object : Json.Members) (key : String) : QJsonValue := Json.lookup object key

end EpicKfc.Source.Client
