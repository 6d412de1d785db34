import EpicKfc.Source.Client.StoreDocuments

/-!
# Records through their objects

What the per-type conversions of `client/src/storage/JsonLocalStore.cpp` read back
from what they wrote. Reading looks fields up by name, so it is the same for
objects with the same fields.
-/

namespace EpicKfc.Source.Client.StoreDocuments
open EpicKfc.Lib
open EpicKfc.Source.Client

/-! ## What the library promises -/

/-- Milliseconds of 0001-01-01T00:00:00.000Z and of 9999-12-31T23:59:59.999Z. -/
def firstIsoInstant : Int := -62135596800000
def lastIsoInstant : Int := 253402300799999

/-- The dates that `Qt::ISODateWithMs` has a text for; the invalid date has the empty one. -/
def HasIsoText : QDateTime → Prop
  | none => True
  | some instant => firstIsoInstant ≤ instant ∧ instant ≤ lastIsoInstant

/-- `QString::fromUtf8` skips a byte order mark. -/
def StartsWithBom (text : String) : Prop := text.toList.head? = some '\uFEFF'

instance (text : String) : Decidable (StartsWithBom text) :=
  inferInstanceAs (Decidable (text.toList.head? = some '\uFEFF'))

structure StorageLaws (library : StorageLibrary) : Prop where
  decrypts : ∀ key iv associated plaintext ciphertext tag,
    library.aesGcmEncrypt key iv associated plaintext = some (ciphertext, tag) →
    library.aesGcmDecrypt key iv associated ciphertext tag = some plaintext
  base64 : ∀ bytes, library.fromBase64 (library.toBase64 bytes) = bytes
  utf8 : ∀ text, ¬ StartsWithBom text → library.fromUtf8 (toUtf8 text) = text
  dates : ∀ date, HasIsoText date → library.fromISODateWithMs (library.toISODateWithMs date) = date

/-- A value of the C++ type `int`. -/
def IsInt (number : Int) : Prop := -2 ^ 31 ≤ number ∧ number < 2 ^ 31

theorem toInt_number {number : Int} (typed : IsInt number) (default : Int) :
    QJsonValue.toInt (some (.number number)) default = number := if_pos typed

/-! ## Fields of a written object -/

theorem value_ofMembers {members : Json.Members} (distinct : (members.map Prod.fst).Nodup)
    (name : String) : value (Json.ofMembers members) name = Json.lookup members name :=
  Json.lookup_ofMembers members distinct name

/-- Objects with the same fields. -/
def SameFields (first second : Json.Members) : Prop := ∀ name, value first name = value second name

theorem userFromJson_userToJson (user : UserProfile) : userFromJson (userToJson user) = user := by
  simp (disch := simp) only [userFromJson, userToJson, value_ofMembers]
  simp [Json.lookup_cons, QJsonValue.toString]

/-- A session as `load` reads it back. -/
def normalisedSession (session : AuthSession) : AuthSession :=
  { session with tokens := { session.tokens with tokenType := "bearer", expiresIn := 0 } }

theorem sessionFromJson_sessionToJson (session : AuthSession) :
    sessionFromJson (sessionToJson session) = normalisedSession session := by
  simp (disch := simp) only [sessionFromJson, sessionToJson, value_ofMembers]
  simp [Json.lookup_cons, QJsonValue.toString, QJsonValue.toObject, normalisedSession,
    userFromJson_userToJson]

theorem deviceFromJson_deviceToJson {material : DeviceKeyMaterial} (deviceId : IsInt material.deviceId)
    (registrationId : IsInt material.registrationId)
    (signedPreKeyId : IsInt material.signedPreKeyId) :
    deviceFromJson (deviceToJson material) = material := by
  simp (disch := simp) only [deviceFromJson, deviceToJson, value_ofMembers]
  simp [Json.lookup_cons, QJsonValue.toString, toInt_number, deviceId, registrationId,
    signedPreKeyId]

theorem preKeyFromJson_preKeyToJson {preKey : OneTimePreKey} (deviceId : IsInt preKey.deviceId)
    (preKeyId : IsInt preKey.preKeyId) : preKeyFromJson (preKeyToJson preKey) = preKey := by
  simp (disch := simp) only [preKeyFromJson, preKeyToJson, value_ofMembers]
  simp [Json.lookup_cons, QJsonValue.toString, QJsonValue.toBool, toInt_number, deviceId, preKeyId]

theorem knownUserFromJson_knownUserToJson {user : KnownUser} (deviceId : IsInt user.deviceId) :
    knownUserFromJson (knownUserToJson user) = user := by
  simp (disch := simp) only [knownUserFromJson, knownUserToJson, value_ofMembers]
  simp [Json.lookup_cons, QJsonValue.toString, toInt_number, deviceId]

theorem anchorFromJson_anchorToJson (anchor : BlockchainAnchor) :
    anchorFromJson (anchorToJson anchor) = anchor := by
  simp (disch := simp) only [anchorFromJson, anchorToJson, value_ofMembers]
  simp [Json.lookup_cons, QJsonValue.toString]

variable {library : StorageLibrary}

theorem trustPinFromJson_trustPinToJson (laws : StorageLaws library) {pin : TrustPin}
    (deviceId : IsInt pin.deviceId) (firstSeenAt : HasIsoText pin.firstSeenAt) :
    trustPinFromJson library (trustPinToJson library pin) = pin := by
  simp (disch := simp) only [trustPinFromJson, trustPinToJson, value_ofMembers]
  simp [Json.lookup_cons, QJsonValue.toString, toInt_number, deviceId, laws.dates _ firstSeenAt]

theorem directionText_eq_sent (direction : MessageDirection) :
    (if directionText direction = "sent" then MessageDirection.sent else .received) = direction := by
  cases direction <;> rfl

theorem messageFromJson_messageToJson (laws : StorageLaws library) {message : LocalMessage}
    (senderDeviceId : IsInt message.senderDeviceId)
    (recipientDeviceId : IsInt message.recipientDeviceId)
    (consumed : ∀ preKeyId, message.consumedOneTimePreKeyId = some preKeyId → IsInt preKeyId)
    (createdAt : HasIsoText message.createdAt) :
    messageFromJson library (messageToJson library message) = message := by
  have preKey (name : String)
      (written : value (messageToJson library message) name =
        some (message.consumedOneTimePreKeyId.elim .null fun preKeyId => .number preKeyId)) :
      (if (value (messageToJson library message) name).isDouble then
        some ((value (messageToJson library message) name).toInt 0) else none) =
        message.consumedOneTimePreKeyId := by
    rw [written]
    cases given : message.consumedOneTimePreKeyId with
    | none => rfl
    | some preKeyId =>
      simp [QJsonValue.isDouble, toInt_number (consumed preKeyId given)]
  have preKeyId := preKey "consumedOneTimePreKeyId" (by
    simp (disch := simp) only [messageToJson, value_ofMembers]
    cases message.consumedOneTimePreKeyId <;> simp [Json.lookup_cons])
  unfold messageFromJson
  rw [preKeyId]
  simp (disch := simp) only [messageToJson, value_ofMembers]
  simp [Json.lookup_cons, QJsonValue.toString, QJsonValue.toObject, toInt_number, senderDeviceId,
    recipientDeviceId, laws.dates _ createdAt, directionText_eq_sent, anchorFromJson_anchorToJson]

/-! ## Reading looks up fields -/

theorem sessionFromJson_congr {first second : Json.Members} (same : SameFields first second) :
    sessionFromJson first = sessionFromJson second := by
  simp only [sessionFromJson, same _]

theorem deviceFromJson_congr {first second : Json.Members} (same : SameFields first second) :
    deviceFromJson first = deviceFromJson second := by
  simp only [deviceFromJson, same _]

theorem preKeyFromJson_congr {first second : Json.Members} (same : SameFields first second) :
    preKeyFromJson first = preKeyFromJson second := by
  simp only [preKeyFromJson, same _]

theorem trustPinFromJson_congr {first second : Json.Members} (same : SameFields first second) :
    trustPinFromJson library first = trustPinFromJson library second := by
  simp only [trustPinFromJson, same _]

end EpicKfc.Source.Client.StoreDocuments
