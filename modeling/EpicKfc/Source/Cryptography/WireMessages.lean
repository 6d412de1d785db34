import EpicKfc.Source.Cryptography.SignalMessaging
import EpicKfc.Source.Server.BlockchainHashing
import EpicKfc.Source.Server.WirePayloads

/-!
# Wire messages of the cryptography package

`cryptography/src/wireFormat.ts` and the encrypting half of
`signal/libsignalMessaging.ts`. `JSON.stringify` escapes the characters that Python's
encoder escapes. `JSON.parse` reads what Python reads but the constants beyond JSON;
an integer of more than 4300 digits is not read here.
-/

namespace EpicKfc.Source.Cryptography
open EpicKfc.Lib
open EpicKfc.Lib.JsonText (Node Text textOf)
open EpicKfc.Source.Server

/-- `toBase64` of `bufferUtils.ts`. -/
def toBase64 (bytes : Bytes) : String := String.ofList (Base64.encode bytes)

/-! ## JSON -/

/-- `JSON.stringify`. -/
def stringify (json : Json) : List Char := Json.compact BlockchainHashing.encodeBasestring json

/-- The constants of Python that `JSON.parse` refuses. -/
def pythonConstants : List (List Char) := ["NaN".toList, "Infinity".toList, "-Infinity".toList]

mutual

def hasConstant : Node → Bool
  | .float literal => literal ∈ pythonConstants
  | .array items => anyConstant items
  | .object members => anyMemberConstant members
  | .null | .bool _ | .int _ | .string _ => false

def anyConstant : List Node → Bool
  | [] => false
  | item :: rest => hasConstant item || anyConstant rest

def anyMemberConstant : List (Text × Node) → Bool
  | [] => false
  | (_, value) :: rest => hasConstant value || anyMemberConstant rest

end

/-- `JSON.parse`; of members with one name the last counts. -/
def parseJson (text : List Char) : Option Node :=
  ((JsonText.parse text).filter fun tree => !hasConstant tree).map WirePayloads.pythonValue

/-! ## `wireFormat.ts` -/

/-- An absent registration id is left out. -/
def wireMembers (msg : LibSignalWireMessage) : Json.Members := [
  ("format", .string msg.format),
  ("type", .number msg.type),
  ("bodyB64", .string msg.bodyB64)] ++
  msg.registrationId.toList.map fun registrationId => ("registrationId", .number registrationId)

def serializeWireMessage (msg : LibSignalWireMessage) : String :=
  String.ofList (stringify (.object (wireMembers msg)))

inductive WireFormatError where
  | syntaxError
  | nullValue
  | format
  /-- No message of the interface; the package hands it on as it is. -/
  | shape
deriving DecidableEq

/-- The package's own message. -/
def WireFormatError.message : WireFormatError → Option String
  | .format => some "deserializeWireMessage: expected libsignal-v1 wire format"
  | .syntaxError | .nullValue | .shape => none

/-- The parsed object as the interface it is cast to. -/
def wireOfDict (dict : WirePayloads.Dict) : Option LibSignalWireMessage := do
  let type ← WirePayloads.intOf (WirePayloads.get dict "type")
  let bodyB64 ← WirePayloads.strOf (WirePayloads.get dict "bodyB64")
  let registrationId ← match WirePayloads.get dict "registrationId" with
    | none | some .null => some none
    | some (.int value) => if 0 ≤ value then some (some value.toNat) else none
    | some _ => none
  return ⟨WirePayloads.libsignalWireFormat, type, textOf bodyB64, registrationId⟩

def deserializeWireMessage (json : String) : Except WireFormatError LibSignalWireMessage :=
  match parseJson json.toList with
  | none => .error .syntaxError
  | some (.object parsed) =>
    if WirePayloads.strOf (WirePayloads.get parsed "format") ≠
        some (JsonText.codePoints WirePayloads.libsignalWireFormat) then .error .format
    else match wireOfDict parsed with
      | none => .error .shape
      | some msg => .ok msg
  | some .null => .error .nullValue
  | some _ => .error .format

/-! ## Encryption -/

structure EncryptedMessage where
  ciphertext : Bytes
  iv : Bytes
  authTag : Bytes

/-- AES-256-GCM encryption of Node, by plaintext, key, IV and associated data: the ciphertext and
the tag. -/
structure SealingRuntime extends NodeRuntime where
  gcmEncrypt : Bytes → Bytes → Bytes → String → Bytes × Bytes

/-- `crypto.randomBytes` for one envelope. -/
structure EnvelopeDraws where
  key : Bytes
  iv : Bytes
  keyLength : key.length = 32
  ivLength : iv.length = 12

/-- `encryptMessage` of `cryptoEngine.ts`, with the IV it draws. -/
def encryptMessage (node : SealingRuntime) (plaintext symmetricKey iv : Bytes)
    (associatedData : String) : Except DecryptError EncryptedMessage :=
  if symmetricKey.length ≠ 32 then .error .keyLength
  else
    let sealed := node.gcmEncrypt plaintext symmetricKey iv associatedData
    .ok ⟨sealed.1, iv, sealed.2⟩

def stringifyEnvelope (envelope : AeadPayloadEnvelopeV1) : Bytes := Json.utf8 (stringify (.object [
  ("version", .number envelope.version),
  ("alg", .string envelope.alg),
  ("keyB64", .string envelope.keyB64),
  ("ivB64", .string envelope.ivB64),
  ("authTagB64", .string envelope.authTagB64),
  ("ciphertextB64", .string envelope.ciphertextB64)]))

def wrapApplicationPayloadAead (node : SealingRuntime) (draws : EnvelopeDraws) (plaintext : Bytes) :
    Except DecryptError Bytes :=
  (encryptMessage node plaintext draws.key draws.iv envelopeAad).map fun sealed =>
    stringifyEnvelope {
      version := 1
      alg := "AES-256-GCM"
      keyB64 := toBase64 draws.key
      ivB64 := toBase64 sealed.iv
      authTagB64 := toBase64 sealed.authTag
      ciphertextB64 := toBase64 sealed.ciphertext }

/-- What libsignal makes of a plaintext; the body is a binary string. -/
structure MessageType where
  type : Int
  body : Option Bytes
  registrationId : Option Nat

def messageTypeToWire (msg : MessageType) : LibSignalWireMessage where
  format := "libsignal-v1"
  type := msg.type
  bodyB64 := toBase64 (msg.body.getD [])
  registrationId := msg.registrationId

/-- The encryption of libsignal's session cipher, on the store it may change. -/
abbrev SessionEncrypt :=
  SignalProtocolAddress → Bytes → ProtocolStore → Except DecryptError MessageType × ProtocolStore

/-- `encryptForRecipient`, with the device it leaves. -/
def encryptForRecipient (node : SealingRuntime) (cipherEncrypt : SessionEncrypt)
    (recipientUserId : UserId) (recipientDeviceId : Nat) (plaintext : Bytes) (draws : EnvelopeDraws)
    (sender : GeneratedDevice) : Except DecryptError LibSignalWireMessage × GeneratedDevice :=
  match wrapApplicationPayloadAead node draws plaintext with
  | .error error => (.error error, sender)
  | .ok wrappedPayload =>
    let (ciphertext, store) := cipherEncrypt (protocolAddress recipientUserId recipientDeviceId)
      wrappedPayload sender.store
    (ciphertext.map messageTypeToWire, { sender with store := store })

/-! ## The body of a message -/

/-- What `scripts/e2e-with-backend.js` posts; an undefined member is left out. -/
def messageBody (senderDeviceId : Nat) (recipientUserId : String) (recipientDeviceId : Nat)
    (wireJson : String) (oneTimePreKeyId : Option Nat) : Json.Members := [
  ("sender_device_id", .number senderDeviceId),
  ("recipient_user_id", .string recipientUserId),
  ("recipient_device_id", .number recipientDeviceId),
  ("wire_payload_json", .string wireJson)] ++
  oneTimePreKeyId.toList.map fun keyId => ("consumed_one_time_prekey_id", .number keyId)

end EpicKfc.Source.Cryptography
