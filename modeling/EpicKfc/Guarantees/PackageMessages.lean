import EpicKfc.Guarantees.MessageDelivery
import EpicKfc.Guarantees.PackageDevices

/-!
# Messages of the cryptography package

The package writes a message as a JSON object of at most four members, which the
schema of the message routes accepts and every reader of the stored text reads as the
same message. Inside is an envelope that carries its own key, so that a message which
the recipient's session opens gives back the plaintext.
-/

namespace EpicKfc.Guarantees.PackageMessages
open EpicKfc.Lib
open EpicKfc.Lib.JsonText
open EpicKfc.Source.Cryptography
open EpicKfc.Source.MessageRequests
open EpicKfc.Source.Server
open EpicKfc.Source.Server.WirePayloads
open EpicKfc.Guarantees.MessageDelivery
open EpicKfc.Guarantees.MessageRoundTrip (octets)
open EpicKfc.Guarantees.PayloadAcceptance (ascii_decimal)

/-! ## The text of a message -/

/-- What libsignal returns: one of the two types, a body, and no registration id but a positive one. -/
structure Sendable (msg : MessageType) : Prop where
  type : msg.type = 1 ∨ msg.type = 3
  body : msg.body.getD [] ≠ []
  registrationId : ∀ registrationId ∈ msg.registrationId, 0 < registrationId ∧ registrationId < 2 ^ 31

/-- The dict that the text of a message is read as. -/
def wireDict (wire : LibSignalWireMessage) : Dict := [
  (codePoints "format", .string (codePoints wire.format)),
  (codePoints "type", .int wire.type),
  (codePoints "bodyB64", .string (codePoints wire.bodyB64))] ++
  wire.registrationId.toList.map fun registrationId =>
    (codePoints "registrationId", .int registrationId)

variable {msg : MessageType}

theorem digits_of_small {value : Nat} (small : value < 2 ^ 31) :
    (Nat.toDigits 10 value).length ≤ maxIntegerDigits := by
  have large : 10 ^ 10 ≤ 10 ^ maxIntegerDigits := Nat.pow_le_pow_right (by decide) (by decide)
  exact (Nat.length_toDigits_le_iff (by decide) (by decide)).mpr (by omega)

theorem parse_serialize (sendable : Sendable msg) :
    parse (serializeWireMessage (messageTypeToWire msg)).toList =
      some (.object (wireDict (messageTypeToWire msg))) := by
  obtain ⟨type, body, registrationId⟩ := msg
  have typed : (Nat.toDigits 10 type.natAbs).length ≤ maxIntegerDigits := by
    apply digits_of_small
    rcases sendable.type with same | same <;> (simp only at same; omega)
  have readable : Readable (.object (wireMembers (messageTypeToWire ⟨type, body, registrationId⟩))) := by
    cases registrationId with
    | none => simpa [wireMembers, messageTypeToWire, Readable, ReadableMembers] using typed
    | some id =>
      have small := digits_of_small (sendable.registrationId id rfl).2
      simpa [wireMembers, messageTypeToWire, Readable, ReadableMembers] using ⟨typed, small⟩
  rw [serializeWireMessage, String.toList_ofList, stringify,
    parse_compact BlockchainHashing.quotes_encodeBasestring readable]
  cases registrationId <;> rfl

theorem dictOf_wireDict (wire : LibSignalWireMessage) :
    dictOf (pythonMembers (wireDict wire)) = wireDict wire := by
  cases same : wire.registrationId <;> simp only [wireDict, same] <;> rfl

theorem get_wireDict (wire : LibSignalWireMessage) :
    get (wireDict wire) "format" = some (.string (codePoints wire.format)) ∧
    get (wireDict wire) "type" = some (.int wire.type) ∧
    get (wireDict wire) "bodyB64" = some (.string (codePoints wire.bodyB64)) ∧
    get (wireDict wire) "registrationId" =
      wire.registrationId.map fun registrationId => .int registrationId := by
  cases same : wire.registrationId <;> simp only [wireDict, same] <;> exact ⟨rfl, rfl, rfl, rfl⟩

/-- What is written is read back. -/
theorem deserialize_serialize (sendable : Sendable msg) :
    deserializeWireMessage (serializeWireMessage (messageTypeToWire msg)) =
      .ok (messageTypeToWire msg) := by
  obtain ⟨format, type, body, registrationId⟩ := get_wireDict (messageTypeToWire msg)
  have clean : hasConstant (.object (wireDict (messageTypeToWire msg))) = false := by
    cases same : msg.registrationId <;> simp only [wireDict, messageTypeToWire, same] <;> rfl
  have read : wireOfDict (wireDict (messageTypeToWire msg)) = some (messageTypeToWire msg) := by
    rw [wireOfDict, type, body, registrationId, intOf, strOf]
    cases same : msg.registrationId <;>
      simp [messageTypeToWire, same, textOf_codePoints, libsignalWireFormat]
  have parsed : parseJson (serializeWireMessage (messageTypeToWire msg)).toList =
      some (.object (wireDict (messageTypeToWire msg))) := by
    rw [parseJson, parse_serialize sendable, Option.filter_some, clean]
    exact congrArg (fun dict => some (Node.object dict)) (dictOf_wireDict _)
  have named : strOf (get (wireDict (messageTypeToWire msg)) "format") =
      some (codePoints libsignalWireFormat) := by
    rw [format]
    rfl
  simp only [deserializeWireMessage, parsed, named, ne_eq, not_true_eq_false, if_false, read]

/-! ## Acceptance -/

/-- The last member of a message, with its comma. -/
def registrationText (registrationId : Option Nat) : List Char :=
  (registrationId.map fun (id : Nat) => ",\"registrationId\":".toList ++ Json.decimal id).getD []

theorem toList_serialize (msg : MessageType) :
    (serializeWireMessage (messageTypeToWire msg)).toList =
      "\x7b\"format\":\"libsignal-v1\",\"type\":".toList ++ Json.decimal msg.type ++
        ",\"bodyB64\":\"".toList ++ Base64.encode (msg.body.getD []) ++ "\"".toList ++
        registrationText msg.registrationId ++ "\x7d".toList := by
  have plain : ∀ char ∈ Base64.encode (msg.body.getD []),
      BlockchainHashing.encodedChar char = [char] :=
    Base64.forall_mem_encode (by decide) (by decide) _
  have kept : (Base64.encode (msg.body.getD [])).flatMap BlockchainHashing.encodedChar =
      Base64.encode (msg.body.getD []) := by
    rw [List.flatMap_congr plain, List.flatMap_singleton']
  have names : BlockchainHashing.encodeBasestring "format" = "\"format\"".toList ∧
      BlockchainHashing.encodeBasestring "libsignal-v1" = "\"libsignal-v1\"".toList ∧
      BlockchainHashing.encodeBasestring "type" = "\"type\"".toList ∧
      BlockchainHashing.encodeBasestring "bodyB64" = "\"bodyB64\"".toList ∧
      BlockchainHashing.encodeBasestring "registrationId" = "\"registrationId\"".toList := by decide
  obtain ⟨format, version, type, body, registrationId⟩ := names
  have text : BlockchainHashing.encodeBasestring (toBase64 (msg.body.getD [])) =
      '"' :: Base64.encode (msg.body.getD []) ++ ['"'] := by
    rw [BlockchainHashing.encodeBasestring, toBase64, String.toList_ofList, kept]
  rw [serializeWireMessage, String.toList_ofList, stringify]
  cases same : msg.registrationId <;>
    simp [wireMembers, messageTypeToWire, same, Json.compact, Json.compactMembers,
      Json.separated, registrationText, format, version, type, body, registrationId, text]

theorem ascii_registrationText (registrationId : Option Nat) :
    ∀ char ∈ registrationText registrationId, char.toNat < 128 := by
  cases registrationId with
  | none => simp [registrationText]
  | some id =>
    have name : ∀ char ∈ ",\"registrationId\":".toList, char.toNat < 128 := ascii_of_all (by decide)
    simp only [registrationText, Option.map_some, Option.getD_some, List.forall_mem_append]
    exact ⟨name, ascii_decimal id⟩

/-- The base64 of a message is most of its text. -/
theorem size_serialize (msg : MessageType) :
    (Json.utf8 (serializeWireMessage (messageTypeToWire msg)).toList).length =
      (Base64.encode (msg.body.getD [])).length + (Json.decimal msg.type).length +
        (registrationText msg.registrationId).length + 46 := by
  have body : ∀ char ∈ Base64.encode (msg.body.getD []), char.toNat < 128 :=
    Base64.forall_mem_encode (by decide) (by decide) _
  rw [toList_serialize, Json.length_utf8]
  · simp
    omega
  · have opening : ∀ char ∈ "\x7b\"format\":\"libsignal-v1\",\"type\":".toList, char.toNat < 128 :=
      ascii_of_all (by decide)
    have middle : ∀ char ∈ ",\"bodyB64\":\"".toList, char.toNat < 128 := ascii_of_all (by decide)
    have closing : ∀ char ∈ "\"".toList, char.toNat < 128 := ascii_of_all (by decide)
    have last : ∀ char ∈ "\x7d".toList, char.toNat < 128 := ascii_of_all (by decide)
    simp only [List.forall_mem_append]
    exact ⟨⟨⟨⟨⟨⟨opening, ascii_decimal msg.type⟩, middle⟩, body⟩, closing⟩,
      ascii_registrationText msg.registrationId⟩, last⟩

/-- The schema takes the text of a message that is not too large, and returns it unchanged. -/
theorem validate_serialize (sendable : Sendable msg)
    (small : (Json.utf8 (serializeWireMessage (messageTypeToWire msg)).toList).length ≤
      maxWirePayloadBytes) :
    validateWirePayloadJson (serializeWireMessage (messageTypeToWire msg)) =
      .ok (serializeWireMessage (messageTypeToWire msg)) := by
  obtain ⟨format, type, body, registrationId⟩ := get_wireDict (messageTypeToWire msg)
  have short : (Base64.encode (msg.body.getD [])).length ≤ maxWirePayloadBytes := by
    rw [size_serialize] at small
    omega
  have base64 := @RequestModels.validateBase64_encode _ sendable.body maxWirePayloadBytes short
  refine validateWirePayloadJson_ok_iff.mpr ⟨rfl, small, _, parse_serialize sendable, ?_, ?_⟩
  · rw [dictOf_wireDict]
    cases same : msg.registrationId <;> simp only [wireDict, messageTypeToWire, same] <;> rfl
  · have allowed : ¬ msg.type ∉ libsignalAllowedMessageTypes := by
      rcases sendable.type with same | same <;> simp [same, libsignalAllowedMessageTypes]
    have registered : validateRegistrationId (msg.registrationId.map fun (id : Nat) => Node.int id) = .ok () := by
      cases same : msg.registrationId with
      | none => rfl
      | some id =>
        have positive := (sendable.registrationId id same).1
        simp only [Option.map_some, validateRegistrationId, intOf]
        rw [if_neg (by omega)]
    have named : strOf (some (.string (codePoints (messageTypeToWire msg).format))) =
        some (codePoints libsignalWireFormat) := rfl
    rw [dictOf_wireDict, validateLibsignalWirePayload, format, named, type, body, registrationId]
    simp only [messageTypeToWire, toBase64, ne_eq, not_true_eq_false, if_false, intOf, strOf, allowed,
      base64, registered]

/-! ## The envelope -/

/-- The envelope that is written for a plaintext. -/
def sealedEnvelope (node : SealingRuntime) (draws : EnvelopeDraws) (plaintext : Bytes) :
    AeadPayloadEnvelopeV1 where
  version := 1
  alg := "AES-256-GCM"
  keyB64 := toBase64 draws.key
  ivB64 := toBase64 draws.iv
  authTagB64 := toBase64 (node.gcmEncrypt plaintext draws.key draws.iv envelopeAad).2
  ciphertextB64 := toBase64 (node.gcmEncrypt plaintext draws.key draws.iv envelopeAad).1

/-- What Node does for this plaintext: `JSON.parse` reads the envelope that was written, and
AES-256-GCM opens what it sealed, with a tag of 16 bytes. -/
structure SealsEnvelope (node : SealingRuntime) (draws : EnvelopeDraws) (plaintext : Bytes) : Prop where
  parses : node.parseEnvelope (stringifyEnvelope (sealedEnvelope node draws plaintext)) =
    some (sealedEnvelope node draws plaintext)
  opens : node.gcmDecrypt (node.gcmEncrypt plaintext draws.key draws.iv envelopeAad).1 draws.iv
    (node.gcmEncrypt plaintext draws.key draws.iv envelopeAad).2 draws.key envelopeAad = some plaintext
  tag : (node.gcmEncrypt plaintext draws.key draws.iv envelopeAad).2.length = 16

theorem wrap_eq (node : SealingRuntime) (draws : EnvelopeDraws) (plaintext : Bytes) :
    wrapApplicationPayloadAead node draws plaintext =
      .ok (stringifyEnvelope (sealedEnvelope node draws plaintext)) := by
  rw [wrapApplicationPayloadAead, encryptMessage, if_neg (not_not.mpr draws.keyLength)]
  rfl

/-- An envelope is opened with the key it carries. -/
theorem unwrap_sealed {node : SealingRuntime} {draws : EnvelopeDraws} {plaintext : Bytes}
    (base64 : ∀ bytes, node.fromBase64 (toBase64 bytes) = bytes)
    (seals : SealsEnvelope node draws plaintext) :
    unwrapApplicationPayloadAead node.toNodeRuntime
      (stringifyEnvelope (sealedEnvelope node draws plaintext)) = .ok plaintext := by
  rw [unwrapApplicationPayloadAead, seals.parses]
  simp [sealedEnvelope, base64, decryptMessage, draws.keyLength, draws.ivLength, seals.tag,
    seals.opens]

/-! ## From device to device -/

/-- The recipient's session opens a body of this type, as what was sealed for it. -/
def SessionOpens (library : SignalLibrary) (address : SignalProtocolAddress) (msg : MessageType)
    (store : ProtocolStore) (plain : Bytes) : Prop :=
  (msg.type = 3 ∧ (library.decryptPreKeyWhisperMessage address (msg.body.getD []) store).1 = .ok plain) ∨
    (msg.type = 1 ∧ (library.decryptWhisperMessage address (msg.body.getD []) store).1 = .ok plain)

/-- A message whose session opens is decrypted to what its envelope holds. -/
theorem decrypt_of_opens {node : NodeRuntime} {library : SignalLibrary} {senderUserId : UserId}
    {senderDeviceId : Nat} {recipient : GeneratedDevice} {plain : Bytes}
    (base64 : ∀ bytes, node.fromBase64 (toBase64 bytes) = bytes)
    (opens : SessionOpens library (protocolAddress senderUserId senderDeviceId) msg recipient.store
      plain) :
    (decryptFromSender node library senderUserId senderDeviceId (messageTypeToWire msg) recipient).1 =
      unwrapApplicationPayloadAead node plain := by
  have decoded : node.fromBase64 (messageTypeToWire msg).bodyB64 = msg.body.getD [] := base64 _
  have typed : (messageTypeToWire msg).type = msg.type := rfl
  have named : (messageTypeToWire msg).format = "libsignal-v1" := rfl
  rw [decryptFromSender, if_neg (not_not.mpr named)]
  simp only [decoded, typed]
  rcases opens with ⟨type, opened⟩ | ⟨type, opened⟩
  · rw [if_pos type]
    generalize library.decryptPreKeyWhisperMessage _ _ _ = result at opened
    obtain ⟨answer, store⟩ := result
    simp only at opened
    rw [opened]
  · rw [if_neg (by omega), if_pos type]
    generalize library.decryptWhisperMessage _ _ _ = result at opened
    obtain ⟨answer, store⟩ := result
    simp only at opened
    rw [opened]

/-- What the sender's session makes of a payload, the recipient's session opens. -/
def SessionSeals (cipherEncrypt : SessionEncrypt) (library : SignalLibrary)
    (senderAddress recipientAddress : SignalProtocolAddress) (sender recipient : ProtocolStore) : Prop :=
  ∀ payload msg, (cipherEncrypt recipientAddress payload sender).1 = .ok msg →
    Sendable msg ∧ SessionOpens library senderAddress msg recipient payload

/-- A message that was encrypted is what the session made of its envelope. -/
theorem encryptForRecipient_eq_ok {node : SealingRuntime} {cipherEncrypt : SessionEncrypt}
    {recipientUserId : UserId} {recipientDeviceId : Nat} {plaintext : Bytes} {draws : EnvelopeDraws}
    {sender : GeneratedDevice} {wire : LibSignalWireMessage}
    (encrypted : (encryptForRecipient node cipherEncrypt recipientUserId recipientDeviceId plaintext
      draws sender).1 = .ok wire) :
    ∃ msg, (cipherEncrypt (protocolAddress recipientUserId recipientDeviceId)
      (stringifyEnvelope (sealedEnvelope node draws plaintext)) sender.store).1 = .ok msg ∧
        wire = messageTypeToWire msg := by
  simp only [encryptForRecipient, wrap_eq] at encrypted
  cases answer : (cipherEncrypt (protocolAddress recipientUserId recipientDeviceId)
      (stringifyEnvelope (sealedEnvelope node draws plaintext)) sender.store).1 with
  | error error =>
    rw [answer] at encrypted
    cases encrypted
  | ok msg =>
    rw [answer] at encrypted
    cases encrypted
    exact ⟨msg, rfl, rfl⟩

theorem bodyOf_messageBody (senderDeviceId : Nat) (recipientUserId : String) (recipientDeviceId : Nat)
    (wireJson : String) (oneTimePreKeyId : Option Nat) :
    BodyOf senderDeviceId recipientUserId recipientDeviceId wireJson
      (oneTimePreKeyId.map fun (keyId : Nat) => (keyId : Int))
      (messageBody senderDeviceId recipientUserId recipientDeviceId wireJson oneTimePreKeyId) := by
  cases oneTimePreKeyId <;> constructor <;> simp [messageBody, Json.lookup_cons]

/-- The backend takes a message that can be written, and changes nothing of it. -/
theorem posts_of_sendable {pydantic : RequestModels.Pydantic} {msg : MessageType}
    {recipientId : Uuid} {recipientUserId : UserId}
    (known : pydantic.uuidOfText recipientUserId.val = .ok recipientId) (sendable : Sendable msg)
    (small : (Json.utf8 (serializeWireMessage (messageTypeToWire msg)).toList).length ≤ maxWirePayloadBytes)
    (senderDeviceId recipientDeviceId : PositiveInt) (preKeyId : Option PositiveInt) :
    ∃ request, PostsBody pydantic (messageBody senderDeviceId.val.toNat recipientUserId.val
      recipientDeviceId.val.toNat (serializeWireMessage (messageTypeToWire msg))
      (preKeyId.map fun keyId => keyId.val.toNat)) request := by
  have whole (number : PositiveInt) : (number.val.toNat : Int) = number.val :=
    Int.toNat_of_nonneg number.property.1.le
  have long : 2 ≤ (serializeWireMessage (messageTypeToWire msg)).length := by
    rw [serializeWireMessage, ← String.length_toList, String.toList_ofList]
    simp [stringify, Json.compact]
  refine ⟨⟨senderDeviceId, recipientId, recipientDeviceId, ⟨_, long⟩, preKeyId⟩,
    (postsBody_iff (bodyOf_messageBody _ _ _ _ _)).mpr ⟨(whole _).symm, known, (whole _).symm, rfl,
      validate_serialize sendable small, ?_⟩⟩
  rw [Option.map_map]
  exact Option.map_congr fun number _ => (whole number).symm

/-- The backend takes every message that the package encrypts and that is not too large, and from
whatever the backend later answers with under its id the recipient's device reads the plaintext. -/
theorem relayed_message_read {node : SealingRuntime} {library : SignalLibrary}
    {cipherEncrypt : SessionEncrypt} {pydantic : RequestModels.Pydantic} {draws : EnvelopeDraws}
    {plaintext : Bytes} {sender recipient : GeneratedDevice} {wire : LibSignalWireMessage}
    (base64 : ∀ bytes, node.fromBase64 (toBase64 bytes) = bytes)
    (seals : SealsEnvelope node draws plaintext)
    {senderId recipientId : Uuid} {senderUserId recipientUserId : UserId}
    {senderDeviceId recipientDeviceId : PositiveInt} (named : senderUserId.val = senderId.str)
    (known : pydantic.uuidOfText recipientUserId.val = .ok recipientId)
    (session : SessionSeals cipherEncrypt library
      (protocolAddress senderUserId senderDeviceId.val.toNat)
      (protocolAddress recipientUserId recipientDeviceId.val.toNat) sender.store recipient.store)
    (encrypted : (encryptForRecipient node cipherEncrypt recipientUserId recipientDeviceId.val.toNat
      plaintext draws sender).1 = .ok wire)
    (small : (Json.utf8 (serializeWireMessage wire).toList).length ≤ maxWirePayloadBytes)
    (preKeyId : Option PositiveInt) :
    let body := messageBody senderDeviceId.val.toNat recipientUserId.val recipientDeviceId.val.toNat
      (serializeWireMessage wire) (preKeyId.map fun keyId => keyId.val.toNat)
    (∃ request, PostsBody pydantic body request) ∧
    ∀ request, PostsBody pydantic body request →
      ∀ events state, Runs.run Messages.relayStep ⟨[], []⟩ events = some state →
      ∀ message ∈ state.rows,
        (∀ directory other, Messages.RelayEvent.prepare directory other ∈ events →
          Submits senderId request message.id other) →
        ∀ serializer,
          let row := MessageApi.messageResponse serializer message
          textMember row "sender_user_id" = some senderUserId.val ∧
          textMember row "recipient_user_id" = some recipientId.str ∧
          ∃ json read, textMember row "wire_payload_json" = some json ∧
            deserializeWireMessage json = .ok read ∧
            (decryptFromSender node.toNodeRuntime library senderUserId senderDeviceId.val.toNat read
              recipient).1 = .ok plaintext := by
  intro body
  obtain ⟨msg, sealed, rfl⟩ := encryptForRecipient_eq_ok encrypted
  obtain ⟨sendable, opens⟩ := session _ msg sealed
  refine ⟨posts_of_sendable known sendable small senderDeviceId recipientDeviceId preKeyId, ?_⟩
  intro request posts events state ran message stored only serializer row
  obtain ⟨-, recipientColumn, -, text, -⟩ := (postsBody_iff (bodyOf_messageBody _ _ _ _ _)).mp posts
  obtain ⟨sentBy, -, sentTo, -, payload, -⟩ := fields_of_created (created_of_run ran message stored) only
  have target : request.recipientUserId = recipientId :=
    Except.ok.inj (recipientColumn.symm.trans known)
  refine ⟨?_, ?_, _, messageTypeToWire msg, ?_, deserialize_serialize sendable, ?_⟩
  · simp [row, textMember, MessageApi.messageResponse, Json.lookup_cons, sentBy, named]
  · simp [row, textMember, MessageApi.messageResponse, Json.lookup_cons, sentTo, target]
  · simp [row, textMember, MessageApi.messageResponse, Json.lookup_cons, payload, text]
  · rw [decrypt_of_opens base64 opens]
    exact unwrap_sealed base64 seals

/-! ## A first message -/

def helloSenderKeys : KeyMaterial where
  registrationId := 9
  identityKeyPair := ⟨octets 33 0x05d26e55a89604c35812a4578b547faed8e6a96f7d8791c9870bad727c9aadb971,
    octets 32 0x8035bdbfc8764bc8378c88f2b9aea9e662c73c46a1e1c71b64d5dadc0523db5a⟩
  preKey := ⟨[], []⟩
  signedPreKey := ⟨[], []⟩
  signature := []

def helloRecipientKeys : KeyMaterial where
  registrationId := 7
  identityKeyPair := ⟨octets 33 0x05dd9183a13e65cde982ae857c44b94e9b62acdd46866f2513c374578e11347104,
    octets 32 0x0876df1c894cf6363e224fe412cac4eba35c14c9a172a2260c6ded5e037ae641⟩
  preKey := ⟨octets 33 0x053aa53ca52a37a985ce832518632f4fb48db9ccce87e5435876879f6715e3b428,
    octets 32 0x30aaa35db280d331b77ca4453d3a2fd57d27b70dea3788d39ad5d0c726ee2f41⟩
  signedPreKey := ⟨octets 33 0x05e0dc5af111472c759b77fc41294369637a3cc2282c3bd4952ce0b919ff01f41a,
    octets 32 0xb8c8db3b25e286912fb8f2d2ba7d32c0dd33d7e22bc224e446dba5547da4745b⟩
  signature := []

def helloDraws : EnvelopeDraws where
  key := octets 32 0xdc2569f29aa6bc92ed0bdfef7a4651ae9ba4bcc6a5023885d13d7751726c51cf
  iv := octets 12 0x3c5ca36ca7358e74b66f1787
  keyLength := rfl
  ivLength := rfl

def hello : Bytes := Json.utf8 "hello".toList

/-- AES-256-GCM of the greeting under these draws. -/
def helloSealed : Bytes × Bytes :=
  (octets 5 0x171dab1b4f, octets 16 0xa0c0ce713d3857c2c4d44b74caf8bd28)

def helloEnvelope : AeadPayloadEnvelopeV1 where
  version := 1
  alg := "AES-256-GCM"
  keyB64 := toBase64 helloDraws.key
  ivB64 := toBase64 helloDraws.iv
  authTagB64 := toBase64 helloSealed.2
  ciphertextB64 := toBase64 helloSealed.1

/-- The pre-key message of libsignal that holds the envelope. -/
def helloMessage : MessageType where
  type := 3
  body := some <|
    octets 38 0x33280908013001122105456dd7658cc33b224a5682a3f843e2c985e1629d1db7490d338c6a2c ++
    octets 38 0xd6762f6b1a2105d26e55a89604c35812a4578b547faed8e6a96f7d8791c9870bad727c9aadb9 ++
    octets 38 0x7122f301330a2105a7244b29b9c7ae5475592379168f21b852ef340d91727086e25ae8fbaa2c ++
    octets 38 0xae391000180022c0012ed2e0e0345def0aefb724522dc09e29aa7407b3d0c89432821bb07599 ++
    octets 38 0x43d12e6f8934ca769301a51f778228779624e0850c1b84fbbdf52c9f424c97378a0e1619ed46 ++
    octets 38 0xb4229ded19fe7fcb33edf5921ea83d63273069098927f6a70681aea81b750b9cc71358edf4e6 ++
    octets 38 0x3dcd2dcfa5cb31bcf89f4647d61f4e4430e8b6785a074ee96c9a04c32f9671b5bf4376e52052 ++
    octets 38 0x5914c543c4fe9530af5739354898f5b84a14513e35ab052348fe6b5ebf5c6b35f0b1fdc3610d ++
    octets 19 0xcc98ce8d432d9498256402e3108206538da281
  registrationId := some 7

def helloNode : SealingRuntime where
  fromBase64 text := Base64.decode text.toList
  parseEnvelope payload := if payload = stringifyEnvelope helloEnvelope then some helloEnvelope else none
  gcmDecrypt ciphertext iv authTag key associatedData :=
    if (ciphertext, authTag) = helloSealed ∧ iv = helloDraws.iv ∧ key = helloDraws.key ∧
      associatedData = envelopeAad then some hello else none
  gcmEncrypt plaintext key iv associatedData :=
    if plaintext = hello ∧ key = helloDraws.key ∧ iv = helloDraws.iv ∧ associatedData = envelopeAad then
      helloSealed
    else ([], [])

theorem sealed_hello :
    helloNode.gcmEncrypt hello helloDraws.key helloDraws.iv envelopeAad = helloSealed := by
  simp only [helloNode, and_self, if_true]

theorem sealedEnvelope_hello : sealedEnvelope helloNode helloDraws hello = helloEnvelope := by
  rw [sealedEnvelope, sealed_hello]
  rfl

theorem helloNode_seals : SealsEnvelope helloNode helloDraws hello := by
  constructor
  · rw [sealedEnvelope_hello]
    simp only [helloNode, if_true]
  · rw [sealed_hello]
    simp only [helloNode, and_self, if_true]
  · rw [sealed_hello]
    rfl

def senderName : UserId := ⟨Uuid.str 2, by decide⟩

def recipientName : UserId := ⟨Uuid.str 1, by decide⟩

/-- The sender has a session with the recipient. -/
def helloSender : GeneratedDevice :=
  let device := generateDevice senderName.val 1 helloSenderKeys
  { device with store := device.store.storeSession (protocolAddress recipientName 1).encoded "pending" }

def helloRecipient : GeneratedDevice := generateDevice recipientName.val 1 helloRecipientKeys

def helloEncrypt : SessionEncrypt := fun address payload store =>
  if address = protocolAddress recipientName 1 ∧ payload = stringifyEnvelope helloEnvelope then
    (.ok helloMessage, store)
  else (.error .library, store)

def helloLibrary : SignalLibrary where
  preKeyId _ := some 1
  decryptPreKeyWhisperMessage address body store :=
    if address = protocolAddress senderName 1 ∧ body = helloMessage.body.getD [] then
      (.ok (stringifyEnvelope helloEnvelope), (store.storeSession address.encoded "open").removePreKey 1)
    else (.error .library, store)
  decryptWhisperMessage _ _ store := (.error .library, store)

theorem helloMessage_sendable : Sendable helloMessage where
  type := Or.inr rfl
  body := fun empty => absurd (congrArg List.isEmpty empty) (by decide)
  registrationId := by simp [helloMessage]

theorem hello_session : SessionSeals helloEncrypt helloLibrary (protocolAddress senderName 1)
    (protocolAddress recipientName 1) helloSender.store helloRecipient.store := by
  intro payload msg sealed
  simp only [helloEncrypt, true_and] at sealed
  split at sealed
  · next same =>
    cases sealed
    refine ⟨helloMessage_sendable, Or.inl ⟨rfl, ?_⟩⟩
    rw [same]
    simp [helloLibrary]
  · cases sealed

theorem length_octets (length value : Nat) : (octets length value).length = length := by
  induction length with
  | zero => rfl
  | succ length ih => simp [octets, ih]

theorem size_hello : (Json.utf8 (serializeWireMessage (messageTypeToWire helloMessage)).toList).length ≤
    maxWirePayloadBytes := by
  have length : (helloMessage.body.getD []).length = 323 := by
    simp only [helloMessage, Option.getD_some, List.length_append, length_octets]
  have limit : maxWirePayloadBytes = 65536 := rfl
  have digits : (Json.decimal helloMessage.type).length = 1 := by decide
  have registration : (registrationText helloMessage.registrationId).length = 19 := by decide
  rw [size_serialize, Base64.length_encode, length, digits, registration, limit]
  omega

theorem encrypted_hello : (encryptForRecipient helloNode helloEncrypt recipientName
    onePositive.val.toNat hello helloDraws helloSender).1 = .ok (messageTypeToWire helloMessage) := by
  have named : protocolAddress recipientName onePositive.val.toNat = protocolAddress recipientName 1 :=
    rfl
  simp only [encryptForRecipient, wrap_eq, sealedEnvelope_hello, helloEncrypt, named, and_self, if_true]
  rfl

theorem base64_helloNode (bytes : Bytes) : helloNode.fromBase64 (toBase64 bytes) = bytes := by
  simp only [helloNode, toBase64, String.toList_ofList, Base64.decode_encode]

theorem relayed_message_read_hello : ∃ request message,
    PostsBody helloPydantic (messageBody 1 recipientName.val 1
      (serializeWireMessage (messageTypeToWire helloMessage)) (some 1)) request ∧
    Runs.run Messages.relayStep ⟨[], []⟩
      [.prepare Messages.openDirectory (.send 2 request 7 .newYear2026), .commit 0] =
        some ⟨[message], []⟩ ∧
    ∃ json read, textMember (MessageApi.messageResponse MessageApi.zuluSerializer message)
        "wire_payload_json" = some json ∧ deserializeWireMessage json = .ok read ∧
      (decryptFromSender helloNode.toNodeRuntime helloLibrary senderName 1 read helloRecipient).1 =
        .ok hello := by
  have known : helloPydantic.uuidOfText recipientName.val = .ok 1 := by
    simp only [helloPydantic, recipientName, if_true]
  obtain ⟨⟨request, posts⟩, reads⟩ := @relayed_message_read helloNode helloLibrary helloEncrypt
    helloPydantic helloDraws hello helloSender helloRecipient _ base64_helloNode helloNode_seals 2 1
    senderName recipientName onePositive onePositive rfl known hello_session encrypted_hello size_hello
    (some onePositive)
  refine ⟨request, Messages.createMessage 2 request none 7 .newYear2026, posts, run_send request, ?_⟩
  refine (reads request posts _ _ (run_send request) _ (List.mem_singleton_self _) ?_ _).2.2
  intro directory other member
  simp only [List.mem_cons, Messages.RelayEvent.prepare.injEq, reduceCtorEq, List.not_mem_nil,
    or_false] at member
  obtain ⟨-, rfl⟩ := member
  exact fun _ => ⟨rfl, rfl⟩

end EpicKfc.Guarantees.PackageMessages
