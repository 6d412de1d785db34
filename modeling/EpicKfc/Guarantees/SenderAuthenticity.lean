import EpicKfc.Source.Client.ClientRuns
import EpicKfc.Source.Client.MessageReading
import EpicKfc.Source.Client.NativeSignalCryptoProvider

/-!
# Sender of a shown message

A payload carries the identity key under which its receiver derives the message
key, and no read path compares it with the pin of the sender. A text is shown
under the pinned key exactly when the payload carries that key or seals nothing.
-/

namespace EpicKfc.Guarantees.SenderAuthenticity
open EpicKfc.Lib
open EpicKfc.Source.Client
open EpicKfc.Source.Client.StoreDocuments
open EpicKfc.Source.Client.NativeSignalCryptoProvider
open EpicKfc.Source.Client.MessageService

/-- AES-GCM opens what a sealing under the same key produced; OpenSSL compares as
much of the tag as it is given. -/
def ChecksTags (library : NativeLibrary) : Prop :=
  ∀ ciphertext key iv aad tag plaintext,
    library.aesGcmDecrypt ciphertext key iv aad tag = some plaintext ↔
      ∃ fullTag, library.aesGcmEncrypt plaintext key iv aad = some (ciphertext, fullTag) ∧
        tag ≠ [] ∧ tag <+: fullTag

variable (library : NativeLibrary)

def wirePayload (message : LocalMessage) : Json.Members :=
  unwrapWirePayload library message.wirePayloadJson

def wireX3dh (message : LocalMessage) : Json.Members :=
  (value (wirePayload library message) "x3dh").toObject

/-- `x3dh.identityKey` inside the wire payload. -/
def wireIdentityKey (message : LocalMessage) : String :=
  (value (wireX3dh library message) "identityKey").toString

def wireBytes (message : LocalMessage) (field : String) : QByteArray :=
  fromBase64 (value (wirePayload library message) field).toString

/-- The payload seals the text under the key that follows from the keys it carries. -/
structure Seals (device : DeviceKeyMaterial) (oneTimePreKey : Option OneTimePreKey)
    (message : LocalMessage) (secret plaintext : QByteArray) : Prop where
  keys : wireX3dh library message ≠ []
  oneTime : oneTimeSecret library message oneTimePreKey (wireX3dh library message) = .ok secret
  length : (receivedKey library device (wirePayload library message) secret).length = keyBytes
  tagged : ∃ fullTag,
    library.aesGcmEncrypt plaintext (receivedKey library device (wirePayload library message) secret)
      (wireBytes library message "iv") (receivedAad (wirePayload library message)) =
        some (wireBytes library message "ciphertext", fullTag) ∧
      wireBytes library message "authTag" ≠ [] ∧ wireBytes library message "authTag" <+: fullTag

/-- The payload of a message is well formed for a device of its receiver. -/
def WellFormed (device : DeviceKeyMaterial) (oneTimePreKey : Option OneTimePreKey)
    (message : LocalMessage) : Prop :=
  ∃ secret plaintext, Seals library device oneTimePreKey message secret plaintext

variable {library}

/-- Decryption succeeds on well-formed payloads, whatever identity key they carry. -/
theorem decrypt_eq_ok_iff (checks : ChecksTags library) {currentUserId : String}
    {device : DeviceKeyMaterial} {message : LocalMessage} {oneTimePreKey : Option OneTimePreKey}
    {text : String} :
    decrypt library currentUserId device message oneTimePreKey = .ok text ↔
      ∃ secret plaintext, Seals library device oneTimePreKey message secret plaintext ∧
        library.fromUtf8 plaintext = text := by
  simp only [decrypt]
  constructor
  · intro opened
    split at opened
    · cases opened
    · next carried =>
      split at opened
      · cases opened
      · next secret found =>
        split at opened
        · cases opened
        · next length =>
          split at opened
          · cases opened
          · next plaintext authentic =>
            cases opened
            refine ⟨secret, plaintext, ⟨?_, found, not_not.mp length, ?_⟩, rfl⟩
            · exact fun empty => carried (List.isEmpty_iff.mpr empty)
            · exact (checks _ _ _ _ _ _).mp authentic
  · rintro ⟨secret, plaintext, seals, rfl⟩
    have carried : ¬ (wireX3dh library message).isEmpty = true :=
      fun empty => seals.keys (List.isEmpty_iff.mp empty)
    have authentic := (checks _ _ _ _ _ _).mpr seals.tagged
    have found := seals.oneTime
    have length := seals.length
    unfold wireBytes wirePayload at authentic
    unfold wireX3dh wirePayload at carried found
    unfold wirePayload at length
    simp only [carried, found, length, authentic, ne_eq, not_true_eq_false, Bool.false_eq_true,
      if_false]

/-! ## Read paths -/

variable (setup : ClientSetup) (order : CreatedAtSort)

/-- A read path hands out the text of a message. -/
inductive Releases (client : ClientState) (message : LocalMessage) (text : String) : Prop
  | conversation (address : UserAddress) (username : String) (page : Int) (io : ClientIo)
      (shown : ConversationPage) :
      (openConversationFromCache setup order client address username page io).1 = .ok shown →
      ⟨message, text, none⟩ ∈ shown.entries → Releases client message text
  | download (opens : Bool) (file : Download) :
      MessageService.download setup client message.id opens = .ok file →
      file.content = text ++ "\n" → Releases client message text
  | forward (recipientAddress : UserAddress) (delivery : Delivery) :
      forwardDelivery setup client message.id recipientAddress = .ok delivery →
      delivery.plaintext = text → Releases client message text

variable {setup order}

theorem decryptForCurrentUser_received {client : ClientState} {device : DeviceKeyMaterial}
    {message : LocalMessage} (received : message.senderUserId ≠ client.currentUserId) :
    decryptForCurrentUser setup client device message =
      setup.crypto.decrypt client.currentUserId device message
        (oneTimePreKeyFor setup client message) :=
  if_pos received

/-- The beginning that `download` and `forwardToAddress` share, for a received message. -/
theorem cachedPlaintext_eq_ok_iff {missing : ClientError} {client : ClientState}
    {message : LocalMessage} {device : DeviceKeyMaterial} {text : String}
    (received : message.senderUserId ≠ client.currentUserId)
    (found : LocalMessages.findMessage message.id client.store.memory.messages = some message) :
    cachedPlaintext setup missing client message.id = .ok (device, text) ↔
      client.currentDevice setup = some device ∧
        setup.crypto.decrypt client.currentUserId device message
          (oneTimePreKeyFor setup client message) = .ok text := by
  unfold cachedPlaintext
  simp only [found]
  cases held : client.currentDevice setup with
  | none => simp
  | some current =>
    simp only [decryptForCurrentUser_received received, Option.some.injEq]
    constructor
    · intro opened
      cases decrypted : setup.crypto.decrypt client.currentUserId current message
          (oneTimePreKeyFor setup client message) with
      | error error =>
        rw [decrypted] at opened
        cases opened
      | ok plaintext =>
        rw [decrypted] at opened
        cases opened
        exact ⟨rfl, decrypted⟩
    · rintro ⟨rfl, decrypted⟩
      rw [decrypted]
      rfl

theorem conversationEntry_released {client : ClientState} {device : DeviceKeyMaterial}
    {stored message : LocalMessage} {text : String}
    (received : message.senderUserId ≠ client.currentUserId)
    (entry : conversationEntry setup client device stored = ⟨message, text, none⟩) :
    setup.crypto.decrypt client.currentUserId device message
      (oneTimePreKeyFor setup client message) = .ok text := by
  have same : stored = message := by
    have shown := congrArg ConversationLogEntry.message entry
    rwa [message_conversationEntry] at shown
  subst same
  unfold conversationEntry at entry
  rw [if_neg received] at entry
  cases decrypted : setup.crypto.decrypt client.currentUserId device stored
      (oneTimePreKeyFor setup client stored) with
  | error error =>
    rw [decrypted] at entry
    cases entry
  | ok plaintext =>
    rw [decrypted] at entry
    cases entry
    rfl

/-- Every read path decrypts, and looks at nothing else. -/
theorem releases_iff {client : ClientState} {message : LocalMessage} {text : String}
    (received : message.senderUserId ≠ client.currentUserId)
    (found : LocalMessages.findMessage message.id client.store.memory.messages = some message) :
    Releases setup order client message text ↔
      ∃ device, client.currentDevice setup = some device ∧
        setup.crypto.decrypt client.currentUserId device message
          (oneTimePreKeyFor setup client message) = .ok text := by
  constructor
  · intro released
    cases released with
    | conversation address username page io shown opened entry =>
      obtain ⟨device, held, entries⟩ := openConversationFromCache_entries opened
      obtain ⟨stored, _, same⟩ := entries _ entry
      exact ⟨device, held, conversationEntry_released received same⟩
    | download opens file written content =>
      unfold MessageService.download at written
      split at written
      · cases written
      · next device plaintext opened =>
        split at written
        · cases written
          obtain rfl := String.append_left_inj .. |>.mp content
          exact ⟨device, (cachedPlaintext_eq_ok_iff received found).mp opened⟩
        · cases written
    | forward recipientAddress delivery handed plaintext =>
      unfold forwardDelivery at handed
      generalize cached : cachedPlaintext setup _ client message.id = result at handed
      cases result with
      | error error => cases handed
      | ok opened =>
        cases handed
        cases plaintext
        exact ⟨opened.1, (cachedPlaintext_eq_ok_iff received found).mp cached⟩
  · rintro ⟨device, held, decrypted⟩
    refine .download true ⟨downloadName message.id, text ++ "\n"⟩ ?_ rfl
    rw [MessageService.download,
      (cachedPlaintext_eq_ok_iff received found).mpr ⟨held, decrypted⟩]
    rfl

/-- A text is released only under the pinned key exactly when the payload carries that
key or is not well formed for the device. -/
theorem released_under_pinned_key_iff (native : setup.crypto = provider library)
    (checks : ChecksTags library) {client : ClientState} {message : LocalMessage} {pin : TrustPin}
    (received : message.senderUserId ≠ client.currentUserId)
    (found : LocalMessages.findMessage message.id client.store.memory.messages = some message)
    (_pinned : client.trustPin message.senderUserId message.senderDeviceId = some pin) :
    (∀ text, Releases setup order client message text →
      wireIdentityKey library message = pin.identityKey) ↔
    wireIdentityKey library message = pin.identityKey ∨
      ∀ device, client.currentDevice setup = some device →
        ¬ WellFormed library device (oneTimePreKeyFor setup client message) message := by
  have decrypts (device : DeviceKeyMaterial) (text : String) :
      setup.crypto.decrypt client.currentUserId device message
          (oneTimePreKeyFor setup client message) = .ok text ↔
        ∃ secret plaintext, Seals library device (oneTimePreKeyFor setup client message) message
          secret plaintext ∧ library.fromUtf8 plaintext = text := by
    rw [native]
    exact @decrypt_eq_ok_iff library checks client.currentUserId device message _ text
  constructor
  · intro authentic
    by_contra forged
    push Not at forged
    obtain ⟨different, device, held, secret, plaintext, seals⟩ := forged
    have decrypted := (decrypts device _).mpr ⟨secret, plaintext, seals, rfl⟩
    exact different (authentic _ ((releases_iff received found).mpr ⟨device, held, decrypted⟩))
  · rintro (same | unopened) text released
    · exact same
    · obtain ⟨device, held, decrypted⟩ := (releases_iff received found).mp released
      obtain ⟨secret, plaintext, seals, _⟩ := (decrypts device text).mp decrypted
      exact absurd ⟨secret, plaintext, seals⟩ (unopened device held)

/-! ## A forged message -/

def forgedPayload : Json.Members := [
  ("authTag", .string "swVe+3Vx8GjypImX7Ua2pA=="),
  ("ciphertext", .string "dGwvatXIRAcmjvH7"),
  ("counter", .number 0),
  ("iv", .string "CrMGgjA1Zhu426Ic"),
  ("previousCounter", .number 0),
  ("ratchetPublicKey", .string "bo+Fj1AbEjYfZllR+YB5jRPBrQs0ZNCukHlIg4hqbEA="),
  ("x3dh", .object [
    ("ephemeralKey", .string "uYZ57rUfMjKhuvt2F4tAbo3nU0JCjBAiG2fNlQwcNwE="),
    ("identityKey", .string "GIvGMXtoPF7d7MKuaxSzg+HiFpp0OC3FjzaN2saPwmg=")])]

def forgedEnvelope : Json.Members := envelope forgedPayload 10001

def aliceDevice : DeviceKeyMaterial where
  deviceId := 1
  registrationId := 10001
  identityKey := "0m5VqJYEw1gSpFeLVH+u2Oapb32HkcmHC61yfJqtuXE="
  identityPrivateKey := "hDW9v8h2S8g3jIjyua6p5mLHPEah4ccbZNXa3AUj29o="
  identitySigningKey := ""
  identitySigningPrivateKey := ""
  signedPreKeyId := 1
  signedPreKey := "RPJt6CSy3xz2aObYsA87bY4aUk9+OOfS09fnn6yq0ic="
  signedPreKeyPrivate := "0gSrL1iGFRnoesmovoTBNj2+XZ3xBL/U6LYgtD95/s0="
  signedPreKeySignature := ""

/-- A function that is known at a few inputs. -/
def tabulated {α β : Type} [DecidableEq α] (rows : List (α × β)) (input : α) : Option β :=
  (rows.find? fun row => row.1 = input).map Prod.snd

def agreements : List ((QByteArray × QByteArray) × QByteArray) :=
  [((fromBase64 "0gSrL1iGFRnoesmovoTBNj2+XZ3xBL/U6LYgtD95/s0=", fromBase64 "GIvGMXtoPF7d7MKuaxSzg+HiFpp0OC3FjzaN2saPwmg="),
      fromBase64 "gicQXCBdy2zJY9Ui986ZNNJ1EAjylOqv0qZ5yhFD8lc="),
    ((fromBase64 "hDW9v8h2S8g3jIjyua6p5mLHPEah4ccbZNXa3AUj29o=", fromBase64 "uYZ57rUfMjKhuvt2F4tAbo3nU0JCjBAiG2fNlQwcNwE="),
      fromBase64 "rLyibwbPhqXZQuk9XVKd+XoCZbUjtFpRv+SgnLrCo24="),
    ((fromBase64 "0gSrL1iGFRnoesmovoTBNj2+XZ3xBL/U6LYgtD95/s0=", fromBase64 "uYZ57rUfMjKhuvt2F4tAbo3nU0JCjBAiG2fNlQwcNwE="),
      fromBase64 "I+M5UejJsX+7hZ3J/W5ioKOIi91UW4W4u9VNsOrCl2I="),
    ((fromBase64 "0gSrL1iGFRnoesmovoTBNj2+XZ3xBL/U6LYgtD95/s0=", fromBase64 "bo+Fj1AbEjYfZllR+YB5jRPBrQs0ZNCukHlIg4hqbEA="),
      fromBase64 "8uf10ZarJg0U/Xkh/wIOd/4ZuLsXBF/xLBfcihjDgAA=")]

def sharedSecrets : QByteArray := fromBase64 "gicQXCBdy2zJY9Ui986ZNNJ1EAjylOqv0qZ5yhFD8lc=" ++
  fromBase64 "rLyibwbPhqXZQuk9XVKd+XoCZbUjtFpRv+SgnLrCo24=" ++
  fromBase64 "I+M5UejJsX+7hZ3J/W5ioKOIi91UW4W4u9VNsOrCl2I="

/-- The shared secret from the agreements, and the root and chain keys from it. -/
def expansions : List ((QByteArray × QByteArray) × QByteArray) :=
  [((sharedSecrets, List.replicate keyBytes 0), fromBase64 "9h4dfGJ+gxYt3J+MDCQbpFuC2bLL66Y+YQJUW+Btf98="),
    ((fromBase64 "8uf10ZarJg0U/Xkh/wIOd/4ZuLsXBF/xLBfcihjDgAA=",
        fromBase64 "9h4dfGJ+gxYt3J+MDCQbpFuC2bLL66Y+YQJUW+Btf98="),
      fromBase64 "qkfyKqMnfqeSgp3pxPWhA2wJ8w3JjsqSAQDCmnJ2If4=" ++
        fromBase64 "MYGJywg0/UWj2mFsw0AF4VcsggPK0rbdepPpy4L22aY=")]

def authenticators : List ((QByteArray × QByteArray) × QByteArray) :=
  [((fromBase64 "MYGJywg0/UWj2mFsw0AF4VcsggPK0rbdepPpy4L22aY=", [1]),
    fromBase64 "nFmSDXxZ9nfaPlT3mfjFwPiaG9BbizzcXYYjG6GvN9I=")]

/-- Key, nonce and associated data of the one sealing. -/
def sealingContext : QByteArray × QByteArray × QByteArray :=
  (fromBase64 "nFmSDXxZ9nfaPlT3mfjFwPiaG9BbizzcXYYjG6GvN9I=", fromBase64 "CrMGgjA1Zhu426Ic",
    aadFor 0 0 (fromBase64 "bo+Fj1AbEjYfZllR+YB5jRPBrQs0ZNCukHlIg4hqbEA="))

def forgedPlaintext : QByteArray := toUtf8 "Pay Mallory."
def forgedCiphertext : QByteArray := fromBase64 "dGwvatXIRAcmjvH7"
def forgedTag : QByteArray := fromBase64 "swVe+3Vx8GjypImX7Ua2pA=="

theorem tabulated_head {α β : Type} [DecidableEq α] (input : α) (output : β)
    (rows : List (α × β)) : tabulated ((input, output) :: rows) input = some output := by
  simp [tabulated]

theorem tabulated_next {α β : Type} [DecidableEq α] {input other : α} (output : β)
    (rows : List (α × β)) (different : other ≠ input) :
    tabulated ((other, output) :: rows) input = tabulated rows input := by
  simp [tabulated, different]

def forgedTexts : List (QByteArray × Json.Members) :=
  [(Json.utf8 (toJson forgedEnvelope), forgedEnvelope),
    (Json.utf8 (toJson forgedPayload), forgedPayload)]

/-- What OpenSSL and Qt compute for the forged message. -/
def forgedLibrary : NativeLibrary where
  x25519 privateKey publicKey := tabulated agreements (privateKey, publicKey)
  x25519PublicKey := fun _ => []
  ed25519Verify := fun _ _ _ => false
  hkdfInit := fun _ _ _ => true
  hkdfDerive ikm salt _ _ := tabulated expansions (ikm, salt)
  hmac key data := (tabulated authenticators (key, data)).getD []
  aesGcmEncrypt plaintext key iv aad :=
    if plaintext = forgedPlaintext ∧ (key, iv, aad) = sealingContext then
      some (forgedCiphertext, forgedTag)
    else none
  aesGcmDecrypt ciphertext key iv aad tag :=
    if ciphertext = forgedCiphertext ∧ (key, iv, aad) = sealingContext ∧ tag ≠ [] ∧
      tag <+: forgedTag then some forgedPlaintext
    else none
  uninitialized length := List.replicate length 0
  documentObject text := (tabulated forgedTexts text).getD []
  fromUtf8 bytes := String.ofList (bytes.map fun byte => Char.ofNat byte.toNat)
  trimmed := id

theorem forgedLibrary_checksTags : ChecksTags forgedLibrary := by
  intro ciphertext key iv aad tag plaintext
  simp only [forgedLibrary, Option.ite_none_right_eq_some, Option.some.injEq, Prod.mk.injEq]
  constructor
  · rintro ⟨⟨rfl, context, given, part⟩, rfl⟩
    exact ⟨forgedTag, ⟨⟨rfl, context⟩, rfl, rfl⟩, given, part⟩
  · rintro ⟨fullTag, ⟨⟨rfl, context⟩, rfl, rfl⟩, given, part⟩
    exact ⟨⟨rfl, context, given, part⟩, rfl⟩

def forgedMessage : LocalMessage where
  id := "forged"
  senderUserId := "bob"
  senderDeviceId := 1
  recipientUserId := "alice"
  recipientDeviceId := 1
  wirePayloadJson := wrapWirePayload forgedPayload 10001
  consumedOneTimePreKeyId := none
  createdAt := some 0
  direction := .received

def pinOfBob : TrustPin := ⟨"bob", 1, "3ZGDoT5lzemCroV8RLlOm2Ks3UaGbyUTw3RXjhE0cQQ=", some 0⟩

def forgedSetup : ClientSetup where
  library := refusingLibrary
  crypto := provider forgedLibrary
  trimmed := id
  isUuid := isUuidText
  deviceId := 1
  accountScopedState := true

/-- Alice's client, with a pin for the device that the message claims to be from. -/
def forgedClient : ClientState where
  session := some ⟨{ id := "alice" }, {}⟩
  store := {
    memory := { deviceKeys := [aliceDevice], trustPins := [pinOfBob], messages := [forgedMessage] }
    indexPath := "index"
    path := "index"
    secretProtectionRequired := true }
  files := fun _ => none

theorem forgedTexts_differ :
    Json.utf8 (toJson forgedEnvelope) ≠ Json.utf8 (toJson forgedPayload) := by
  decide +kernel

theorem forgedMessage_wirePayload : wirePayload forgedLibrary forgedMessage = forgedPayload := by
  have reads (text : QByteArray) :
      forgedLibrary.documentObject text = (tabulated forgedTexts text).getD [] := rfl
  refine unwrapWirePayload_wrapWirePayload forgedLibrary ?_ ?_
  · change forgedLibrary.documentObject (Json.utf8 (toJson forgedEnvelope)) = forgedEnvelope
    rw [reads, forgedTexts, tabulated_head, Option.getD_some]
  · rw [reads, forgedTexts, tabulated_next _ _ forgedTexts_differ, tabulated_head,
      Option.getD_some]

theorem forgedMessage_opens :
    decrypt forgedLibrary "alice" aliceDevice forgedMessage none = .ok "Pay Mallory." := by
  have root := forgedMessage_wirePayload
  unfold wirePayload at root
  unfold decrypt
  rw [root]
  decide +kernel

theorem forgedMessage_received : forgedMessage.senderUserId ≠ forgedClient.currentUserId := by decide

theorem forgedMessage_found :
    LocalMessages.findMessage forgedMessage.id forgedClient.store.memory.messages =
      some forgedMessage := by
  simp [LocalMessages.findMessage, KeyedList.find, forgedClient]

/-- A message that was sealed under another identity key is read as one from the
sender whose key is pinned. -/
theorem forged_message_released :
    forgedClient.trustPin forgedMessage.senderUserId forgedMessage.senderDeviceId = some pinOfBob ∧
    Releases forgedSetup stableCreatedAtSort forgedClient forgedMessage "Pay Mallory." ∧
    wireIdentityKey forgedLibrary forgedMessage ≠ pinOfBob.identityKey := by
  have pinned : forgedClient.trustPin forgedMessage.senderUserId forgedMessage.senderDeviceId =
      some pinOfBob := rfl
  have held : forgedClient.currentDevice forgedSetup = some aliceDevice := rfl
  have opens : forgedSetup.crypto.decrypt forgedClient.currentUserId aliceDevice forgedMessage
      (oneTimePreKeyFor forgedSetup forgedClient forgedMessage) = .ok "Pay Mallory." := by
    have native : forgedSetup.crypto.decrypt = decrypt forgedLibrary := rfl
    have current : forgedClient.currentUserId = "alice" := rfl
    have unconsumed : oneTimePreKeyFor forgedSetup forgedClient forgedMessage = none := rfl
    rw [native, current, unconsumed, forgedMessage_opens]
  refine ⟨pinned, (releases_iff forgedMessage_received forgedMessage_found).mpr
    ⟨aliceDevice, held, opens⟩, ?_⟩
  rw [wireIdentityKey, wireX3dh, forgedMessage_wirePayload]
  decide +kernel

theorem released_under_pinned_key_iff_forged :
    (∀ text, Releases forgedSetup stableCreatedAtSort forgedClient forgedMessage text →
      wireIdentityKey forgedLibrary forgedMessage = pinOfBob.identityKey) ↔
    wireIdentityKey forgedLibrary forgedMessage = pinOfBob.identityKey ∨
      ∀ device, forgedClient.currentDevice forgedSetup = some device →
        ¬ WellFormed forgedLibrary device (oneTimePreKeyFor forgedSetup forgedClient forgedMessage)
          forgedMessage :=
  released_under_pinned_key_iff rfl forgedLibrary_checksTags forgedMessage_received
    forgedMessage_found rfl

end EpicKfc.Guarantees.SenderAuthenticity
