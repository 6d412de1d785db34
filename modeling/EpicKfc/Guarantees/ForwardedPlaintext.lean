import EpicKfc.Guarantees.ForwardingLineage
import EpicKfc.Guarantees.MessageDelivery

/-!
# A forward has the plaintext of its original

The relay stores ciphertexts and cannot compare two of them. That a forward says the
same as its original rests on the clients: each encrypts what it decrypted, and the
rows it decrypts keep their content whatever is marked or revoked in between. No text
here begins with a byte order mark, which a decryption would lose.
-/

namespace EpicKfc.Guarantees.ForwardedPlaintext
open Relation
open EpicKfc.Lib
open EpicKfc.Source
open EpicKfc.Source.Client (ClientSetup ClientState ClientIo NativeLibrary SigningLibrary)
open EpicKfc.Source.Client.NativeSignalCryptoProvider
open EpicKfc.Source.Client.RequestBodies
open EpicKfc.Source.Client.StoreDocuments (StartsWithBom toUtf8)
open EpicKfc.Source.MessageRequests
open EpicKfc.Source.Server
open EpicKfc.Source.Server.Messages
open EpicKfc.Source.Server.RequestModels (Pydantic)
open EpicKfc.Guarantees.ForwardingLineage
open EpicKfc.Guarantees.MessageDelivery
open EpicKfc.Guarantees.MessageRoundTrip

/-- The users' devices and, by the id of a message, what its sender wrote and the copy it kept. -/
structure Clients where
  device : Uuid → PositiveInt → Client.DeviceKeyMaterial
  text : Uuid → String
  copy : Uuid → String

/-- The request that a row was created from. -/
def requestOf (message : Message) : MessageCreateRequest where
  senderDeviceId := message.senderDeviceId
  recipientUserId := message.recipientUserId
  recipientDeviceId := message.recipientDeviceId
  wirePayloadJson := message.wirePayloadJson
  consumedOneTimePrekeyId := message.consumedOneTimePrekeyId

variable (library : NativeLibrary) (pydantic : Pydantic) (clients : Clients)

/-- The client encrypts the text for the recipient's device and for its own, posts the first
payload and keeps the second. -/
structure Delivers (setup : ClientSetup) (client : ClientState) (io copyIo : ClientIo)
    (preKey : Option Client.OneTimePreKey) (payload : Client.EncryptedPayload) (user : Uuid)
    (request : MessageCreateRequest) (id : Uuid) : Prop where
  native : setup.crypto = provider library
  current : client.currentUserId = user.str
  plain : ¬ StartsWithBom (clients.text id)
  encrypted : encrypt library client.currentUserId (clients.device user request.senderDeviceId)
    (publishedBundle (clients.device request.recipientUserId request.recipientDeviceId)
      request.recipientUserId.str preKey) (clients.text id) io.draws = .ok payload
  json : ∀ object ∈ writtenObjects library (clients.device user request.senderDeviceId)
    (publishedBundle (clients.device request.recipientUserId request.recipientDeviceId)
      request.recipientUserId.str preKey) (clients.text id) io.draws, ReadsBack library object
  kept : Client.MessageService.createLocalSenderCopy setup client
    (clients.device user request.senderDeviceId) (clients.text id) copyIo = .ok (clients.copy id)
  copyJson : ∀ object ∈ writtenObjects library (clients.device user request.senderDeviceId)
    (Client.MessageService.selfPreKeyBundleFor client (clients.device user request.senderDeviceId))
      (clients.text id) copyIo.draws, ReadsBack library object
  posts : Posts pydantic (draftFor client.currentUserId request.senderDeviceId.val
    request.recipientUserId.str request.recipientDeviceId.val payload.wirePayloadJson)
      payload.consumedOneTimePreKeyId request

/-- Some client of the user delivers the text that belongs to the id. -/
def Sends (user : Uuid) (request : MessageCreateRequest) (id : Uuid) : Prop :=
  ∃ setup client io copyIo preKey payload,
    Delivers library pydantic clients setup client io copyIo preKey payload user request id

/-- What a client of this user decrypts its record of the row to. -/
def opened (setup : ClientSetup) (client : ClientState) (user : Uuid)
    (parser : Client.MessageGateway.DateParser) (serializer : MessageApi.DateTimeSerializer)
    (direction : Client.MessageDirection) (message : Message) : Client.Result String :=
  let sent := message.senderUserId = user
  Client.MessageService.decryptForCurrentUser setup client
    (clients.device user (if sent then message.senderDeviceId else message.recipientDeviceId))
    { decoded parser serializer message direction with
      localSenderCopyWirePayloadJson := if sent then clients.copy message.id else "" }

/-- Every client of the user reads this text. -/
def Reads (user : Uuid) (message : Message) (text : String) : Prop :=
  ∀ (setup : ClientSetup) (client : ClientState), setup.crypto = provider library →
    client.currentUserId = user.str → ∀ parser serializer direction,
      opened clients setup client user parser serializer direction message = .ok text

/-- Where the relay lets the user forward this message, the user's client has decrypted it to the
text. -/
def ReadsStored (rows : MessageTable) (user messageId : Uuid) (text : String) : Prop :=
  ∀ original, getAccessibleById messageId user rows = some original →
    ∃ (setup : ClientSetup) (client : ClientState) (parser : _) (serializer : _) (direction : _),
      setup.crypto = provider library ∧ client.currentUserId = user.str ∧
      opened clients setup client user parser serializer direction original = .ok text

/-- The clients of the run send what they encrypt and forward what they decrypt. -/
def Honest (state : RelayState) : RelayEvent → Prop
  | .prepare _ (.send user request id _) => Sends library pydantic clients user request id
  | .prepare _ (.forward user messageId request id _) =>
    Sends library pydantic clients user request id ∧
      ReadsStored library clients state.rows user messageId (clients.text id)
  | _ => True

/-- The row carries the text of its id, which is that of its original. -/
structure Carries (message : Message) : Prop where
  sent : Sends library pydantic clients message.senderUserId (requestOf message) message.id
  forwarded : ∀ originalId, message.forwardedFromMessageId = some originalId →
    clients.text message.id = clients.text originalId

variable {library pydantic clients} {signing : SigningLibrary}

/-! ## Reading -/

/-- Both parties of a delivered message read its text. -/
theorem reads_of_sends (laws : WireLaws library)
    (generated : ∀ user deviceId, Generated library signing (clients.device user deviceId))
    {message : Message}
    (sends : Sends library pydantic clients message.senderUserId (requestOf message) message.id)
    {user : Uuid} (party : user = message.senderUserId ∨ user = message.recipientUserId) :
    Reads library clients user message (clients.text message.id) := by
  obtain ⟨setup, sender, io, copyIo, preKey, payload, delivers⟩ := sends
  intro setup' client native current parser serializer direction
  by_cases own : message.senderUserId = user
  · subst own
    -- the sender opens the copy, which the relay has never seen
    have created := delivers.kept
    rw [createLocalSenderCopy_native delivers.native rfl] at created
    obtain ⟨copied, encrypted, copy⟩ := StrictModels.map_eq_ok.mp created
    have filled : ¬ (clients.copy message.id).isEmpty = true := by
      obtain ⟨_, _, _, _, _, -, -, -, -, -, wrapped⟩ := encrypt_eq_ok encrypted
      rw [← copy, wrapped]
      exact fun empty => wrapWirePayload_ne_empty _ _ (String.isEmpty_iff.mp empty)
    have keys := pairedKeys_of_generated (generated message.senderUserId message.senderDeviceId)
    have same : (decoded parser serializer message direction).senderUserId = client.currentUserId := by
      rw [decoded_eq, current]
    simp only [opened, if_true]
    rw [Client.MessageService.decryptForCurrentUser, if_neg (not_not.mpr same), if_neg filled, native,
      ← laws.utf8 _ delivers.plain]
    change decrypt library client.currentUserId _ _ none = _
    exact decrypt_encrypt laws keys keys rfl rfl encrypted delivers.copyJson copy.symm
      (unconsumed_of_encrypt encrypted).symm none
  · have other : (decoded parser serializer message direction).senderUserId ≠ client.currentUserId := by
      rw [decoded_eq, current]
      exact Uuid.str_inj.not.mpr own
    have recipient : user = message.recipientUserId := party.resolve_left (Ne.symm own)
    subst recipient
    simp only [opened, if_neg own]
    rw [Client.MessageService.decryptForCurrentUser, if_pos other, native]
    rw [← opens_of_posted laws (generated _ _) (generated _ _) delivers.plain delivers.encrypted
      delivers.json rfl delivers.posts rfl rfl parser serializer client.currentUserId
      (Client.MessageService.oneTimePreKeyFor setup' client (decoded parser serializer message direction))]
    rfl

theorem sends_of_content {message : Message}
    (carries : Carries library pydantic clients (content message)) :
    Sends library pydantic clients message.senderUserId (requestOf message) message.id :=
  carries.sent

/-! ## One step -/

/-- What an honest request creates carries its text: of the original the forwarder can only have
read what the row carries. -/
theorem preparesOnly_of_honest (laws : WireLaws library)
    (generated : ∀ user deviceId, Generated library signing (clients.device user deviceId))
    {state : RelayState} (before : Stores (Carries library pydantic clients) state)
    {event : RelayEvent} (honest : Honest library pydantic clients state event) :
    PreparesOnly (Carries library pydantic clients) state event := by
  cases event with
  | commit | rollback => trivial
  | prepare directory request =>
    intro message created
    cases created with
    | sends user body id createdAt => exact ⟨honest, fun _ none => by cases none⟩
    | forwards user messageId body id createdAt original accessible =>
      obtain ⟨sends, reads⟩ := honest
      obtain ⟨setup, client, parser, serializer, direction, native, current, opens⟩ :=
        reads original accessible
      have meets := List.find?_some accessible
      rw [decide_eq_true_eq] at meets
      have party : user = original.senderUserId ∨ user = original.recipientUserId :=
        meets.2.imp (fun sent => sent.1.symm) (fun received => received.1.symm)
      have carried := sends_of_content (before.rows original (List.mem_of_find?_eq_some accessible))
      have text := reads_of_sends laws generated carried party setup client native current parser
        serializer direction
      refine ⟨sends, fun originalId names => ?_⟩
      obtain rfl := Option.some.inj names
      exact Except.ok.inj (opens.symm.trans text)

/-! ## Whole runs -/

theorem carries_reachable (laws : WireLaws library)
    (generated : ∀ user deviceId, Generated library signing (clients.device user deviceId))
    {state : RelayState}
    (reached : Runs.ReachableBy relayStep RelayEmpty (Honest library pydantic clients) state) :
    Stores (Carries library pydantic clients) state := by
  refine Runs.invariant_of_preserved (fun start empty => ?_) (fun _ _ _ before honest moved =>
    stores_step before (preparesOnly_of_honest laws generated before honest) moved) reached
  obtain ⟨noRows, noWrites⟩ := empty
  constructor
  · simp [noRows]
  · simp [noWrites]

theorem text_of_chain {rows : MessageTable}
    (carries : ∀ message ∈ rows, Carries library pydantic clients (content message))
    {message original : Message} (chain : ReflTransGen (Lineage.Above ForwardOf rows) message original) :
    clients.text message.id = clients.text original.id := by
  induction chain with
  | refl => rfl
  | tail _ above ih => exact ih.trans ((carries _ above.listed).forwarded _ above.related.names)

/-- However the requests of honest clients interleave, the parties of a forwarded message read
what the parties of each message above it read, up to the one that was sent directly. -/
theorem forwards_keep_plaintext (laws : WireLaws library)
    (generated : ∀ user deviceId, Generated library signing (clients.device user deviceId))
    {state : RelayState}
    (reached : Runs.ReachableBy relayStep RelayEmpty (Honest library pydantic clients) state)
    {message original : Message} (stored : message ∈ state.rows)
    (chain : ReflTransGen (Lineage.Above ForwardOf state.rows) message original) :
    ∃ text, ∀ user,
      (user = message.senderUserId ∨ user = message.recipientUserId →
        Reads library clients user message text) ∧
      (user = original.senderUserId ∨ user = original.recipientUserId →
        Reads library clients user original text) := by
  have carries := (carries_reachable laws generated reached).rows
  have listed : original ∈ state.rows := by
    cases chain with
    | refl => exact stored
    | tail _ above => exact above.parentListed
  refine ⟨clients.text message.id, fun user => ⟨fun party => ?_, fun party => ?_⟩⟩
  · exact reads_of_sends laws generated (sends_of_content (carries message stored)) party
  · rw [text_of_chain carries chain]
    exact reads_of_sends laws generated (sends_of_content (carries original listed)) party

/-! ## A reader of JSON -/

/-- The object that a text is, and an empty one where it is none. -/
def readObject (bytes : Client.StoreDocuments.QByteArray) : Json.Members :=
  match JsonText.parse (SecretsAtRest.decodeUtf8 bytes).toList with
  | some (.object members) => JsonText.membersOf members
  | _ => []

theorem readObject_toJson {object : Json.Members} (readable : JsonText.ReadableMembers object) :
    readObject (Json.utf8 (toJson object)) = object := by
  have unmarked : SecretsAtRest.withoutBom (toJson object) = toJson object :=
    SecretsAtRest.withoutBom_of_ne (by simp [toJson, Json.compact])
  have whole : JsonText.Readable (.object object) := readable
  have parsed : JsonText.parse (toJson object) = some (.object (JsonText.ofMembers object)) := by
    rw [toJson, DigestAgreement.escapedString_eq,
      JsonText.parse_compact BlockchainHashing.quotes_encodeBasestring whole, JsonText.ofJson]
  rw [readObject, SecretsAtRest.decodeUtf8_utf8, unmarked, String.toList_ofList, parsed]
  exact JsonText.membersOf_ofMembers object

theorem readable_sealedPayload (senderDevice : Client.DeviceKeyMaterial)
    (ratchetKey ephemeralKey : RawKeyPair) (iv ciphertext tag : Client.StoreDocuments.QByteArray) :
    JsonText.ReadableMembers (sealedPayload senderDevice ratchetKey ephemeralKey iv ciphertext tag) := by
  have zero : JsonText.Readable (.number 0) := by
    rw [JsonText.Readable]
    decide
  refine JsonText.readableMembers_ofMembers ⟨zero, zero, trivial, trivial, trivial, trivial, ?_, trivial⟩
  exact JsonText.readableMembers_ofMembers ⟨trivial, trivial, trivial⟩

theorem readable_envelope (payload : Json.Members) {registrationId : Int}
    (fits : (Nat.toDigits 10 registrationId.natAbs).length ≤ JsonText.maxIntegerDigits) :
    JsonText.ReadableMembers (envelope payload registrationId) := by
  have three : JsonText.Readable (.number 3) := by
    rw [JsonText.Readable]
    decide
  exact JsonText.readableMembers_ofMembers ⟨trivial, three, trivial, fits, trivial⟩

/-! ## A greeting, forwarded and answered -/

def bobRatchetPair : RawKeyPair where
  publicKey := octets 32 0x0823748584b7efba99c6410d76ce74f39e27e862e4317a4f0ad1fa3d460f0615
  privateKey := octets 32 0x98b8f5b3752104011d7949879d5a1cd96376a648ed16bd62b144b6aa6781c1da

def bobEphemeralPair : RawKeyPair where
  publicKey := octets 32 0x6a40a46c2eacef6eb2e3ecbad73154dfab68bea4ba5b079a3710f862b5700c45
  privateKey := octets 32 0x7ff861864e3f355eba244093a6fc0e2e5e0d575cc2c7e5d5f5bb647d0dcda8fd

def forwardNonce : Client.StoreDocuments.QByteArray := octets 12 0x24cdf933ad16842817dfe942

def answerNonce : Client.StoreDocuments.QByteArray := octets 12 0xaa04b7dad20f64a15efd5338

/-- The keys of Bob's messages to Alice, and of his own copies. -/
def alicesMessageKey : Client.StoreDocuments.QByteArray :=
  octets 32 0xef7c6bd552473c645ead8fe0c0c660aa650e6efaa21d4b1394ace58c9145edc6

def bobsCopyKey : Client.StoreDocuments.QByteArray :=
  octets 32 0x5f56fc9edf6ebe63c9454704ea2790e2d544ab27b5b6cc57b88c85f6141a9612

def forwardTables : SampleTables :=
  { helloTables with
    pairs := bobRatchetPair :: bobEphemeralPair :: helloTables.pairs
    secrets := helloTables.secrets ++ [
      ((bobIdentityPair, alicePreKeyPair), octets 32 0x39e81eb8ae9b5190e81dac146da379c14cc9af064d0d91f578436339e958305b),
      ((bobEphemeralPair, aliceIdentityPair), octets 32 0x018348ec07be76f1f72f375f1963b31cf3946b1da175df0246dab517f307f96b),
      ((bobEphemeralPair, alicePreKeyPair), octets 32 0xd0044b1bc703820623a96f4220b2e4c792117c3fa300b078b444b0946674fb6d),
      ((bobRatchetPair, alicePreKeyPair), octets 32 0x76b38093c533588e873207aad15fe008af0db530d04694023a377c4f8bab5b4e),
      ((bobIdentityPair, bobPreKeyPair), octets 32 0x3ae575cddc055c64c594412d6710680e94565d0063f317d2459dd23433fd5e1e),
      ((bobEphemeralPair, bobIdentityPair), octets 32 0xdf48d6813f1dab6d4f02eee33b1702f45e4b39ed7cf1f9604342f8cd0be3cc14),
      ((bobEphemeralPair, bobPreKeyPair), octets 32 0xe8ab4ee2b75481e833ed0b4fcdb5aed605164e922b07f92946ac5f0c4fea561c),
      ((bobRatchetPair, bobPreKeyPair), octets 32 0x1b050e3715fb80fdc69633acf72f1236a8e882721336ddab61deab58fad2bb05)]
    expansions := helloTables.expansions ++ [
      ((octets 32 0x39e81eb8ae9b5190e81dac146da379c14cc9af064d0d91f578436339e958305b ++
          octets 32 0x018348ec07be76f1f72f375f1963b31cf3946b1da175df0246dab517f307f96b ++
          octets 32 0xd0044b1bc703820623a96f4220b2e4c792117c3fa300b078b444b0946674fb6d, List.replicate keyBytes 0),
        octets 32 0xe7f14db7fda12e70c360ec52ff062507212e8164ba0e6eeb33480ffddfc47cd9),
      ((octets 32 0x76b38093c533588e873207aad15fe008af0db530d04694023a377c4f8bab5b4e,
          octets 32 0xe7f14db7fda12e70c360ec52ff062507212e8164ba0e6eeb33480ffddfc47cd9),
        octets 32 0x5e659ad12a5945722079a17bc49941afe37ad72c91d1b029d233e390df6b8b17 ++
          octets 32 0x1a8dd3cd3b59240ce87fb9429f65055f7d61d2e92cb369c019804518d2d92d55),
      ((octets 32 0x3ae575cddc055c64c594412d6710680e94565d0063f317d2459dd23433fd5e1e ++
          octets 32 0xdf48d6813f1dab6d4f02eee33b1702f45e4b39ed7cf1f9604342f8cd0be3cc14 ++
          octets 32 0xe8ab4ee2b75481e833ed0b4fcdb5aed605164e922b07f92946ac5f0c4fea561c, List.replicate keyBytes 0),
        octets 32 0xdacff8e4298573e0c186098586eeaa0b7b00693e36a555971d21a3e83efce8d9),
      ((octets 32 0x1b050e3715fb80fdc69633acf72f1236a8e882721336ddab61deab58fad2bb05,
          octets 32 0xdacff8e4298573e0c186098586eeaa0b7b00693e36a555971d21a3e83efce8d9),
        octets 32 0x09b268311fe24095771884cfcb3def3ae720e0c27302d350e319f488e9d0cb15 ++
          octets 32 0xa991036df09a47828569c67598cfe9746b269d3398c56c1b938bce9b0a6aaed6)]
    authenticators := helloTables.authenticators ++ [
      (octets 32 0x1a8dd3cd3b59240ce87fb9429f65055f7d61d2e92cb369c019804518d2d92d55, alicesMessageKey),
      (octets 32 0xa991036df09a47828569c67598cfe9746b269d3398c56c1b938bce9b0a6aaed6, bobsCopyKey)]
    sealings := helloTables.sealings ++ [
      ⟨toUtf8 "hello", alicesMessageKey, forwardNonce, aadFor 0 0 bobRatchetPair.publicKey,
        octets 5 0x73b3282da7, octets 16 0x4a3a7e9c36f88a1f1fcd9d4127a504da⟩,
      ⟨toUtf8 "hello", bobsCopyKey, forwardNonce, aadFor 0 0 bobRatchetPair.publicKey,
        octets 5 0xc38f76f348, octets 16 0x233f4a241c85dd919e4131877c21e951⟩,
      ⟨toUtf8 "see you", alicesMessageKey, answerNonce, aadFor 0 0 bobRatchetPair.publicKey,
        octets 7 0x9891f29cc40cbb, octets 16 0xe0129768cd4efd25c57aeda21d0ddfc7⟩,
      ⟨toUtf8 "see you", bobsCopyKey, answerNonce, aadFor 0 0 bobRatchetPair.publicKey,
        octets 7 0x3c3fcfc3a328f2, octets 16 0x101954a87ff8005acaf2d8fa9c339f26⟩] }

theorem forwardTables_sound : forwardTables.Sound where
  sizes := by decide
  paired := by decide
  owners := by decide
  openings := by decide

/-- What OpenSSL computes, with a reader of any object. -/
def forwardLibrary : NativeLibrary := { forwardTables.native with documentObject := readObject }

theorem forwardLibrary_laws : WireLaws forwardLibrary :=
  have laws := SampleTables.wireLaws forwardTables_sound
  ⟨laws.commutes, laws.opens, laws.utf8⟩

theorem readsBack_forward {object : Json.Members} (readable : JsonText.ReadableMembers object) :
    ReadsBack forwardLibrary object := by
  have reader : forwardLibrary.documentObject = readObject := rfl
  rw [ReadsBack, reader, readObject_toJson readable]

/-- A device of sampled pairs is generated by the whole library too. -/
theorem forwardLibrary_generated {device : Client.DeviceKeyMaterial}
    (generated : Generated forwardTables.native twoSignings device) :
    Generated forwardLibrary twoSignings device := generated

theorem alice_generated_forward : Generated forwardLibrary twoSignings alice := by
  refine forwardLibrary_generated (generated_of_sound forwardTables_sound ?_ ?_ (by decide) (by decide)
    (by decide) (by decide))
  all_goals simp [forwardTables, helloTables]

theorem bob_generated_forward : Generated forwardLibrary twoSignings bob := by
  refine forwardLibrary_generated (generated_of_sound forwardTables_sound ?_ ?_ (by decide) (by decide)
    (by decide) (by decide))
  all_goals simp [forwardTables, helloTables]

/-- The library encrypts the text for the bundle, and what it writes is read back. -/
def Encrypts (sender : Client.DeviceKeyMaterial) (bundle : Client.PreKeyBundle) (text : String)
    (draws : Client.StoreDocuments.Draws) (wirePayloadJson : String) : Prop :=
  (∀ senderUserId, encrypt forwardLibrary senderUserId sender bundle text draws =
    .ok ⟨wirePayloadJson, none⟩) ∧
  ∀ object ∈ writtenObjects forwardLibrary sender bundle text draws, ReadsBack forwardLibrary object

/-- The library encrypts what the tables seal. -/
theorem encrypts_of_sealed {sender : Client.DeviceKeyMaterial} {bundle : Client.PreKeyBundle}
    {ratchetKey ephemeralKey : RawKeyPair} (ratchet : ratchetKey ∈ forwardTables.pairs)
    (ephemeral : ephemeralKey ∈ forwardTables.pairs) {text : String} (filled : text.isEmpty = false)
    {key nonce ciphertext tag : Client.StoreDocuments.QByteArray}
    (derived : sentKey forwardTables.native sender bundle ratchetKey ephemeralKey = key)
    (size : key.length = keyBytes) (drawn : randomBytes ivBytes [nonce] = nonce)
    (sealed : forwardTables.native.aesGcmEncrypt (toUtf8 text) key nonce
      (aadFor 0 0 ratchetKey.publicKey) = some (ciphertext, tag))
    (registered : bundle.registrationId = 10000) :
    Encrypts sender bundle text [ratchetKey.privateKey, ephemeralKey.privateKey, nonce]
      (wrapWirePayload (sealedPayload sender ratchetKey ephemeralKey nonce ciphertext tag) 10000) := by
  have pair {keys : RawKeyPair} (listed : keys ∈ forwardTables.pairs) : IsPair forwardLibrary keys :=
    isPair_of_sound forwardTables_sound listed
  rw [← derived, ← drawn] at sealed
  have sends := @encrypt_of_sealed forwardLibrary _ _ _ _ _ _ _ _ filled (pair ratchet) (pair ephemeral)
    (derived.symm ▸ size) sealed
  simp only [drawn, registered] at sends
  refine ⟨fun senderUserId => (sends senderUserId).1, fun object member => ?_⟩
  rw [(sends "").2] at member
  simp only [List.mem_cons, List.not_mem_nil, or_false] at member
  obtain rfl | rfl := member
  · exact readsBack_forward (readable_sealedPayload _ _ _ _ _ _)
  · exact readsBack_forward (readable_envelope _ (by decide))

def forwardRoot : Json.Members := sealedPayload bob bobRatchetPair bobEphemeralPair forwardNonce
  (octets 5 0x73b3282da7) (octets 16 0x4a3a7e9c36f88a1f1fcd9d4127a504da)

def forwardCopyRoot : Json.Members := sealedPayload bob bobRatchetPair bobEphemeralPair forwardNonce
  (octets 5 0xc38f76f348) (octets 16 0x233f4a241c85dd919e4131877c21e951)

def answerRoot : Json.Members := sealedPayload bob bobRatchetPair bobEphemeralPair answerNonce
  (octets 7 0x9891f29cc40cbb) (octets 16 0xe0129768cd4efd25c57aeda21d0ddfc7)

def answerCopyRoot : Json.Members := sealedPayload bob bobRatchetPair bobEphemeralPair answerNonce
  (octets 7 0x3c3fcfc3a328f2) (octets 16 0x101954a87ff8005acaf2d8fa9c339f26)

/-- User 1 has Bob's device and user 2 Alice's. Alice sends 7, which Bob forwards to her as 8; with 9
he answers it. -/
def letters : Clients where
  device user _ := if user = 1 then bob else alice
  text id := if id = 9 then "see you" else "hello"
  copy id :=
    if id = 7 then wrapWirePayload copyRoot alice.registrationId
    else if id = 8 then wrapWirePayload forwardCopyRoot bob.registrationId
    else wrapWirePayload answerCopyRoot bob.registrationId

def letterSetup : ClientSetup := { Client.sampleSetup with crypto := provider forwardLibrary }

def clientOf (user : Uuid) : ClientState :=
  { Client.sampleStart with session := some { user := { id := user.str } } }

/-- Knows both users. -/
def letterPydantic : Pydantic :=
  { PublishedBundles.strictPydantic with
    uuidOfText := fun text =>
      if text = Uuid.str 1 then .ok 1
      else if text = Uuid.str 2 then .ok 2
      else StrictModels.fail "uuid_parsing" "" }

theorem sentKey_letters :
    sentKey forwardTables.native alice (publishedBundle bob (Uuid.str 1) none) ratchetPair
        ephemeralPair = bobsMessageKey ∧
      sentKey forwardTables.native alice (Client.MessageService.selfPreKeyBundleFor (clientOf 2) alice)
        ratchetPair ephemeralPair = copyMessageKey ∧
      sentKey forwardTables.native bob (publishedBundle alice (Uuid.str 2) none) bobRatchetPair
        bobEphemeralPair = alicesMessageKey ∧
      sentKey forwardTables.native bob (Client.MessageService.selfPreKeyBundleFor (clientOf 1) bob)
        bobRatchetPair bobEphemeralPair = bobsCopyKey := by
  simp only [sentKey, sentSecrets, alice, bob, publishedBundle, GeneratedKeys.device,
    Client.MessageService.selfPreKeyBundleFor, fromBase64_toBase64]
  decide

/-- A client of the user sends the letter and keeps its copy. -/
theorem sends_letter {user recipientId id : Uuid} {sender recipient : Client.DeviceKeyMaterial}
    {text copy : String} (written : letters.text id = text) (stored : letters.copy id = copy)
    (own : ∀ deviceId, letters.device user deviceId = sender)
    (others : ∀ deviceId, letters.device recipientId deviceId = recipient)
    (known : letterPydantic.uuidOfText recipientId.str = .ok recipientId)
    (registered : recipient.registrationId = 10000) (plain : ¬ StartsWithBom text)
    {draws : Client.StoreDocuments.Draws} {root : Json.Members}
    (short : (PayloadAcceptance.bodyB64 root).length ≤ 1000)
    (sent : Encrypts sender (publishedBundle recipient recipientId.str none) text draws
      (wrapWirePayload root 10000))
    (kept : Encrypts sender (Client.MessageService.selfPreKeyBundleFor (clientOf user) sender) text draws
      copy) :
    ∃ request : MessageCreateRequest, request.recipientUserId = recipientId ∧
      Sends forwardLibrary letterPydantic letters user request id := by
  subst written stored
  have small := @PayloadAcceptance.size_of_short root 10000 short (by decide)
  obtain ⟨request, posts⟩ := posts_of_encrypted known (registered ▸ by decide) (sent.1 user.str) small
    onePositive onePositive
  obtain ⟨senderColumn, recipientColumn, deviceColumn, -⟩ := posts_iff.mp posts
  have target : request.recipientUserId = recipientId :=
    Except.ok.inj (recipientColumn.symm.trans known)
  refine ⟨request, target, letterSetup, clientOf user, { draws := draws }, { draws := draws }, none,
    ⟨wrapWirePayload root 10000, none⟩, rfl, rfl, plain, ?_, ?_, ?_, ?_, ?_⟩
  · rw [target, own, others]
    exact sent.1 user.str
  · rw [target, own, others]
    exact sent.2
  · rw [own, createLocalSenderCopy_native rfl rfl]
    exact congrArg (Except.map _) (kept.1 user.str)
  · rw [own]
    exact kept.2
  · rw [senderColumn, deviceColumn, target]
    exact posts

set_option maxRecDepth 10000 in
theorem length_letters : (PayloadAcceptance.bodyB64 helloRoot).length ≤ 1000 ∧
    (PayloadAcceptance.bodyB64 forwardRoot).length ≤ 1000 ∧
    (PayloadAcceptance.bodyB64 answerRoot).length ≤ 1000 := by decide

theorem encrypts_hello :
    Encrypts alice (publishedBundle bob (Uuid.str 1) none) "hello" helloDraws
        (wrapWirePayload helloRoot 10000) ∧
      Encrypts alice (Client.MessageService.selfPreKeyBundleFor (clientOf 2) alice) "hello" helloDraws
        (wrapWirePayload copyRoot 10000) := by
  have listed : ratchetPair ∈ forwardTables.pairs ∧ ephemeralPair ∈ forwardTables.pairs := by
    simp [forwardTables, helloTables]
  rw [helloRoot, copyRoot, helloDraws]
  constructor
  · exact encrypts_of_sealed listed.1 listed.2 (by decide) sentKey_letters.1 (by decide) drawn_nonce
      (by decide) (by decide)
  · exact encrypts_of_sealed listed.1 listed.2 (by decide) sentKey_letters.2.1 (by decide) drawn_nonce
      (by decide) (by decide)

theorem encrypts_by_bob {text : String} {nonce ciphertext tag copied copyTag : Client.StoreDocuments.QByteArray}
    (filled : text.isEmpty = false) (drawn : randomBytes ivBytes [nonce] = nonce)
    (sealed : forwardTables.native.aesGcmEncrypt (toUtf8 text) alicesMessageKey nonce
      (aadFor 0 0 bobRatchetPair.publicKey) = some (ciphertext, tag))
    (sealedCopy : forwardTables.native.aesGcmEncrypt (toUtf8 text) bobsCopyKey nonce
      (aadFor 0 0 bobRatchetPair.publicKey) = some (copied, copyTag)) :
    let draws := [bobRatchetPair.privateKey, bobEphemeralPair.privateKey, nonce]
    Encrypts bob (publishedBundle alice (Uuid.str 2) none) text draws
        (wrapWirePayload (sealedPayload bob bobRatchetPair bobEphemeralPair nonce ciphertext tag) 10000) ∧
      Encrypts bob (Client.MessageService.selfPreKeyBundleFor (clientOf 1) bob) text draws
        (wrapWirePayload (sealedPayload bob bobRatchetPair bobEphemeralPair nonce copied copyTag) 10000) := by
  have listed : bobRatchetPair ∈ forwardTables.pairs ∧ bobEphemeralPair ∈ forwardTables.pairs := by
    simp [forwardTables]
  constructor
  · exact encrypts_of_sealed listed.1 listed.2 filled sentKey_letters.2.2.1 (by decide) drawn sealed
      (by decide)
  · exact encrypts_of_sealed listed.1 listed.2 filled sentKey_letters.2.2.2 (by decide) drawn sealedCopy
      (by decide)

/-- The requests of the three letters. -/
theorem letters_sent : ∃ greeting forwarding answer : MessageCreateRequest,
    (greeting.recipientUserId = 1 ∧ forwarding.recipientUserId = 2 ∧ answer.recipientUserId = 2) ∧
    Sends forwardLibrary letterPydantic letters 2 greeting 7 ∧
    Sends forwardLibrary letterPydantic letters 1 forwarding 8 ∧
    Sends forwardLibrary letterPydantic letters 1 answer 9 := by
  have known : letterPydantic.uuidOfText (Uuid.str 1) = .ok 1 ∧
      letterPydantic.uuidOfText (Uuid.str 2) = .ok 2 := by
    have different : Uuid.str 2 ≠ Uuid.str 1 := Uuid.str_inj.not.mpr (by decide)
    simp only [letterPydantic, if_true, if_neg different, and_self]
  obtain ⟨helloShort, forwardShort, answerShort⟩ := length_letters
  have forwards := @encrypts_by_bob "hello" forwardNonce (octets 5 0x73b3282da7)
    (octets 16 0x4a3a7e9c36f88a1f1fcd9d4127a504da) (octets 5 0xc38f76f348)
    (octets 16 0x233f4a241c85dd919e4131877c21e951) (by decide) (by decide) (by decide) (by decide)
  have answers := @encrypts_by_bob "see you" answerNonce (octets 7 0x9891f29cc40cbb)
    (octets 16 0xe0129768cd4efd25c57aeda21d0ddfc7) (octets 7 0x3c3fcfc3a328f2)
    (octets 16 0x101954a87ff8005acaf2d8fa9c339f26) (by decide) (by decide) (by decide) (by decide)
  have bobs (deviceId : PositiveInt) : letters.device 1 deviceId = bob := by simp [letters]
  have alices (deviceId : PositiveInt) : letters.device 2 deviceId = alice := by simp [letters]
  have registered : alice.registrationId = 10000 ∧ bob.registrationId = 10000 := by decide
  have texts : letters.text 7 = "hello" ∧ letters.text 8 = "hello" ∧ letters.text 9 = "see you" := by
    simp [letters]
  have copies : letters.copy 7 = wrapWirePayload copyRoot 10000 ∧
      letters.copy 8 = wrapWirePayload forwardCopyRoot 10000 ∧
      letters.copy 9 = wrapWirePayload answerCopyRoot 10000 := by
    simp [letters, registered]
  obtain ⟨greeting, toBob, greets⟩ := sends_letter texts.1 copies.1 alices bobs known.1 registered.2
    (by decide) helloShort encrypts_hello.1 encrypts_hello.2
  obtain ⟨forwarding, toAlice, forwards⟩ := sends_letter texts.2.1 copies.2.1 bobs alices known.2
    registered.1 (by decide) forwardShort forwards.1 forwards.2
  obtain ⟨answer, toAlice', answers⟩ := sends_letter texts.2.2 copies.2.2 bobs alices known.2
    registered.1 (by decide) answerShort answers.1 answers.2
  exact ⟨greeting, forwarding, answer, ⟨toBob, toAlice, toAlice'⟩, greets, forwards, answers⟩

def greetBob (request : MessageCreateRequest) : List RelayEvent :=
  [.prepare openDirectory (.send 2 request 7 .newYear2026), .commit 0]

/-- Bob's answer is prepared before his forward is stored. -/
def forwardAndAnswer (forwarding answer : MessageCreateRequest) : List RelayEvent :=
  [.prepare openDirectory (.forward 1 7 forwarding 8 .newYear2026),
    .prepare openDirectory (.send 1 answer 9 .newYear2026), .commit 0, .commit 0]

theorem run_letters {greeting forwarding answer : MessageCreateRequest}
    (toBob : greeting.recipientUserId = 1) :
    let original := createMessage 2 greeting none 7 .newYear2026
    Runs.run relayStep ⟨[], []⟩ (greetBob greeting) = some ⟨[original], []⟩ ∧
    Runs.run relayStep ⟨[original], []⟩ (forwardAndAnswer forwarding answer) =
      some ⟨[original, createMessage 1 forwarding (some 7) 8 .newYear2026,
        createMessage 1 answer none 9 .newYear2026], []⟩ := by
  obtain ⟨_, recipientUserId, _, _, consumed⟩ := greeting
  subst toBob
  obtain ⟨_, _, _, _, consumed'⟩ := forwarding
  obtain ⟨_, _, _, _, consumed''⟩ := answer
  cases consumed <;> cases consumed' <;> cases consumed'' <;> exact ⟨rfl, rfl⟩

theorem forwards_keep_plaintext_letters : ∃ greeting forwarding answer original forward answered,
    Runs.run relayStep ⟨[], []⟩ (greetBob greeting ++ forwardAndAnswer forwarding answer) =
      some ⟨[original, forward, answered], []⟩ ∧
    ForwardOf forward original ∧ answered.id = 9 ∧ letters.text 9 ≠ letters.text 7 ∧
    ∃ text, ∀ user, user = 1 ∨ user = 2 →
      Reads forwardLibrary letters user original text ∧
      Reads forwardLibrary letters user forward text := by
  obtain ⟨greeting, forwarding, answer, ⟨toBob, toAlice, -⟩, greets, forwards, answers⟩ := letters_sent
  obtain ⟨greeted, later⟩ := @run_letters greeting forwarding answer toBob
  let original := createMessage 2 greeting none 7 .newYear2026
  let forward := createMessage 1 forwarding (some 7) 8 .newYear2026
  let answered := createMessage 1 answer none 9 .newYear2026
  have generated (user : Uuid) (deviceId : PositiveInt) :
      Generated forwardLibrary twoSignings (letters.device user deviceId) := by
    simp only [letters]
    split
    · exact bob_generated_forward
    · exact alice_generated_forward
  -- Bob decrypts what Alice sealed for him
  have read : Reads forwardLibrary letters 1 original (letters.text 7) :=
    @reads_of_sends forwardLibrary letterPydantic letters twoSignings forwardLibrary_laws generated original
      greets 1 (.inr toBob.symm)
  have reached : Runs.ReachableBy relayStep RelayEmpty
      (Honest forwardLibrary letterPydantic letters) ⟨[original], []⟩ :=
    Runs.reachableBy_of_run (greetBob greeting) (.start ⟨rfl, rfl⟩)
      ⟨greets, fun _ _ => ⟨trivial, fun _ _ => trivial⟩⟩ greeted
  have honest : Honest forwardLibrary letterPydantic letters ⟨[original], []⟩
      (.prepare openDirectory (.forward 1 7 forwarding 8 .newYear2026)) := by
    refine ⟨forwards, fun found accessible => ?_⟩
    obtain rfl := List.mem_singleton.mp (List.mem_of_find?_eq_some accessible)
    exact ⟨letterSetup, clientOf 1, fun _ => none, MessageApi.zuluSerializer, .received, rfl, rfl,
      read _ _ rfl rfl _ _ _⟩
  have ends := Runs.reachableBy_of_run (forwardAndAnswer forwarding answer) reached
    ⟨honest, fun _ _ => ⟨answers, fun _ _ => ⟨trivial, fun _ _ => ⟨trivial, fun _ _ => trivial⟩⟩⟩⟩ later
  have related : ForwardOf forward original := ⟨rfl, .inr toBob.symm⟩
  have stored : forward ∈ [original, forward, answered] := by simp
  obtain ⟨text, reads⟩ := forwards_keep_plaintext forwardLibrary_laws generated ends stored
    (.single ⟨stored, List.mem_cons_self, related⟩)
  refine ⟨greeting, forwarding, answer, original, forward, answered, ?_, related, rfl, by decide, text, ?_⟩
  · rw [Runs.run_append, greeted]
    exact later
  · rintro user (rfl | rfl)
    · exact ⟨(reads 1).2 (.inr toBob.symm), (reads 1).1 (.inl rfl)⟩
    · exact ⟨(reads 2).2 (.inl rfl), (reads 2).1 (.inr toAlice.symm)⟩

end EpicKfc.Guarantees.ForwardedPlaintext
