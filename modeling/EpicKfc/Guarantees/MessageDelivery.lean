import EpicKfc.Guarantees.DevicePublication
import EpicKfc.Guarantees.PayloadAcceptance
import EpicKfc.Source.DecodedMessages
import EpicKfc.Source.MessageRequests

/-!
# A message from device to device

The sender encrypts for a bundle that the key relay hands out, and posts the result;
the message relay stores it and answers with it later. Neither relay changes what
the two devices have to agree on, however its requests interleave.
-/

namespace EpicKfc.Guarantees.MessageDelivery
open EpicKfc.Lib
open EpicKfc.Source
open EpicKfc.Source.Client (NativeLibrary SigningLibrary)
open EpicKfc.Source.Client.NativeSignalCryptoProvider
open EpicKfc.Source.Client.RequestBodies
open EpicKfc.Source.Client.StoreDocuments
open EpicKfc.Source.KeyRequests
open EpicKfc.Source.MessageRequests
open EpicKfc.Source.Server
open EpicKfc.Source.Server.Messages
open EpicKfc.Source.Server.RequestModels (Pydantic)
open EpicKfc.Guarantees.MessageRoundTrip

/-! ## Stored content -/

/-- The row without its markers, as it was inserted. -/
def content (message : Message) : Message :=
  { message with
    accessRevokedAt := none
    senderDeletedAt := none
    recipientDeletedAt := none
    deletedAt := none }

/-- What is stored, and what will be, has content of this kind. -/
structure Stores (kind : Message → Prop) (state : RelayState) : Prop where
  rows : ∀ message ∈ state.rows, kind (content message)
  prepared : ∀ message, .insert message ∈ state.openWrites → kind (content message)

/-- The event prepares only rows of this kind. -/
def PreparesOnly (kind : Message → Prop) (state : RelayState) : RelayEvent → Prop
  | .prepare _ request => ∀ message, Creates state.rows request message → kind message
  | _ => True

/-- A created row has no markers yet. -/
theorem content_of_creates {rows : MessageTable} {request : RelayRequest} {message : Message}
    (created : Creates rows request message) : content message = message := by
  cases created <;> rfl

theorem apply_content {kind : Message → Prop} {write : RowWrite} {rows rows' : MessageTable}
    (before : ∀ message ∈ rows, kind (content message))
    (added : ∀ message, write = .insert message → kind (content message))
    (committed : write.apply rows = some rows') : ∀ message ∈ rows', kind (content message) := by
  cases write with
  | insert message =>
    simp only [RowWrite.apply] at committed
    split at committed
    · cases committed
    · cases committed
      intro other member
      obtain earlier | here := List.mem_append.mp member
      · exact before other earlier
      · rw [List.mem_singleton] at here
        exact here ▸ added message rfl
  | markSenderDeleted messageId now
  | markRecipientDeleted messageId now
  | revokeRecipientAccess messageId now =>
    cases committed
    intro message member
    obtain ⟨original, listed, rfl⟩ := List.mem_map.mp member
    split
    · exact before original listed
    · exact before original listed

theorem stores_step {kind : Message → Prop} {state state' : RelayState} {event : RelayEvent}
    (before : Stores kind state) (met : PreparesOnly kind state event)
    (moved : relayStep state event = some state') : Stores kind state' := by
  cases event with
  | prepare directory request =>
    simp only [relayStep] at moved
    split at moved
    · cases moved
      exact before
    · next write prepared =>
      cases moved
      refine ⟨before.rows, fun message member => ?_⟩
      obtain earlier | here := List.mem_append.mp member
      · exact before.prepared message earlier
      · rw [List.mem_singleton] at here
        have created := creates_of_prepare (prepared.trans (congrArg Except.ok here.symm))
        rw [content_of_creates created]
        exact met message created
  | commit index =>
    simp only [relayStep, Option.bind_eq_bind, Option.bind_eq_some_iff, Option.pure_def,
      Option.some.injEq] at moved
    obtain ⟨write, found, rows, applied, rfl⟩ := moved
    constructor
    · refine apply_content before.rows (fun message isInsert => ?_) applied
      exact before.prepared message (isInsert ▸ List.mem_of_getElem? found)
    · exact fun message member => before.prepared message (List.mem_of_mem_eraseIdx member)
  | rollback index =>
    simp only [relayStep] at moved
    split at moved
    · cases moved
      exact ⟨before.rows, fun message member =>
        before.prepared message (List.mem_of_mem_eraseIdx member)⟩
    · cases moved

/-- The run has a request that creates this row. -/
def CreatedIn (events : List RelayEvent) (message : Message) : Prop :=
  ∃ directory request, RelayEvent.prepare directory request ∈ events ∧
    ∃ rows, Creates rows request message

theorem preparesOnly_of_mem {events : List RelayEvent} {event : RelayEvent} (member : event ∈ events)
    (state : RelayState) : PreparesOnly (CreatedIn events) state event := by
  cases event with
  | prepare directory request =>
    exact fun message created => ⟨directory, request, member, state.rows, created⟩
  | _ => trivial

/-- The content of every row of a run is what some request of the run created. -/
theorem created_of_run {events : List RelayEvent} {state : RelayState}
    (ends : Runs.run relayStep ⟨[], []⟩ events = some state) :
    ∀ message ∈ state.rows, CreatedIn events (content message) := by
  have met : Runs.EveryStep relayStep (PreparesOnly (CreatedIn events)) ⟨[], []⟩ events :=
    Runs.everyStep_of_forall (fun event member => preparesOnly_of_mem member) _
  have starts : Runs.ReachableBy relayStep (· = ⟨[], []⟩) (PreparesOnly (CreatedIn events)) ⟨[], []⟩ :=
    .start rfl
  have stores : Stores (CreatedIn events) state := by
    refine Runs.invariant_of_preserved ?_ (fun _ _ _ before met moved => stores_step before met moved)
      (Runs.reachableBy_of_run events starts met ends)
    rintro start rfl
    exact ⟨by simp, by simp⟩
  exact stores.rows

/-! ## Delivery -/

/-- The request sends or forwards this under the id. -/
def Submits (currentUser : Uuid) (request : MessageCreateRequest) (id : Uuid) : RelayRequest → Prop
  | .send user body newId _ => newId = id → user = currentUser ∧ body = request
  | .forward user _ body newId _ => newId = id → user = currentUser ∧ body = request
  | _ => True

/-- What a row takes over from the request that created it. -/
theorem fields_of_created {events : List RelayEvent} {message : Message}
    (created : CreatedIn events (content message)) {currentUser : Uuid}
    {request : MessageCreateRequest}
    (only : ∀ directory other, RelayEvent.prepare directory other ∈ events →
      Submits currentUser request message.id other) :
    message.senderUserId = currentUser ∧ message.senderDeviceId = request.senderDeviceId ∧
      message.recipientUserId = request.recipientUserId ∧
      message.recipientDeviceId = request.recipientDeviceId ∧
      message.wirePayloadJson = request.wirePayloadJson ∧
      message.consumedOneTimePrekeyId = request.consumedOneTimePrekeyId := by
  obtain ⟨directory, other, member, rows, creates⟩ := created
  have submits := only directory other member
  generalize same : content message = row at creates
  have fields : message.id = row.id ∧ message.senderUserId = row.senderUserId ∧
      message.senderDeviceId = row.senderDeviceId ∧ message.recipientUserId = row.recipientUserId ∧
      message.recipientDeviceId = row.recipientDeviceId ∧
      message.wirePayloadJson = row.wirePayloadJson ∧
      message.consumedOneTimePrekeyId = row.consumedOneTimePrekeyId := by
    rw [← same]
    exact ⟨rfl, rfl, rfl, rfl, rfl, rfl, rfl⟩
  obtain ⟨id, fields⟩ := fields
  cases creates with
  | sends user body newId createdAt
  | forwards user messageId body newId createdAt original found =>
    obtain ⟨rfl, rfl⟩ := submits id.symm
    exact fields

variable {library : NativeLibrary} {signing : SigningLibrary} {pydantic : Pydantic}

/-- A posted payload is opened from every row that the relay keeps of it. -/
theorem opens_of_posted (laws : WireLaws library) {senderDevice recipientDevice : Client.DeviceKeyMaterial}
    (sender : Generated library signing senderDevice)
    (recipient : Generated library signing recipientDevice) {plaintext : String}
    (plain : ¬ StartsWithBom plaintext) {userId : String} {preKey : Option Client.OneTimePreKey}
    {senderUserId : String} {draws : Draws} {payload : Client.EncryptedPayload}
    (encrypted : encrypt library senderUserId senderDevice
      (publishedBundle recipientDevice userId preKey) plaintext draws = .ok payload)
    (json : ∀ object ∈ writtenObjects library senderDevice
      (publishedBundle recipientDevice userId preKey) plaintext draws, ReadsBack library object)
    {draft : Client.LocalMessage} (drafted : draft.wirePayloadJson = payload.wirePayloadJson)
    {request : MessageCreateRequest}
    (posts : Posts pydantic draft payload.consumedOneTimePreKeyId request)
    {message : Message} (wire : message.wirePayloadJson = request.wirePayloadJson)
    (consumed : message.consumedOneTimePrekeyId = request.consumedOneTimePrekeyId)
    (parser : Client.MessageGateway.DateParser) (serializer : MessageApi.DateTimeSerializer)
    (currentUserId : String) (oneTimePreKey : Option Client.OneTimePreKey) :
    decrypt library currentUserId recipientDevice (decoded parser serializer message .received)
      oneTimePreKey = .ok plaintext := by
  obtain ⟨-, -, -, text, -, taken⟩ := posts_iff.mp posts
  rw [← laws.utf8 plaintext plain]
  refine decrypt_encrypt laws (pairedKeys_of_generated sender) (pairedKeys_of_generated recipient) rfl
    rfl encrypted json ?_ ?_ oneTimePreKey
  · rw [decoded_eq, wire]
    exact text.trans drafted
  · rw [decoded_eq, consumed]
    exact taken

/-- The schema takes what is encrypted for a published device and fits. -/
theorem posts_of_encrypted {recipientDevice senderDevice : Client.DeviceKeyMaterial}
    {recipientUserId : Uuid} {userId : String} {preKey : Option Client.OneTimePreKey}
    (known : pydantic.uuidOfText recipientUserId.str = .ok recipientUserId)
    (registered : 0 < recipientDevice.registrationId ∧ recipientDevice.registrationId < 2 ^ 31)
    {senderUserId plaintext : String} {draws : Draws} {payload : Client.EncryptedPayload}
    (encrypted : encrypt library senderUserId senderDevice
      (publishedBundle recipientDevice userId preKey) plaintext draws = .ok payload)
    (small : (Json.utf8 payload.wirePayloadJson.toList).length ≤ WirePayloads.maxWirePayloadBytes)
    (senderDeviceId recipientDeviceId : PositiveInt) :
    ∃ request, Posts pydantic (draftFor senderUserId senderDeviceId.val recipientUserId.str
      recipientDeviceId.val payload.wirePayloadJson) payload.consumedOneTimePreKeyId request := by
  obtain ⟨_, _, _, _, _, -, -, -, -, -, rfl⟩ := encrypt_eq_ok encrypted
  have accepted := PayloadAcceptance.wrapped_payload_accepted _ registered.1 registered.2 small
  have long (object : Json.Members) (registrationId : Int) :
      2 ≤ (wrapWirePayload object registrationId).length := by
    rw [← String.length_toList, PayloadAcceptance.toList_wrapWirePayload, List.length_append]
    exact Nat.le_add_left_of_le (by decide)
  exact ⟨⟨senderDeviceId, recipientUserId, recipientDeviceId, ⟨_, long _ _⟩, none⟩,
    posts_iff.mpr ⟨rfl, known, rfl, rfl, accepted, rfl⟩⟩

/-- A message that is encrypted for a fetched bundle of the recipient's device is accepted by the
backend, and from whatever the backend later answers with under its id the recipient's device
reads the sender, the recipient and the plaintext. -/
theorem message_delivered (laws : WireLaws library)
    {senderDevice recipientDevice : Client.DeviceKeyMaterial}
    (sender : Generated library signing senderDevice)
    (recipient : Generated library signing recipientDevice) {plaintext : String}
    (plain : ¬ StartsWithBom plaintext) {name : KeyRelay.DeviceName}
    (known : pydantic.uuidOfText name.userId.str = .ok name.userId)
    {keyEvents : List (KeyRelay.RequestId × KeyRelay.Statement)} {keyRelay : KeyRelay.Relay}
    (served : Runs.run KeyRelay.relayStep {} keyEvents = some keyRelay)
    {preKeys : List Client.OneTimePreKey}
    (devices : ∀ request body, (request, KeyRelay.Statement.startUpsert name body) ∈ keyEvents →
      UploadsDevice pydantic recipientDevice body)
    (batches : ∀ request batch, (request, KeyRelay.Statement.startUpload name batch) ∈ keyEvents →
      ∃ keys ⊆ preKeys, UploadsPreKeys pydantic keys batch)
    {record : KeyRelay.BundleRecord} (fetched : record ∈ keyRelay.responses)
    (target : record.target = name) {senderId : Uuid} {senderDeviceId : PositiveInt} {draws : Draws}
    {payload : Client.EncryptedPayload} :
    let bundle := Client.bundleFromJson name.userId.str (RequestModels.preKeyBundleResponse record.bundle)
    let draft := draftFor senderId.str senderDeviceId.val name.userId.str name.deviceId.val
      payload.wirePayloadJson
    encrypt library senderId.str senderDevice bundle plaintext draws = .ok payload →
    (∀ object ∈ writtenObjects library senderDevice bundle plaintext draws, ReadsBack library object) →
    (Json.utf8 payload.wirePayloadJson.toList).length ≤ WirePayloads.maxWirePayloadBytes →
    (∃ request, Posts pydantic draft payload.consumedOneTimePreKeyId request) ∧
    ∀ request, Posts pydantic draft payload.consumedOneTimePreKeyId request →
      ∀ events state, Runs.run relayStep ⟨[], []⟩ events = some state →
      ∀ message ∈ state.rows,
        (∀ directory other, RelayEvent.prepare directory other ∈ events →
          Submits senderId request message.id other) →
        ∀ parser serializer,
          let received := decoded parser serializer message .received
          (received.senderUserId = senderId.str ∧ received.senderDeviceId = senderDeviceId.val ∧
            received.recipientUserId = name.userId.str ∧
            received.recipientDeviceId = name.deviceId.val) ∧
          ∀ currentUserId oneTimePreKey,
            decrypt library currentUserId recipientDevice received oneTimePreKey = .ok plaintext := by
  subst target
  intro bundle draft encrypted json small
  have publishes := PublishedBundles.publishes_of_joined devices batches
    (PublishedBundles.joined_of_run served record fetched)
  obtain ⟨preKey, -, published⟩ := publishes.bundleFromJson record.target.userId.str
  have registered : 0 < recipientDevice.registrationId ∧ recipientDevice.registrationId < 2 ^ 31 :=
    publishes.registrationId ▸ record.bundle.registrationId.property
  simp only [bundle, published] at encrypted json
  refine ⟨posts_of_encrypted known registered encrypted small senderDeviceId record.target.deviceId, ?_⟩
  intro request posts events state ran message stored only parser serializer
  obtain ⟨sentBy, sentFrom, sentTo, sentAt, wire, consumed⟩ :=
    fields_of_created (created_of_run ran message stored) only
  obtain ⟨senderColumn, recipientColumn, deviceColumn, -⟩ := posts_iff.mp posts
  refine ⟨?_, opens_of_posted laws sender recipient plain encrypted json rfl posts wire consumed parser
    serializer⟩
  have recipientUserId : request.recipientUserId = record.target.userId :=
    Except.ok.inj (recipientColumn.symm.trans known)
  rw [decoded_eq, sentBy, sentFrom, sentTo, sentAt, recipientUserId]
  exact ⟨rfl, senderColumn, rfl, deviceColumn⟩

/-! ## A greeting -/

/-- Knows the user of the sample device. -/
def helloPydantic : Pydantic :=
  { PublishedBundles.strictPydantic with
    uuidOfText := fun text =>
      if text = Uuid.str 1 then .ok 1 else StrictModels.fail "uuid_parsing" "" }

/-- Encryption looks at neither user and at no one-time pre-key. -/
theorem encrypt_published (library : NativeLibrary) (sender sender' userId userId' plaintext : String)
    (senderDevice recipientDevice : Client.DeviceKeyMaterial)
    (preKey preKey' : Option Client.OneTimePreKey) (draws : Draws) :
    encrypt library sender senderDevice (publishedBundle recipientDevice userId preKey) plaintext draws =
      encrypt library sender' senderDevice (publishedBundle recipientDevice userId' preKey') plaintext
        draws := rfl

theorem run_send (request : MessageCreateRequest) : Runs.run relayStep ⟨[], []⟩
    [.prepare openDirectory (.send 2 request 7 .newYear2026), .commit 0] =
      some ⟨[createMessage 2 request none 7 .newYear2026], []⟩ := by
  obtain ⟨_, _, _, _, consumed⟩ := request
  cases consumed <;> rfl

theorem message_delivered_hello : ∃ request message,
    Runs.run relayStep ⟨[], []⟩
      [.prepare openDirectory (.send 2 request 7 .newYear2026), .commit 0] = some ⟨[message], []⟩ ∧
    ∀ currentUserId oneTimePreKey,
      decrypt helloTables.native currentUserId bob
        (decoded (fun _ => none) MessageApi.zuluSerializer message .received) oneTimePreKey =
          .ok "hello" := by
  have unmarked : ¬ StartsWithBom "hello" := by simp [StartsWithBom]
  obtain ⟨keyRelay, served, responses⟩ :=
    Option.map_eq_some_iff.mp DevicePublication.responses_deviceRun
  -- the response that hands out the pre-key
  obtain ⟨record, fetched, handed⟩ := List.mem_map.mp (responses ▸
    List.mem_cons_of_mem _ (List.mem_cons_of_mem _ (List.mem_singleton_self _)))
  have target : record.target = PreKeyHandOut.sampleDevice := congrArg Prod.fst handed
  obtain ⟨devices, uploads⟩ := @DevicePublication.uploads_deviceRun helloPydantic
  have batches : ∀ request batch, (request, KeyRelay.Statement.startUpload
      PreKeyHandOut.sampleDevice batch) ∈ DevicePublication.deviceRun →
      ∃ keys ⊆ DevicePublication.bobsPreKeys, UploadsPreKeys helloPydantic keys batch :=
    fun request batch member => ⟨_, List.Subset.refl _, uploads request batch member⟩
  have publishes := PublishedBundles.publishes_of_joined (target ▸ devices) (target ▸ batches)
    (PublishedBundles.joined_of_run served _ fetched)
  obtain ⟨preKey, -, published⟩ := publishes.bundleFromJson (Uuid.str 1)
  obtain ⟨-, json⟩ := sent_of_sound helloTables_sound rfl "hello" (by decide) sentKey_bob (by decide)
    (by rw [helloTables, helloRoot]) (by decide) rfl "alice"
  have known : helloPydantic.uuidOfText (Uuid.str 1) = .ok 1 := by
    simp only [helloPydantic, if_true]
  obtain ⟨payload, sent, text⟩ : ∃ payload, encrypt helloTables.native (Uuid.str 2) alice
      (publishedBundle bob (Uuid.str 1) preKey) "hello" helloDraws = .ok payload ∧
        payload.wirePayloadJson = wrapWirePayload helloRoot bobsBundle.registrationId :=
    ⟨_, (encrypt_published _ _ "alice" _ "bob" _ _ _ _ none _).trans PayloadAcceptance.encrypt_hello, rfl⟩
  have small : (Json.utf8 payload.wirePayloadJson.toList).length ≤ WirePayloads.maxWirePayloadBytes := by
    rw [text]
    exact PayloadAcceptance.size_hello
  rw [← published] at sent
  have written : ∀ object ∈ writtenObjects helloTables.native alice (publishedBundle bob (Uuid.str 1)
      preKey) "hello" helloDraws, ReadsBack helloTables.native object := json
  rw [← published] at written
  obtain ⟨⟨request, posts⟩, opens⟩ := @message_delivered helloTables.native twoSignings helloPydantic
    (SampleTables.wireLaws helloTables_sound) alice bob (alice_generated helloTables_sound rfl)
    (bob_generated helloTables_sound rfl) "hello" unmarked PreKeyHandOut.sampleDevice known _ _ served _
    devices batches _ fetched target 2 onePositive helloDraws payload sent written small
  refine ⟨request, createMessage 2 request none 7 .newYear2026, run_send request, ?_⟩
  refine (opens request posts _ _ (run_send request) _ (List.mem_singleton_self _) ?_ _ _).2
  intro directory other member
  simp only [List.mem_cons, RelayEvent.prepare.injEq, reduceCtorEq, List.not_mem_nil, or_false] at member
  obtain ⟨-, rfl⟩ := member
  exact fun _ => ⟨rfl, rfl⟩

end EpicKfc.Guarantees.MessageDelivery
