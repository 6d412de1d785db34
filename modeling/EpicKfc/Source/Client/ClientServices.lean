import EpicKfc.Source.Client.ClientRuns
import EpicKfc.Source.Client.MessageGateway
import EpicKfc.Source.Client.MessageReading
import EpicKfc.Source.Client.MessageSync
import EpicKfc.Source.Client.MessageVerification

/-!
# All services of the client

Every operation that `ClientController` starts, with the callbacks of
`KeyService::ensureDeviceKeysUploaded` and of the message lists beside those of
`ClientState`. Each exchange in flight carries the callback that waits for it.
`account` and `releases` are no members of the source: they record the account that
was logged in when a request was issued, and each message whose plaintext was shown,
downloaded or encrypted again, as the store had it at that moment.
-/

namespace EpicKfc.Source.Client
open EpicKfc.Lib
open EpicKfc.Source.Client.StoreDocuments

/-- What the other services take from `main` and from the crypto provider. -/
structure ServiceSetup extends ClientSetup where
  order : CreatedAtSort
  loadOrCreateDevice : Option DeviceKeyMaterial → Int → Draws → Result DeviceKeyMaterial
  createOneTimePreKeys : Int → Nat → Draws → Result (List OneTimePreKey)

/-- What a message list is fetched for. -/
inductive ListPurpose where
  | list
  | conversations
  | unread
  | read (address : UserAddress) (username : String) (page : Int)

/-- The callback of a service; `own` is the continuation of the exchange itself. -/
inductive ServiceCallback where
  | own (forwarding : Option String)
  | readAddress (username : String) (page : Int)
  | listed (direction : MessageDirection) (accessToken : String) (collected : MessageList)
      (purpose : ListPurpose)
  | messageSaved (localSenderCopy : String)
  | revoked
  | deleted (messageId : String)
  | anchor (messageId : String)
  | deviceKeys
  /-- Registration, pre-key upload and anchor check only report. -/
  | quiet

structure InFlight where
  exchange : Exchange
  account : Option String
  callback : ServiceCallback

structure Release where
  account : Option String
  cached : Option LocalMessage

structure Services where
  client : ClientState
  inFlight : List InFlight := []
  releases : List Release := []

/-- What one event meets outside; `senderCopy` is the copy made of a message it sends. -/
structure ServiceIo extends ClientIo where
  opening : ClientIo := {}
  senderCopy : String := ""
  fileOpens : Bool := true

inductive DocumentResponse where
  | success (document : Json)
  | failure (statusCode : Nat) (error : ClientError)

def DocumentResponse.toResponse : DocumentResponse → Response
  | .success document => .success (QJsonValue.toObject (some document))
  | .failure statusCode error => .failure statusCode error

/-- The account that is logged in. -/
def ClientState.currentAccount (client : ClientState) : Option String :=
  client.session.map (·.user.id)

namespace MessageService

/-- `saveAndReconcileMessages` on the store of the client. -/
def saveAndReconcileMessages (setup : ClientSetup) (client : ClientState) (messages : MessageList)
    (direction : MessageDirection) (io : Nat → StoreIo) : ClientState :=
  let saves := messages.zipIdx.map fun (message, index) => (message, io (index + 1))
  let (_, store, files) := MessageSync.saveAndReconcileMessages setup.library client.currentUserId
    direction saves (io 0) client.store client.files
  { client with store := store, files := files }

end MessageService

namespace Services

/-! ## Issuing requests -/

def issueFor (services : Services) (account : Option String) (accessToken : String)
    (callback : ServiceCallback) : Services :=
  let request : Request :=
    ⟨services.client.effectiveAccessToken accessToken, accessToken, false, .other⟩
  { services with inFlight := services.inFlight ++ [⟨.request request, account, callback⟩] }

def issue (services : Services) (accessToken : String) (callback : ServiceCallback) : Services :=
  services.issueFor services.client.currentAccount accessToken callback

/-- A request that needs a session. -/
def issueAuthenticated (services : Services) (callback : String → ServiceCallback) : Services :=
  if services.client.session.isSome then
    services.issue services.client.accessToken (callback services.client.accessToken)
  else services

/-- The exchanges that the client sent in a callback join those in flight. -/
def joins (services : Services) (after : ClientState) (record : Exchange → InFlight) : Services :=
  { services with
    client := { after with inFlight := [] }
    inFlight := services.inFlight ++ after.inFlight.map record }

def callbackOf (forwarding : Option String) (senderCopy : String) (exchange : Exchange) :
    ServiceCallback :=
  match exchange.continuation with
  | .other => .messageSaved senderCopy
  | _ => .own forwarding

/-- The message whose plaintext a step of a forward encrypts again. -/
def reencrypted (before after : ClientState) (forwarding : Option String) : List Release :=
  match forwarding with
  | none => []
  | some messageId =>
    if before.encryptions.length < after.encryptions.length then
      [⟨before.currentAccount, LocalMessages.findMessage messageId before.store.memory.messages⟩]
    else []

/-- A command or a callback of `ClientState` has run. -/
def continues (services : Services) (after : ClientState) (forwarding : Option String)
    (senderCopy : String) : Services :=
  let joined := services.joins after fun exchange =>
    ⟨exchange, after.currentAccount, callbackOf forwarding senderCopy exchange⟩
  { joined with releases := joined.releases ++ reencrypted services.client after forwarding }

/-- The exchange is sent again, or waits for a token refresh. -/
def keeps (services : Services) (after : ClientState) (entry : InFlight) : Services :=
  services.joins after fun exchange => ⟨exchange, entry.account, entry.callback⟩

variable (setup : ServiceSetup)

def mutate (services : Services) (mutation : JsonLocalStore.StoreMutation) (io : StoreIo) :
    Result Unit × Services :=
  let (result, client) := services.client.mutate setup.toClientSetup mutation io
  (result, { services with client := client })

/-! ## Key upload -/

def defaultPreKeyCount : Nat := 8

def uploadOneTimePreKeys (services : Services) (io : ServiceIo) : Services :=
  let upload (services : Services) := services.issue services.client.accessToken .quiet
  if (JsonLocalStore.loadOneTimePreKeys setup.deviceId services.client.store.memory).isEmpty then
    match setup.createOneTimePreKeys setup.deviceId defaultPreKeyCount io.draws with
    | .error _ => services
    | .ok created =>
      match services.mutate setup (.saveOneTimePreKeys created) (io.store 0) with
      | (.error _, services) => services
      | (.ok (), services) => upload services
  else upload services

def ensureDeviceKeysUploaded (services : Services) (io : ServiceIo) : Services :=
  if services.client.session.isSome then
    match setup.loadOrCreateDevice (services.client.currentDevice setup.toClientSetup)
        setup.deviceId io.draws with
    | .error _ => services
    | .ok material =>
      match services.mutate setup (.saveDeviceKeys material) (io.store 0) with
      | (.error _, services) => services
      | (.ok (), services) => services.issue services.client.accessToken .deviceKeys
  else services

/-! ## Message lists and conversations -/

def openConversation (services : Services) (address : UserAddress) (username : String) (page : Int)
    (io : ClientIo) : Services :=
  match MessageService.openConversationFromCache setup.toClientSetup setup.order services.client
      address username page io with
  | (.error _, client) => { services with client := client }
  | (.ok opened, client) =>
    let shown := opened.entries.map fun entry => (⟨services.client.currentAccount,
      services.client.store.memory.messages.find? (· = entry.message)⟩ : Release)
    { services with client := client, releases := services.releases ++ shown }

/-- The callback of a message list; what it is fetched for decides what follows. -/
def listComplete (services : Services) (direction : MessageDirection) (messages : MessageList)
    (purpose : ListPurpose) (io : ServiceIo) : Services :=
  let services := { services with
    client := MessageService.saveAndReconcileMessages setup.toClientSetup services.client messages
      direction io.store }
  let listSent := services.issue services.client.accessToken
    (.listed .sent services.client.accessToken [] purpose)
  match direction, purpose with
  | .received, .conversations => listSent
  | .received, .read _ _ _ => listSent
  | .sent, .read address username page =>
    openConversation setup services address username page io.opening
  | _, _ => services

/-- `HttpMessageGateway::fetchMessages`: a full page asks for the next one. -/
def pageArrived (services : Services) (account : Option String) (direction : MessageDirection)
    (accessToken : String) (collected : MessageList) (purpose : ListPurpose) (page : List Json)
    (io : ServiceIo) : Services :=
  let messages :=
    MessageGateway.messageListFromJson setup.library.fromISODateWithMs page direction
  if messages.length < MessageGateway.messagePageLimit then
    listComplete setup services direction (collected ++ messages) purpose io
  else services.issueFor account accessToken
    (.listed direction accessToken (collected ++ messages) purpose)

/-- The callback of `resolveUsername` in `readConversation`. -/
def readAddressArrived (services : Services) (address : UserAddress) (username : String)
    (page : Int) (io : ServiceIo) : Services :=
  match services.mutate setup (.saveKnownUser address) (io.store 0) with
  | (.error _, services) => services
  | (.ok (), services) => services.issue services.client.accessToken
      (.listed .received services.client.accessToken [] (.read address username page))

def readConversation (services : Services) (username : String) (page : Int) (io : ServiceIo) :
    Services :=
  let trimmedUsername := setup.trimmed username
  if services.client.session.isNone || trimmedUsername.isEmpty then services
  else if setup.isUuid trimmedUsername then
    readAddressArrived setup services ⟨trimmedUsername, trimmedUsername, setup.deviceId⟩ username
      page io
  else services.issue services.client.accessToken (.readAddress username page)

def download (services : Services) (messageId : String) (io : ServiceIo) : Services :=
  match MessageService.download setup.toClientSetup services.client messageId io.fileOpens with
  | .error _ => services
  | .ok _ =>
    let released : Release := ⟨services.client.currentAccount,
      LocalMessages.findMessage messageId services.client.store.memory.messages⟩
    { services with releases := services.releases ++ [released] }

/-! ## Verification -/

/-- `verifyPublicAnchor` asks without a token, and its callback only reports. -/
def judged (services : Services) (verdict : MessageService.Verdict) : Services :=
  match verdict with
  | .asks _ => services.issue "" .quiet
  | _ => services

def anchorArrived (services : Services) (messageId : String) (reply : Result Json.Members)
    (io : ServiceIo) : Services :=
  let (verdict, store, files) := MessageService.anchorArrived setup.library services.client.store
    messageId reply (io.store 0) services.client.files
  judged { services with client := { services.client with store := store, files := files } } verdict

/-! ## Replies -/

/-- The callback of a service whose request has its document. -/
def serviceReplied (services : Services) (entry : InFlight) (document : Json) (io : ServiceIo) :
    Services :=
  let object := QJsonValue.toObject (some document)
  let message :=
    MessageGateway.messageFromJson setup.library.fromISODateWithMs object .sent
  match entry.callback with
  | .own _ | .quiet => services
  | .readAddress username page =>
    let address := userAddressFromJson object setup.deviceId
    if address.userId.isEmpty then services
    else readAddressArrived setup services address username page io
  | .listed direction accessToken collected purpose =>
    pageArrived setup services entry.account direction accessToken collected purpose
      (QJsonValue.toArray (some document)) io
  | .messageSaved localSenderCopy =>
    (services.mutate setup (.saveMessage { message with
      localSenderCopyWirePayloadJson := localSenderCopy }) (io.store 0)).2
  | .revoked => (services.mutate setup (.saveMessage message) (io.store 0)).2
  | .deleted messageId =>
    (services.mutate setup (.markMessageDeletedFor services.client.currentUserId messageId)
      (io.store 0)).2
  | .anchor messageId => anchorArrived setup services messageId (.ok object) io
  | .deviceKeys => uploadOneTimePreKeys setup services io

/-- The callback of a service whose request has failed; only `verify` goes on. -/
def serviceFailed (services : Services) (entry : InFlight) (error : ClientError) (io : ServiceIo) :
    Services :=
  match entry.callback with
  | .anchor messageId => anchorArrived setup services messageId (.error error) io
  | _ => services

def forwardingOf : ServiceCallback → Option String
  | .own forwarding => forwarding
  | _ => none

/-- A reply passes `HttpClient` and then reaches the callback of its exchange. -/
def replied (services : Services) (entry : InFlight) (response : DocumentResponse)
    (io : ServiceIo) : Services :=
  let after := finished setup.toClientSetup services.client io.toClientIo entry.exchange
    response.toResponse
  match entry.exchange, response with
  | .request request, .success document =>
    if request.continuation = .other then serviceReplied setup services entry document io
    else services.continues after (forwardingOf entry.callback) io.senderCopy
  | .request request, .failure statusCode error =>
    if canRefresh services.client request statusCode then services.keeps after entry
    else serviceFailed setup services entry error io
  | .refresh _ _, .success _ => services.keeps after entry
  | .refresh _ _, .failure _ error => serviceFailed setup services entry error io

end Services

/-! ## Events -/

inductive ServiceEvent where
  | registerUser
  | login (password : String)
  | logout
  | ensureDeviceKeysUploaded
  | trust (username : String)
  | send (recipientUsername plaintext : String)
  | forward (messageId recipientUsername : String)
  | listReceived
  | listSent
  | listConversations
  | listUnreadSenders
  | readConversation (username : String) (page : Int)
  | revoke (messageId : String)
  | deleteMessage (messageId : String)
  | download (messageId : String)
  | verify (messageId : String)
  | reply (index : Nat) (response : DocumentResponse)

open Services in
/-- One command or one reply; commands may come at any time and replies in any order. -/
def servicesStep (setup : ServiceSetup) (services : Services) (event : ServiceEvent × ServiceIo) :
    Option Services :=
  let (event, io) := event
  let client := services.client
  let continues (after : ClientState) (forwarding : Option String) :=
    services.continues after forwarding io.senderCopy
  let listed (direction : MessageDirection) (purpose : ListPurpose) :=
    services.issueAuthenticated fun accessToken => .listed direction accessToken [] purpose
  match event with
  | .registerUser => some (services.issue "" .quiet)
  | .login password => some (continues (SessionService.login client password) none)
  | .logout => some (continues (SessionService.logout client) none)
  | .ensureDeviceKeysUploaded => some (ensureDeviceKeysUploaded setup services io)
  | .trust username =>
    some (continues (KeyService.trustUsername setup.toClientSetup client username io.toClientIo) none)
  | .send recipientUsername plaintext =>
    some (continues (MessageService.send setup.toClientSetup client recipientUsername plaintext
      io.toClientIo) none)
  | .forward messageId recipientUsername =>
    some (continues (MessageService.forward setup.toClientSetup client messageId recipientUsername
      io.toClientIo) (some messageId))
  | .listReceived => some (listed .received .list)
  | .listSent => some (listed .sent .list)
  | .listConversations => some (listed .received .conversations)
  | .listUnreadSenders => some (listed .received .unread)
  | .readConversation username page => some (readConversation setup services username page io)
  | .revoke _ => some (services.issue client.accessToken .revoked)
  | .deleteMessage messageId => some (services.issue client.accessToken (.deleted messageId))
  | .download messageId => some (download setup services messageId io)
  | .verify messageId => some (services.issue "" (.anchor messageId))
  | .reply index response =>
    services.inFlight[index]?.map fun entry =>
      replied setup { services with inFlight := services.inFlight.eraseIdx index } entry response io

/-! ## A small client -/

def sampleServices : ServiceSetup where
  toClientSetup := sampleSetup
  order := stableCreatedAtSort
  loadOrCreateDevice := fun _ deviceId _ =>
    .ok ⟨deviceId, 1, "identity", "identity private", "signing", "signing private", 1, "signed",
      "signed private", "signature"⟩
  createOneTimePreKeys := fun _ _ _ => .ok []

def sampleServicesIo : ServiceIo where
  store := fun index => { sampleIo.store index with now := "2026-01-01T00:00:00.000Z" }
  opening := sampleIo

def replies (index : Nat) (document : Json) : ServiceEvent × ServiceIo :=
  (.reply index (.success document), sampleServicesIo)

/-- The login of an account whose requests in flight so far are counted. -/
def servicesLogin (pending : Nat) (userId : String) : List (ServiceEvent × ServiceIo) :=
  [(.login "password", sampleServicesIo),
    replies pending (.object (tokensDocument "access" "refresh")),
    replies pending (.object (userDocument userId))]

def servicesLogout (pending : Nat) : List (ServiceEvent × ServiceIo) :=
  [(.logout, sampleServicesIo), replies pending (.object [])]

def messageDocument (id senderUserId recipientUserId : String) : Json :=
  .object [("id", .string id), ("sender_user_id", .string senderUserId),
    ("recipient_user_id", .string recipientUserId), ("wire_payload_json", .string "hello")]

end EpicKfc.Source.Client
