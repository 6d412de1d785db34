import EpicKfc.Lib.Flows
import EpicKfc.Source.Client.Conversations
import EpicKfc.Source.Client.MessageReading
import EpicKfc.Source.Client.MessageVerification
import EpicKfc.Source.Client.SlashCommands

/-!
# Signals of the services

`client/src/services/Services.cpp` between `EventBus` and the gateway interfaces:
what each operation and each callback emits and asks the backend for. What the
store, the crypto provider and the disk answer at once may be anything; the state
behind those answers is modelled with the services themselves.
-/

namespace EpicKfc.Source.Client
open EpicKfc.Lib

/-- The messages of `operationStarted`. -/
inductive Operation where
  | operationInProgress
  | registeringUser
  | loggingIn
  | loggingOut
  | loadingConversations
  | loadingUnreadInbox
  | syncingMessages
  | loadingSentMessages
  | loadingConversation
  | forwardingMessage
  | revokingMessage
  | deletingMessage
  | exportingMessage
  | checkingTrust
  | verifyingMessage
  | sendingMessage
deriving DecidableEq

/-- The messages of `statusMessage`. -/
inductive Status where
  | enterRegistrationPassword
  | enterLoginPassword
  | help
  | loggedInAs (username id : String)
  | notLoggedIn
  | clientStatus (deviceId : Int)
  | noComposition
  | returnedToMainMenu
  | registeredUser (username : String)

/-- `EventBus`. -/
inductive Signal where
  | slashCommandReceived (command : SlashCommand)
  | conversationTargetChanged (username : String)
  | operationStarted (message : Operation)
  | statusMessage (message : Status)
  | commandFailed (error : ClientError)
  | sessionStarted (user : UserProfile)
  | sessionEnded
  | deviceKeysReady (deviceId : Int)
  | trustPinCreated (pin : TrustPin)
  | trustPinMatched (userId : String) (deviceId : Int)
  | trustPinMismatch (userId : String) (deviceId : Int)
  | conversationListUpdated (conversations : ConversationList)
  | unreadInboxUpdated (conversations : ConversationList)
  | conversationLogOpened (username peerUserId : String) (log : ConversationPage)
  | messageListUpdated (messages : MessageList)
  | messagePrepared (recipientUserId : String) (deviceId : Int) (currentBody : String)
  | messageCompositionCancelled
  | messageSent (message : LocalMessage)
  | messageForwarded (message : LocalMessage)
  | messageRevoked (messageId : String)
  | messageDeleted (messageId : String)
  | messageDownloaded (messageId path : String)
  | fidelityStatusUpdated (messageId : String) (status : MessageService.FidelityStatus)
  | backendUnavailable (error : ClientError)
  | cryptoOperationFailed (error : ClientError)
  | exitRequested

/-- What the store, the crypto provider, the session and the disk are asked. -/
inductive Question where
  | currentSession
  | useAccountScopedPath (userId : String)
  | reload
  | saveSession (session : AuthSession)
  | clearSession
  | loadDeviceKeys
  | loadOrCreateDevice (existing : Option DeviceKeyMaterial)
  | saveDeviceKeys (material : DeviceKeyMaterial)
  | loadOneTimePreKeys
  | createOneTimePreKeys
  | saveOneTimePreKeys (preKeys : List OneTimePreKey)
  | saveKnownUser (address : UserAddress)
  | verifySignedPreKey (bundle : PreKeyBundle)
  | cachedBundle (userId : String) (deviceId : Int)
  | trustPin (userId : String) (deviceId : Int)
  | currentDateTimeUtc
  | saveTrustPin (pin : TrustPin)
  | encrypt (device : DeviceKeyMaterial) (bundle : PreKeyBundle) (plaintext : String)
  | createLocalSenderCopy (device : DeviceKeyMaterial) (plaintext : String)
  | draftFor (recipientAddress : UserAddress) (wirePayloadJson : String)
  | saveMessage (message : LocalMessage)
  | reconcileVisibleMessages (direction : MessageDirection) (visibleMessageIds : List String)
  | conversationsFor
  | unreadConversationsFor
  | messagesWithPeer (peerUserId : String)
  | conversationLog (device : DeviceKeyMaterial) (messages : MessageList) (page : Int)
  | markConversationRead (peerUserId : String)
  | findMessage (messageId : String)
  | decryptForCurrentUser (device : DeviceKeyMaterial) (message : LocalMessage)
  | markMessageDeletedFor (messageId : String)
  | openFile (path : String)

@[reducible] def Question.Answer : Question → Type
  | .currentSession => Option AuthSession
  | .loadDeviceKeys => Result (Option DeviceKeyMaterial)
  | .loadOrCreateDevice _ => Result DeviceKeyMaterial
  | .loadOneTimePreKeys | .createOneTimePreKeys => Result (List OneTimePreKey)
  | .cachedBundle _ _ => Option PreKeyBundle
  | .trustPin _ _ => Result (Option TrustPin)
  | .currentDateTimeUtc => QDateTime
  | .encrypt _ _ _ => Result EncryptedPayload
  | .createLocalSenderCopy _ _ | .decryptForCurrentUser _ _ => Result String
  | .draftFor _ _ => LocalMessage
  | .conversationsFor | .unreadConversationsFor => Result ConversationList
  | .messagesWithPeer _ => Result MessageList
  | .conversationLog _ _ _ => ConversationPage
  | .findMessage _ => Result (Option LocalMessage)
  | .openFile _ => Bool
  | _ => Result Unit

/-- What an address is looked up for. -/
inductive AddressPurpose where
  | trust
  | send (plaintext : String)
  | read (username : String) (page : Int)
  | forward (messageId : String)

/-- What a message list is fetched for. -/
inductive ListingPurpose where
  | list
  | conversations
  | unread
  | read (address : UserAddress) (username : String) (page : Int)

/-- The gateway call that follows an encryption. -/
inductive Outgoing where
  | sendMessage
  | forwardMessage (messageId : String)

/-- A call of a gateway, with what its callback has captured. -/
inductive GatewayCall where
  | registerUser (username email password : String)
  | login (usernameOrEmail password : String)
  | logout
  | upsertDeviceKeys (material : DeviceKeyMaterial)
  | uploadOneTimePreKeys (preKeys : List OneTimePreKey)
  | resolveUsername (username : String) (purpose : AddressPurpose)
  | fetchTrustBundle (address : UserAddress)
  | fetchTrustedBundle (pin : TrustPin) (outgoing : Outgoing) (delivery : Delivery)
  | listReceived (purpose : ListingPurpose)
  | listSent (purpose : ListingPurpose)
  | deliver (outgoing : Outgoing) (draft : LocalMessage) (consumedPreKeyId : Option Int)
      (localSenderCopy : String)
  | revokeMessage (messageId : String)
  | deleteMessage (messageId : String)
  | fetchMessageAnchor (messageId : String)
  | verifyAnchor (messageId : String) (anchor : BlockchainAnchor)

@[reducible] def GatewayCall.Reply : GatewayCall → Type
  | .registerUser _ _ _ => Result UserProfile
  | .login _ _ => Result AuthSession
  | .resolveUsername _ _ => Result UserAddress
  | .fetchTrustBundle _ | .fetchTrustedBundle _ _ _ => Result PreKeyBundle
  | .listReceived _ | .listSent _ => Result MessageList
  | .deliver _ _ _ _ | .revokeMessage _ => Result LocalMessage
  | .fetchMessageAnchor _ => Result BlockchainAnchor
  | .verifyAnchor _ _ => Result BlockchainVerification
  | _ => Result Unit

@[reducible] def serviceInterface : FlowInterface where
  Signal := Signal
  Question := Question
  Answer := Question.Answer
  Call := GatewayCall

abbrev ServiceFlow := Flow serviceInterface

namespace ServiceFlow

def emit (signal : Signal) : ServiceFlow Unit := Flow.emit signal

def ask (question : Question) : ServiceFlow question.Answer := Flow.ask (I := serviceInterface) question

def start (call : GatewayCall) : ServiceFlow Unit := Flow.start call

/-- `if (result.failed()) { emit commandFailed(result.error()); return; }` -/
def orCommandFailed {α : Type} (result : Result α) (next : α → ServiceFlow Unit) :
    ServiceFlow Unit :=
  match result with
  | .error error => emit (.commandFailed error)
  | .ok value => next value

def orCryptoOperationFailed {α : Type} (result : Result α) (next : α → ServiceFlow Unit) :
    ServiceFlow Unit :=
  match result with
  | .error error => emit (.cryptoOperationFailed error)
  | .ok value => next value

/-- What the services are constructed with. -/
structure Configuration where
  deviceId : Int
  accountScopedState : Bool

variable (configuration : Configuration) (text : TextLibrary)

def authRequired : ClientError := ⟨.authRequired, "You must /login before using this command."⟩

def notTrusted : ClientError := ⟨.trustError, "Run /trust for this username before sending."⟩

def trustMismatch : ClientError := ⟨.trustError, "Trust mismatch. Sending is blocked."⟩

/-- `requireSession`, and the guard that `KeyService` writes out. -/
def withSession (next : ServiceFlow Unit) : ServiceFlow Unit := do
  let session : Option AuthSession ← ask .currentSession
  if session.isSome then next else emit (.commandFailed authRequired)

/-! ## Keys -/

/-- `isAlreadyUploadedPreKeyError`. -/
def isAlreadyUploadedPreKeyError (error : ClientError) : Bool :=
  let mentionsPreKey := text.containsIgnoringCase error.message "prekey" ||
    text.containsIgnoringCase error.message "pre-key"
  let mentionsExisting := text.containsIgnoringCase error.message "already" ||
    text.containsIgnoringCase error.message "exists"
  error.code == .httpError && text.contains error.message "409" && mentionsPreKey && mentionsExisting

def ensureDeviceKeysUploaded : ServiceFlow Unit :=
  withSession do
    orCommandFailed (← ask .loadDeviceKeys) fun existing => do
      orCryptoOperationFailed (← ask (.loadOrCreateDevice existing)) fun material => do
        orCommandFailed (← ask (.saveDeviceKeys material)) fun _ =>
          start (.upsertDeviceKeys material)

/-- A failed load counts as no pre-keys. -/
def uploadOneTimePreKeys : ServiceFlow Unit := do
  let loaded : Result (List OneTimePreKey) ← ask .loadOneTimePreKeys
  let existing := loaded.toOption.getD []
  if existing.isEmpty then
    orCryptoOperationFailed (← ask .createOneTimePreKeys) fun created => do
      orCommandFailed (← ask (.saveOneTimePreKeys created)) fun _ =>
        start (.uploadOneTimePreKeys created)
  else start (.uploadOneTimePreKeys existing)

def deviceKeysUpserted (result : Result Unit) : ServiceFlow Unit :=
  orCommandFailed result fun _ => do
    uploadOneTimePreKeys
    emit (.deviceKeysReady configuration.deviceId)

def oneTimePreKeysUploaded (result : Result Unit) : ServiceFlow Unit :=
  match result with
  | .error error =>
    if isAlreadyUploadedPreKeyError text error then pure () else emit (.commandFailed error)
  | .ok () => pure ()

def trustUsername (username : String) : ServiceFlow Unit :=
  withSession (start (.resolveUsername username .trust))

/-- A resolved user is saved first, whatever it was looked up for. -/
def savingKnownUser (result : Result UserAddress) (next : UserAddress → ServiceFlow Unit) :
    ServiceFlow Unit :=
  orCommandFailed result fun address => do
    orCommandFailed (← ask (.saveKnownUser address)) fun _ => next address

def trustBundleFetched (address : UserAddress) (result : Result PreKeyBundle) : ServiceFlow Unit :=
  orCommandFailed result fun bundle => do
    orCryptoOperationFailed (← ask (.verifySignedPreKey bundle)) fun _ => do
      orCommandFailed (← ask (.trustPin address.userId address.deviceId)) fun existing => do
        match existing with
        | none =>
          let now ← ask .currentDateTimeUtc
          let pin : TrustPin := ⟨address.userId, address.deviceId, bundle.identityKey, now⟩
          orCommandFailed (← ask (.saveTrustPin pin)) fun _ => emit (.trustPinCreated pin)
        | some pin =>
          if pin.identityKey ≠ bundle.identityKey then
            emit (.trustPinMismatch address.userId address.deviceId)
          else emit (.trustPinMatched address.userId address.deviceId)

/-- `currentDevice`, with the check that every caller makes. -/
def withCurrentDevice (next : DeviceKeyMaterial → ServiceFlow Unit) : ServiceFlow Unit := do
  orCommandFailed (← ask .loadDeviceKeys) fun loaded =>
    match loaded with
    | none => emit (.commandFailed MessageService.deviceKeysUnavailable)
    | some device => next device

/-! ## Sending -/

/-- The callbacks that `sendToAddress` and `forwardToAddress` give to `trustedBundle`. -/
def bundleTrusted (outgoing : Outgoing) (delivery : Delivery) (bundle : Result PreKeyBundle) :
    ServiceFlow Unit :=
  orCommandFailed bundle fun bundle => do
    orCryptoOperationFailed (← ask (.encrypt delivery.device bundle delivery.plaintext))
      fun encrypted => do
        orCryptoOperationFailed (← ask (.createLocalSenderCopy delivery.device delivery.plaintext))
          fun localSenderCopy => do
            let draft ← ask (.draftFor delivery.recipientAddress encrypted.wirePayloadJson)
            start (.deliver outgoing draft encrypted.consumedOneTimePreKeyId localSenderCopy)

def trustedBundle (outgoing : Outgoing) (delivery : Delivery) : ServiceFlow Unit := do
  let address := delivery.recipientAddress
  match ← ask (.cachedBundle address.userId address.deviceId) with
  | some bundle => bundleTrusted outgoing delivery (.ok bundle)
  | none =>
    match ← ask (.trustPin address.userId address.deviceId) with
    | .error error => bundleTrusted outgoing delivery (.error error)
    | .ok none => bundleTrusted outgoing delivery (.error notTrusted)
    | .ok (some pin) => start (.fetchTrustedBundle pin outgoing delivery)

def trustedBundleFetched (pin : TrustPin) (outgoing : Outgoing) (delivery : Delivery)
    (result : Result PreKeyBundle) : ServiceFlow Unit :=
  match result with
  | .error error => bundleTrusted outgoing delivery (.error error)
  | .ok bundle => do
    match ← ask (.verifySignedPreKey bundle) with
    | .error error => bundleTrusted outgoing delivery (.error error)
    | .ok () =>
      if pin.identityKey ≠ bundle.identityKey then
        bundleTrusted outgoing delivery (.error trustMismatch)
      else bundleTrusted outgoing delivery (.ok bundle)

def send (recipientUsername plaintext : String) : ServiceFlow Unit :=
  withSession (start (.resolveUsername recipientUsername (.send plaintext)))

def sendToAddress (recipientAddress : UserAddress) (plaintext : String) : ServiceFlow Unit :=
  withCurrentDevice fun device => trustedBundle .sendMessage ⟨recipientAddress, device, plaintext⟩

def forward (messageId recipientUsername : String) : ServiceFlow Unit :=
  withSession (start (.resolveUsername recipientUsername (.forward messageId)))

/-- How `forwardToAddress` and `download` begin; `missing` is each one's own error. -/
def withPlaintext (missing : ClientError) (messageId : String)
    (next : DeviceKeyMaterial → String → ServiceFlow Unit) : ServiceFlow Unit := do
  match ← ask (.findMessage messageId) with
  | .ok (some message) =>
    withCurrentDevice fun device => do
      orCryptoOperationFailed (← ask (.decryptForCurrentUser device message)) (next device)
  | _ => emit (.commandFailed missing)

def forwardToAddress (messageId : String) (recipientAddress : UserAddress) : ServiceFlow Unit :=
  withPlaintext
    (MessageService.notFound "Message must be cached before forwarding. Use /read first.") messageId
    fun device plaintext =>
      trustedBundle (.forwardMessage messageId) ⟨recipientAddress, device, plaintext⟩

def delivered (outgoing : Outgoing) (localSenderCopy : String) (result : Result LocalMessage) :
    ServiceFlow Unit :=
  orCommandFailed result fun message => do
    let savedMessage := { message with localSenderCopyWirePayloadJson := localSenderCopy }
    orCommandFailed (← ask (.saveMessage savedMessage)) fun _ =>
      match outgoing with
      | .sendMessage => emit (.messageSent savedMessage)
      | .forwardMessage _ => emit (.messageForwarded savedMessage)

/-! ## Message lists -/

/-- The first save that fails ends the loop. -/
def saveMessages : MessageList → ServiceFlow Unit
  | [] => pure ()
  | message :: rest => do
    orCommandFailed (← ask (.saveMessage message)) fun _ => saveMessages rest

/-- The reconciliation follows even where a save has failed. -/
def saveAndReconcileMessages (messages : MessageList) (direction : MessageDirection) :
    ServiceFlow Unit := do
  saveMessages messages
  orCommandFailed (← ask (.reconcileVisibleMessages direction (messages.map LocalMessage.id)))
    fun _ => pure ()

def listReceived : ServiceFlow Unit := withSession (start (.listReceived .list))

def listSent : ServiceFlow Unit := withSession (start (.listSent .list))

def listConversations : ServiceFlow Unit := withSession (start (.listReceived .conversations))

def listUnreadSenders : ServiceFlow Unit := withSession (start (.listReceived .unread))

def readConversation (username : String) (page : Int) : ServiceFlow Unit :=
  withSession (start (.resolveUsername username (.read username page)))

/-- The entries of a page emit nothing; `conversationLog` stands for the loop over them. -/
def openConversationFromCache (address : UserAddress) (username : String) (page : Int) :
    ServiceFlow Unit := do
  orCommandFailed (← ask (.messagesWithPeer address.userId)) fun messages =>
    if messages.isEmpty then
      emit (.commandFailed
        (MessageService.notFound ("No cached conversation with " ++ username ++ ".")))
    else
      withCurrentDevice fun device => do
        let log ← ask (.conversationLog device messages page)
        orCommandFailed (← ask (.markConversationRead address.userId)) fun _ =>
          emit (.conversationLogOpened username address.userId log)

/-- What the callbacks of `listReceived` do once the messages are saved. -/
def receivedNext (purpose : ListingPurpose) (messages : MessageList) : ServiceFlow Unit :=
  match purpose with
  | .list => emit (.messageListUpdated messages)
  | .unread => do
    orCommandFailed (← ask .unreadConversationsFor) fun unread => emit (.unreadInboxUpdated unread)
  | .conversations => start (.listSent .conversations)
  | .read address username page => start (.listSent (.read address username page))

/-- Senders of unread messages are listed without the sent messages. -/
def sentNext (purpose : ListingPurpose) (messages : MessageList) : ServiceFlow Unit :=
  match purpose with
  | .list | .unread => emit (.messageListUpdated messages)
  | .conversations => do
    orCommandFailed (← ask .conversationsFor) fun conversations =>
      emit (.conversationListUpdated conversations)
  | .read address username page => openConversationFromCache address username page

def received (purpose : ListingPurpose) (result : Result MessageList) : ServiceFlow Unit :=
  orCommandFailed result fun messages => do
    saveAndReconcileMessages messages .received
    receivedNext purpose messages

def sentListed (purpose : ListingPurpose) (result : Result MessageList) : ServiceFlow Unit :=
  orCommandFailed result fun messages => do
    saveAndReconcileMessages messages .sent
    sentNext purpose messages

def addressResolved (purpose : AddressPurpose) (result : Result UserAddress) : ServiceFlow Unit :=
  savingKnownUser result fun address =>
    match purpose with
    | .trust => start (.fetchTrustBundle address)
    | .send plaintext => sendToAddress address plaintext
    | .read username page => start (.listReceived (.read address username page))
    | .forward messageId => forwardToAddress messageId address

/-! ## Single messages -/

def revoke (messageId : String) : ServiceFlow Unit := start (.revokeMessage messageId)

def messageRevoked (messageId : String) (result : Result LocalMessage) : ServiceFlow Unit :=
  orCommandFailed result fun message => do
    orCommandFailed (← ask (.saveMessage message)) fun _ => emit (.messageRevoked messageId)

def deleteMessage (messageId : String) : ServiceFlow Unit := start (.deleteMessage messageId)

def messageDeleted (messageId : String) (result : Result Unit) : ServiceFlow Unit :=
  orCommandFailed result fun _ => do
    orCommandFailed (← ask (.markMessageDeletedFor messageId)) fun _ =>
      emit (.messageDeleted messageId)

def download (messageId : String) : ServiceFlow Unit :=
  withPlaintext
    (MessageService.notFound "Message must be cached before download. Use /read first.") messageId
    fun _ _ => do
      let path := MessageService.downloadName messageId
      let opened : Bool ← ask (.openFile path)
      if opened then emit (.messageDownloaded messageId path)
      else emit (.commandFailed ⟨.storageError, "Could not write " ++ path ++ "."⟩)

def verify (messageId : String) : ServiceFlow Unit := start (.fetchMessageAnchor messageId)

def verifyPublicAnchor (messageId : String) (anchor : BlockchainAnchor) : ServiceFlow Unit :=
  start (.verifyAnchor messageId anchor)

/-- `judgeAnchor` and its siblings name where the callback ends. -/
def concluded (messageId : String) (verdict : MessageService.Verdict) : ServiceFlow Unit :=
  match verdict with
  | .reported status => emit (.fidelityStatusUpdated messageId status)
  | .failed error => emit (.commandFailed error)
  | .asks anchor => verifyPublicAnchor messageId anchor

def anchorFetched (messageId : String) (result : Result BlockchainAnchor) : ServiceFlow Unit :=
  match result with
  | .error error =>
    if error.code = .notFound then concluded messageId (.reported .anchorUnavailable)
    else do
      match ← ask (.findMessage messageId) with
      | .ok (some cached) =>
        if !cached.cachedAnchor.digest.isEmpty then concluded messageId (.asks cached.cachedAnchor)
        else concluded messageId (.failed error)
      | _ => concluded messageId (.failed error)
  | .ok anchor => do
    -- The outcome of saving the anchor is not looked at.
    match ← ask (.findMessage messageId) with
    | .ok (some cached) =>
      let _ ← ask (.saveMessage { cached with cachedAnchor := anchor })
      concluded messageId (MessageService.judgeAnchor anchor)
    | _ => concluded messageId (MessageService.judgeAnchor anchor)

def anchorVerified (messageId : String) (result : Result BlockchainVerification) :
    ServiceFlow Unit :=
  orCommandFailed result fun verification =>
    if !verification.valid then emit (.fidelityStatusUpdated messageId .anchorMismatch)
    else if MessageService.toLower verification.status ≠ "confirmed" then
      emit (.fidelityStatusUpdated messageId
        (.anchorPending verification.status verification.chain))
    else if !verification.transactionHash.isEmpty then
      emit (.fidelityStatusUpdated messageId (.anchorVerifiedWithTransaction verification.chain
        verification.status verification.transactionHash))
    else
      emit (.fidelityStatusUpdated messageId
        (.anchorVerified verification.chain verification.status))

/-! ## Sessions -/

def registerUser (username email password : String) : ServiceFlow Unit :=
  start (.registerUser username email password)

def userRegistered (result : Result UserProfile) : ServiceFlow Unit :=
  orCommandFailed result fun user => emit (.statusMessage (.registeredUser user.username))

def login (usernameOrEmail password : String) : ServiceFlow Unit :=
  start (.login usernameOrEmail password)

/-- `ClientController` is connected to `sessionStarted` before the router. -/
def sessionStarted (user : UserProfile) : ServiceFlow Unit := do
  ensureDeviceKeysUploaded
  emit (.sessionStarted user)

def loggedIn (result : Result AuthSession) : ServiceFlow Unit :=
  orCommandFailed result fun session => do
    let reloaded : ServiceFlow Unit := do
      orCommandFailed (← ask .reload) fun _ => do
        orCommandFailed (← ask (.saveSession session)) fun _ => sessionStarted session.user
    if configuration.accountScopedState then
      orCommandFailed (← ask (.useAccountScopedPath session.user.id)) fun _ => reloaded
    else reloaded

def logout : ServiceFlow Unit := start .logout

def loggedOut (result : Result Unit) : ServiceFlow Unit :=
  orCommandFailed result fun _ => do
    orCommandFailed (← ask .clearSession) fun _ => emit .sessionEnded

/-- `updateTokens`, which the HTTP client calls between a request and its reply. -/
def updateTokens (tokens : TokenSet) : ServiceFlow Unit := do
  match ← ask .currentSession with
  | none => pure ()
  | some session =>
    orCommandFailed (← ask (.saveSession { session with tokens := tokens })) fun _ => pure ()

/-- The callback of a gateway call. -/
def replied : (call : GatewayCall) → call.Reply → ServiceFlow Unit
  | .registerUser _ _ _, result => userRegistered result
  | .login _ _, result => loggedIn configuration result
  | .logout, result => loggedOut result
  | .upsertDeviceKeys _, result => deviceKeysUpserted configuration result
  | .uploadOneTimePreKeys _, result => oneTimePreKeysUploaded text result
  | .resolveUsername _ purpose, result => addressResolved purpose result
  | .fetchTrustBundle address, result => trustBundleFetched address result
  | .fetchTrustedBundle pin outgoing delivery, result =>
    trustedBundleFetched pin outgoing delivery result
  | .listReceived purpose, result => received purpose result
  | .listSent purpose, result => sentListed purpose result
  | .deliver outgoing _ _ localSenderCopy, result => delivered outgoing localSenderCopy result
  | .revokeMessage messageId, result => messageRevoked messageId result
  | .deleteMessage messageId, result => messageDeleted messageId result
  | .fetchMessageAnchor messageId, result => anchorFetched messageId result
  | .verifyAnchor messageId _, result => anchorVerified messageId result

end ServiceFlow

end EpicKfc.Source.Client
