import EpicKfc.Source.Client.LocalMessages
import EpicKfc.Source.Client.StoreDocuments

/-!
# The local store

`client/src/storage/JsonLocalStore.cpp`. A store holds its memory, its paths and
its passphrase; files are documents by path, a text that does not parse being
null. What an operation meets outside (whether the directory and the file can be
used, random bytes, the clock) is given to it.
-/

namespace EpicKfc.Source.Client
open EpicKfc.Lib
open EpicKfc.Source.Client.StoreDocuments

/-- The members that `load` fills and `save` writes. -/
structure StoreMemory where
  session : AuthSession := {}
  hasSession : Bool := false
  deviceKeys : List DeviceKeyMaterial := []
  oneTimePreKeys : List OneTimePreKey := []
  knownUsers : List KnownUser := []
  trustPins : List TrustPin := []
  messages : MessageList := []
deriving DecidableEq

structure JsonLocalStore where
  memory : StoreMemory := {}
  indexPath : String
  path : String
  secretProtectionRequired : Bool
  secretPassphrase : String := ""
  secretSalt : QByteArray := []

abbrev Files := String → Option Json

def writeFile (files : Files) (path : String) (content : Json) : Files :=
  fun other => if other = path then some content else files other

/-- What one operation finds outside the store. -/
structure StoreIo where
  directoryReady : Bool := true
  opens : Bool := true
  /-- A write that is cut short leaves a text that does not parse. -/
  writes : Bool := true
  draws : Draws := []
  now : String := ""

namespace JsonLocalStore

variable (library : StorageLibrary)

/-! ## Saving and loading -/

/-- The document of a memory before protection. -/
def document (memory : StoreMemory) : Json.Members :=
  let root := Json.insert "version" (.number 1) []
  let root :=
    if memory.hasSession then Json.insert "session" (.object (sessionToJson memory.session)) root
    else root
  let root := Json.insert "deviceKeys"
    (.array (memory.deviceKeys.map fun device => .object (deviceToJson device))) root
  let root := Json.insert "oneTimePreKeys"
    (.array (memory.oneTimePreKeys.map fun preKey => .object (preKeyToJson preKey))) root
  let root := Json.insert "knownUsers"
    (.array (memory.knownUsers.map fun user => .object (knownUserToJson user))) root
  let root := Json.insert "trustPins"
    (.array (memory.trustPins.map fun pin => .object (trustPinToJson library pin))) root
  Json.insert "messages"
    (.array (memory.messages.map fun message => .object (messageToJson library message))) root

theorem value_document_session (memory : StoreMemory) : value (document library memory) "session" =
    if memory.hasSession then some (.object (sessionToJson memory.session)) else none := by
  cases present : memory.hasSession <;> simp [document, value, Json.lookup_insert, present]

theorem value_document_deviceKeys (memory : StoreMemory) :
    value (document library memory) "deviceKeys" =
      some (.array (memory.deviceKeys.map fun device => .object (deviceToJson device))) := by
  simp [document, value, Json.lookup_insert]

theorem value_document_oneTimePreKeys (memory : StoreMemory) :
    value (document library memory) "oneTimePreKeys" =
      some (.array (memory.oneTimePreKeys.map fun preKey => .object (preKeyToJson preKey))) := by
  simp [document, value, Json.lookup_insert]

theorem value_document_knownUsers (memory : StoreMemory) :
    value (document library memory) "knownUsers" =
      some (.array (memory.knownUsers.map fun user => .object (knownUserToJson user))) := by
  simp [document, value, Json.lookup_insert]

theorem value_document_trustPins (memory : StoreMemory) :
    value (document library memory) "trustPins" =
      some (.array (memory.trustPins.map fun pin => .object (trustPinToJson library pin))) := by
  simp [document, value, Json.lookup_insert]

theorem value_document_messages (memory : StoreMemory) :
    value (document library memory) "messages" =
      some (.array (memory.messages.map fun message => .object (messageToJson library message))) := by
  simp [document, value]

theorem value_document_secretSalt (memory : StoreMemory) :
    value (document library memory) "secretSalt" = none := by
  cases present : memory.hasSession <;> simp [document, value, Json.lookup_insert, present]

/-- The document `save` writes, or why it cannot be protected. -/
def protectedDocument (store : JsonLocalStore) (draws : Draws) : Result Json.Members :=
  if store.secretProtectionRequired then
    protectSecrets library store.secretPassphrase store.secretSalt (document library store.memory) draws
  else .ok (document library store.memory)

/-- A file opened for writing is truncated and takes the text as far as it fits. -/
def writeDocument (path : String) (root : Json.Members) (io : StoreIo) (files : Files) :
    Result Unit × Files :=
  if io.opens then (.ok (), writeFile files path (if io.writes then .object root else .null))
  else (.error (storageError ("Could not write " ++ path ++ ".")), files)

def directoryError (path : String) : ClientError :=
  storageError ("Could not create " ++ path ++ ".")

def save (store : JsonLocalStore) (io : StoreIo) (files : Files) : Result Unit × Files :=
  if io.directoryReady then
    match protectedDocument library store io.draws with
    | .error error => (.error error, files)
    | .ok root => writeDocument store.path root io files
  else (.error (directoryError store.path), files)

/-- The memory of an unprotected document. -/
def memoryOf (root : Json.Members) : StoreMemory :=
  let session := sessionFromJson (value root "session").toObject
  let hasSession := (value root "session").isSome && !session.tokens.accessToken.isEmpty
  { session := if (value root "session").isSome then session else {}
    hasSession := hasSession
    deviceKeys := (value root "deviceKeys").toArray.map fun item =>
      deviceFromJson (QJsonValue.toObject (some item))
    oneTimePreKeys := (value root "oneTimePreKeys").toArray.map fun item =>
      preKeyFromJson (QJsonValue.toObject (some item))
    knownUsers := (value root "knownUsers").toArray.map fun item =>
      knownUserFromJson (QJsonValue.toObject (some item))
    trustPins := (value root "trustPins").toArray.map fun item =>
      trustPinFromJson library (QJsonValue.toObject (some item))
    messages := (value root "messages").toArray.map fun item =>
      messageFromJson library (QJsonValue.toObject (some item)) }

/-- The salt `load` adopts from a document that has one. -/
def documentSalt (root : Json.Members) : QByteArray :=
  library.fromBase64 (value root "secretSalt").toString

/-- `load`. The memory is cleared first, and stays so on every early exit. -/
def load (store : JsonLocalStore) (io : StoreIo) (files : Files) : Result Unit × JsonLocalStore :=
  let cleared := { store with memory := {} }
  match files store.path with
  | none => (.ok (), cleared)
  | some content =>
    if io.opens then
      let root := QJsonValue.toObject (some content)
      if (value root "secretSalt").isSome then
        let salted := { cleared with secretSalt := documentSalt library root }
        if store.secretPassphrase.isEmpty then (.ok (), salted)
        else
          match unprotectSecrets library store.secretPassphrase (documentSalt library root) root with
          | .error error => (.error error, salted)
          | .ok plain => (.ok (), { salted with memory := memoryOf library plain })
      else (.ok (), { cleared with memory := memoryOf library root })
    else (.error (storageError ("Could not read " ++ store.path ++ ".")), cleared)

/-! ## Account paths -/

def defaultStateFile : String := "client-state.json"

def safeStateName (name : String) : String :=
  if name.isEmpty then "account"
  else String.ofList (name.toList.map fun character =>
    if library.isLetterOrNumber character || character == '-' || character == '_' then character
    else '_')

def accountScopedPath (indexPath accountId : String) : String :=
  library.siblingPath indexPath (safeStateName library accountId ++ "-" ++ defaultStateFile)

def rememberLastAccountId (store : JsonLocalStore) (accountId : String) (io : StoreIo)
    (files : Files) : Result Unit × Files :=
  if io.directoryReady then
    writeDocument store.indexPath
      (Json.ofMembers [("version", .number 1), ("lastAccountId", .string accountId)]) io files
  else (.error (directoryError store.indexPath), files)

/-- `useAccountScopedPath`: the path changes unless the account cannot be remembered. -/
def useAccountScopedPath (store : JsonLocalStore) (accountId : String) (rememberAccount : Bool)
    (io : StoreIo) (files : Files) : Result Unit × JsonLocalStore × Files :=
  let moved := { store with path := accountScopedPath library store.indexPath accountId }
  if rememberAccount then
    match rememberLastAccountId store accountId io files with
    | (.error error, files) => (.error error, store, files)
    | (.ok (), files) => (.ok (), moved, files)
  else (.ok (), moved, files)

/-! ## Operations -/

/-- The operations that change the memory and save it. -/
inductive StoreMutation where
  | saveSession (session : AuthSession)
  | clearSession
  | saveDeviceKeys (material : DeviceKeyMaterial)
  | saveOneTimePreKeys (preKeys : List OneTimePreKey)
  | saveKnownUser (address : UserAddress)
  | saveTrustPin (pin : TrustPin)
  | saveMessage (message : LocalMessage)
  | markMessageDeletedFor (currentUserId messageId : String)
  | reconcileVisibleMessages (currentUserId : String) (direction : MessageDirection)
      (visibleMessageIds : List String)
  | markConversationRead (currentUserId peerUserId : String)

def deviceKey (material : DeviceKeyMaterial) : Int := material.deviceId
def preKeyKey (preKey : OneTimePreKey) : Int × Int := (preKey.deviceId, preKey.preKeyId)
def knownUserKey (user : KnownUser) : String × Int := (user.userId, user.deviceId)
def trustPinKey (pin : TrustPin) : String × Int := (pin.userId, pin.deviceId)

def savedPreKeys (preKeys stored : List OneTimePreKey) : List OneTimePreKey :=
  preKeys.foldl (fun stored preKey => KeyedList.upsert preKeyKey preKey stored) stored

/-- The changed memory; `none` when the operation returns before it saves. -/
def StoreMutation.apply (now : String) (memory : StoreMemory) : StoreMutation → Option StoreMemory
  | .saveSession session => some { memory with session := session, hasSession := true }
  | .clearSession => some { memory with session := {}, hasSession := false }
  | .saveDeviceKeys material =>
    some { memory with deviceKeys := KeyedList.upsert deviceKey material memory.deviceKeys }
  | .saveOneTimePreKeys preKeys =>
    some { memory with oneTimePreKeys := savedPreKeys preKeys memory.oneTimePreKeys }
  | .saveKnownUser address =>
    if address.userId.isEmpty || address.username.isEmpty then none
    else
      let user : KnownUser := ⟨address.userId, address.username, address.deviceId⟩
      some { memory with knownUsers := KeyedList.upsert knownUserKey user memory.knownUsers }
  | .saveTrustPin pin =>
    some { memory with trustPins := KeyedList.upsert trustPinKey pin memory.trustPins }
  | .saveMessage message =>
    some { memory with messages := LocalMessages.saveMessage message memory.messages }
  | .markMessageDeletedFor currentUserId messageId =>
    (LocalMessages.markMessageDeletedFor currentUserId messageId now memory.messages).map
      fun messages => { memory with messages := messages }
  | .reconcileVisibleMessages currentUserId direction visibleMessageIds =>
    let messages := LocalMessages.reconcileVisibleMessages currentUserId now direction
      visibleMessageIds memory.messages
    some { memory with messages := messages }
  | .markConversationRead currentUserId peerUserId =>
    let messages :=
      LocalMessages.markConversationRead currentUserId peerUserId now memory.messages
    some { memory with messages := messages }

def loadDeviceKeys (deviceId : Int) (memory : StoreMemory) : Option DeviceKeyMaterial :=
  KeyedList.find deviceKey deviceId memory.deviceKeys

def loadOneTimePreKeys (deviceId : Int) (memory : StoreMemory) : List OneTimePreKey :=
  memory.oneTimePreKeys.filter fun preKey => preKey.deviceId = deviceId

def knownUser (userId : String) (deviceId : Int) (memory : StoreMemory) : Option KnownUser :=
  KeyedList.find knownUserKey (userId, deviceId) memory.knownUsers

def trustPin (userId : String) (deviceId : Int) (memory : StoreMemory) : Option TrustPin :=
  KeyedList.find trustPinKey (userId, deviceId) memory.trustPins

def loadSession (memory : StoreMemory) : Option AuthSession :=
  if memory.hasSession then some memory.session else none

/-- A mutation keeps its change in memory even when the save fails. -/
def mutate (store : JsonLocalStore) (mutation : StoreMutation) (io : StoreIo) (files : Files) :
    Result Unit × JsonLocalStore × Files :=
  match mutation.apply io.now store.memory with
  | none => (.ok (), store, files)
  | some memory =>
    let changed := { store with memory := memory }
    let (result, files) := save library changed io files
    (result, changed, files)

/-- Everything the rest of the client does to its store. -/
inductive StoreOperation where
  | setSecretProtectionRequired (required : Bool)
  | setSecretPassphrase (passphrase : String)
  | clearSecretPassphrase
  | useAccountScopedPath (accountId : String) (rememberAccount : Bool)
  | reload
  | mutate (mutation : StoreMutation)

def perform (operation : StoreOperation) (io : StoreIo) (store : JsonLocalStore) (files : Files) :
    Result Unit × JsonLocalStore × Files :=
  match operation with
  | .setSecretProtectionRequired required =>
    (.ok (), { store with secretProtectionRequired := required }, files)
  | .setSecretPassphrase passphrase => (.ok (), { store with secretPassphrase := passphrase }, files)
  | .clearSecretPassphrase => (.ok (), { store with secretPassphrase := "" }, files)
  | .useAccountScopedPath accountId rememberAccount =>
    useAccountScopedPath library store accountId rememberAccount io files
  | .reload =>
    let (result, loaded) := load library store io files
    (result, loaded, files)
  | .mutate mutation => mutate library store mutation io files

end JsonLocalStore

end EpicKfc.Source.Client
