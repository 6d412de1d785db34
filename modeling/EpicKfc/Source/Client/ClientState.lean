import EpicKfc.Source.Client.JsonLocalStore

/-!
# The client between two events

`main.cpp` builds one HTTP client, one session service, one key service and one
message service over one store. `ClientState` holds what they keep between two events
of the Qt loop: the HTTP client's tokens, the session, the store and its files,
the bundle cached by the key service, and the requests in flight, each with the
callback that waits for its reply. `encryptions` and `loadedFrom` are no members
of the source: they record the encryptions made for recipients and the path of
the last load. What the services print is left out.
-/

namespace EpicKfc.Source.Client
open EpicKfc.Lib
open EpicKfc.Source.Client.StoreDocuments

/-- `ICryptoProvider`, as far as the services call it; encryption draws random bytes. -/
structure CryptoProvider where
  verifySignedPreKey : PreKeyBundle → Result Unit
  encrypt : String → DeviceKeyMaterial → PreKeyBundle → String → Draws → Result EncryptedPayload
  decrypt : String → DeviceKeyMaterial → LocalMessage → Option OneTimePreKey → Result String

/-- What `main` fixes for the whole run, and Qt's text functions. -/
structure ClientSetup where
  library : StorageLibrary
  crypto : CryptoProvider
  trimmed : String → String
  isUuid : String → Bool
  deviceId : Int
  accountScopedState : Bool

/-- A message on its way to `encrypt`: what `sendToAddress` and `forwardToAddress` capture. -/
structure Delivery where
  recipientAddress : UserAddress
  device : DeviceKeyMaterial
  plaintext : String
deriving DecidableEq

/-- The callback waiting for a reply, with what it captured. -/
inductive Continuation where
  | loginTokens (password : String)
  | loginUser (tokens : TokenSet) (password : String)
  | logout
  | trustAddress
  | trustBundle (address : UserAddress)
  | sendAddress (plaintext : String)
  | forwardAddress (messageId : String)
  | trustedBundle (pin : TrustPin) (delivery : Delivery)
  | other
deriving DecidableEq

/-- One request as `HttpClient::send` issues it; `authorization` is the bearer token it carries. -/
structure Request where
  authorization : String
  accessToken : String
  alreadyRetried : Bool
  continuation : Continuation
deriving DecidableEq

/-- A request in flight, or the token refresh that a request waits for. -/
inductive Exchange where
  | request (request : Request)
  | refresh (previousRefreshToken : String) (retried : Request)
deriving DecidableEq

def Exchange.continuation : Exchange → Continuation
  | .request sent => sent.continuation
  | .refresh _ retried => retried.continuation

/-- A call of `encrypt` for a recipient, with the pin the store held at that time. -/
structure Encryption where
  recipientAddress : UserAddress
  bundle : PreKeyBundle
  pinned : Option TrustPin
deriving DecidableEq

structure ClientState where
  tokens : TokenSet := {}
  session : Option AuthSession := none
  store : JsonLocalStore
  files : Files
  lastTrustedBundle : Option PreKeyBundle := none
  inFlight : List Exchange := []
  encryptions : List Encryption := []
  loadedFrom : Option String := none

/-- What the callbacks of one event meet outside the client. -/
structure ClientIo where
  store : Nat → StoreIo := fun _ => {}
  now : QDateTime := none
  draws : Draws := []

namespace ClientState

/-- `requestFor`: the HTTP client's own token replaces the one a service passed. -/
def effectiveAccessToken (client : ClientState) (accessToken : String) : String :=
  if !accessToken.isEmpty && !client.tokens.accessToken.isEmpty then client.tokens.accessToken
  else accessToken

def awaits (client : ClientState) (exchange : Exchange) : ClientState :=
  { client with inFlight := client.inFlight ++ [exchange] }

/-- The state in which the reply of an exchange is handled. -/
def answered (client : ClientState) (index : Nat) : ClientState :=
  { client with inFlight := client.inFlight.eraseIdx index }

/-- `HttpClient::send`. -/
def send (client : ClientState) (accessToken : String) (alreadyRetried : Bool)
    (continuation : Continuation) : ClientState :=
  client.awaits (.request
    ⟨client.effectiveAccessToken accessToken, accessToken, alreadyRetried, continuation⟩)

/-- A store operation that changes the memory and saves it. -/
def mutate (setup : ClientSetup) (client : ClientState) (mutation : JsonLocalStore.StoreMutation)
    (io : StoreIo) : Result Unit × ClientState :=
  let (result, store, files) :=
    JsonLocalStore.mutate setup.library client.store mutation io client.files
  (result, { client with store := store, files := files })

/-- `SessionService::accessToken`. -/
def accessToken (client : ClientState) : String :=
  (client.session.map (·.tokens.accessToken)).getD ""

/-- `SessionService::currentUserId`. -/
def currentUserId (client : ClientState) : String := (client.session.map (·.user.id)).getD ""

/-- `KeyService::currentDevice`. -/
def currentDevice (setup : ClientSetup) (client : ClientState) : Option DeviceKeyMaterial :=
  JsonLocalStore.loadDeviceKeys setup.deviceId client.store.memory

def trustPin (client : ClientState) (userId : String) (deviceId : Int) : Option TrustPin :=
  JsonLocalStore.trustPin userId deviceId client.store.memory

end ClientState

end EpicKfc.Source.Client
