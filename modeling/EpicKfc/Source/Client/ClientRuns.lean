import EpicKfc.Source.Client.MessageService
import EpicKfc.Source.Client.SessionService

/-!
# Runs of the client

The Qt loop runs one callback after another: a command, the reply of a request in
flight, or work of the other services. Replies arrive in any order. Work of the
other services (key upload, message lists, delivery of an encrypted message)
changes neither the session nor the pins; its store operations and requests are
events of their own.
-/

namespace EpicKfc.Source.Client
open EpicKfc.Lib

/-- What `HttpClient::send` makes of a network reply: a document, or a status and an error. -/
inductive Response where
  | success (object : Json.Members)
  | failure (statusCode : Nat) (error : ClientError)

/-- Store operations of the services that are not modelled callback by callback. -/
def JsonLocalStore.StoreMutation.isOther : JsonLocalStore.StoreMutation → Bool
  | .saveSession _ | .clearSession | .saveTrustPin _ => false
  | _ => true

inductive ClientEvent where
  | login (password : String)
  | logout
  | trust (username : String)
  | send (recipientUsername plaintext : String)
  | forward (messageId recipientUsername : String)
  | otherRequest (authorized : Bool)
  | otherWork (mutation : JsonLocalStore.StoreMutation)
  | reply (index : Nat) (response : Response)

variable (setup : ClientSetup)

/-- The callback of a request whose reply is a document. -/
def callback (client : ClientState) (continuation : Continuation) (object : Json.Members)
    (io : ClientIo) : ClientState :=
  match continuation with
  | .loginTokens password => SessionService.tokensArrived client password (tokensFromJson object)
  | .loginUser tokens password =>
    SessionService.userArrived setup client ⟨StoreDocuments.userFromJson object, tokens⟩ password io
  | .logout => SessionService.loggedOut setup client io
  | .trustAddress => KeyService.addressArrived setup client object (KeyService.trustAddress setup io)
  | .trustBundle address =>
    KeyService.trustBundle setup client address (bundleFromJson address.userId object) io
  | .sendAddress plaintext =>
    KeyService.addressArrived setup client object (MessageService.sendAddress setup plaintext io)
  | .forwardAddress messageId =>
    KeyService.addressArrived setup client object (MessageService.forwardAddress setup messageId io)
  | .trustedBundle pin delivery =>
    MessageService.bundleArrived setup client pin delivery
      (bundleFromJson delivery.recipientAddress.userId object) io
  | .other => client

/-- `canRefresh`; a refresh is itself sent as already retried. -/
def canRefresh (client : ClientState) (request : Request) (statusCode : Nat) : Bool :=
  statusCode == 401 && !request.alreadyRetried && !client.tokens.refreshToken.isEmpty

/-- The handler of a finished exchange. Every callback only reports an error it is given. -/
def finished (client : ClientState) (io : ClientIo) : Exchange → Response → ClientState
  | .request request, .success object => callback setup client request.continuation object io
  | .request request, .failure statusCode _ =>
    if canRefresh client request statusCode then
      client.awaits (.refresh client.tokens.refreshToken request)
    else client
  | .refresh previousRefreshToken retried, .success object =>
    SessionService.tokensRefreshed setup client previousRefreshToken retried object io
  | .refresh _ _, .failure _ _ => client

def clientStep (client : ClientState) (event : ClientEvent × ClientIo) : Option ClientState :=
  let (event, io) := event
  match event with
  | .login password => some (SessionService.login client password)
  | .logout => some (SessionService.logout client)
  | .trust username => some (KeyService.trustUsername setup client username io)
  | .send recipientUsername plaintext =>
    some (MessageService.send setup client recipientUsername plaintext io)
  | .forward messageId recipientUsername =>
    some (MessageService.forward setup client messageId recipientUsername io)
  | .otherRequest authorized =>
    some (client.send (if authorized then client.accessToken else "") false .other)
  | .otherWork mutation =>
    if mutation.isOther then some (client.mutate setup mutation (io.store 0)).2 else none
  | .reply index response =>
    client.inFlight[index]?.map fun exchange =>
      finished setup (client.answered index) io exchange response

/-! ## A small client -/

/-- What `QUuid` reads as an id that is not null: hexadecimal groups, not all of them zero. -/
def isUuidText (text : String) : Bool :=
  let isHyphen (index : Nat) := index == 8 || index == 13 || index == 18 || index == 23
  text.toList.length == 36 &&
    (text.toList.zipIdx.all fun (char, index) =>
      if isHyphen index then char == '-' else char.isHexDigit) &&
    text.toList.any fun char => char != '0' && char != '-'

def aliceId : String := "a11ce000-0000-4000-8000-000000000001"

def bobId : String := "b0b00000-0000-4000-8000-000000000002"

def carolId : String := "ca401000-0000-4000-8000-000000000003"

/-- A provider that seals nothing, for runs that only follow the client's state. -/
def sampleCrypto : CryptoProvider where
  verifySignedPreKey := fun _ => .ok ()
  encrypt := fun _ _ _ plaintext _ => .ok ⟨plaintext, none⟩
  decrypt := fun _ _ message _ => .ok message.wirePayloadJson

def sampleSetup : ClientSetup where
  library := StoreDocuments.refusingLibrary
  crypto := sampleCrypto
  trimmed := id
  isUuid := isUuidText
  deviceId := 1
  accountScopedState := true

def sampleStart : ClientState where
  store := { indexPath := "index", path := "index", secretProtectionRequired := true }
  files := fun _ => none

/-- Enough random bytes for one salt and the secrets of a small store. -/
def sampleIo : ClientIo where
  store := fun _ => { draws := List.replicate 16 0 :: List.replicate 12 (List.replicate 12 0) }

def tokensDocument (accessToken refreshToken : String) : Json.Members :=
  [("access_token", .string accessToken), ("refresh_token", .string refreshToken)]

def userDocument (id : String) : Json.Members := [("id", .string id)]

def sampleTokens : List (ClientEvent × ClientIo) :=
  [(.login "password", sampleIo), (.reply 0 (.success (tokensDocument "access" "refresh")), sampleIo)]

def sampleLogin (userId : String) : List (ClientEvent × ClientIo) :=
  sampleTokens ++ [(.reply 0 (.success (userDocument userId)), sampleIo)]

end EpicKfc.Source.Client
