import EpicKfc.Source.Client.ClientState

/-!
# Sessions

`SessionService` together with the parts of `HttpAuthGateway` and `HttpClient`
that its callbacks run through. A login sets the HTTP client's tokens as soon as
they arrive and asks for the user with them; the session, the path and the
passphrase follow only when the user has arrived and the account's store is
loaded.
-/

namespace EpicKfc.Source.Client
open EpicKfc.Lib
open EpicKfc.Source.Client.StoreDocuments

/-- `tokensFromJson`, the same in `HttpClient` and `HttpAuthGateway`. -/
def tokensFromJson (object : Json.Members) : TokenSet where
  accessToken := (value object "access_token").toString
  refreshToken := (value object "refresh_token").toString
  tokenType := (value object "token_type").toString
  expiresIn := (value object "expires_in").toInt 0

namespace SessionService

variable (setup : ClientSetup)

def login (client : ClientState) (password : String) : ClientState :=
  client.send "" false (.loginTokens password)

/-- `HttpAuthGateway::login`, once the tokens are there. -/
def tokensArrived (client : ClientState) (password : String) (tokens : TokenSet) : ClientState :=
  { client with tokens := tokens }.send tokens.accessToken false (.loginUser tokens password)

/-- The store's part of a login: the account's passphrase, path and content. -/
def loginStore (store : JsonLocalStore) (files : Files) (userId password : String) (io : ClientIo) :
    Result Unit × JsonLocalStore × Files :=
  let store := { store with secretPassphrase := password }
  let (pathResult, store, files) :=
    if setup.accountScopedState then
      JsonLocalStore.useAccountScopedPath setup.library store userId true (io.store 0) files
    else (.ok (), store, files)
  match pathResult with
  | .error error => (.error error, store, files)
  | .ok () =>
    let (loaded, store) := JsonLocalStore.load setup.library store (io.store 1) files
    (loaded, store, files)

/-- The callback of `login`. The session is set before it is known to be saved. -/
def userArrived (client : ClientState) (session : AuthSession) (password : String) (io : ClientIo) :
    ClientState :=
  match loginStore setup client.store client.files session.user.id password io with
  | (.error _, store, files) => { client with store := store, files := files }
  | (.ok (), store, files) =>
    let client := { client with
      store := store
      files := files
      loadedFrom := some store.path
      session := some session }
    (client.mutate setup (.saveSession session) (io.store 2)).2

def logout (client : ClientState) : ClientState := client.send "" false .logout

/-- The callbacks of `HttpAuthGateway::logout` and `logout`. -/
def loggedOut (client : ClientState) (io : ClientIo) : ClientState :=
  match { client with tokens := {}, session := none }.mutate setup .clearSession (io.store 0) with
  | (.error _, client) => client
  | (.ok (), client) => { client with store := { client.store with secretPassphrase := "" } }

def updateTokens (client : ClientState) (tokens : TokenSet) (io : ClientIo) : ClientState :=
  match client.session with
  | none => client
  | some session =>
    let session := { session with tokens := tokens }
    ({ client with session := some session }.mutate setup (.saveSession session) (io.store 0)).2

/-- The tokens a refresh installs: a reply without a refresh token keeps the previous one. -/
def refreshedTokens (previousRefreshToken : String) (object : Json.Members) : TokenSet :=
  let tokens := tokensFromJson object
  if tokens.refreshToken.isEmpty then { tokens with refreshToken := previousRefreshToken }
  else tokens

/-- `HttpClient::refreshTokens` once its reply is there: the waiting request is sent again. -/
def tokensRefreshed (client : ClientState) (previousRefreshToken : String) (retried : Request)
    (object : Json.Members) (io : ClientIo) : ClientState :=
  let tokens := refreshedTokens previousRefreshToken object
  let client := updateTokens setup { client with tokens := tokens } tokens io
  client.send (if retried.accessToken.isEmpty then "" else client.tokens.accessToken) true
    retried.continuation

end SessionService

end EpicKfc.Source.Client
