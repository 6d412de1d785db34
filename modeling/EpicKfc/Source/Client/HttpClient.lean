import EpicKfc.Source.Client.SessionService
import Mathlib.Logic.Function.Basic

/-!
# The HTTP client

`HttpClient` of `client/src/gateways/HttpGateways.cpp` on its own: the tokens it
keeps, the exchanges in flight with their callbacks, and the callbacks it has
called. `refused` and `retried` are no members of the source: they record the
callers whose first attempt was answered with 401, and the bearer token of each
second attempt.
-/

namespace EpicKfc.Source.Client.Http
open EpicKfc.Lib

abbrev CallerId := Nat

abbrev ExchangeId := Nat

/-- What `send` is called with. -/
structure HttpRequest where
  method : String
  path : String
  accessToken : String
  body : Option Json.Members

/-- The callback of a caller, or the one `refreshTokens` puts before it. -/
inductive Callback where
  | caller (id : CallerId)
  | refreshed (previousRefreshToken : String) (request : HttpRequest) (waiting : Callback)

def Callback.callerId : Callback → CallerId
  | .caller id => id
  | .refreshed _ _ waiting => waiting.callerId

/-- One request on the wire; an empty bearer sends no `Authorization` header. -/
structure Exchange where
  request : HttpRequest
  bearer : String
  alreadyRetried : Bool
  callback : Callback

inductive NetworkError where
  | sslHandshakeFailed
  | timeout
  | other
deriving DecidableEq

structure Failure where
  error : NetworkError
  statusCode : Nat
  errorString : String
  body : Json.Members

/-- A finished `QNetworkReply`. -/
inductive Reply where
  | success (document : Json)
  | malformed (errorString : String)
  | failure (failure : Failure)

structure HttpClient where
  tokens : TokenSet
  network : ExchangeId → Option (Exchange × Option Reply) := fun _ => none
  next : ExchangeId := 0
  completed : List (CallerId × Result Json) := []
  refused : List CallerId := []
  retried : List (CallerId × String) := []

/-- Answered with 401. -/
def Reply.isUnauthorized : Reply → Bool
  | .failure failed => failed.statusCode == 401
  | _ => false

/-! ## Paths -/

def normalizedPath (path : String) : String := if path.startsWith "/" then path else "/" ++ path

def authPath (suffix : String) : String := "/auth" ++ suffix

def isRefreshPath (path : String) : Bool := normalizedPath path == authPath "/refresh"

/-- The requests of the services other than login, registration, logout and refresh. -/
def HttpRequest.isAuthenticated (request : HttpRequest) : Bool :=
  !request.accessToken.isEmpty && !isRefreshPath request.path

/-! ## Errors -/

def httpRequestTimedOut : String := "Request timed out while contacting the backend."

def joinedStrings (values : List String) (separator : String) : String :=
  values.foldl (fun result value => (if result.isEmpty then result else result ++ separator) ++ value)
    ""

def validationLocation (location : List Json) : String :=
  joinedStrings (location.filterMap fun part => match part with
    | .string text => some text
    | .number _ | .fraction _ => some (toString (QJsonValue.toInt (some part) 0))
    | _ => none) "."

def validationDetailMessage (detail : QJsonValue) : String :=
  match detail with
  | some (.string text) => text
  | some (.array items) =>
    joinedStrings (items.filterMap fun item =>
      let object := QJsonValue.toObject (some item)
      let location := validationLocation (value object "loc").toArray
      let message := (value object "msg").toString
      if !location.isEmpty && !message.isEmpty then some (location ++ ": " ++ message)
      else if !message.isEmpty then some message
      else none) "; "
  | _ => ""

def errorForReply (failure : Failure) : ClientError :=
  let detail := validationDetailMessage (value failure.body "detail")
  let message := if detail.isEmpty then failure.errorString else detail
  let numbered := "HTTP " ++ toString failure.statusCode ++ ": " ++ message
  match failure.error with
  | .sslHandshakeFailed => ⟨.tlsError, message⟩
  | .timeout => ⟨.networkError, httpRequestTimedOut⟩
  | .other =>
    if failure.statusCode = 401 then ⟨.authRequired, numbered⟩
    else if failure.statusCode = 404 then ⟨.notFound, numbered⟩
    else if 0 < failure.statusCode then ⟨.httpError, numbered⟩
    else ⟨.networkError, message⟩

/-! ## Sending and retrying -/

/-- `requestFor`: the client's own token replaces the one it is called with. -/
def effectiveAccessToken (client : HttpClient) (accessToken : String) : String :=
  if !accessToken.isEmpty && !client.tokens.accessToken.isEmpty then client.tokens.accessToken
  else accessToken

def send (client : HttpClient) (request : HttpRequest) (callback : Callback)
    (alreadyRetried : Bool) : HttpClient :=
  let exchange : Exchange :=
    ⟨request, effectiveAccessToken client request.accessToken, alreadyRetried, callback⟩
  { client with
    network := Function.update client.network client.next (some (exchange, none))
    next := client.next + 1 }

/-- The refresh itself is sent as already retried, without a bearer. -/
def refreshTokens (client : HttpClient) (request : HttpRequest) (waiting : Callback) : HttpClient :=
  let previousRefreshToken := client.tokens.refreshToken
  send client ⟨"POST", authPath "/refresh", "", some [("refresh_token", .string previousRefreshToken)]⟩
    (.refreshed previousRefreshToken request waiting) true

def canRefresh (client : HttpClient) (exchange : Exchange) (statusCode : Nat) : Bool :=
  statusCode == 401 && !exchange.alreadyRetried && !client.tokens.refreshToken.isEmpty &&
    !isRefreshPath exchange.request.path

/-- A callback is called: a caller has its result; after a refresh the request is sent again. -/
def call (client : HttpClient) : Callback → Result Json → HttpClient
  | .caller id, result => { client with completed := (id, result) :: client.completed }
  | .refreshed _ _ waiting, .error error => call client waiting (.error error)
  | .refreshed previousRefreshToken request waiting, .ok document =>
    let tokens := SessionService.refreshedTokens previousRefreshToken
      (QJsonValue.toObject (some document))
    let retryToken := if request.accessToken.isEmpty then "" else tokens.accessToken
    let client := { client with
      tokens := tokens
      retried := (waiting.callerId, retryToken) :: client.retried }
    send client { request with accessToken := retryToken } waiting true

/-- The handler of `finished`. -/
def finished (client : HttpClient) (exchange : Exchange) : Reply → HttpClient
  | .success document => call client exchange.callback (.ok document)
  | .malformed errorString => call client exchange.callback (.error ⟨.httpError, errorString⟩)
  | .failure failure =>
    let client := match exchange.callback, failure.statusCode with
      | .caller id, 401 => { client with refused := id :: client.refused }
      | _, _ => client
    if canRefresh client exchange failure.statusCode then
      refreshTokens client exchange.request exchange.callback
    else call client exchange.callback (.error (errorForReply failure))

end EpicKfc.Source.Client.Http
