import EpicKfc.Source.Client.HttpClient

/-!
# The HTTP client against a server that rotates refresh tokens

The server answers the exchanges in flight one by one, in any order, and the
client handles the answers in any order. A refresh token is good for one refresh,
which issues the next access token and the next refresh token.
-/

namespace EpicKfc.Source.TokenRecovery
open EpicKfc.Lib
open EpicKfc.Source.Client (value)
open EpicKfc.Source.Client.Http

/-- The access tokens the server accepts, and the refresh tokens of its active sessions. -/
structure Server where
  accessTokens : List String
  refreshTokens : List String

/-- What `create_access_token` and `create_refresh_token` make; never empty. -/
structure IssuedTokens where
  accessToken : String
  refreshToken : String
  expiresIn : Int
  accessToken_ne : accessToken ≠ ""
  refreshToken_ne : refreshToken ≠ ""

/-- `TokenResponse`. -/
def IssuedTokens.document (issued : IssuedTokens) : Json :=
  .object [("access_token", .string issued.accessToken), ("expires_in", .number issued.expiresIn),
    ("refresh_token", .string issued.refreshToken), ("token_type", .string "bearer")]

def unauthorized (detail : String) : Reply :=
  .failure ⟨.other, 401, "Host requires authentication", [("detail", .string detail)]⟩

/-- An answer of a route that has accepted the bearer token. -/
abbrev Answer := {reply : Reply // reply.isUnauthorized = false}

/-- The refresh route: the presented token is used up. -/
def refresh (server : Server) (body : Json.Members) (issued : IssuedTokens) : Reply × Server :=
  let refreshToken := (value body "refresh_token").toString
  if refreshToken ∈ server.refreshTokens then
    (.success issued.document,
      { accessTokens := issued.accessToken :: server.accessTokens
        refreshTokens := issued.refreshToken :: server.refreshTokens.erase refreshToken })
  else (unauthorized "Invalid refresh token", server)

/-- A route behind `get_current_user`. -/
def authenticated (server : Server) (bearer : String) (answer : Answer) : Reply :=
  if bearer ∈ server.accessTokens then answer.val
  else unauthorized "Invalid authentication credentials"

structure System where
  client : HttpClient
  server : Server

inductive Event where
  | send (caller : CallerId) (request : HttpRequest)
  | serve (exchange : ExchangeId) (answer : Answer) (issued : IssuedTokens)
  | deliver (exchange : ExchangeId)

def serve (system : System) (id : ExchangeId) (exchange : Exchange) (answer : Answer)
    (issued : IssuedTokens) : System :=
  let (reply, server) :=
    if isRefreshPath exchange.request.path then
      refresh system.server (exchange.request.body.getD []) issued
    else (authenticated system.server exchange.bearer answer, system.server)
  { client := { system.client with
      network := Function.update system.client.network id (some (exchange, some reply)) }
    server := server }

def deliver (system : System) (id : ExchangeId) (exchange : Exchange) (reply : Reply) : System :=
  let client := { system.client with network := Function.update system.client.network id none }
  { system with client := finished client exchange reply }

def systemStep (system : System) : Event → Option System
  | .send caller request =>
    if request.isAuthenticated then
      some { system with client := Client.Http.send system.client request (.caller caller) false }
    else none
  | .serve id answer issued =>
    match system.client.network id with
    | some (exchange, none) => some (serve system id exchange answer issued)
    | _ => none
  | .deliver id =>
    match system.client.network id with
    | some (exchange, some reply) => some (deliver system id exchange reply)
    | _ => none

/-- A first attempt in flight, unanswered or answered while its token was still good. -/
structure FirstAttempt (exchange : Exchange) (reply : Option Reply) : Prop where
  isAuthenticated : exchange.request.isAuthenticated = true
  alreadyRetried : exchange.alreadyRetried = false
  callback : ∃ caller, exchange.callback = .caller caller
  reply : ∀ answer, reply = some answer → answer.isUnauthorized = false

/-- The access token has just expired, with any number of requests in flight; the
refresh token is still good. -/
structure Expired (system : System) : Prop where
  expired : system.client.tokens.accessToken ≠ "" ∧
    system.client.tokens.accessToken ∉ system.server.accessTokens
  refreshToken : system.client.tokens.refreshToken ≠ "" ∧
    system.client.tokens.refreshToken ∈ system.server.refreshTokens
  inFlight : ∀ id exchange reply, system.client.network id = some (exchange, reply) →
    id < system.client.next ∧ FirstAttempt exchange reply
  fresh : system.client.completed = [] ∧ system.client.refused = [] ∧ system.client.retried = []

end EpicKfc.Source.TokenRecovery
