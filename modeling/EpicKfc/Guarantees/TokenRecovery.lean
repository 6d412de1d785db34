import EpicKfc.Lib.Runs
import EpicKfc.Source.TokenRecovery

/-!
# Recovery from an expired access token

A request answered with 401 waits for a refresh and is sent again with the token
the refresh brought. This works while one refresh is under way at a time: a second
401 handled before the first refresh has come back presents the same refresh
token again, and the server has a single use for it.
-/

namespace EpicKfc.Guarantees.TokenRecovery
open EpicKfc.Lib
open EpicKfc.Source.Client (value TokenSet QJsonValue)
open EpicKfc.Source.Client.Http
open EpicKfc.Source.TokenRecovery

def RefreshInFlight (system : System) (id : ExchangeId) : Prop :=
  ∃ exchange reply, system.client.network id = some (exchange, reply) ∧
    isRefreshPath exchange.request.path = true

/-- No caller gets an authentication error, every second attempt carries a valid
token, and a caller that was refused waits for a refresh or was tried again. -/
structure Recovered (system : System) : Prop where
  completed : ∀ caller error, (caller, .error error) ∈ system.client.completed →
    error.code ≠ .authRequired
  valid : ∀ caller bearer, (caller, bearer) ∈ system.client.retried →
    bearer ∈ system.server.accessTokens
  retried : ∀ caller ∈ system.client.refused,
    (∃ id exchange reply, system.client.network id = some (exchange, reply) ∧
      isRefreshPath exchange.request.path = true ∧ exchange.callback.callerId = caller) ∨
    ∃ bearer, (caller, bearer) ∈ system.client.retried

/-- A 401 is handled that starts a refresh while another one is in flight. -/
def RefreshesTwice (system : System) (event : Event) : Prop :=
  ∃ id exchange failure, event = .deliver id ∧
    system.client.network id = some (exchange, some (.failure failure)) ∧
    canRefresh system.client exchange failure.statusCode = true ∧
    ∃ other, RefreshInFlight system other

/-! ## Exchanges in flight -/

/-- What an exchange in flight may rely on. -/
inductive EntryHolds (server : Server) (exchange : Exchange) : Option Reply → Prop where
  | attempt (caller : CallerId) (reply : Option Reply) :
      exchange.request.isAuthenticated = true → exchange.callback = .caller caller →
      (exchange.alreadyRetried = true → exchange.bearer ∈ server.accessTokens ∧
        ∀ answer, reply = some answer → answer.isUnauthorized = false) →
      EntryHolds server exchange reply
  | refresh (previousRefreshToken : String) (request : HttpRequest) (caller : CallerId) :
      exchange.callback = .refreshed previousRefreshToken request (.caller caller) →
      request.isAuthenticated = true → isRefreshPath exchange.request.path = true →
      exchange.request.body = some [("refresh_token", .string previousRefreshToken)] →
      previousRefreshToken ∈ server.refreshTokens → EntryHolds server exchange none
  | refreshed (previousRefreshToken : String) (request : HttpRequest) (caller : CallerId)
      (issued : IssuedTokens) :
      exchange.callback = .refreshed previousRefreshToken request (.caller caller) →
      request.isAuthenticated = true → isRefreshPath exchange.request.path = true →
      issued.accessToken ∈ server.accessTokens → issued.refreshToken ∈ server.refreshTokens →
      EntryHolds server exchange (some (.success issued.document))

structure Recovering (system : System) : Prop where
  accessToken : system.client.tokens.accessToken ≠ ""
  refreshToken : system.client.tokens.refreshToken ≠ ""
  bounded : ∀ id entry, system.client.network id = some entry → id < system.client.next
  entries : ∀ id exchange reply, system.client.network id = some (exchange, reply) →
    EntryHolds system.server exchange reply
  single : ∀ id id', RefreshInFlight system id → RefreshInFlight system id' → id = id'
  idle : (∀ id, ¬ RefreshInFlight system id) →
    system.client.tokens.refreshToken ∈ system.server.refreshTokens
  recovered : Recovered system

theorem path_of_authenticated {request : HttpRequest} (holds : request.isAuthenticated = true) :
    isRefreshPath request.path = false := by
  simp only [HttpRequest.isAuthenticated, Bool.and_eq_true, Bool.not_eq_true'] at holds
  exact holds.2

theorem accessToken_of_authenticated {request : HttpRequest}
    (holds : request.isAuthenticated = true) : request.accessToken ≠ "" := by
  simp only [HttpRequest.isAuthenticated, Bool.and_eq_true, Bool.not_eq_true'] at holds
  rintro empty
  rw [empty] at holds
  cases holds.1

theorem isEmpty_of_ne {text : String} (present : text ≠ "") : text.isEmpty = false := by
  cases empty : text.isEmpty with
  | false => rfl
  | true => exact absurd (String.isEmpty_iff.mp empty) present

theorem isRefreshPath_refresh : isRefreshPath (authPath "/refresh") = true := by
  decide +kernel

/-- An entry survives a change of the server that keeps its access tokens. -/
theorem EntryHolds.mono {server server' : Server} {exchange : Exchange} {reply : Option Reply}
    (before : EntryHolds server exchange reply)
    (access : ∀ token ∈ server.accessTokens, token ∈ server'.accessTokens)
    (refresh : isRefreshPath exchange.request.path = true →
      ∀ token ∈ server.refreshTokens, token ∈ server'.refreshTokens) :
    EntryHolds server' exchange reply := by
  cases before with
  | attempt caller reply isAuthenticated callback retried =>
    refine .attempt caller reply isAuthenticated callback fun already => ?_
    exact ⟨access _ (retried already).1, (retried already).2⟩
  | refresh previous request caller callback isAuthenticated path body active =>
    exact .refresh previous request caller callback isAuthenticated path body (refresh path _ active)
  | refreshed previous request caller issued callback isAuthenticated path valid active =>
    exact .refreshed previous request caller issued callback isAuthenticated path (access _ valid)
      (refresh path _ active)

theorem refreshedTokens_document (previousRefreshToken : String) (issued : IssuedTokens) :
    (Source.Client.SessionService.refreshedTokens previousRefreshToken
      (QJsonValue.toObject (some issued.document))).accessToken = issued.accessToken ∧
    (Source.Client.SessionService.refreshedTokens previousRefreshToken
      (QJsonValue.toObject (some issued.document))).refreshToken = issued.refreshToken := by
  have read : (Source.Client.tokensFromJson
      (QJsonValue.toObject (some issued.document))).accessToken = issued.accessToken ∧
    (Source.Client.tokensFromJson
      (QJsonValue.toObject (some issued.document))).refreshToken = issued.refreshToken := by
    simp [Source.Client.tokensFromJson, IssuedTokens.document, QJsonValue.toObject, value,
      Json.lookup_cons, QJsonValue.toString]
  have kept : (Source.Client.tokensFromJson
      (QJsonValue.toObject (some issued.document))).refreshToken.isEmpty = false := by
    rw [read.2]
    exact isEmpty_of_ne issued.refreshToken_ne
  simp only [Source.Client.SessionService.refreshedTokens, kept]
  exact read

/-- The exchange that `send` adds, beside those already in flight. -/
theorem network_send (client : HttpClient) (request : HttpRequest) (callback : Callback)
    (alreadyRetried : Bool) (id : ExchangeId) :
    (send client request callback alreadyRetried).network id =
      if id = client.next then
        some (⟨request, effectiveAccessToken client request.accessToken, alreadyRetried, callback⟩,
          none)
      else client.network id :=
  Function.update_apply ..

/-! ## Steps -/

section
variable {system : System}

theorem Recovering.not_inFlight_next (before : Recovering system) :
    system.client.network system.client.next = none := by
  cases here : system.client.network system.client.next with
  | none => rfl
  | some entry => exact absurd (before.bounded _ entry here) (Nat.lt_irrefl _)

/-- A new request joins those in flight. -/
theorem Recovering.send (before : Recovering system) (caller : CallerId) {request : HttpRequest}
    (isAuthenticated : request.isAuthenticated = true) :
    Recovering { system with
      client := Source.Client.Http.send system.client request (.caller caller) false } := by
  have network := network_send system.client request (.caller caller) false
  have path := path_of_authenticated isAuthenticated
  have same (id : ExchangeId) : RefreshInFlight { system with
      client := Source.Client.Http.send system.client request (.caller caller) false } id ↔
      RefreshInFlight system id := by
    simp only [RefreshInFlight, network]
    split
    · next here =>
      subst here
      simp [before.not_inFlight_next, path]
    · rfl
  refine ⟨before.accessToken, before.refreshToken, ?_, ?_, ?_, ?_, ?_⟩
  · intro id entry here
    rw [network] at here
    split at here
    · next new => exact new ▸ Nat.lt_succ_self _
    · exact Nat.lt_succ_of_lt (before.bounded id entry here)
  · intro id exchange reply here
    rw [network] at here
    split at here
    · cases here
      exact .attempt caller none isAuthenticated rfl nofun
    · exact before.entries id exchange reply here
  · intro id id' refreshing refreshing'
    exact before.single id id' ((same id).mp refreshing) ((same id').mp refreshing')
  · intro none'
    exact before.idle fun id refreshing => none' id ((same id).mpr refreshing)
  · refine ⟨before.recovered.completed, before.recovered.valid, fun refusedCaller member => ?_⟩
    rcases before.recovered.retried refusedCaller member with
      ⟨id, exchange, reply, here, refreshing, waiting⟩ | again
    · refine Or.inl ⟨id, exchange, reply, ?_, refreshing, waiting⟩
      have old : id ≠ system.client.next := (before.bounded id _ here).ne
      rw [network, if_neg old]
      exact here
    · exact Or.inr again

/-- The exchange with its reply, which the client has yet to handle. -/
def answered (system : System) (id : ExchangeId) (exchange : Exchange) (reply : Reply)
    (server : Server) : System where
  client := { system.client with
    network := Function.update system.client.network id (some (exchange, some reply)) }
  server := server

/-- What the server makes of an exchange in flight: it keeps its access tokens, and only
a refresh changes its refresh tokens. -/
theorem Recovering.served (before : Recovering system) {id : ExchangeId} {exchange : Exchange}
    (here : system.client.network id = some (exchange, none)) (answer : Answer)
    (issued : IssuedTokens) : ∃ reply server,
    Source.TokenRecovery.serve system id exchange answer issued =
      answered system id exchange reply server ∧
    (∀ token ∈ system.server.accessTokens, token ∈ server.accessTokens) ∧
    (isRefreshPath exchange.request.path = false → server = system.server) ∧
    EntryHolds server exchange (some reply) := by
  cases before.entries id exchange none here with
  | attempt caller _ isAuthenticated callback retried =>
    have path := path_of_authenticated isAuthenticated
    refine ⟨authenticated system.server exchange.bearer answer, system.server, ?_,
      fun _ member => member, fun _ => rfl, .attempt caller _ isAuthenticated callback fun already => ?_⟩
    · simp [Source.TokenRecovery.serve, answered, path]
    · have valid := (retried already).1
      refine ⟨valid, fun given same => ?_⟩
      cases same
      rw [authenticated, if_pos valid]
      exact answer.property
  | refresh previous request caller callback isAuthenticated path body usable =>
    refine ⟨.success issued.document, ⟨issued.accessToken :: system.server.accessTokens,
      issued.refreshToken :: system.server.refreshTokens.erase previous⟩, ?_,
      fun _ => List.mem_cons_of_mem _, fun other => ?_,
      .refreshed previous request caller issued callback isAuthenticated path
        List.mem_cons_self List.mem_cons_self⟩
    · simp [Source.TokenRecovery.serve, answered, path, body, refresh, value, Json.lookup_cons,
        QJsonValue.toString, usable]
    · rw [path] at other
      cases other

/-- The server answers one exchange; a refresh uses its token up and issues the next ones. -/
theorem Recovering.serve (before : Recovering system) {id : ExchangeId} {exchange : Exchange}
    (here : system.client.network id = some (exchange, none)) (answer : Answer)
    (issued : IssuedTokens) :
    Recovering (Source.TokenRecovery.serve system id exchange answer issued) := by
  obtain ⟨reply, server, served, access, active, holds⟩ := before.served here answer issued
  rw [served]
  have network (other : ExchangeId) : (answered system id exchange reply server).client.network other =
      if other = id then some (exchange, some reply) else system.client.network other :=
    Function.update_apply ..
  have same (other : ExchangeId) : RefreshInFlight (answered system id exchange reply server) other ↔
      RefreshInFlight system other := by
    simp only [RefreshInFlight, network]
    split
    · next now =>
      subst now
      simp [here]
    · rfl
  -- the server changes only by answering the one refresh in flight
  have unchanged (other : ExchangeId) (exchange' : Exchange) (reply' : Option Reply)
      (there : system.client.network other = some (exchange', reply')) (different : other ≠ id)
      (path : isRefreshPath exchange'.request.path = true) : server = system.server := by
    refine active ?_
    cases mine : isRefreshPath exchange.request.path with
    | false => rfl
    | true =>
      exact absurd (before.single other id ⟨exchange', reply', there, path⟩
        ⟨exchange, none, here, mine⟩) different
  refine ⟨before.accessToken, before.refreshToken, ?_, ?_, ?_, ?_, ?_⟩
  · intro other entry there
    rw [network] at there
    split at there
    · next now => exact now ▸ before.bounded id _ here
    · exact before.bounded other entry there
  · intro other exchange' reply' there
    rw [network] at there
    split at there
    · cases there
      exact holds
    · next different =>
      refine (before.entries other exchange' reply' there).mono access fun path token => ?_
      rw [unchanged other exchange' reply' there different path]
      exact fun member => member
  · intro first second refreshing refreshing'
    exact before.single first second ((same first).mp refreshing) ((same second).mp refreshing')
  · intro none'
    have noneBefore (other : ExchangeId) : ¬ RefreshInFlight system other :=
      fun refreshing => none' other ((same other).mpr refreshing)
    have path : isRefreshPath exchange.request.path = false := by
      cases mine : isRefreshPath exchange.request.path with
      | false => rfl
      | true => exact absurd ⟨exchange, none, here, mine⟩ (noneBefore id)
    rw [active path]
    exact before.idle noneBefore
  · refine ⟨before.recovered.completed,
      fun caller bearer member => access _ (before.recovered.valid caller bearer member),
      fun caller member => ?_⟩
    rcases before.recovered.retried caller member with
      ⟨other, exchange', reply', there, refreshing, waiting⟩ | again
    · by_cases now : other = id
      · subst now
        rw [here] at there
        cases there
        exact Or.inl ⟨other, exchange, some reply, Function.update_self .., refreshing, waiting⟩
      · refine Or.inl ⟨other, exchange', reply', ?_, refreshing, waiting⟩
        exact (Function.update_of_ne now _ _).trans there
    · exact Or.inr again

/-- The client that handles the reply of an exchange no longer has it in flight. -/
def removed (system : System) (id : ExchangeId) : HttpClient :=
  { system.client with network := Function.update system.client.network id none }

theorem network_removed (system : System) (id other : ExchangeId) :
    (removed system id).network other = if other = id then none else system.client.network other :=
  Function.update_apply ..

def refusing (system : System) (id : ExchangeId) (caller : CallerId) : HttpClient :=
  { removed system id with refused := caller :: system.client.refused }

/-- The client once the tokens of a refresh are there, about to send its caller's request again. -/
def renewed (system : System) (id : ExchangeId) (previousRefreshToken : String) (caller : CallerId)
    (issued : IssuedTokens) : HttpClient :=
  { removed system id with
    tokens := Source.Client.SessionService.refreshedTokens previousRefreshToken
      (QJsonValue.toObject (some issued.document))
    retried := (caller, issued.accessToken) :: system.client.retried }

/-- A caller gets a result that is no authentication error. -/
theorem Recovering.completes (before : Recovering system) {id : ExchangeId} {exchange : Exchange}
    {reply : Option Reply} (here : system.client.network id = some (exchange, reply))
    (path : isRefreshPath exchange.request.path = false) (caller : CallerId)
    (result : Source.Client.Result Json)
    (fine : ∀ error, result = .error error → error.code ≠ .authRequired) :
    Recovering { system with client := call (removed system id) (.caller caller) result } := by
  have same (other : ExchangeId) : RefreshInFlight { system with
      client := call (removed system id) (.caller caller) result } other ↔
      RefreshInFlight system other := by
    simp only [RefreshInFlight, call, network_removed]
    split
    · next now =>
      subst now
      simp [here, path]
    · rfl
  refine ⟨before.accessToken, before.refreshToken, ?_, ?_, ?_, ?_, ?_⟩
  · intro other entry there
    simp only [call, network_removed] at there
    split at there
    · cases there
    · exact before.bounded other entry there
  · intro other exchange' reply' there
    simp only [call, network_removed] at there
    split at there
    · cases there
    · exact before.entries other exchange' reply' there
  · intro first second refreshing refreshing'
    exact before.single first second ((same first).mp refreshing) ((same second).mp refreshing')
  · intro none'
    exact before.idle fun other refreshing => none' other ((same other).mpr refreshing)
  · refine ⟨?_, before.recovered.valid, fun refusedCaller member => ?_⟩
    · intro other error member
      rcases List.mem_cons.mp member with now | earlier
      · cases now
        exact fine error rfl
      · exact before.recovered.completed other error earlier
    · rcases before.recovered.retried refusedCaller member with
        ⟨other, exchange', reply', there, refreshing, waiting⟩ | again
      · refine Or.inl ⟨other, exchange', reply', ?_, refreshing, waiting⟩
        have different : other ≠ id := by
          rintro rfl
          rw [here] at there
          cases there
          rw [path] at refreshing
          cases refreshing
        simp only [call, network_removed, if_neg different]
        exact there
      · exact Or.inr again

/-- A first 401 with no refresh in flight: the caller waits for the refresh it starts. -/
theorem Recovering.refreshes (before : Recovering system) (id : ExchangeId) {exchange : Exchange}
    (isAuthenticated : exchange.request.isAuthenticated = true) (caller : CallerId)
    (alone : ∀ other, ¬ RefreshInFlight system other) :
    Recovering { system with
      client := refreshTokens (refusing system id caller) exchange.request (.caller caller) } := by
  have network (other : ExchangeId) :
      (refreshTokens (refusing system id caller) exchange.request (.caller caller)).network other =
        if other = system.client.next then some (⟨⟨"POST", authPath "/refresh", "",
            some [("refresh_token", .string system.client.tokens.refreshToken)]⟩, "", true,
            .refreshed system.client.tokens.refreshToken exchange.request (.caller caller)⟩, none)
        else if other = id then none else system.client.network other := by
    rw [refreshTokens, network_send]
    congr 1
    exact network_removed system id other
  have only (other : ExchangeId) (refreshing : RefreshInFlight { system with
      client := refreshTokens (refusing system id caller) exchange.request (.caller caller) } other) :
      other = system.client.next := by
    obtain ⟨exchange', reply', there, path⟩ := refreshing
    by_contra different
    rw [network, if_neg different] at there
    split at there
    · cases there
    · exact alone other ⟨exchange', reply', there, path⟩
  have started : RefreshInFlight { system with
      client := refreshTokens (refusing system id caller) exchange.request (.caller caller) }
      system.client.next :=
    ⟨_, none, (network _).trans (if_pos rfl), isRefreshPath_refresh⟩
  refine ⟨before.accessToken, before.refreshToken, ?_, ?_, ?_, ?_, ?_⟩
  · intro other entry there
    rw [network] at there
    split at there
    · next now => exact now ▸ Nat.lt_succ_self _
    · split at there
      · cases there
      · exact Nat.lt_succ_of_lt (before.bounded other entry there)
  · intro other exchange' reply' there
    rw [network] at there
    split at there
    · cases there
      exact .refresh system.client.tokens.refreshToken exchange.request caller rfl isAuthenticated
        isRefreshPath_refresh rfl (before.idle alone)
    · split at there
      · cases there
      · exact before.entries other exchange' reply' there
  · intro first second refreshing refreshing'
    rw [only first refreshing, only second refreshing']
  · exact fun none' => absurd started (none' _)
  · refine ⟨before.recovered.completed, before.recovered.valid, fun refusedCaller member => ?_⟩
    rcases List.mem_cons.mp member with rfl | earlier
    · exact Or.inl ⟨system.client.next, _, none, (network _).trans (if_pos rfl),
        isRefreshPath_refresh, rfl⟩
    · rcases before.recovered.retried refusedCaller earlier with
        ⟨other, exchange', reply', there, refreshing, _⟩ | again
      · exact absurd ⟨exchange', reply', there, refreshing⟩ (alone other)
      · exact Or.inr again

/-- The caller's request is sent again, with the token that the refresh brought. -/
theorem call_refreshed (system : System) (id : ExchangeId) (previousRefreshToken : String)
    {request : HttpRequest} (isAuthenticated : request.isAuthenticated = true) (caller : CallerId)
    (issued : IssuedTokens) :
    call (removed system id) (.refreshed previousRefreshToken request (.caller caller))
        (.ok issued.document) =
      Source.Client.Http.send (renewed system id previousRefreshToken caller issued)
        { request with accessToken := issued.accessToken } (.caller caller) true := by
  have access := (refreshedTokens_document previousRefreshToken issued).1
  have given : request.accessToken.isEmpty = false :=
    isEmpty_of_ne (accessToken_of_authenticated isAuthenticated)
  simp only [call, given, access, Callback.callerId, removed, renewed, Bool.false_eq_true, if_false]

/-- The refresh has come back: its caller is tried again with the token it brought. -/
theorem Recovering.retries (before : Recovering system) {id : ExchangeId} {exchange : Exchange}
    {previousRefreshToken : String} {request : HttpRequest} {caller : CallerId}
    {issued : IssuedTokens}
    (here : system.client.network id = some (exchange, some (.success issued.document)))
    (callback : exchange.callback = .refreshed previousRefreshToken request (.caller caller))
    (isAuthenticated : request.isAuthenticated = true)
    (path : isRefreshPath exchange.request.path = true)
    (valid : issued.accessToken ∈ system.server.accessTokens)
    (active : issued.refreshToken ∈ system.server.refreshTokens) :
    Recovering { system with
      client := call (removed system id) exchange.callback (.ok issued.document) } := by
  have requestPath := path_of_authenticated isAuthenticated
  obtain ⟨access, refresh⟩ := refreshedTokens_document previousRefreshToken issued
  have present : issued.accessToken.isEmpty = false := isEmpty_of_ne issued.accessToken_ne
  rw [callback, call_refreshed system id previousRefreshToken isAuthenticated]
  have bearer : effectiveAccessToken (renewed system id previousRefreshToken caller issued)
      issued.accessToken = issued.accessToken := by
    simp [effectiveAccessToken, renewed, access, present]
  have network (other : ExchangeId) :
      (Source.Client.Http.send (renewed system id previousRefreshToken caller issued)
        { request with accessToken := issued.accessToken } (.caller caller) true).network other =
      if other = system.client.next then
        some (⟨{ request with accessToken := issued.accessToken }, issued.accessToken, true,
          .caller caller⟩, none)
      else if other = id then none else system.client.network other := by
    rw [network_send, bearer]
    congr 1
    exact network_removed system id other
  -- the refresh that came back was the only one
  have others (other : ExchangeId) (exchange' : Exchange) (reply' : Option Reply)
      (there : system.client.network other = some (exchange', reply'))
      (refreshing : isRefreshPath exchange'.request.path = true) : other = id :=
    before.single other id ⟨exchange', reply', there, refreshing⟩ ⟨exchange, _, here, path⟩
  refine ⟨access ▸ issued.accessToken_ne, refresh ▸ issued.refreshToken_ne, ?_, ?_, ?_, ?_, ?_⟩
  · intro other entry there
    rw [network] at there
    split at there
    · next now => exact now ▸ Nat.lt_succ_self _
    · split at there
      · cases there
      · exact Nat.lt_succ_of_lt (before.bounded other entry there)
  · intro other exchange' reply' there
    rw [network] at there
    split at there
    · cases there
      refine .attempt caller none ?_ rfl fun _ => ⟨valid, nofun⟩
      simp [HttpRequest.isAuthenticated, present, requestPath]
    · split at there
      · cases there
      · exact before.entries other exchange' reply' there
  · intro first second refreshing _
    obtain ⟨exchange', reply', there, refreshPath⟩ := refreshing
    rw [network] at there
    split at there
    · cases there
      rw [requestPath] at refreshPath
      cases refreshPath
    · split at there
      · cases there
      · next different =>
        exact absurd (others first exchange' reply' there refreshPath) different
  · intro _
    exact refresh ▸ active
  · refine ⟨before.recovered.completed, ?_, fun refusedCaller member => ?_⟩
    · intro other token member
      rcases List.mem_cons.mp member with now | earlier
      · cases now
        exact valid
      · exact before.recovered.valid other token earlier
    · rcases before.recovered.retried refusedCaller member with
        ⟨other, exchange', reply', there, refreshing, waiting⟩ | ⟨token, again⟩
      · have now := others other exchange' reply' there refreshing
        subst now
        rw [here] at there
        cases there
        rw [callback] at waiting
        cases waiting
        exact Or.inr ⟨issued.accessToken, List.mem_cons_self⟩
      · exact Or.inr ⟨token, List.mem_cons_of_mem _ again⟩

theorem errorForReply_code {failure : Failure} (other : failure.statusCode ≠ 401) :
    (errorForReply failure).code ≠ .authRequired := by
  unfold errorForReply
  cases failure.error with
  | sslHandshakeFailed => nofun
  | timeout => nofun
  | other =>
    simp only [other, if_false]
    split
    · nofun
    · split <;> nofun

/-- The reply of a first or second attempt is handled. -/
theorem Recovering.handles (before : Recovering system) {id : ExchangeId} {exchange : Exchange}
    {reply : Reply} (here : system.client.network id = some (exchange, some reply))
    (isAuthenticated : exchange.request.isAuthenticated = true) {caller : CallerId}
    (callback : exchange.callback = .caller caller)
    (retried : exchange.alreadyRetried = true → reply.isUnauthorized = false)
    (met : ¬ RefreshesTwice system (.deliver id)) :
    Recovering (deliver system id exchange reply) := by
  have path := path_of_authenticated isAuthenticated
  have completes := before.completes here path caller
  rw [← callback] at completes
  cases reply with
  | success document => exact completes (.ok document) nofun
  | malformed errorString =>
    refine completes (.error ⟨.httpError, errorString⟩) fun error same => ?_
    cases same
    nofun
  | failure failure =>
    by_cases expired : failure.statusCode = 401
    · have first : exchange.alreadyRetried = false := by
        cases already : exchange.alreadyRetried with
        | false => rfl
        | true =>
          have accepted := retried already
          simp [Reply.isUnauthorized, expired] at accepted
      have can : canRefresh system.client exchange failure.statusCode = true := by
        simp [canRefresh, expired, first, path, isEmpty_of_ne before.refreshToken]
      have alone (other : ExchangeId) (refreshing : RefreshInFlight system other) : False :=
        met ⟨id, exchange, failure, rfl, here, can, other, refreshing⟩
      have handled : deliver system id exchange (.failure failure) = { system with
          client := refreshTokens (refusing system id caller) exchange.request (.caller caller) } := by
        have can' : canRefresh (refusing system id caller) exchange 401 = true := by
          rw [← expired]
          exact can
        simp only [deliver, finished, callback, expired]
        exact congrArg (fun client => System.mk client system.server) (if_pos can')
      rw [handled]
      exact before.refreshes id isAuthenticated caller alone
    · have handled : deliver system id exchange (.failure failure) = { system with
          client := call (removed system id) exchange.callback (.error (errorForReply failure)) } := by
        have cannot (client : HttpClient) :
            canRefresh client exchange failure.statusCode = false := by
          simp [canRefresh, expired]
        simp only [deliver, finished, cannot, Bool.false_eq_true, if_false]
        split
        · next is401 => exact absurd is401 expired
        · rfl
      rw [handled]
      refine completes _ fun error same => ?_
      cases same
      exact errorForReply_code expired

theorem Recovering.deliver (before : Recovering system) {id : ExchangeId} {exchange : Exchange}
    {reply : Reply} (here : system.client.network id = some (exchange, some reply))
    (met : ¬ RefreshesTwice system (.deliver id)) :
    Recovering (Source.TokenRecovery.deliver system id exchange reply) := by
  cases before.entries id exchange (some reply) here with
  | attempt caller _ isAuthenticated callback retried =>
    exact before.handles here isAuthenticated callback
      (fun already => (retried already).2 reply rfl) met
  | refreshed previous request caller issued callback isAuthenticated path valid active =>
    exact before.retries here callback isAuthenticated path valid active

end

/-! ## Whole runs -/

theorem recovering_expired {system : System} (expired : Expired system) : Recovering system := by
  obtain ⟨completed, refused, retried⟩ := expired.fresh
  have notRefresh (id : ExchangeId) : ¬ RefreshInFlight system id := by
    rintro ⟨exchange, reply, here, path⟩
    have attempt := (expired.inFlight id exchange reply here).2
    rw [path_of_authenticated attempt.isAuthenticated] at path
    cases path
  refine ⟨expired.expired.1, expired.refreshToken.1, ?_, ?_, ?_, ?_, ?_⟩
  · exact fun id entry here => (expired.inFlight id entry.1 entry.2 here).1
  · intro id exchange reply here
    have attempt := (expired.inFlight id exchange reply here).2
    obtain ⟨caller, callback⟩ := attempt.callback
    refine .attempt caller reply attempt.isAuthenticated callback fun already => ?_
    rw [attempt.alreadyRetried] at already
    cases already
  · exact fun id _ refreshing => absurd refreshing (notRefresh id)
  · exact fun _ => expired.refreshToken.2
  · refine ⟨?_, ?_, ?_⟩
    · simp [completed]
    · simp [retried]
    · simp [refused]

theorem recovering_step {system system' : System} {event : Event} (before : Recovering system)
    (met : ¬ RefreshesTwice system event) (moved : systemStep system event = some system') :
    Recovering system' := by
  cases event with
  | send caller request =>
    simp only [systemStep] at moved
    split at moved
    · next isAuthenticated =>
      cases moved
      exact before.send caller isAuthenticated
    · cases moved
  | serve id answer issued =>
    simp only [systemStep] at moved
    split at moved
    · next here =>
      cases moved
      exact before.serve here answer issued
    · cases moved
  | deliver id =>
    simp only [systemStep] at moved
    split at moved
    · next here =>
      cases moved
      exact before.deliver here met
    · cases moved

/-- When no 401 is handled while a refresh is in flight, every request in flight at
the expiry recovers: none ends with an authentication error, and each refused one is
tried again with a valid token. -/
theorem expired_requests_recover {system : System}
    (reached : Runs.ReachableBy systemStep Expired (fun system event => ¬ RefreshesTwice system event)
      system) : Recovered system := by
  have recovering : Recovering system :=
    Runs.invariant_of_preserved (fun _ => recovering_expired)
      (fun _ _ _ before met moved => recovering_step before met moved) reached
  exact recovering.recovered

/-! ## Two requests at the expiry -/

def sampleRequest (path : String) : HttpRequest := ⟨"GET", path, "access0", none⟩

def sampleClient : HttpClient where
  tokens := ⟨"access0", "refresh0", "bearer", 900⟩

def sampleExpired : System where
  client := send (send sampleClient (sampleRequest "/messages/received") (.caller 0) false)
    (sampleRequest "/messages/sent") (.caller 1) false
  server := ⟨[], ["refresh0"]⟩

theorem sampleExpired_expired : Expired sampleExpired := by
  refine ⟨by decide, by decide, fun id exchange reply here => ?_, rfl, rfl, rfl⟩
  simp only [sampleExpired, network_send] at here
  split at here
  · next now =>
    cases here
    exact ⟨now ▸ by decide, by decide +kernel, rfl, ⟨1, rfl⟩, nofun⟩
  · split at here
    · next now =>
      cases here
      exact ⟨now ▸ by decide, by decide +kernel, rfl, ⟨0, rfl⟩, nofun⟩
    · cases here

def sampleAnswer : Answer := ⟨.success (.array []), rfl⟩

def sampleIssued (accessToken refreshToken : String) (accessToken_ne : accessToken ≠ "")
    (refreshToken_ne : refreshToken ≠ "") : IssuedTokens :=
  ⟨accessToken, refreshToken, 900, accessToken_ne, refreshToken_ne⟩

/-- The server answers an exchange and the client handles the answer. -/
def exchanged (id : ExchangeId) (issued : IssuedTokens) : List Event :=
  [.serve id sampleAnswer issued, .deliver id]

def firstIssued : IssuedTokens := sampleIssued "access1" "refresh1" (by decide) (by decide)

def secondIssued : IssuedTokens := sampleIssued "access2" "refresh2" (by decide) (by decide)

/-- The second 401 is handled after the first refresh has come back. -/
def orderlyRun : List Event :=
  exchanged 0 firstIssued ++ exchanged 2 firstIssued ++ exchanged 1 secondIssued ++
    exchanged 4 secondIssued ++ exchanged 3 secondIssued ++ exchanged 5 secondIssued

/-- No refresh is in flight among the exchanges sent so far. -/
def noRefresh (client : HttpClient) : Bool :=
  (List.range client.next).all fun id => (client.network id).all fun entry =>
    !isRefreshPath entry.1.request.path

def orderly (system : System) : Event → Bool
  | .deliver id => match system.client.network id with
    | some (exchange, some (.failure failure)) =>
      !canRefresh system.client exchange failure.statusCode || noRefresh system.client
    | _ => true
  | _ => true

theorem not_refreshesTwice_of_orderly (system : System) (event : Event)
    (recovering : Recovering system) (checked : orderly system event = true) :
    ¬ RefreshesTwice system event := by
  rintro ⟨id, exchange, failure, rfl, here, can, other, exchange', reply', there, path⟩
  simp only [orderly, here, can, Bool.not_true, Bool.false_or] at checked
  have quiet := List.all_eq_true.mp checked other
    (List.mem_range.mpr (recovering.bounded other _ there))
  rw [there, Option.all_some, path] at quiet
  cases quiet

theorem expired_requests_recover_sample : ∃ system,
    system.client.retried = [(1, "access2"), (0, "access1")] ∧
      system.client.refused = [1, 0] ∧ Recovered system := by
  have ends : (Runs.run systemStep sampleExpired orderlyRun).map
      (fun system => (system.client.retried, system.client.refused)) =
      some ([(1, "access2"), (0, "access1")], [1, 0]) := by
    decide +kernel
  have checked : Runs.checkRun systemStep orderly sampleExpired orderlyRun = true := by
    decide +kernel
  obtain ⟨system, final, logs⟩ := Option.map_eq_some_iff.mp ends
  obtain ⟨retried, refused⟩ := Prod.mk.inj logs
  have met := Runs.everyStep_of_check not_refreshesTwice_of_orderly
    (fun _ _ _ before met moved => recovering_step before met moved) orderlyRun
    (recovering_expired sampleExpired_expired) checked
  exact ⟨system, retried, refused, expired_requests_recover
    (Runs.reachableBy_of_run orderlyRun (.start sampleExpired_expired) met final)⟩

/-- Both 401s are handled before the first refresh is answered. -/
def doubleRefreshRun : List Event :=
  exchanged 0 firstIssued ++ exchanged 1 firstIssued ++ exchanged 2 firstIssued ++
    exchanged 3 secondIssued

theorem second_refresh_refused :
    ¬ ∀ system, Runs.Reachable systemStep Expired system → Recovered system := by
  intro recovers
  have ends : (Runs.run systemStep sampleExpired doubleRefreshRun).map (fun system =>
      system.client.completed.map fun entry =>
        (entry.1, match entry.2 with | .error error => some error | .ok _ => none)) =
      some [(1, some ⟨.authRequired, "HTTP 401: Invalid refresh token"⟩)] := by
    decide +kernel
  obtain ⟨system, final, outcome⟩ := Option.map_eq_some_iff.mp ends
  have recovered := recovers system (Runs.reachable_of_run sampleExpired_expired final)
  have member := outcome ▸ List.mem_singleton_self _
  obtain ⟨⟨caller, result⟩, completed, same⟩ := List.mem_map.mp member
  cases result with
  | ok document => cases same
  | error error =>
    cases same
    exact recovered.completed 1 _ completed rfl

end EpicKfc.Guarantees.TokenRecovery
