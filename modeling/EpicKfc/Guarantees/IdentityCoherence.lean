import EpicKfc.Lib.Runs
import EpicKfc.Source.Client.ClientFrames

/-!
# Session, tokens and store of one user

A login installs its tokens before it knows its user, so between the two replies
the tokens run ahead of the session. Outside such a login the three agree, as
long as a login that has its tokens goes through, nothing else installs or clears
tokens meanwhile, and a refresh succeeds only while the client still holds tokens
of the user it was sent for.
-/

namespace EpicKfc.Guarantees.IdentityCoherence
open EpicKfc.Lib
open EpicKfc.Source.Client
open EpicKfc.Source.Client.ClientState
open EpicKfc.Source.Client.StoreDocuments
open EpicKfc.Source.Client.SessionService

/-- The backend's record of the users it issued tokens to. -/
structure TokenIssuer where
  ownerOf : String → Option String
  ownerOf_empty : ownerOf "" = none

variable (issuer : TokenIssuer) (setup : ClientSetup)

def BelongTo (userId : String) (tokens : TokenSet) : Prop :=
  issuer.ownerOf tokens.accessToken = some userId ∧ issuer.ownerOf tokens.refreshToken = some userId

/-- What a document from the backend says about tokens and users. -/
def Answers (object : Json.Members) : Exchange → Prop
  | .request request =>
    match request.continuation with
    | .loginTokens _ => ∃ userId, BelongTo issuer userId (tokensFromJson object)
    | .loginUser _ _ => issuer.ownerOf request.authorization = some (userFromJson object).id
    | _ => True
  | .refresh previousRefreshToken _ =>
    issuer.ownerOf (tokensFromJson object).accessToken = issuer.ownerOf previousRefreshToken ∧
    ((tokensFromJson object).refreshToken = "" ∨
      issuer.ownerOf (tokensFromJson object).refreshToken = issuer.ownerOf previousRefreshToken)

/-- The replies that keep the three together. -/
def KeepsTogether (client : ClientState) (io : ClientIo) : Exchange → Response → Prop
  | .request request, .success object =>
    match request.continuation with
    | .loginTokens _ | .logout => client.handshakes = []
    | .loginUser _ password =>
      (loginStore setup client.store client.files (userFromJson object).id password io).1 = .ok ()
    | _ => True
  | .request request, .failure statusCode _ =>
    request.continuation.awaitsUser = true → canRefresh client request statusCode = true
  | .refresh previousRefreshToken _, .success _ => ∃ userId,
    issuer.ownerOf previousRefreshToken = some userId ∧
    issuer.ownerOf client.tokens.refreshToken = some userId
  | .refresh _ retried, .failure _ _ => retried.continuation.awaitsUser = false

/-- The backend answers truthfully, and the reply is one of those. -/
def Orderly (client : ClientState) (event : ClientEvent × ClientIo) : Prop :=
  ∀ index response, event.1 = .reply index response → ∀ exchange ∈ client.inFlight[index]?,
    (∀ object, response = .success object → Answers issuer object exchange) ∧
    KeepsTogether issuer setup client event.2 exchange response

/-- A start without session, tokens and requests. -/
def LoggedOut (client : ClientState) : Prop :=
  client.session = none ∧ client.tokens = {} ∧ client.inFlight = []

/-- The user of the session. -/
def sessionUser (client : ClientState) : Option String := client.session.map (·.user.id)

/-- The store's path is the user's, and its content was loaded from there. -/
def StoreOf (userId : String) (client : ClientState) : Prop :=
  client.store.path = JsonLocalStore.accountScopedPath setup.library client.store.indexPath userId ∧
  client.loadedFrom = some client.store.path

def TokensMatch (client : ClientState) : Prop :=
  match sessionUser client with
  | some userId => BelongTo issuer userId client.tokens
  | none => client.tokens = {}

/-- A login that waits for its user asks with a token of the user. -/
def AsksFor (userId : String) : Exchange → Prop
  | .request request =>
    issuer.ownerOf request.authorization = some userId ∧ request.accessToken ≠ ""
  | .refresh _ retried => retried.accessToken ≠ ""

structure Coherent (client : ClientState) : Prop where
  single : client.handshakes.length ≤ 1
  place : ∀ userId, sessionUser client = some userId → StoreOf setup userId client
  settled : client.handshakes = [] → TokensMatch issuer client
  underway : ∀ exchange ∈ client.handshakes, ∃ userId,
    BelongTo issuer userId client.tokens ∧ AsksFor issuer userId exchange

variable {issuer setup}

theorem BelongTo.accessToken_ne_empty {userId : String} {tokens : TokenSet}
    (belong : BelongTo issuer userId tokens) : tokens.accessToken ≠ "" := by
  intro empty
  have owned := belong.1
  rw [empty, issuer.ownerOf_empty] at owned
  cases owned

theorem sessionUser_sameIdentity {client client' : ClientState}
    (same : SameIdentity client client') : sessionUser client' = sessionUser client := by
  have users := congrArg (Option.map UserProfile.id) same.user
  simpa only [sessionUser, Option.map_map, Function.comp_def] using users

theorem place_sameIdentity {client client' : ClientState} (same : SameIdentity client client')
    (place : ∀ userId, sessionUser client = some userId → StoreOf setup userId client)
    (userId : String) (holds : sessionUser client' = some userId) :
    StoreOf setup userId client' := by
  have before := place userId (sessionUser_sameIdentity same ▸ holds)
  unfold StoreOf at before ⊢
  rwa [same.path, same.indexPath, same.loadedFrom]

theorem coherent_sameIdentity {client client' : ClientState} (before : Coherent issuer setup client)
    (same : SameIdentity client client') : Coherent issuer setup client' := by
  have user := sessionUser_sameIdentity same
  refine ⟨by rw [same.handshakes]; exact before.single, place_sameIdentity same before.place,
    ?_, ?_⟩
  · intro none_underway
    have settled := before.settled (same.handshakes ▸ none_underway)
    unfold TokensMatch at settled ⊢
    rwa [user, same.tokens]
  · intro exchange member
    rw [same.tokens]
    exact before.underway exchange (same.handshakes ▸ member)

/-! ## Callbacks of the session service -/

/-- One login waits for its user, and the tokens are already the user's. -/
theorem coherent_of_underway {client : ClientState} {exchange : Exchange} {userId : String}
    (place : ∀ userId, sessionUser client = some userId → StoreOf setup userId client)
    (waiting : client.handshakes = [exchange]) (belong : BelongTo issuer userId client.tokens)
    (asks : AsksFor issuer userId exchange) : Coherent issuer setup client := by
  refine ⟨by rw [waiting]; exact le_refl 1, place, ?_, ?_⟩
  · intro none_underway
    rw [waiting] at none_underway
    cases none_underway
  · intro other member
    rw [waiting, List.mem_singleton] at member
    subst member
    exact ⟨userId, belong, asks⟩

/-- A login's tokens arrive while no other login waits for its user. -/
theorem coherent_tokensArrived {client : ClientState} {userId password : String}
    {tokens : TokenSet} (before : Coherent issuer setup client) (alone : client.handshakes = [])
    (belong : BelongTo issuer userId tokens) :
    Coherent issuer setup (tokensArrived client password tokens) := by
  have waiting : (tokensArrived client password tokens).handshakes = [.request
      ⟨tokens.accessToken, tokens.accessToken, false, .loginUser tokens password⟩] := by
    unfold tokensArrived
    rw [send, handshakes_awaits]
    have none_before : { client with tokens := tokens }.handshakes = [] := alone
    simp [none_before, Exchange.continuation, Continuation.awaitsUser, effectiveAccessToken]
  exact coherent_of_underway before.place waiting belong ⟨belong.1, belong.accessToken_ne_empty⟩

/-- No login waits for its user, and the tokens are those of the session. -/
theorem coherent_of_settled {client : ClientState}
    (place : ∀ userId, sessionUser client = some userId → StoreOf setup userId client)
    (alone : client.handshakes = []) (tokens : TokensMatch issuer client) :
    Coherent issuer setup client := by
  refine ⟨by rw [alone]; exact Nat.zero_le 1, place, fun _ => tokens, ?_⟩
  intro exchange member
  rw [alone] at member
  cases member

theorem coherent_of_signedOut {client : ClientState}
    (session : client.session.map (·.user) = none) (tokens : client.tokens = {})
    (alone : client.handshakes = []) : Coherent issuer setup client := by
  have user : sessionUser client = none := by
    rw [sessionUser, Option.map_eq_none_iff.mp session]
    rfl
  refine coherent_of_settled ?_ alone ?_
  · intro userId holds
    rw [user] at holds
    cases holds
  · unfold TokensMatch
    rw [user]
    exact tokens

theorem coherent_loggedOut {client : ClientState} (io : ClientIo) (alone : client.handshakes = []) :
    Coherent issuer setup (loggedOut setup client io) := by
  have cleared := sameIdentity_mutate setup { client with tokens := {}, session := none }
    .clearSession (io.store 0)
  unfold loggedOut
  split
  · next result =>
    rw [result] at cleared
    exact coherent_of_signedOut cleared.user cleared.tokens (cleared.handshakes.trans alone)
  · next result =>
    rw [result] at cleared
    exact coherent_of_signedOut cleared.user cleared.tokens (cleared.handshakes.trans alone)

theorem load_place (library : StorageLibrary) (store : JsonLocalStore) (io : StoreIo)
    (files : Files) :
    (JsonLocalStore.load library store io files).2.path = store.path ∧
      (JsonLocalStore.load library store io files).2.indexPath = store.indexPath := by
  simp only [JsonLocalStore.load]
  repeat' split
  all_goals exact ⟨rfl, rfl⟩

/-- A store that a login has loaded is the user's. -/
theorem loginStore_place {store : JsonLocalStore} {files : Files} {userId password : String}
    {io : ClientIo} (scoped' : setup.accountScopedState = true)
    (loaded : (loginStore setup store files userId password io).1 = .ok ()) :
    (loginStore setup store files userId password io).2.1.path =
      JsonLocalStore.accountScopedPath setup.library
        (loginStore setup store files userId password io).2.1.indexPath userId := by
  simp only [loginStore, scoped', if_true, JsonLocalStore.useAccountScopedPath] at loaded ⊢
  cases remembered : JsonLocalStore.rememberLastAccountId
      { store with secretPassphrase := password } userId (io.store 0) files with
  | mk result written =>
    rw [remembered] at loaded
    cases result with
    | error error => cases loaded
    | ok =>
      have place := load_place setup.library
        { store with
          secretPassphrase := password
          path := JsonLocalStore.accountScopedPath setup.library store.indexPath userId }
        (io.store 1) written
      exact place.1.trans (by rw [place.2])

/-- The user of a login arrives and the account's store loads. -/
theorem coherent_userArrived {client : ClientState} {session : AuthSession} {password : String}
    {io : ClientIo} (scoped' : setup.accountScopedState = true) (alone : client.handshakes = [])
    (belong : BelongTo issuer session.user.id client.tokens)
    (loaded : (loginStore setup client.store client.files session.user.id password io).1 = .ok ()) :
    Coherent issuer setup (userArrived setup client session password io) := by
  have path := loginStore_place scoped' loaded
  unfold userArrived
  split
  · next result =>
    rw [result] at loaded
    cases loaded
  · next store files result =>
    rw [result] at path
    let opened := { client with
      store := store
      files := files
      loadedFrom := some store.path
      session := some session }
    have coherent : Coherent issuer setup opened := by
      refine coherent_of_settled ?_ alone belong
      intro userId holds
      cases holds
      exact ⟨path, rfl⟩
    exact coherent_sameIdentity coherent
      (sameIdentity_mutate setup opened (.saveSession session) (io.store 2))

/-- A refresh for the user whose tokens the client holds. -/
theorem coherent_refreshed {client : ClientState} {userId : String} {tokens : TokenSet}
    (before : Coherent issuer setup client)
    (held : issuer.ownerOf client.tokens.refreshToken = some userId)
    (belong : BelongTo issuer userId tokens) :
    Coherent issuer setup { client with tokens := tokens } := by
  refine ⟨before.single, before.place, ?_, ?_⟩
  · intro none_underway
    have settled := before.settled none_underway
    unfold TokensMatch at settled ⊢
    change match sessionUser client with
      | some userId => BelongTo issuer userId tokens
      | none => tokens = {}
    cases user : sessionUser client with
    | none =>
      rw [user] at settled
      rw [settled, issuer.ownerOf_empty] at held
      cases held
    | some owner =>
      rw [user] at settled
      have same : owner = userId := Option.some.inj (settled.2.symm.trans held)
      exact same ▸ belong
  · intro exchange member
    obtain ⟨owner, owned, asks⟩ := before.underway exchange member
    have same : owner = userId := Option.some.inj (owned.2.symm.trans held)
    exact ⟨owner, same ▸ belong, asks⟩

theorem belongTo_refreshedTokens {previousRefreshToken userId : String} {object : Json.Members}
    {retried : Request} (answers : Answers issuer object (.refresh previousRefreshToken retried))
    (owned : issuer.ownerOf previousRefreshToken = some userId) :
    BelongTo issuer userId (refreshedTokens previousRefreshToken object) := by
  obtain ⟨access, refresh⟩ := answers
  rw [owned] at access refresh
  simp only [refreshedTokens]
  split
  · exact ⟨access, owned⟩
  · next given =>
    refine ⟨access, refresh.resolve_left fun absent => given ?_⟩
    rw [absent]
    rfl

/-! ## Replies -/

/-- A failed request gives up, or waits for a refresh. -/
theorem coherent_requestFailed {client : ClientState} {io : ClientIo} {index : Nat}
    {request : Request} {statusCode : Nat} {error : ClientError}
    (before : Coherent issuer setup client)
    (present : client.inFlight[index]? = some (.request request))
    (together : KeepsTogether issuer setup client io (.request request) (.failure statusCode error)) :
    Coherent issuer setup (finished setup (client.answered index)
      io (.request request) (.failure statusCode error)) := by
  simp only [finished]
  cases awaits : request.continuation.awaitsUser with
  | true =>
    obtain ⟨member, alone⟩ := handshakes_answered_single present before.single awaits
    obtain ⟨userId, belong, _, given⟩ := before.underway _ member
    have refreshes : canRefresh (client.answered index) request statusCode = true :=
      together awaits
    rw [if_pos refreshes]
    refine @coherent_of_underway issuer setup _ (.refresh client.tokens.refreshToken request) userId
      before.place ?_ belong given
    rw [handshakes_awaits, alone, List.nil_append]
    exact if_pos awaits
  | false =>
    have erased := coherent_sameIdentity before (sameIdentity_answered present awaits)
    split
    · exact coherent_sameIdentity erased (sameIdentity_awaits _ awaits)
    · exact erased

/-- A document arrives for a request. -/
theorem coherent_callback {client : ClientState} {io : ClientIo} {index : Nat}
    {request : Request} {object : Json.Members} (scoped' : setup.accountScopedState = true)
    (before : Coherent issuer setup client)
    (present : client.inFlight[index]? = some (.request request))
    (answers : Answers issuer object (.request request))
    (together : KeepsTogether issuer setup client io (.request request) (.success object)) :
    Coherent issuer setup (callback setup
      (client.answered index) request.continuation object io) := by
  obtain ⟨authorization, accessToken, alreadyRetried, continuation⟩ := request
  cases awaits : continuation.awaitsUser with
  | true =>
    obtain ⟨member, alone⟩ := handshakes_answered_single present before.single awaits
    obtain ⟨userId, belong, owned, _⟩ := before.underway _ member
    cases continuation with
    | loginUser tokens password =>
      have same : (userFromJson object).id = userId := Option.some.inj (answers.symm.trans owned)
      exact coherent_userArrived scoped' alone (same ▸ belong) together
    | _ => cases awaits
  | false =>
    have same := sameIdentity_answered present awaits
    have erased := coherent_sameIdentity before same
    cases session : continuation.ofSession with
    | false =>
      exact coherent_sameIdentity erased
        ((sameIdentity_frame setup).callback io _ object session)
    | true =>
      cases continuation with
      | loginTokens password =>
        obtain ⟨userId, belong⟩ := answers
        exact coherent_tokensArrived erased (same.handshakes.trans together) belong
      | loginUser tokens password => cases awaits
      | logout => exact coherent_loggedOut io (same.handshakes.trans together)
      | _ => cases session

/-- A refresh succeeds, and the request that waited for it is sent again. -/
theorem coherent_tokensRefreshed {client : ClientState} {io : ClientIo} {index : Nat}
    {previousRefreshToken : String} {retried : Request} {object : Json.Members}
    (before : Coherent issuer setup client)
    (present : client.inFlight[index]? = some (.refresh previousRefreshToken retried))
    (answers : Answers issuer object (.refresh previousRefreshToken retried))
    (together : KeepsTogether issuer setup client io (.refresh previousRefreshToken retried)
      (.success object)) :
    Coherent issuer setup (tokensRefreshed setup
      (client.answered index) previousRefreshToken retried object
      io) := by
  obtain ⟨userId, owned, held⟩ := together
  have belong := belongTo_refreshedTokens answers owned
  have updated := sameIdentity_updateTokens setup io
    { client.answered index with tokens := refreshedTokens previousRefreshToken object }
    (refreshedTokens previousRefreshToken object)
  simp only [tokensRefreshed]
  cases awaits : retried.continuation.awaitsUser with
  | true =>
    obtain ⟨member, alone⟩ := handshakes_answered_single present before.single awaits
    obtain ⟨_, _, given⟩ := before.underway _ member
    have kept : ¬ retried.accessToken.isEmpty = true := fun empty =>
      given (String.isEmpty_iff.mp empty)
    generalize updateTokens setup _ (refreshedTokens previousRefreshToken object) io = sending
      at updated ⊢
    rw [if_neg kept]
    have installed : BelongTo issuer userId sending.tokens := updated.tokens ▸ belong
    have place : ∀ userId, sessionUser sending = some userId → StoreOf setup userId sending :=
      place_sameIdentity updated fun userId holds => before.place userId holds
    refine @coherent_of_underway issuer setup _ (.request ⟨sending.tokens.accessToken,
      sending.tokens.accessToken, true, retried.continuation⟩) userId place ?_ installed
      ⟨installed.1, installed.accessToken_ne_empty⟩
    rw [send, handshakes_awaits, updated.handshakes, effectiveAccessToken_self]
    change (client.answered index).handshakes ++ _ = _
    rw [alone, List.nil_append]
    exact if_pos awaits
  | false =>
    have erased := coherent_sameIdentity before (sameIdentity_answered present awaits)
    have refreshed := coherent_sameIdentity (coherent_refreshed erased held belong) updated
    exact coherent_sameIdentity refreshed (sameIdentity_send _ _ _ awaits)

/-- One event keeps the three together. -/
theorem coherent_step {client client' : ClientState} {event : ClientEvent × ClientIo}
    (scoped' : setup.accountScopedState = true) (before : Coherent issuer setup client)
    (orderly : Orderly issuer setup client event)
    (moved : clientStep setup client event = some client') : Coherent issuer setup client' := by
  obtain ⟨event, io⟩ := event
  cases event with
  | login password =>
    cases moved
    exact coherent_sameIdentity before (sameIdentity_send client _ _ rfl)
  | logout =>
    cases moved
    exact coherent_sameIdentity before (sameIdentity_send client _ _ rfl)
  | trust username =>
    cases moved
    exact coherent_sameIdentity before ((sameIdentity_frame setup).trustUsername io client _)
  | send recipientUsername plaintext =>
    cases moved
    exact coherent_sameIdentity before ((sameIdentity_frame setup).send io client _ _)
  | forward messageId recipientUsername =>
    cases moved
    exact coherent_sameIdentity before ((sameIdentity_frame setup).forward io client _ _)
  | otherRequest authorized =>
    cases moved
    exact coherent_sameIdentity before (sameIdentity_send client _ _ rfl)
  | otherWork mutation =>
    simp only [clientStep] at moved
    split at moved
    · cases moved
      exact coherent_sameIdentity before (sameIdentity_mutate setup client mutation _)
    · cases moved
  | reply index response =>
    obtain ⟨exchange, present, rfl⟩ := Option.map_eq_some_iff.mp moved
    obtain ⟨answers, together⟩ := orderly index response rfl exchange present
    cases exchange with
    | request request =>
      cases response with
      | success object =>
        exact coherent_callback scoped' before present (answers object rfl) together
      | failure statusCode error => exact coherent_requestFailed before present together
    | refresh previousRefreshToken retried =>
      cases response with
      | success object =>
        exact coherent_tokensRefreshed before present (answers object rfl) together
      | failure statusCode error =>
        exact coherent_sameIdentity before (sameIdentity_answered present together)

theorem coherent_loggedOutStart {client : ClientState} (start : LoggedOut client) :
    Coherent issuer setup client := by
  obtain ⟨session, tokens, idle⟩ := start
  refine coherent_of_signedOut (by rw [session]; rfl) tokens ?_
  rw [handshakes, idle]
  rfl

/-- In an orderly run, whenever no login waits for its user, the session's user owns
the tokens and the store, and without a session there are no tokens. -/
theorem session_tokens_store_agree (scoped' : setup.accountScopedState = true)
    {client : ClientState}
    (reached : Runs.ReachableBy (clientStep setup) LoggedOut (Orderly issuer setup) client)
    (alone : client.handshakes = []) :
    (∀ session, client.session = some session →
      BelongTo issuer session.user.id client.tokens ∧ StoreOf setup session.user.id client) ∧
    (client.session = none → client.tokens = {}) := by
  have coherent : Coherent issuer setup client :=
    Runs.invariant_of_preserved (fun _ => coherent_loggedOutStart)
      (fun _ _ _ before orderly moved => coherent_step scoped' before orderly moved) reached
  have settled := coherent.settled alone
  unfold TokensMatch at settled
  constructor
  · intro session held
    have user : sessionUser client = some session.user.id := by rw [sessionUser, held]; rfl
    rw [user] at settled
    exact ⟨settled, coherent.place _ user⟩
  · intro absent
    have user : sessionUser client = none := by rw [sessionUser, absent]; rfl
    rw [user] at settled
    exact settled

/-! ## A login -/

theorem orderly_reply {client : ClientState} {index : Nat} {exchange : Exchange}
    {object : Json.Members} {io : ClientIo} (present : client.inFlight[index]? = some exchange)
    (answers : Answers issuer object exchange)
    (together : KeepsTogether issuer setup client io exchange (.success object)) :
    Orderly issuer setup client (.reply index (.success object), io) := by
  intro other response same found here
  cases same
  cases present.symm.trans here
  exact ⟨fun document given => by cases given; exact answers, together⟩

def aliceIssuer : TokenIssuer where
  ownerOf token := if token = "access" ∨ token = "refresh" then some aliceId else none
  ownerOf_empty := by decide

theorem sampleLogin_orderly :
    Runs.EveryStep (clientStep sampleSetup) (Orderly aliceIssuer sampleSetup) sampleStart
      (sampleLogin aliceId) := by
  refine .cons ?_ rfl (.cons ?_ rfl (.cons ?_ rfl trivial))
  · intro index response other
    cases other
  · exact orderly_reply rfl ⟨aliceId, by decide, by decide⟩ rfl
  · exact orderly_reply rfl (show aliceIssuer.ownerOf "access" = some aliceId by decide) rfl

/-- Between the replies of a login the client holds tokens and no session. -/
theorem tokens_without_session_during_login : ∃ client,
    Runs.Reachable (clientStep sampleSetup) LoggedOut client ∧
    client.session = none ∧ client.tokens ≠ {} := by
  have ends : Runs.run (clientStep sampleSetup) sampleStart sampleTokens = some _ := rfl
  exact ⟨_, Runs.reachable_of_run ⟨rfl, rfl, rfl⟩ ends, rfl, by decide⟩

theorem session_tokens_store_agree_alice : ∃ client,
    client.session.map (·.user.id) = some aliceId ∧
    (∀ session, client.session = some session →
      BelongTo aliceIssuer session.user.id client.tokens ∧
        StoreOf sampleSetup session.user.id client) ∧
    (client.session = none → client.tokens = {}) := by
  have ends : Runs.run (clientStep sampleSetup) sampleStart (sampleLogin aliceId) = some _ := rfl
  exact ⟨_, rfl, session_tokens_store_agree rfl
    (Runs.reachableBy_of_run (sampleLogin aliceId) (.start ⟨rfl, rfl, rfl⟩) sampleLogin_orderly ends) rfl⟩

end EpicKfc.Guarantees.IdentityCoherence
