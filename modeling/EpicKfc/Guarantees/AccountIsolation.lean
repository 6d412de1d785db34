import EpicKfc.Lib.Runs
import EpicKfc.Source.Client.ServiceFrames

/-!
# Responses and accounts

A callback writes to the store that is open when its response arrives. The response
of a request that one account issued stays out of another account's store as long as
a login finds nothing in flight, and nobody logged in, that could still write to the
store it opens.
-/

namespace EpicKfc.Guarantees.AccountIsolation
open EpicKfc.Lib
open EpicKfc.Source.Client
open EpicKfc.Source.Client.ClientState
open EpicKfc.Source.Client.StoreDocuments

variable (setup : ServiceSetup)

/-- The store that is open is the account's own. -/
def AccountStore (store : JsonLocalStore) (account : String) : Prop :=
  setup.accountScopedState = true ∧
    store.path = JsonLocalStore.accountScopedPath setup.library store.indexPath account

/-- Device keys, one-time pre-keys, known users, trust pins and messages. -/
def accountData (memory : StoreMemory) : StoreMemory :=
  { memory with session := {}, hasSession := false }

/-- The store that a login for this user leaves, and whether it could be loaded. -/
def loginStore (services : Services) (document : Json) (password : String) (io : ServiceIo) :
    Result Unit × JsonLocalStore × Files :=
  SessionService.loginStore setup.toClientSetup services.client.store services.client.files
    (userFromJson (QJsonValue.toObject (some document))).id password io.toClientIo

/-- The memory that a response finds; the response of a login loads its account's. -/
def memoryFound (services : Services) (exchange : Exchange) (response : DocumentResponse)
    (io : ServiceIo) : StoreMemory :=
  match exchange, response with
  | .request ⟨_, _, _, .loginUser _ password⟩, .success document =>
    (loginStore setup services document password io).2.1.memory
  | _, _ => services.client.store.memory

/-- The response to a request of one account leaves the data of every other account alone. -/
def Isolated (services : Services) (event : ServiceEvent × ServiceIo) (services' : Services) :
    Prop :=
  ∀ index response, event.1 = .reply index response →
  ∀ entry, services.inFlight[index]? = some entry →
  ∀ account, entry.account = some account →
  ∀ other, other ≠ account → AccountStore setup services'.client.store other →
  accountData services'.client.store.memory =
    accountData (memoryFound setup services entry.exchange response event.2)

/-- The store that is open is no other account's. -/
def NoOthers (store : JsonLocalStore) (account : String) : Prop :=
  ∀ other, AccountStore setup store other → other = account

/-- The response may still change the data of an account. -/
def mayWrite (entry : InFlight) : Bool :=
  match entry.exchange.continuation, entry.callback with
  | .other, .own _ | .other, .quiet => false
  | .loginTokens _, _ | .loginUser _ _, _ | .logout, _ | .trustedBundle _ _, _ => false
  | _, _ => true

/-- The account on whose behalf the response may still change data. -/
def writer (entry : InFlight) : Option String := if mayWrite entry then entry.account else none

def Settled (store : JsonLocalStore) (writer : Option String) : Prop :=
  ∀ account, writer = some account → NoOthers setup store account

/-- A login opens a store that belongs to no other account with a request in flight that
may write, and to no other account than the one that is logged in then. -/
def LogsInAlone (services : Services) (event : ServiceEvent × ServiceIo) : Prop :=
  ∀ index document, event.1 = .reply index (.success document) →
  ∀ entry, services.inFlight[index]? = some entry →
  ∀ request tokens password, entry.exchange = .request request →
    request.continuation = .loginUser tokens password →
  let opened := loginStore setup services document password event.2
  (∀ waiting ∈ services.inFlight.eraseIdx index, Settled setup opened.2.1 (writer waiting)) ∧
  match opened.1 with
  | .ok () => NoOthers setup opened.2.1 (userFromJson (QJsonValue.toObject (some document))).id
  | .error _ => Settled setup opened.2.1 services.client.currentAccount

/-- A client that has sent nothing; a restored session is that of its store. -/
def Begins (services : Services) : Prop :=
  services.client.inFlight = [] ∧ services.inFlight = [] ∧
  Settled setup services.client.store services.client.currentAccount

/-- The store is no other account's than that of whoever is logged in, has a request in
flight that may write, or is being answered. -/
structure Placed (answering : Option String) (services : Services) : Prop where
  idle : services.client.inFlight = []
  account : Settled setup services.client.store services.client.currentAccount
  answering : Settled setup services.client.store answering
  inFlight : ∀ entry ∈ services.inFlight, Settled setup services.client.store (writer entry)

/-! ## The store stays where it is -/

variable {setup} {answering : Option String}

theorem settled_of_place {store store' : JsonLocalStore} {account : Option String}
    (settled : Settled setup store account) (path : store'.path = store.path)
    (indexPath : store'.indexPath = store.indexPath) : Settled setup store' account := by
  intro user here other ⟨own, place⟩
  rw [path, indexPath] at place
  exact settled user here other ⟨own, place⟩

theorem settled_none (store : JsonLocalStore) : Settled setup store none := by
  intro account here
  cases here

theorem settled_currentAccount {client client' : ClientState} (keeps : KeepsPlace client client')
    (settled : Settled setup client.store client.currentAccount) :
    Settled setup client'.store client'.currentAccount := by
  refine settled_of_place ?_ keeps.path keeps.indexPath
  exact fun account here => settled account (keeps.account account here)

theorem settled_writer {store : JsonLocalStore} {entry : InFlight}
    (settled : Settled setup store entry.account) : Settled setup store (writer entry) := by
  unfold writer
  split
  · exact settled
  · exact settled_none store

theorem placed_onlyStores {services : Services} {after : ClientState}
    (before : Placed setup answering services) (only : OnlyStores services.client after) :
    Placed setup answering { services with client := after } where
  idle := only.inFlight.trans before.idle
  account := settled_currentAccount only.keepsPlace before.account
  answering := settled_of_place before.answering only.path only.indexPath
  inFlight := fun entry member => settled_of_place (before.inFlight entry member) only.path
    only.indexPath

theorem placed_mutate {services : Services} (before : Placed setup answering services)
    (mutation : JsonLocalStore.StoreMutation) (io : StoreIo) :
    Placed setup answering (services.mutate setup mutation io).2 :=
  placed_onlyStores before (onlyStores_mutate setup.toClientSetup services.client mutation io)

theorem placed_issueFor {services : Services} {account : Option String} {callback : ServiceCallback}
    (before : Placed setup answering services) (accessToken : String)
    (settled : Settled setup services.client.store (writer ⟨.request
      ⟨services.client.effectiveAccessToken accessToken, accessToken, false, .other⟩,
      account, callback⟩)) :
    Placed setup answering (services.issueFor account accessToken callback) := by
  refine ⟨before.idle, before.account, before.answering, fun entry member => ?_⟩
  obtain earlier | new := List.mem_append.mp member
  · exact before.inFlight entry earlier
  · rw [List.mem_singleton] at new
    exact new ▸ settled

theorem placed_issue {services : Services} (before : Placed setup answering services)
    (accessToken : String) (callback : ServiceCallback) :
    Placed setup answering (services.issue accessToken callback) :=
  placed_issueFor before accessToken (settled_writer before.account)

theorem placed_frame (setup : ServiceSetup) (answering : Option String) : ServiceFrame setup
    fun services services' => Placed setup answering services → Placed setup answering services' where
  refl := fun _ before => before
  trans := fun first second before => second (first before)
  mutates := fun _ mutation _ io before => placed_mutate before mutation io
  issue := fun _ accessToken callback _ before => placed_issue before accessToken callback

/-- What was sent in a callback joins what is in flight. -/
theorem placed_joins {services : Services} {after : ClientState} {record : Exchange → InFlight}
    (before : Placed setup answering services) (keeps : KeepsPlace services.client after)
    (settled : ∀ exchange ∈ after.inFlight,
      Settled setup services.client.store (writer (record exchange))) :
    Placed setup answering (services.joins after record) := by
  have account : Settled setup after.store after.currentAccount :=
    settled_currentAccount keeps before.account
  refine ⟨rfl, account, settled_of_place before.answering keeps.path keeps.indexPath,
    fun entry member => ?_⟩
  refine settled_of_place ?_ keeps.path keeps.indexPath
  obtain earlier | new := List.mem_append.mp member
  · exact before.inFlight entry earlier
  · obtain ⟨exchange, sent, rfl⟩ := List.mem_map.mp new
    exact settled exchange sent

theorem placed_continues {services : Services} {after : ClientState}
    (before : Placed setup answering services) (keeps : KeepsPlace services.client after)
    (forwarding : Option String) (senderCopy : String) :
    Placed setup answering (services.continues after forwarding senderCopy) := by
  have joined := @placed_joins setup answering services after (fun exchange =>
    ⟨exchange, after.currentAccount, Services.callbackOf forwarding senderCopy exchange⟩) before keeps
    fun _ _ => settled_writer fun account issued => before.account account (keeps.account account issued)
  exact ⟨joined.idle, joined.account, joined.answering, joined.inFlight⟩

theorem placed_keeps {services : Services} {after : ClientState} {entry : InFlight}
    (before : Placed setup (writer entry) services) (keeps : KeepsPlace services.client after)
    (same : ∀ exchange ∈ after.inFlight, exchange.continuation = entry.exchange.continuation) :
    Placed setup (writer entry) (services.keeps after entry) := by
  refine placed_joins before keeps fun exchange sent => ?_
  have writers : writer ⟨exchange, entry.account, entry.callback⟩ = writer entry := by
    unfold writer mayWrite
    rw [same exchange sent]
  exact writers ▸ before.answering

/-! ## Callbacks of the services -/

theorem placed_openConversation {services : Services} (before : Placed setup answering services)
    (address : UserAddress) (username : String) (page : Int) (io : ClientIo) :
    Placed setup answering (services.openConversation setup address username page io) := by
  have opened := placed_onlyStores before (MessageService.onlyStores_openConversationFromCache
    setup.toClientSetup setup.order services.client address username page io)
  unfold Services.openConversation
  split
  · next result =>
    rw [result] at opened
    exact opened
  · next result =>
    rw [result] at opened
    exact ⟨opened.idle, opened.account, opened.answering, opened.inFlight⟩

theorem placed_listComplete {services : Services} (before : Placed setup answering services)
    (direction : MessageDirection) (messages : MessageList) (purpose : ListPurpose)
    (io : ServiceIo) : Placed setup answering (services.listComplete setup direction messages purpose io) := by
  have saved := placed_onlyStores before (MessageService.onlyStores_saveAndReconcileMessages
    setup.toClientSetup services.client messages direction io.store)
  simp only [Services.listComplete]
  split
  · exact placed_issue saved _ _
  · exact placed_issue saved _ _
  · exact placed_openConversation saved _ _ _ _
  · exact saved

theorem placed_anchorArrived {services : Services} (before : Placed setup answering services)
    (messageId : String) (reply : Result Json.Members) (io : ServiceIo) :
    Placed setup answering (services.anchorArrived setup messageId reply io) := by
  have cached := placed_onlyStores before (MessageService.onlyStores_anchorArrived
    setup.toClientSetup services.client messageId reply (io.store 0))
  simp only [Services.anchorArrived, Services.judged]
  split
  · exact placed_issue cached _ _
  · exact cached

/-- The next page of a list is asked for on behalf of the account that asked for the first. -/
theorem placed_serviceReplied {services : Services} {entry : InFlight}
    (before : Placed setup (writer entry) services)
    (waits : entry.exchange.continuation = .other) (document : Json) (io : ServiceIo) :
    Placed setup (writer entry) (services.serviceReplied setup entry document io) := by
  simp only [Services.serviceReplied]
  split
  · exact before
  · exact before
  · split
    · exact before
    · exact (placed_frame setup _).readAddressArrived services _ _ _ _ before
  · next direction accessToken collected purpose waiting =>
    simp only [Services.pageArrived]
    split
    · exact placed_listComplete before _ _ _ _
    · refine placed_issueFor before _ ?_
      have writes : writer entry = entry.account := by
        unfold writer mayWrite
        rw [waits, waiting]
        rfl
      exact settled_writer (writes ▸ before.answering)
  · exact placed_mutate before _ _
  · exact placed_mutate before _ _
  · exact placed_mutate before _ _
  · exact placed_anchorArrived before _ _ _
  · exact (placed_frame setup _).uploadOneTimePreKeys services io before

theorem placed_serviceFailed {services : Services} (before : Placed setup answering services)
    (entry : InFlight) (error : ClientError) (io : ServiceIo) :
    Placed setup answering (services.serviceFailed setup entry error io) := by
  unfold Services.serviceFailed
  split
  · exact placed_anchorArrived before _ _ _
  · exact before

/-! ## Replies -/

/-- A request that waits for a refresh keeps its callback. -/
theorem placed_requestFailed {services : Services} {request : Request} {entry : InFlight}
    (before : Placed setup (writer entry) services) (sent : entry.exchange = .request request)
    (statusCode : Nat) (error : ClientError) (io : ServiceIo) :
    Placed setup (writer entry) (services.replied setup entry (.failure statusCode error) io) := by
  simp only [Services.replied, sent]
  split
  · next refreshes =>
    simp only [finished, DocumentResponse.toResponse, if_pos refreshes]
    refine placed_keeps before ⟨rfl, rfl, fun _ here => here⟩ ?_
    simp only [awaits, before.idle, List.nil_append, List.mem_singleton, forall_eq]
    rw [sent]
    rfl
  · exact placed_serviceFailed before entry error io

/-- After a refresh the waiting request is sent again. -/
theorem placed_refreshed {services : Services} {previousRefreshToken : String} {retried : Request}
    {entry : InFlight} (before : Placed setup (writer entry) services)
    (sent : entry.exchange = .refresh previousRefreshToken retried) (response : DocumentResponse)
    (io : ServiceIo) :
    Placed setup (writer entry) (services.replied setup entry response io) := by
  cases response with
  | failure statusCode error =>
    simp only [Services.replied, sent]
    exact placed_serviceFailed before entry error io
  | success document =>
    simp only [Services.replied, sent, finished, DocumentResponse.toResponse]
    refine placed_keeps before ?_ ?_
    · exact SessionService.keepsPlace_tokensRefreshed _ _ _ _ _ _
    · obtain ⟨resent, joined, same⟩ := SessionService.inFlight_tokensRefreshed setup.toClientSetup
        io.toClientIo services.client previousRefreshToken retried (QJsonValue.toObject (some document))
      rw [joined, before.idle, sent]
      intro exchange member
      cases List.mem_singleton.mp member
      exact same

/-- The user of a login has arrived. -/
theorem placed_userArrived {services : Services} {session : AuthSession} {password : String}
    {io : ServiceIo} (opened : Result Unit × JsonLocalStore × Files)
    (loads : SessionService.loginStore setup.toClientSetup services.client.store
      services.client.files session.user.id password io.toClientIo = opened)
    (idle : services.client.inFlight = [])
    (waiting : ∀ entry ∈ services.inFlight, Settled setup opened.2.1 (writer entry))
    (account : match opened.1 with
      | .ok () => NoOthers setup opened.2.1 session.user.id
      | .error _ => Settled setup opened.2.1 services.client.currentAccount)
    (forwarding : Option String) (senderCopy : String) :
    Placed setup none (services.continues (SessionService.userArrived setup.toClientSetup
      services.client session password io.toClientIo) forwarding senderCopy) := by
  obtain ⟨result, store, files⟩ := opened
  simp only [SessionService.userArrived, loads]
  cases result with
  | error error =>
    have held : Placed setup none { services with client := { services.client with
      store := store, files := files } } := ⟨idle, account, settled_none _, waiting⟩
    have after := placed_continues held (.refl _) forwarding senderCopy
    exact ⟨after.idle, after.account, after.answering, after.inFlight⟩
  | ok =>
    have held : Placed setup none { services with client := { services.client with
        store := store
        files := files
        loadedFrom := some store.path
        session := some session } } := by
      refine ⟨idle, fun issuer here => ?_, settled_none _, waiting⟩
      cases here
      exact account
    have saved := onlyStores_mutate setup.toClientSetup { services.client with
        store := store
        files := files
        loadedFrom := some store.path
        session := some session } (.saveSession session) (io.store 2)
    have after := placed_continues held saved.keepsPlace forwarding senderCopy
    exact ⟨after.idle, after.account, after.answering, after.inFlight⟩

/-- A response that comes to its callback, while no other account's store is open. -/
theorem placed_reply {services : Services} {index : Nat} {entry : InFlight} {io : ServiceIo}
    (response : DocumentResponse) (before : Placed setup none services)
    (alone : LogsInAlone setup services (.reply index response, io))
    (present : services.inFlight[index]? = some entry) :
    Placed setup (writer entry) (Services.replied setup
      { services with inFlight := services.inFlight.eraseIdx index } entry response io) := by
  have answered : Placed setup (writer entry)
      { services with inFlight := services.inFlight.eraseIdx index } :=
    ⟨before.idle, before.account, before.inFlight entry (List.mem_of_getElem? present),
      fun other member => before.inFlight other (List.mem_of_mem_eraseIdx member)⟩
  cases sent : entry.exchange with
  | refresh previousRefreshToken retried => exact placed_refreshed answered sent response io
  | request request =>
    cases response with
    | failure statusCode error => exact placed_requestFailed answered sent statusCode error io
    | success document =>
      simp only [Services.replied, sent]
      split
      · next other =>
        refine placed_serviceReplied answered ?_ document io
        rw [sent]
        exact other
      · simp only [finished, DocumentResponse.toResponse]
        cases awaitsUser : request.continuation.awaitsUser with
        | false => exact placed_continues answered (keepsPlace_callback _ _ _ _ awaitsUser) _ _
        | true =>
          cases continuation : request.continuation with
          | loginUser tokens password =>
            obtain ⟨waiting, account⟩ :=
              alone index document rfl entry present request tokens password sent continuation
            have silent : writer entry = none := by
              unfold writer mayWrite
              rw [sent, Exchange.continuation, continuation]
              rfl
            rw [silent]
            exact @placed_userArrived setup
              { services with inFlight := services.inFlight.eraseIdx index }
              ⟨userFromJson (QJsonValue.toObject (some document)), tokens⟩ password io
              (loginStore setup services document password io) rfl before.idle waiting account
              (Services.forwardingOf entry.callback) io.senderCopy
          | _ =>
            rw [continuation] at awaitsUser
            cases awaitsUser

/-- One event keeps the store with those who may write to it. -/
theorem placed_step {services services' : Services} {event : ServiceEvent × ServiceIo}
    (before : Placed setup none services) (alone : LogsInAlone setup services event)
    (moved : servicesStep setup services event = some services') :
    Placed setup none services' := by
  obtain ⟨event, io⟩ := event
  cases event with
  | login password =>
    have keeps : KeepsPlace services.client (SessionService.login services.client password) :=
      ⟨rfl, rfl, fun _ here => here⟩
    exact Option.some.inj moved ▸ placed_continues before keeps _ _
  | logout =>
    have keeps : KeepsPlace services.client (SessionService.logout services.client) :=
      ⟨rfl, rfl, fun _ here => here⟩
    exact Option.some.inj moved ▸ placed_continues before keeps _ _
  | trust username =>
    exact Option.some.inj moved ▸ placed_continues before
      ((sameIdentity_frame _).trustUsername _ _ _).keepsPlace _ _
  | send recipientUsername plaintext =>
    exact Option.some.inj moved ▸ placed_continues before
      ((sameIdentity_frame _).send _ _ _ _).keepsPlace _ _
  | forward messageId recipientUsername =>
    exact Option.some.inj moved ▸ placed_continues before
      ((sameIdentity_frame _).forward _ _ _ _).keepsPlace _ _
  | download messageId =>
    rw [← Option.some.inj moved]
    unfold Services.download
    split
    · exact before
    · exact ⟨before.idle, before.account, before.answering, before.inFlight⟩
  | reply index response =>
    obtain ⟨entry, present, rfl⟩ := Option.map_eq_some_iff.mp moved
    have after := placed_reply response before alone present
    exact ⟨after.idle, after.account, settled_none _, after.inFlight⟩
  | _ => exact (placed_frame setup none).commanded rfl moved before

/-! ## Responses that leave the data alone -/

theorem accountData_session (client : ClientState) {mutation : JsonLocalStore.StoreMutation}
    (io : StoreIo)
    (ofSession : mutation = .clearSession ∨ ∃ session, mutation = .saveSession session) :
    accountData (client.mutate setup.toClientSetup mutation io).2.store.memory =
      accountData client.store.memory := by
  obtain ⟨files, same⟩ := mutate_eq setup.toClientSetup client mutation io
  rw [same]
  rcases ofSession with rfl | ⟨session, rfl⟩ <;> rfl

theorem accountData_loggedOut (client : ClientState) (io : ClientIo) :
    accountData (SessionService.loggedOut setup.toClientSetup client io).store.memory =
      accountData client.store.memory := by
  have cleared := @accountData_session setup { client with tokens := {}, session := none } _
    (io.store 0) (.inl rfl)
  unfold SessionService.loggedOut
  split
  · next result =>
    rw [result] at cleared
    exact cleared
  · next result =>
    rw [result] at cleared
    exact cleared

theorem accountData_updateTokens (client : ClientState) (tokens : TokenSet) (io : ClientIo) :
    accountData (SessionService.updateTokens setup.toClientSetup client tokens io).store.memory =
      accountData client.store.memory := by
  unfold SessionService.updateTokens
  split
  · rfl
  · exact accountData_session _ _ (.inr ⟨_, rfl⟩)

theorem accountData_userArrived (client : ClientState) (session : AuthSession) (password : String)
    (io : ClientIo) :
    accountData (SessionService.userArrived setup.toClientSetup client session password
        io).store.memory =
      accountData (SessionService.loginStore setup.toClientSetup client.store client.files
        session.user.id password io).2.1.memory := by
  unfold SessionService.userArrived
  split
  · next result =>
    rw [result]
  · next result =>
    rw [result]
    exact accountData_session _ _ (.inr ⟨_, rfl⟩)

theorem memory_bundleArrived (client : ClientState) (pin : TrustPin) (delivery : Delivery)
    (bundle : PreKeyBundle) (io : ClientIo) :
    (MessageService.bundleArrived setup.toClientSetup client pin delivery bundle io).store.memory =
      client.store.memory := by
  unfold MessageService.bundleArrived
  split
  · rfl
  · split
    · rfl
    · simp only [MessageService.deliver]
      split
      · rfl
      · split <;> rfl

theorem memory_serviceFailed (services : Services) (entry : InFlight) (error : ClientError)
    (io : ServiceIo) :
    (services.serviceFailed setup entry error io).client.store.memory =
      services.client.store.memory := by
  unfold Services.serviceFailed
  split
  · simp only [Services.anchorArrived, Services.judged, MessageService.anchorArrived]
    split <;> rfl
  · rfl

/-- A response that may not write leaves the data that it finds. -/
theorem accountData_replied (services : Services) {entry : InFlight} (response : DocumentResponse)
    (io : ServiceIo) (silent : mayWrite entry = false) :
    accountData (services.replied setup entry response io).client.store.memory =
      accountData (memoryFound setup services entry.exchange response io) := by
  unfold mayWrite at silent
  cases sent : entry.exchange with
  | refresh previousRefreshToken retried =>
    cases response with
    | failure statusCode error =>
      simp only [Services.replied, sent, memory_serviceFailed, memoryFound]
    | success document =>
      simp only [Services.replied, sent, finished, DocumentResponse.toResponse]
      exact accountData_updateTokens _ _ _
  | request request =>
    rw [sent, Exchange.continuation] at silent
    obtain ⟨authorization, accessToken, alreadyRetried, continuation⟩ := request
    cases response with
    | failure statusCode error =>
      simp only [Services.replied, sent, memoryFound]
      split
      · next refreshes =>
        simp only [finished, DocumentResponse.toResponse, if_pos refreshes]
        rfl
      · rw [memory_serviceFailed]
    | success document =>
      simp only [Services.replied, sent]
      cases continuation with
      | other =>
        rw [if_pos rfl]
        cases waiting : entry.callback with
        | own forwarding => simp only [Services.serviceReplied, waiting, memoryFound]
        | quiet => simp only [Services.serviceReplied, waiting, memoryFound]
        | _ =>
          rw [waiting] at silent
          cases silent
      | loginTokens password => rfl
      | loginUser tokens password => exact accountData_userArrived _ _ _ _
      | logout => exact accountData_loggedOut _ _
      | trustedBundle pin delivery =>
        exact congrArg accountData (memory_bundleArrived _ _ _ _ _)
      | _ => cases silent

theorem placed_begins {services : Services} (begins : Begins setup services) :
    Placed setup none services := by
  obtain ⟨idle, unsent, account⟩ := begins
  refine ⟨idle, account, settled_none _, fun entry member => ?_⟩
  rw [unsent] at member
  cases member

theorem placed_reachable {services : Services}
    (reached : Runs.ReachableBy (servicesStep setup) (Begins setup) (LogsInAlone setup) services) :
    Placed setup none services :=
  @Runs.invariant_of_preserved _ _ (servicesStep setup) (Begins setup) (LogsInAlone setup)
    (Placed setup none) (fun _ begins => placed_begins begins)
    (fun _ _ _ before alone moved => placed_step before alone moved) _ reached

/-- A response that may write is not that of a login. -/
theorem logsInAlone_of_mayWrite {services : Services} {index : Nat} {entry : InFlight}
    {response : DocumentResponse} {io : ServiceIo} (present : services.inFlight[index]? = some entry)
    (writes : mayWrite entry = true) :
    LogsInAlone setup services (.reply index response, io) := by
  intro other document here waiting found request tokens password sent continuation
  cases here
  cases present.symm.trans found
  unfold mayWrite at writes
  rw [sent, Exchange.continuation, continuation] at writes
  cases writes

/-- In every run whose logins open a store that no other account may still write to, a
response changes no other account's data. -/
theorem responses_keep_to_their_account {services services' : Services}
    {event : ServiceEvent × ServiceIo}
    (reached : Runs.ReachableBy (servicesStep setup) (Begins setup) (LogsInAlone setup) services)
    (moved : servicesStep setup services event = some services') :
    Isolated setup services event services' := by
  have placed := placed_reachable reached
  obtain ⟨event, io⟩ := event
  rintro index response rfl entry present account issued other different opened
  simp only [servicesStep, present, Option.map_some, Option.some.injEq] at moved
  subst moved
  cases writes : mayWrite entry with
  | false => exact accountData_replied _ response io writes
  | true =>
    have alone : LogsInAlone setup services (.reply index response, io) :=
      logsInAlone_of_mayWrite present writes
    have after := (placed_reply response placed alone present).answering
    refine absurd (after account ?_ other opened) different
    unfold writer
    rw [writes, if_pos rfl, issued]

/-! ## Accounts with a file of their own -/

/-- The file name of the account keeps the whole id, as that of every UUID does. -/
def PlainName (library : StorageLibrary) (account : String) : Prop :=
  JsonLocalStore.safeStateName library account = account ∧ account ≠ "account" ∧
    '_' ∉ account.toList

instance (library : StorageLibrary) (account : String) : Decidable (PlainName library account) :=
  inferInstanceAs (Decidable (_ ∧ _))

theorem eq_of_safeStateName {library : StorageLibrary} {account other : String}
    (plain : PlainName library account)
    (same : JsonLocalStore.safeStateName library other = account) : other = account := by
  obtain ⟨_, named, letters⟩ := plain
  unfold JsonLocalStore.safeStateName at same
  split at same
  · exact absurd same.symm named
  · rw [← same, String.toList_ofList] at letters
    have kept : other.toList.map (fun character => if library.isLetterOrNumber character ||
        character == '-' || character == '_' then character else '_') = other.toList := by
      refine (List.map_congr_left fun character member => ?_).trans (List.map_id _)
      rw [id_eq, ite_eq_left_iff]
      intro replaced
      exact (letters (List.mem_map.mpr ⟨character, member, if_neg replaced⟩)).elim
    rw [kept, String.ofList_toList] at same
    exact same

/-- A store at the path of such an account is no other account's. -/
theorem noOthers_of_plainName {store : JsonLocalStore} {account : String}
    (siblings : ∀ indexPath, Function.Injective (setup.library.siblingPath indexPath))
    (plain : PlainName setup.library account)
    (here : store.path =
      JsonLocalStore.accountScopedPath setup.library store.indexPath account) :
    NoOthers setup store account := by
  rintro other ⟨_, place⟩
  have names := siblings _ (place.symm.trans here)
  rw [String.append_left_inj, String.append_left_inj] at names
  exact eq_of_safeStateName plain (names.trans plain.1)

/-- A login with nothing in flight that may write, for an account with a file of its own. -/
def checkLogin (setup : ServiceSetup) (services : Services) (event : ServiceEvent × ServiceIo) :
    Bool :=
  match event.1 with
  | .reply index (.success document) =>
    match services.inFlight[index]? with
    | some ⟨.request ⟨_, _, _, .loginUser _ password⟩, _, _⟩ =>
      let opened := loginStore setup services document password event.2
      let userId := (userFromJson (QJsonValue.toObject (some document))).id
      ((services.inFlight.eraseIdx index).all fun waiting => (writer waiting).isNone) && opened.1.isOk &&
        decide (PlainName setup.library userId) && opened.2.1.path ==
          JsonLocalStore.accountScopedPath setup.library opened.2.1.indexPath userId
    | _ => true
  | _ => true

theorem logsInAlone_of_check {services : Services} {event : ServiceEvent × ServiceIo}
    (siblings : ∀ indexPath, Function.Injective (setup.library.siblingPath indexPath))
    (checked : checkLogin setup services event = true) : LogsInAlone setup services event := by
  obtain ⟨event, io⟩ := event
  rintro index document rfl entry present request tokens password sent continuation
  obtain ⟨exchange, account, callback⟩ := entry
  obtain ⟨authorization, accessToken, alreadyRetried, waits⟩ := request
  cases sent
  cases continuation
  simp only [checkLogin, present, Bool.and_eq_true, decide_eq_true_eq, beq_iff_eq,
    List.all_eq_true, Option.isNone_iff_eq_none] at checked
  obtain ⟨⟨⟨alone, ok⟩, plain⟩, here⟩ := checked
  refine ⟨?_, ?_⟩
  · intro waiting member
    rw [alone waiting member]
    exact settled_none _
  · have own := noOthers_of_plainName siblings plain here
    cases result : (loginStore setup services document password io).1 with
    | ok => exact own
    | error error =>
      rw [result] at ok
      cases ok

/-! ## Two accounts -/

theorem begins_sample : Begins sampleServices { client := sampleStart } :=
  ⟨rfl, rfl, settled_none _⟩

def aliceReceives : ServiceEvent × ServiceIo :=
  replies 0 (.array [messageDocument "message" carolId aliceId])

/-- Alice's sync is still in flight when she logs out and Bob logs in. -/
def switchDuringSync : List (ServiceEvent × ServiceIo) :=
  servicesLogin 0 aliceId ++ [(.listReceived, sampleServicesIo)] ++ servicesLogout 1 ++
    servicesLogin 1 bobId

/-- The message that Alice's sync brings is saved in Bob's store. -/
theorem sync_answered_in_other_account : ∃ services services',
    Runs.Reachable (servicesStep sampleServices) (Begins sampleServices) services ∧
    servicesStep sampleServices services aliceReceives = some services' ∧
    services'.client.currentAccount = some bobId ∧
    ¬ Isolated sampleServices services aliceReceives services' := by
  have ends : Runs.run (servicesStep sampleServices) { client := sampleStart } switchDuringSync =
      some _ := rfl
  refine ⟨_, _, Runs.reachable_of_run begins_sample ends, rfl, rfl, ?_⟩
  intro isolated
  have same := isolated 0 _ rfl _ rfl aliceId rfl bobId (by decide) ⟨rfl, rfl⟩
  exact absurd (congrArg (·.messages.length) same) (by decide)

/-- The sync is answered before Alice logs out, the upload of her pre-keys is not. -/
def switchAfterSync : List (ServiceEvent × ServiceIo) :=
  servicesLogin 0 aliceId ++ [(.listReceived, sampleServicesIo), aliceReceives,
      (.ensureDeviceKeysUploaded, sampleServicesIo), replies 0 (.object [])] ++
    servicesLogout 1 ++ servicesLogin 1 bobId

/-- The answer to Alice's upload arrives in Bob's session. -/
theorem responses_keep_to_their_account_bob : ∃ services services',
    services.client.currentAccount = some bobId ∧
    services.inFlight.map (·.account) = [some aliceId] ∧
    AccountStore sampleServices services'.client.store bobId ∧
    servicesStep sampleServices services (replies 0 (.object [])) = some services' ∧
    Isolated sampleServices services (replies 0 (.object [])) services' := by
  have ends : Runs.run (servicesStep sampleServices) { client := sampleStart } switchAfterSync =
      some _ := rfl
  have alone : Runs.EveryStep (servicesStep sampleServices) (LogsInAlone sampleServices)
      { client := sampleStart } switchAfterSync :=
    Runs.everyStep_of_check
      (fun _ _ _ checked => logsInAlone_of_check (fun _ _ _ same => same) checked)
      (fun _ _ _ _ _ _ => trivial) _ trivial (by decide)
  exact ⟨_, _, rfl, rfl, ⟨rfl, rfl⟩, rfl, responses_keep_to_their_account
    (Runs.reachableBy_of_run _ (.start begins_sample) alone ends) rfl⟩

end EpicKfc.Guarantees.AccountIsolation
