import EpicKfc.Guarantees.PendingForwards
import EpicKfc.Guarantees.TombstoneHistory
import EpicKfc.Lib.Histories

/-!
# Release of plaintext

`readConversation` shows what `messagesWithPeer` lists, and so only visible messages.
`download` and `forwardToAddress` take what `findMessage` finds, whatever its markers
say and whether or not a session is active: what they release is authorised as long as
nothing has hidden the message since its store was loaded.
-/

namespace EpicKfc.Guarantees.PlaintextRelease
open EpicKfc.Lib
open EpicKfc.Source.Client
open EpicKfc.Source.Client.ClientState
open EpicKfc.Guarantees.PendingForwards
open EpicKfc.Guarantees.TombstoneHistory

variable (setup : ServiceSetup)

/-- A session was active, and the message was cached and visible to its user. -/
def Authorised (release : Release) : Prop :=
  ∃ userId message, release.account = some userId ∧ release.cached = some message ∧
    LocalMessages.isMessageVisibleToUser message userId = true

instance (release : Release) : Decidable (Authorised release) :=
  decidable_of_iff (release.account.any fun userId => release.cached.any fun message =>
    LocalMessages.isMessageVisibleToUser message userId) (by simp [Authorised, Option.any_eq_true])

def AllAuthorised (services : Services) : Prop := ∀ release ∈ services.releases, Authorised release

/-- Services with what has set tombstones since the store was loaded. -/
abbrev Watched := Runs.Recorded Services (List Tombstone)

/-- If the message is cached, a session is active, and nothing that has happened since the
store was loaded hides the message from its user. -/
def NeverHidden (watched : Watched) (messageId : String) : Prop :=
  ∀ message, cachedMessage watched.state.client messageId = some message →
    ∃ userId, watched.state.client.currentAccount = some userId ∧
      ∀ marker : Marker, marker.Concerns message userId → ⟨messageId, marker⟩ ∉ watched.history

/-- A message between a peer and the empty user id, which stands for nobody. -/
def WithNobody (peerUserId : String) (message : LocalMessage) : Prop :=
  (message.senderUserId = "" ∧ message.recipientUserId = peerUserId) ∨
    (message.senderUserId = peerUserId ∧ message.recipientUserId = "")

/-- The document of a request finds the message of a forward never hidden, no forward that waits
for a bundle when it is a login's user, and a session when it completes a conversation, or
nothing between its peer and nobody. -/
def GatedReply (watched : Watched) (entry : InFlight) (request : Request) (document : Json) : Prop :=
  let client := watched.state.client
  (request.continuation.awaitsUser = true →
    ∀ waiting ∈ watched.state.inFlight, waitsForBundle waiting = false) ∧
  match entry.callback with
  | .own (some messageId) => NeverHidden watched messageId
  | .listed .sent _ collected (.read address _ _) =>
    ∀ messages, completed setup .sent collected document = some messages → client.session.isSome ∨
      ∀ message ∈ client.store.memory.messages ++ messages, ¬ WithNobody address.userId message
  | _ => True

/-- Downloads and forwards only of messages that were never hidden, in a session that lasts. -/
def Gated (watched : Watched) (event : ServiceEvent × ServiceIo) : Prop :=
  match event.1 with
  | .download messageId => NeverHidden watched messageId
  | .forward messageId _ =>
    watched.state.client.session.isSome → NeverHidden watched messageId
  | .reply index (.success document) => ∀ entry request,
    watched.state.inFlight[index]? = some entry → entry.exchange = .request request →
    GatedReply setup watched entry request document
  | _ => True

/-! ## Visible messages -/

/-- If the message is cached, it is visible to the user of an active session. -/
def VisibleIfCached (client : ClientState) (messageId : String) : Prop :=
  ∀ message, cachedMessage client messageId = some message →
    ∃ userId, client.currentAccount = some userId ∧
      LocalMessages.isMessageVisibleToUser message userId = true

/-- A covering history that never hides the message leaves it visible. -/
theorem visible_of_neverHidden {watched : Watched} {messageId : String}
    (covers : CoversClient watched.history watched.state.client)
    (never : NeverHidden watched messageId) : VisibleIfCached watched.state.client messageId := by
  intro message found
  obtain ⟨userId, account, unhidden⟩ := never message found
  obtain ⟨stored, sameId⟩ := KeyedList.find_some found
  refine ⟨userId, account, isMessageVisibleToUser_iff_markers.mpr fun marker concerns => ?_⟩
  by_contra carries
  have known := covers message stored marker carries
  rw [sameId] at known
  exact unhidden marker concerns known

/-- The client once the last list of a conversation is saved. -/
def listsSaved (client : ClientState) (messages : MessageList) (io : ServiceIo) : ClientState :=
  MessageService.saveAndReconcileMessages setup.toClientSetup client messages .sent io.store

variable {setup}

/-- A saved list leaves nothing between the peer and nobody where there was nothing. -/
theorem nothing_with_nobody {client : ClientState} {messages : MessageList} {peerUserId : String}
    (nobody : ∀ message ∈ client.store.memory.messages ++ messages, ¬ WithNobody peerUserId message)
    (io : ServiceIo) : (listsSaved setup client messages io).store.memory.messages.filter
      (LocalMessages.isWithPeer "" peerUserId) = [] := by
  rw [List.filter_eq_nil_iff]
  intro message member withPeer
  have parties : WithNobody peerUserId message := by
    rw [LocalMessages.isWithPeer, Bool.and_eq_true, Bool.or_eq_true, Bool.and_eq_true,
      Bool.and_eq_true] at withPeer
    simpa [WithNobody] using withPeer.1
  obtain ⟨original, stored, same⟩ := parties_saveAndReconcileMessages setup.library member
  rw [fst_zipIdx_saves] at stored
  refine nobody original stored ?_
  rwa [WithNobody, ← same.1, ← same.2]

/-! ## Operations that release nothing -/

theorem releases_anchorArrived (services : Services) (messageId : String)
    (reply : Result Json.Members) (io : ServiceIo) :
    (services.anchorArrived setup messageId reply io).releases = services.releases := by
  simp only [Services.anchorArrived, Services.judged]
  split <;> rfl

theorem releases_serviceFailed (services : Services) (entry : InFlight) (error : ClientError)
    (io : ServiceIo) :
    (services.serviceFailed setup entry error io).releases = services.releases := by
  unfold Services.serviceFailed
  split
  · exact releases_anchorArrived services _ _ _
  · rfl

theorem allAuthorised_of_releases {services services' : Services} (before : AllAuthorised services)
    (kept : services'.releases = services.releases) : AllAuthorised services' := by
  unfold AllAuthorised
  rwa [kept]

/-! ## Conversations -/

/-- A shown message is cached, and visible to whoever is logged in. -/
theorem authorised_shown {order : CreatedAtSort} {client : ClientState} {peerUserId userId : String}
    {message : LocalMessage} (account : client.currentAccount = some userId)
    (listed : message ∈ MessageService.messagesWithPeer order client.currentUserId peerUserId
      client.store.memory.messages) :
    Authorised ⟨client.currentAccount, client.store.memory.messages.find? (· = message)⟩ := by
  have current : client.currentUserId = userId := by
    obtain ⟨session, active, rfl⟩ := Option.map_eq_some_iff.mp account
    rw [ClientState.currentUserId, active]
    rfl
  obtain ⟨cached, withPeer⟩ := List.mem_filter.mp ((order.perm _).mem_iff.mp listed)
  rw [LocalMessages.isWithPeer, Bool.and_eq_true, current] at withPeer
  have found : client.store.memory.messages.find? (· = message) = some message := by
    cases search : client.store.memory.messages.find? (· = message) with
    | none => exact absurd (List.find?_eq_none.mp search message cached) (by simp)
    | some other =>
      have same : other = message := by simpa using List.find?_some search
      rw [same]
  exact ⟨userId, message, account, found, withPeer.2⟩

/-- Opening a conversation lists only visible messages; without a session, none. -/
theorem authorised_openConversation {services : Services} (before : AllAuthorised services)
    (address : UserAddress) (username : String) (page : Int) (io : ClientIo)
    (gated : services.client.session.isSome ∨ services.client.store.memory.messages.filter
      (LocalMessages.isWithPeer "" address.userId) = []) :
    AllAuthorised (services.openConversation setup address username page io) := by
  unfold Services.openConversation
  split
  · exact before
  · next opened client result =>
    intro release member
    obtain earlier | new := List.mem_append.mp member
    · exact before release earlier
    · obtain ⟨entry, shown, rfl⟩ := List.mem_map.mp new
      obtain ⟨device, _, entries⟩ :=
        MessageService.openConversationFromCache_entries (congrArg Prod.fst result)
      obtain ⟨message, listed, rfl⟩ := entries entry shown
      rw [MessageService.message_conversationEntry]
      cases account : services.client.currentAccount with
      | some userId =>
        rw [← account]
        exact authorised_shown account listed
      | none =>
        have loggedOut : services.client.session = none := Option.map_eq_none_iff.mp account
        rw [ClientState.currentUserId, loggedOut] at listed
        rw [loggedOut] at gated
        have empty := gated.resolve_left Bool.false_ne_true
        have member := (setup.order.perm _).mem_iff.mp listed
        rw [Option.map_none, Option.getD_none, empty] at member
        cases member

theorem authorised_listComplete {services : Services} (before : AllAuthorised services)
    (direction : MessageDirection) (messages : MessageList) (purpose : ListPurpose) (io : ServiceIo)
    (gated : ∀ address username page, direction = .sent → purpose = .read address username page →
      services.client.session.isSome ∨ ∀ message ∈ services.client.store.memory.messages ++ messages,
        ¬ WithNobody address.userId message) :
    AllAuthorised (services.listComplete setup direction messages purpose io) := by
  have session := (MessageService.onlyStores_saveAndReconcileMessages setup.toClientSetup
    services.client messages .sent io.store).session
  have saved : AllAuthorised { services with
      client := MessageService.saveAndReconcileMessages setup.toClientSetup services.client messages
        .sent io.store } := before
  simp only [Services.listComplete]
  split
  · exact before
  · exact before
  · next address username page =>
    refine authorised_openConversation saved address username page io.opening ?_
    rw [session]
    exact (gated address username page rfl rfl).imp_right fun nobody =>
      nothing_with_nobody nobody io
  · exact before

/-! ## Downloads and forwards -/

theorem cached_of_download {client : ClientState} {messageId : String} {opens : Bool}
    {file : Download}
    (opened : MessageService.download setup.toClientSetup client messageId opens = .ok file) :
    (cachedMessage client messageId).isSome := by
  rw [Option.isSome_iff_ne_none]
  intro uncached
  unfold cachedMessage at uncached
  simp only [MessageService.download, MessageService.cachedPlaintext, uncached] at opened
  cases opened

theorem authorised_of_visible {client : ClientState} {messageId : String}
    (visible : VisibleIfCached client messageId)
    (cached : (cachedMessage client messageId).isSome) :
    Authorised ⟨client.currentAccount, cachedMessage client messageId⟩ := by
  obtain ⟨message, found⟩ := Option.isSome_iff_exists.mp cached
  obtain ⟨userId, account, shown⟩ := visible message found
  exact ⟨userId, message, account, found, shown⟩

/-- A message that is not cached is not encrypted. -/
theorem encryptions_forwardToAddress {setup : ClientSetup} {client : ClientState}
    {messageId : String} (uncached : cachedMessage client messageId = none) (address : UserAddress)
    (io : ClientIo) :
    MessageService.forwardToAddress setup client messageId address io = client := by
  unfold cachedMessage at uncached
  simp only [MessageService.forwardToAddress, MessageService.forwardDelivery,
    MessageService.cachedPlaintext, uncached]
  rfl

theorem encryptions_forwardAddress {setup : ClientSetup} (client : ClientState) {messageId : String}
    (uncached : cachedMessage client messageId = none) (address : UserAddress) (io : ClientIo) :
    (MessageService.forwardAddress setup messageId io client address).encryptions =
      client.encryptions := by
  obtain ⟨files, same⟩ := mutate_eq setup client (.saveKnownUser address) (io.store 0)
  have kept : cachedMessage (client.mutate setup (.saveKnownUser address) (io.store 0)).2 messageId =
      none := by
    rw [same]
    simp only [cachedMessage, JsonLocalStore.StoreMutation.apply] at uncached ⊢
    split <;> exact uncached
  have encryptions := congrArg ClientState.encryptions same
  unfold MessageService.forwardAddress
  split
  · next result =>
    rw [result] at encryptions
    exact encryptions
  · next result =>
    rw [result] at encryptions kept
    rw [encryptions_forwardToAddress kept]
    exact encryptions

/-- A step of a forward that encrypts has found its message. -/
theorem authorised_continues {services : Services} {after : ClientState}
    {forwarding : Option String} (before : AllAuthorised services) (senderCopy : String)
    (gated : ∀ messageId, forwarding = some messageId →
      VisibleIfCached services.client messageId ∧ (cachedMessage services.client messageId = none →
        after.encryptions = services.client.encryptions)) :
    AllAuthorised (services.continues after forwarding senderCopy) := by
  intro release member
  obtain earlier | new := List.mem_append.mp member
  · exact before release earlier
  · cases forwarding with
    | none => cases new
    | some messageId =>
      obtain ⟨visible, finds⟩ := gated messageId rfl
      simp only [Services.reencrypted] at new
      split at new
      · next encrypts =>
        rw [List.mem_singleton] at new
        subst new
        refine authorised_of_visible visible ?_
        rw [Option.isSome_iff_ne_none]
        intro uncached
        rw [finds uncached] at encrypts
        omega
      · cases new

/-! ## Replies -/

/-- When the last list of a conversation arrives, it finds a session, or nothing between its
peer and nobody. -/
def OpensInSession (setup : ServiceSetup) (client : ClientState) (callback : ServiceCallback)
    (document : Json) : Prop :=
  ∀ accessToken collected address username page,
    callback = .listed .sent accessToken collected (.read address username page) →
    ∀ messages, completed setup .sent collected document = some messages → client.session.isSome ∨
      ∀ message ∈ client.store.memory.messages ++ messages, ¬ WithNobody address.userId message

theorem authorised_serviceReplied {services : Services} {entry : InFlight}
    (before : AllAuthorised services) (document : Json) (io : ServiceIo)
    (opens : OpensInSession setup services.client entry.callback document) :
    AllAuthorised (services.serviceReplied setup entry document io) := by
  have quiet := releases_frame setup
  simp only [Services.serviceReplied]
  split
  · exact before
  · exact before
  · split
    · exact before
    · exact allAuthorised_of_releases before (quiet.readAddressArrived services _ _ _ _)
  · next direction accessToken collected purpose waiting =>
    simp only [Services.pageArrived]
    split
    · next complete =>
      refine authorised_listComplete before _ _ _ _ ?_
      rintro address username page rfl rfl
      exact opens accessToken collected address username page waiting _ (if_pos complete)
    · exact before
  · exact before
  · exact before
  · exact before
  · exact allAuthorised_of_releases before (releases_anchorArrived services _ _ _)
  · exact allAuthorised_of_releases before (quiet.uploadOneTimePreKeys services io)

/-- The callback of a forwarded message encrypts only a message that is found. -/
theorem encryptions_callback {setup : ClientSetup} (client : ClientState) {messageId : String}
    (uncached : cachedMessage client messageId = none) (object : Json.Members) (io : ClientIo) :
    (callback setup client (.forwardAddress messageId) object io).encryptions =
      client.encryptions := by
  simp only [callback, KeyService.addressArrived]
  split
  · rfl
  · exact encryptions_forwardAddress client uncached _ io

theorem encryptions_forward {setup : ClientSetup} (client : ClientState) {messageId : String}
    (uncached : cachedMessage client messageId = none) (recipientUsername : String) (io : ClientIo) :
    (MessageService.forward setup client messageId recipientUsername io).encryptions =
      client.encryptions := by
  simp only [MessageService.forward, KeyService.resolveUsername]
  split
  · split
    · rfl
    · split
      · exact encryptions_forwardAddress client uncached _ io
      · rfl
  · rfl

theorem authorised_replied {services : Services} {entry : InFlight} (before : AllAuthorised services)
    (response : DocumentResponse) (io : ServiceIo)
    (forwards : ∀ messageId, entry.callback = .own (some messageId) →
      Forwards messageId services.client entry.exchange.continuation)
    (visible : ∀ document request messageId, response = .success document →
      entry.exchange = .request request → entry.callback = .own (some messageId) →
      VisibleIfCached services.client messageId)
    (opens : ∀ document request, response = .success document → entry.exchange = .request request →
      OpensInSession setup services.client entry.callback document) :
    AllAuthorised (services.replied setup entry response io) := by
  have failed (error : ClientError) : AllAuthorised (services.serviceFailed setup entry error io) :=
    allAuthorised_of_releases before (releases_serviceFailed services entry error io)
  cases sent : entry.exchange with
  | refresh previousRefreshToken retried =>
    cases response with
    | failure statusCode error =>
      simp only [Services.replied, sent]
      exact failed error
    | success document =>
      simp only [Services.replied, sent]
      exact before
  | request request =>
    cases response with
    | failure statusCode error =>
      simp only [Services.replied, sent]
      split
      · exact before
      · exact failed error
    | success document =>
      simp only [Services.replied, sent]
      split
      · exact authorised_serviceReplied before document io (opens document request rfl sent)
      · refine authorised_continues before _ fun messageId forwarding => ?_
        have own := forwardingOf_eq_some forwarding
        refine ⟨visible document request messageId rfl sent own, fun uncached => ?_⟩
        have waits := forwards messageId own
        rw [sent] at waits
        rcases waits with address | ⟨_, cached⟩
        · simp only [finished, DocumentResponse.toResponse]
          rw [show request.continuation = .forwardAddress messageId from address]
          exact encryptions_callback services.client uncached _ io.toClientIo
        · rw [uncached] at cached
          cases cached

/-! ## Runs -/

/-- One event keeps the releases authorised. -/
theorem authorised_step {watched : Watched} {services' : Services} {event : ServiceEvent × ServiceIo}
    (before : AllAuthorised watched.state) (covers : CoversClient watched.history watched.state.client)
    (pending : Pending watched.state) (gated : Gated setup watched event)
    (moved : servicesStep setup watched.state event = some services') : AllAuthorised services' := by
  obtain ⟨services, history⟩ := watched
  obtain ⟨event, io⟩ := event
  cases event with
  | login password => exact Option.some.inj moved ▸ authorised_continues before _ nofun
  | logout => exact Option.some.inj moved ▸ authorised_continues before _ nofun
  | trust username => exact Option.some.inj moved ▸ authorised_continues before _ nofun
  | send recipientUsername plaintext =>
    exact Option.some.inj moved ▸ authorised_continues before _ nofun
  | forward messageId recipientUsername =>
    rw [← Option.some.inj moved]
    cases active : services.client.session.isSome with
    | true =>
      refine authorised_continues before _ fun forwarded here => ?_
      cases here
      exact ⟨visible_of_neverHidden covers (gated active),
        fun uncached => encryptions_forward services.client uncached _ io.toClientIo⟩
    | false =>
      refine allAuthorised_of_releases before ?_
      simp [Services.continues, Services.joins, Services.reencrypted, MessageService.forward, active]
  | download messageId =>
    rw [← Option.some.inj moved]
    unfold Services.download
    split
    · exact before
    · next opened =>
      intro release member
      obtain earlier | new := List.mem_append.mp member
      · exact before release earlier
      · rw [List.mem_singleton] at new
        subst new
        exact authorised_of_visible (visible_of_neverHidden covers gated) (cached_of_download opened)
  | reply index response =>
    obtain ⟨entry, present, rfl⟩ := Option.map_eq_some_iff.mp moved
    have answered : AllAuthorised { services with inFlight := services.inFlight.eraseIdx index } :=
      before
    refine authorised_replied answered response io
      (pending.forwards entry (List.mem_of_getElem? present)) ?_ ?_
    · rintro document request messageId rfl sent own
      have gate := (gated entry request present sent).2
      rw [own] at gate
      exact visible_of_neverHidden covers gate
    · rintro document request rfl sent accessToken collected address username page waiting
      have gate := (gated entry request present sent).2
      rw [waiting] at gate
      exact gate
  | _ => exact allAuthorised_of_releases before ((releases_frame setup).commanded rfl moved)

/-- A client that has sent and released nothing yet. -/
def Unopened (services : Services) : Prop :=
  services.releases = [] ∧ services.inFlight = [] ∧ services.client.inFlight = []

structure Kept (watched : Watched) : Prop where
  released : AllAuthorised watched.state
  covers : CoversClient watched.history watched.state.client
  pending : Pending watched.state

theorem kept_step {watched watched' : Watched} {event : ServiceEvent × ServiceIo}
    (before : Kept watched) (gated : Gated setup watched event)
    (moved : Runs.recordedStep (servicesStep setup) (record setup) watched event = some watched') :
    Kept watched' := by
  obtain ⟨stepped, recorded⟩ := Runs.recordedStep_eq_some.mp moved
  have alone : LoadsAlone watched.state event := by
    rintro index document entry request same present sent
    obtain ⟨event, io⟩ := event
    cases same
    exact (gated entry request present sent).1
  exact ⟨authorised_step before.released before.covers before.pending gated stepped,
    recorded ▸ covers_step before.covers stepped, pending_step before.pending alone stepped⟩

/-- The history begins with the tombstones of the messages in memory. -/
def watch (services : Services) : Watched := ⟨services, carried services.client.store.memory.messages⟩

/-- In every run whose downloads and forwards take messages that were never hidden, in a session
that lasts, plaintext is released only of cached messages that are visible to the user of the
active session. -/
theorem plaintext_released_to_authorised {start services : Services}
    {events : List (ServiceEvent × ServiceIo)} (begins : Unopened start)
    (gated : Runs.EveryStep (Runs.recordedStep (servicesStep setup) (record setup)) (Gated setup)
      (watch start) events)
    (ran : Runs.run (servicesStep setup) start events = some services) :
    ∀ release ∈ services.releases, Authorised release := by
  obtain ⟨released, sent, idle⟩ := begins
  have kept : Kept (watch start) := by
    refine ⟨fun release member => ?_, covers_carried _, idle, fun entry member => ?_⟩
    · have nothing : release ∈ start.releases := member
      rw [released] at nothing
      cases nothing
    · have nothing : entry ∈ start.inFlight := member
      rw [sent] at nothing
      cases nothing
  obtain ⟨history, after⟩ :=
    Runs.invariant_of_recorded (fun _ _ _ => kept_step) kept gated ran
  exact after.released

/-! ## Messages from a peer -/

def checkNeverHidden (watched : Watched) (messageId : String) : Bool :=
  match cachedMessage watched.state.client messageId with
  | none => true
  | some message => watched.state.client.currentAccount.any fun userId =>
    allMarkers.all fun marker =>
      !(marker.Concerns message userId) || !watched.history.contains ⟨messageId, marker⟩

def checkReply (watched : Watched) (entry : InFlight) : Bool :=
  (!entry.exchange.continuation.awaitsUser ||
    watched.state.inFlight.all fun waiting => !waitsForBundle waiting) &&
  match entry.callback with
  | .own (some messageId) => checkNeverHidden watched messageId
  | .listed .sent _ _ (.read _ _ _) => watched.state.client.session.isSome
  | _ => true

/-- A check of one event that has every conversation opened in a session. -/
def checkGated (watched : Watched) (event : ServiceEvent × ServiceIo) : Bool :=
  match event.1 with
  | .download messageId | .forward messageId _ => checkNeverHidden watched messageId
  | .reply index _ => watched.state.inFlight[index]?.all (checkReply watched)
  | _ => true

theorem neverHidden_of_check {watched : Watched} {messageId : String}
    (checked : checkNeverHidden watched messageId = true) : NeverHidden watched messageId := by
  intro message found
  simp only [checkNeverHidden, found, Option.any_eq_true, List.all_eq_true] at checked
  obtain ⟨userId, account, unhidden⟩ := checked
  refine ⟨userId, account, fun marker concerns known => ?_⟩
  have clear := unhidden marker (mem_allMarkers marker)
  simp [concerns, known] at clear

theorem gatedReply_of_check {watched : Watched} {entry : InFlight} {request : Request}
    (sent : entry.exchange = .request request) (checked : checkReply watched entry = true)
    (document : Json) : GatedReply setup watched entry request document := by
  rw [checkReply, Bool.and_eq_true, sent] at checked
  refine ⟨fun awaits waiting member => ?_, ?_⟩
  · have none := checked.1
    simp only [Exchange.continuation, awaits, Bool.not_true, Bool.false_or, List.all_eq_true,
      Bool.not_eq_true'] at none
    exact none waiting member
  · have own := checked.2
    split
    · next waiting =>
      rw [waiting] at own
      exact neverHidden_of_check own
    · next waiting =>
      rw [waiting] at own
      exact fun _ _ => Or.inl own
    · trivial

theorem gated_of_check {watched : Watched} {event : ServiceEvent × ServiceIo}
    (checked : checkGated watched event = true) : Gated setup watched event := by
  obtain ⟨event, io⟩ := event
  cases event with
  | download messageId => exact neverHidden_of_check checked
  | forward messageId recipientUsername => exact fun _ => neverHidden_of_check checked
  | reply index response =>
    cases response with
    | failure statusCode error => trivial
    | success document =>
      intro entry request present sent
      simp only [checkGated, present, Option.all_some] at checked
      exact gatedReply_of_check sent checked document
  | _ => trivial

theorem unopened_sample : Unopened { client := sampleStart } := ⟨rfl, rfl, rfl⟩

def aliceReady : List (ServiceEvent × ServiceIo) :=
  servicesLogin 0 aliceId ++
    [(.ensureDeviceKeysUploaded, sampleServicesIo), replies 0 (.object []), replies 0 (.object [])]

def fromCarol (ids : List String) (recipientUserId : String) : Json :=
  .array (ids.map fun id => messageDocument id carolId recipientUserId)

def readCarol (received : Json) : List (ServiceEvent × ServiceIo) :=
  [(.readConversation carolId 1, sampleServicesIo), replies 0 received, replies 0 (.array [])]

def downloadMessage : ServiceEvent × ServiceIo := (.download "message", sampleServicesIo)

def deleteMessage (messageId : String) : List (ServiceEvent × ServiceIo) :=
  [(.deleteMessage messageId, sampleServicesIo), replies 0 (.object [])]

/-- Alice downloads a message that she has deleted, and again after her logout. -/
theorem deleted_message_downloaded : ∃ services,
    Runs.Reachable (servicesStep sampleServices) Unopened services ∧
    services.releases.map (·.account) = [some aliceId, none] ∧
    ∀ release ∈ services.releases, ¬ Authorised release := by
  have ends : (Runs.run (servicesStep sampleServices) { client := sampleStart } (aliceReady ++
      [(.listReceived, sampleServicesIo), replies 0 (fromCarol ["message"] aliceId)] ++
      deleteMessage "message" ++ [downloadMessage] ++ servicesLogout 0 ++ [downloadMessage])).map
        (fun services => (services.releases.map (·.account), services.releases.all fun release =>
          ¬ Authorised release)) = some ([some aliceId, none], true) := by decide +kernel
  obtain ⟨services, ran, released⟩ := Option.map_eq_some_iff.mp ends
  rw [Prod.mk.injEq, List.all_eq_true] at released
  refine ⟨services, Runs.reachable_of_run unopened_sample ran, released.1, fun release member => ?_⟩
  exact of_decide_eq_true (released.2 release member)

def bundleOf (identityKey : String) : Json :=
  .object [("deviceId", .number 1), ("identityKey", .string identityKey)]

def trustPeer (userId identityKey : String) : List (ServiceEvent × ServiceIo) :=
  [(.trust userId, sampleServicesIo), replies 0 (bundleOf identityKey)]

/-- Of two messages Alice deletes one, reads and downloads the other, and forwards it to Carol,
whose bundle she has to wait for; then Bob logs in and downloads a message of his own. -/
def readAndForward : List (ServiceEvent × ServiceIo) :=
  aliceReady ++ [(.listReceived, sampleServicesIo),
      replies 0 (fromCarol ["message", "other"] aliceId)] ++ deleteMessage "other" ++
    readCarol (fromCarol ["message"] aliceId) ++ [downloadMessage] ++
    trustPeer carolId "key of carol" ++ trustPeer bobId "key of bob" ++
    [(.forward "message" carolId, sampleServicesIo), replies 0 (bundleOf "key of carol"),
      replies 0 (.object [])] ++
    servicesLogout 0 ++ servicesLogin 0 bobId ++
    [(.ensureDeviceKeysUploaded, sampleServicesIo), replies 0 (.object []), replies 0 (.object []),
      (.listReceived, sampleServicesIo), replies 0 (fromCarol ["message"] bobId), downloadMessage]

theorem plaintext_released_to_authorised_alice : ∃ services : Services,
    services.releases.map (·.account) = [some aliceId, some aliceId, some aliceId, some bobId] ∧
    ∀ release ∈ services.releases, Authorised release := by
  have ends : (Runs.run (servicesStep sampleServices) { client := sampleStart } readAndForward).map
      (·.releases.map (·.account)) =
        some [some aliceId, some aliceId, some aliceId, some bobId] := by decide +kernel
  have gated : Runs.EveryStep
      (Runs.recordedStep (servicesStep sampleServices) (record sampleServices)) (Gated sampleServices)
      (watch { client := sampleStart }) readAndForward :=
    Runs.everyStep_of_check (fun _ _ _ checked => gated_of_check checked)
      (fun _ _ _ _ _ _ => trivial) _ trivial (by decide +kernel)
  obtain ⟨services, ran, released⟩ := Option.map_eq_some_iff.mp ends
  exact ⟨services, released, plaintext_released_to_authorised unopened_sample gated ran⟩

end EpicKfc.Guarantees.PlaintextRelease
