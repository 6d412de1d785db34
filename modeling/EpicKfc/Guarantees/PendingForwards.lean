import EpicKfc.Guarantees.LocalTombstones
import EpicKfc.Source.Client.ServiceFrames

/-!
# Forwards in flight

A forward waits for the address of its recipient, and then perhaps for a bundle, its
plaintext decrypted already. The message it decrypted stays cached until the user of a
login brings another store.
-/

namespace EpicKfc.Guarantees.PendingForwards
open EpicKfc.Lib
open EpicKfc.Source.Client
open EpicKfc.Source.Client.ClientState

def cachedMessage (client : ClientState) (messageId : String) : Option LocalMessage :=
  LocalMessages.findMessage messageId client.store.memory.messages

/-- The forward has decrypted its message and waits for a bundle to encrypt it for. -/
def waitsForBundle (entry : InFlight) : Bool :=
  match entry.callback, entry.exchange.continuation with
  | .own (some _), .trustedBundle _ _ => true
  | _, _ => false

/-- What a forward of the message may wait for. -/
def Forwards (messageId : String) (client : ClientState) (continuation : Continuation) : Prop :=
  continuation = .forwardAddress messageId ∨
    (∃ pin delivery, continuation = .trustedBundle pin delivery) ∧
      (cachedMessage client messageId).isSome

/-- Between two events the client itself has nothing in flight, and each forward waits for
its address, or for a bundle with its message cached. -/
structure Pending (services : Services) : Prop where
  idle : services.client.inFlight = []
  forwards : ∀ entry ∈ services.inFlight, ∀ messageId, entry.callback = .own (some messageId) →
    Forwards messageId services.client entry.exchange.continuation

/-! ## Cached messages -/

def KeepsCached (client client' : ClientState) : Prop :=
  ∀ messageId, (cachedMessage client messageId).isSome → (cachedMessage client' messageId).isSome

theorem keepsCached_of_messages {client client' : ClientState} (kept : KeepsMessages client client') :
    KeepsCached client client' := by
  intro messageId cached
  rwa [cachedMessage, kept]

theorem isSome_apply {messageId now : String} {mutation : JsonLocalStore.StoreMutation}
    {memory memory' : StoreMemory} (applied : mutation.apply now memory = some memory')
    (cached : (LocalMessages.findMessage messageId memory.messages).isSome) :
    (LocalMessages.findMessage messageId memory'.messages).isSome := by
  cases quiet : mutation.ofMessages with
  | false => rwa [JsonLocalStore.messages_apply quiet applied]
  | true =>
    cases mutation with
    | saveMessage message =>
      cases applied
      by_cases same : message.id = messageId
      · subst same
        rw [MessageSync.findMessage_saveMessage_same]
        rfl
      · rwa [MessageSync.findMessage_saveMessage_other message messageId same]
    | markMessageDeletedFor currentUserId deletedId =>
      obtain ⟨marked, done, rfl⟩ := Option.map_eq_some_iff.mp applied
      rw [LocalTombstones.findMessage_markMessageDeletedFor _ _ _ _ done]
      split
      · rwa [Option.isSome_map]
      · exact cached
    | reconcileVisibleMessages currentUserId direction visibleMessageIds =>
      cases applied
      rwa [MessageSync.findMessage_reconcile, Option.isSome_map]
    | markConversationRead currentUserId peerUserId =>
      cases applied
      have found := KeyedList.find_map _
        (LocalTombstones.markedRead_id currentUserId peerUserId now) messageId memory.messages
      refine Eq.mpr (congrArg (fun found => found.isSome = true) found) ?_
      rwa [Option.isSome_map]
    | _ => cases quiet

theorem isSome_mutate {messageId : String} (library : StoreDocuments.StorageLibrary)
    (store : JsonLocalStore) (mutation : JsonLocalStore.StoreMutation) (io : StoreIo) (files : Files)
    (cached : (LocalMessages.findMessage messageId store.memory.messages).isSome) :
    (LocalMessages.findMessage messageId
      (JsonLocalStore.mutate library store mutation io files).2.1.memory.messages).isSome := by
  unfold JsonLocalStore.mutate
  cases applied : mutation.apply io.now store.memory with
  | none => exact cached
  | some memory => exact isSome_apply applied cached

theorem keepsCached_mutate (setup : ClientSetup) (client : ClientState)
    (mutation : JsonLocalStore.StoreMutation) (io : StoreIo) :
    KeepsCached client (client.mutate setup mutation io).2 :=
  fun _ cached => isSome_mutate setup.library client.store mutation io client.files cached

theorem isSome_saveMessages {messageId : String} (library : StoreDocuments.StorageLibrary)
    (saves : List (LocalMessage × StoreIo)) : ∀ (store : JsonLocalStore) (files : Files),
    (LocalMessages.findMessage messageId store.memory.messages).isSome →
    (LocalMessages.findMessage messageId
      (MessageSync.saveMessages library saves store files).2.1.memory.messages).isSome := by
  induction saves with
  | nil => exact fun _ _ cached => cached
  | cons save rest ih =>
    intro store files cached
    obtain ⟨message, io⟩ := save
    have saved := isSome_mutate library store (.saveMessage message) io files cached
    unfold MessageSync.saveMessages
    split
    · next result =>
      rw [result] at saved
      exact saved
    · next store' files' result =>
      rw [result] at saved
      exact ih store' files' saved

theorem keepsCached_saveAndReconcileMessages (setup : ClientSetup) (client : ClientState)
    (messages : MessageList) (direction : MessageDirection) (io : Nat → StoreIo) :
    KeepsCached client
      (MessageService.saveAndReconcileMessages setup client messages direction io) := by
  intro messageId cached
  have saved := isSome_saveMessages setup.library
    (messages.zipIdx.map fun entry => (entry.1, io (entry.2 + 1))) client.store client.files cached
  exact isSome_mutate setup.library _ (.reconcileVisibleMessages client.currentUserId direction
    ((messages.zipIdx.map fun entry => (entry.1, io (entry.2 + 1))).map fun save => save.1.id))
    (io 0) (MessageSync.saveMessages setup.library
      (messages.zipIdx.map fun entry => (entry.1, io (entry.2 + 1))) client.store client.files).2.2 saved

/-! ## What a forward sends -/

/-- The requests that are new in flight wait for what is allowed. -/
def Sends (allowed : Continuation → Prop) (client client' : ClientState) : Prop :=
  ∀ exchange ∈ client'.inFlight, exchange ∈ client.inFlight ∨ allowed exchange.continuation

variable {allowed : Continuation → Prop} {setup : ClientSetup} (client : ClientState) (io : ClientIo)

theorem sends_of_inFlight {client client' : ClientState} (same : client'.inFlight = client.inFlight) :
    Sends allowed client client' := by
  intro exchange member
  rw [same] at member
  exact Or.inl member

theorem sends_send {client client' : ClientState} (same : client'.inFlight = client.inFlight)
    (accessToken : String) (alreadyRetried : Bool) {continuation : Continuation}
    (allows : allowed continuation) :
    Sends allowed client (client'.send accessToken alreadyRetried continuation) := by
  intro exchange member
  rw [ClientState.send, ClientState.awaits, same, List.mem_append, List.mem_singleton] at member
  rcases member with earlier | rfl
  · exact Or.inl earlier
  · exact Or.inr allows

theorem sends_deliver (other : allowed .other) (delivery : Delivery) (bundle : PreKeyBundle) :
    Sends allowed client (MessageService.deliver setup client delivery bundle io) := by
  simp only [MessageService.deliver]
  split
  · exact sends_of_inFlight rfl
  · split
    · exact sends_of_inFlight rfl
    · exact sends_send rfl _ _ other

theorem sends_trustedBundle (other : allowed .other) (delivery : Delivery)
    (bundle : ∀ pin, allowed (.trustedBundle pin delivery)) :
    Sends allowed client (MessageService.trustedBundle setup client delivery io) := by
  simp only [MessageService.trustedBundle]
  split
  · exact sends_deliver client io other delivery _
  · split
    · exact sends_of_inFlight rfl
    · exact sends_send rfl _ _ (bundle _)

theorem sends_bundleArrived (other : allowed .other) (pin : TrustPin) (delivery : Delivery)
    (bundle : PreKeyBundle) :
    Sends allowed client (MessageService.bundleArrived setup client pin delivery bundle io) := by
  unfold MessageService.bundleArrived
  split
  · exact sends_of_inFlight rfl
  · split
    · exact sends_of_inFlight rfl
    · exact sends_deliver { client with lastTrustedBundle := some bundle } io other delivery bundle

/-- A step of a forward sends the message, or waits for the next reply. -/
def ForwardsOn (messageId : String) (client : ClientState) (continuation : Continuation) : Prop :=
  continuation = .other ∨ Forwards messageId client continuation

theorem sends_forwardToAddress (messageId : String) (address : UserAddress) :
    Sends (ForwardsOn messageId client) client
      (MessageService.forwardToAddress setup client messageId address io) := by
  cases found : cachedMessage client messageId with
  | none =>
    unfold cachedMessage at found
    simp only [MessageService.forwardToAddress, MessageService.forwardDelivery,
      MessageService.cachedPlaintext, found]
    exact sends_of_inFlight rfl
  | some message =>
    unfold MessageService.forwardToAddress
    split
    · exact sends_of_inFlight rfl
    · next delivery _ =>
      refine sends_trustedBundle client io (Or.inl rfl) delivery fun pin => Or.inr (Or.inr ?_)
      exact ⟨⟨pin, delivery, rfl⟩, by rw [found]; rfl⟩

theorem forwards_of_keeps {messageId : String} {client client' : ClientState}
    {continuation : Continuation} (kept : KeepsCached client client')
    (forwards : Forwards messageId client continuation) : Forwards messageId client' continuation :=
  forwards.imp_right fun waits => ⟨waits.1, kept messageId waits.2⟩

theorem sends_forwardAddress (messageId : String) (address : UserAddress) :
    Sends (ForwardsOn messageId (MessageService.forwardAddress setup messageId io client address))
      client (MessageService.forwardAddress setup messageId io client address) := by
  have saved := (onlyStores_mutate setup client (.saveKnownUser address) (io.store 0)).inFlight
  unfold MessageService.forwardAddress
  split
  · next result =>
    rw [result] at saved
    exact sends_of_inFlight saved
  · next after result =>
    rw [result] at saved
    have kept := keepsCached_of_messages
      ((keepsMessages_frame setup).forwardToAddress io after messageId address)
    intro exchange member
    refine (sends_forwardToAddress after io messageId address exchange member).imp
      (fun earlier => saved ▸ earlier) fun on => on.imp_right (forwards_of_keeps kept)

theorem sends_forward (messageId recipientUsername : String) :
    Sends (ForwardsOn messageId (MessageService.forward setup client messageId recipientUsername io))
      client (MessageService.forward setup client messageId recipientUsername io) := by
  simp only [MessageService.forward, KeyService.resolveUsername]
  split
  · split
    · exact sends_of_inFlight rfl
    · split
      · exact sends_forwardAddress client io messageId _
      · exact sends_send rfl _ _ (Or.inr (Or.inl rfl))
  · exact sends_of_inFlight rfl

/-- The reply that a forward waits for. -/
theorem sends_callback {messageId : String} {continuation : Continuation} (object : Json.Members)
    (forwards : Forwards messageId client continuation) :
    Sends (ForwardsOn messageId (callback setup client continuation object io)) client
      (callback setup client continuation object io) := by
  rcases forwards with rfl | ⟨⟨pin, delivery, rfl⟩, _⟩
  · simp only [callback, KeyService.addressArrived]
    split
    · exact sends_of_inFlight rfl
    · exact sends_forwardAddress client io messageId _
  · exact sends_bundleArrived client io (Or.inl rfl) pin delivery _

/-! ## Services -/

/-- The client keeps its cached messages, and only callbacks of other services join those in flight. -/
structure Follows (services services' : Services) : Prop where
  idle : services.client.inFlight = [] → services'.client.inFlight = []
  cached : KeepsCached services.client services'.client
  joined : ∀ entry ∈ services'.inFlight, entry ∈ services.inFlight ∨ entry.callback.isOwn = false

theorem Follows.refl (services : Services) : Follows services services :=
  ⟨fun idle => idle, fun _ cached => cached, fun _ member => Or.inl member⟩

theorem Follows.trans {first second third : Services} (before : Follows first second)
    (after : Follows second third) : Follows first third where
  idle := fun idle => after.idle (before.idle idle)
  cached := fun messageId cached => after.cached messageId (before.cached messageId cached)
  joined := fun entry member => (after.joined entry member).elim (before.joined entry) Or.inr

theorem follows_client {services : Services} {after : ClientState}
    (only : OnlyStores services.client after) (kept : KeepsCached services.client after) :
    Follows services { services with client := after } :=
  ⟨fun idle => only.inFlight.trans idle, kept, fun _ member => Or.inl member⟩

theorem follows_mutate (setup : ServiceSetup) (services : Services)
    (mutation : JsonLocalStore.StoreMutation) (io : StoreIo) :
    Follows services (services.mutate setup mutation io).2 :=
  follows_client (onlyStores_mutate setup.toClientSetup services.client mutation io)
    (keepsCached_mutate setup.toClientSetup services.client mutation io)

theorem follows_issueFor (services : Services) (account : Option String) (accessToken : String)
    {callback : ServiceCallback} (other : callback.isOwn = false) :
    Follows services (services.issueFor account accessToken callback) := by
  refine ⟨fun idle => idle, fun _ cached => cached, fun entry member => ?_⟩
  rcases List.mem_append.mp member with earlier | new
  · exact Or.inl earlier
  · rw [List.mem_singleton] at new
    subst new
    exact Or.inr other

theorem follows_frame (setup : ServiceSetup) : ServiceFrame setup Follows where
  refl := .refl
  trans := .trans
  mutates := fun services mutation _ io => follows_mutate setup services mutation io
  issue := fun services accessToken _ => follows_issueFor services _ accessToken

variable {setup : ServiceSetup} (services : Services)

theorem follows_anchorArrived (messageId : String) (reply : Result Json.Members) (io : ServiceIo) :
    Follows services (services.anchorArrived setup messageId reply io) := by
  have stored : Follows services { services with client := { services.client with
      store := (MessageService.anchorArrived setup.library services.client.store messageId reply
        (io.store 0) services.client.files).2.1
      files := (MessageService.anchorArrived setup.library services.client.store messageId reply
        (io.store 0) services.client.files).2.2 } } := by
    refine follows_client (MessageService.onlyStores_anchorArrived setup.toClientSetup
      services.client messageId reply (io.store 0)) ?_
    exact MessageService.anchorArrived_ensures setup.toClientSetup messageId reply (io.store 0)
      (fun _ cached => cached) fun _ _ _ => keepsCached_mutate setup.toClientSetup _ _ _
  simp only [Services.anchorArrived, Services.judged]
  split
  · exact stored.trans (follows_issueFor _ _ _ rfl)
  · exact stored

theorem follows_openConversation (address : UserAddress) (username : String) (page : Int)
    (io : ClientIo) : Follows services (services.openConversation setup address username page io) := by
  have only := MessageService.onlyStores_openConversationFromCache setup.toClientSetup setup.order
    services.client address username page io
  have kept : KeepsCached services.client (MessageService.openConversationFromCache
      setup.toClientSetup setup.order services.client address username page io).2 :=
    MessageService.openConversationFromCache_ensures setup.toClientSetup setup.order address
      username page io (fun _ cached => cached) (keepsCached_mutate setup.toClientSetup _ _ _)
  rw [← Services.client_openConversation] at only kept
  refine ⟨fun idle => only.inFlight.trans idle, kept, fun entry member => Or.inl ?_⟩
  rwa [Services.inFlight_openConversation] at member

theorem follows_listComplete (direction : MessageDirection) (messages : MessageList)
    (purpose : ListPurpose) (io : ServiceIo) :
    Follows services (services.listComplete setup direction messages purpose io) := by
  have saved := follows_client
    (MessageService.onlyStores_saveAndReconcileMessages setup.toClientSetup services.client messages
      direction io.store)
    (keepsCached_saveAndReconcileMessages setup.toClientSetup services.client messages direction
      io.store)
  simp only [Services.listComplete]
  split
  · exact saved.trans (follows_issueFor _ _ _ rfl)
  · exact saved.trans (follows_issueFor _ _ _ rfl)
  · exact saved.trans (follows_openConversation _ _ _ _ _)
  · exact saved

theorem follows_serviceReplied (entry : InFlight) (document : Json) (io : ServiceIo) :
    Follows services (services.serviceReplied setup entry document io) := by
  have frame := follows_frame setup
  simp only [Services.serviceReplied]
  cases entry.callback with
  | own forwarding => exact .refl services
  | quiet => exact .refl services
  | readAddress username page =>
    dsimp only
    split
    · exact .refl services
    · exact frame.readAddressArrived services _ _ _ _
  | listed direction accessToken collected purpose =>
    simp only [Services.pageArrived]
    split
    · exact follows_listComplete services _ _ _ _
    · exact follows_issueFor services _ _ rfl
  | messageSaved localSenderCopy => exact follows_mutate setup services _ _
  | revoked => exact follows_mutate setup services _ _
  | deleted messageId => exact follows_mutate setup services _ _
  | anchor messageId => exact follows_anchorArrived services messageId _ io
  | deviceKeys => exact frame.uploadOneTimePreKeys services io

theorem follows_serviceFailed (entry : InFlight) (error : ClientError) (io : ServiceIo) :
    Follows services (services.serviceFailed setup entry error io) := by
  unfold Services.serviceFailed
  split
  · exact follows_anchorArrived services _ _ io
  · exact .refl services

/-! ## Steps -/

variable {services}

theorem pending_follows {services' : Services} (before : Pending services)
    (follows : Follows services services') : Pending services' where
  idle := follows.idle before.idle
  forwards := by
    intro entry member messageId waiting
    rcases follows.joined entry member with earlier | other
    · exact forwards_of_keeps follows.cached (before.forwards entry earlier messageId waiting)
    · rw [waiting] at other
      cases other

/-- The exchanges of a step of `ClientState`, which leave the forwards in flight as they were. -/
theorem pending_continues {after : ClientState} {forwarding : Option String} (senderCopy : String)
    (kept : ∀ entry ∈ services.inFlight, ∀ messageId, entry.callback = .own (some messageId) →
      Forwards messageId after entry.exchange.continuation)
    (sent : ∀ messageId, forwarding = some messageId → ∀ exchange ∈ after.inFlight,
      ForwardsOn messageId after exchange.continuation) :
    Pending (services.continues after forwarding senderCopy) := by
  refine ⟨rfl, fun entry member messageId waiting => ?_⟩
  rcases List.mem_append.mp member with earlier | new
  · exact kept entry earlier messageId waiting
  · obtain ⟨exchange, belongs, rfl⟩ := List.mem_map.mp new
    simp only [Services.callbackOf] at waiting
    split at waiting
    · cases waiting
    · next unsent =>
      exact (sent messageId (ServiceCallback.own.inj waiting) exchange belongs).resolve_left unsent

/-- An exchange that is sent again keeps its callback and what it waits for. -/
theorem pending_keeps {after : ClientState} {entry : InFlight} (before : Pending services)
    (kept : KeepsCached services.client after)
    (own : ∀ messageId, entry.callback = .own (some messageId) →
      Forwards messageId services.client entry.exchange.continuation)
    (same : ∀ exchange ∈ after.inFlight, exchange.continuation = entry.exchange.continuation) :
    Pending (services.keeps after entry) := by
  refine ⟨rfl, fun other member messageId waiting => ?_⟩
  rcases List.mem_append.mp member with earlier | new
  · exact forwards_of_keeps kept (before.forwards other earlier messageId waiting)
  · obtain ⟨exchange, belongs, rfl⟩ := List.mem_map.mp new
    rw [same exchange belongs]
    exact forwards_of_keeps kept (own messageId waiting)

theorem forwardingOf_eq_some {callback : ServiceCallback} {messageId : String}
    (forwards : Services.forwardingOf callback = some messageId) :
    callback = .own (some messageId) := by
  cases callback with
  | own forwarding => exact congrArg ServiceCallback.own forwards
  | _ => cases forwards

/-- The document of a request reaches a callback of `ClientState`. -/
theorem pending_callback {entry : InFlight} {request : Request} (before : Pending services)
    (own : ∀ messageId, entry.callback = .own (some messageId) →
      Forwards messageId services.client request.continuation)
    (alone : request.continuation.awaitsUser = true →
      ∀ waiting ∈ services.inFlight, waitsForBundle waiting = false)
    (object : Json.Members) (io : ClientIo) (senderCopy : String) :
    Pending (services.continues
      (callback setup.toClientSetup services.client request.continuation object io)
      (Services.forwardingOf entry.callback) senderCopy) := by
  refine pending_continues senderCopy ?_ ?_
  · intro waiting member messageId forwarding
    have forwards := before.forwards waiting member messageId forwarding
    cases awaits : request.continuation.awaitsUser with
    | false =>
      exact forwards_of_keeps (keepsCached_of_messages
        (keepsMessages_callback setup.toClientSetup io services.client object awaits)) forwards
    | true =>
      rcases forwards with address | ⟨⟨pin, delivery, bundle⟩, _⟩
      · exact Or.inl address
      · have idle := alone awaits waiting member
        simp only [waitsForBundle, forwarding, bundle] at idle
        cases idle
  · intro messageId forwarding exchange member
    have forwards := own messageId (forwardingOf_eq_some forwarding)
    have sent := sends_callback services.client io object forwards exchange member
    rw [before.idle] at sent
    exact sent.resolve_left List.not_mem_nil

theorem pending_replied {entry : InFlight} (before : Pending services)
    (own : ∀ messageId, entry.callback = .own (some messageId) →
      Forwards messageId services.client entry.exchange.continuation)
    (response : DocumentResponse) (io : ServiceIo)
    (alone : ∀ document request, response = .success document → entry.exchange = .request request →
      request.continuation.awaitsUser = true →
      ∀ waiting ∈ services.inFlight, waitsForBundle waiting = false) :
    Pending (services.replied setup entry response io) := by
  have failed (error : ClientError) : Pending (services.serviceFailed setup entry error io) :=
    pending_follows before (follows_serviceFailed services entry error io)
  cases sent : entry.exchange with
  | refresh previousRefreshToken retried =>
    cases response with
    | failure statusCode error =>
      simp only [Services.replied, sent]
      exact failed error
    | success document =>
      simp only [Services.replied, sent]
      obtain ⟨resent, inFlight, same⟩ := SessionService.inFlight_tokensRefreshed setup.toClientSetup
        io.toClientIo services.client previousRefreshToken retried
        (QJsonValue.toObject (some document))
      refine pending_keeps before (keepsCached_of_messages
        (SessionService.keepsMessages_tokensRefreshed setup.toClientSetup io.toClientIo _ _ _ _)) own ?_
      intro exchange member
      simp only [finished, DocumentResponse.toResponse] at member
      rw [inFlight, before.idle, List.nil_append, List.mem_singleton] at member
      subst member
      rw [sent]
      exact same
  | request request =>
    cases response with
    | failure statusCode error =>
      simp only [Services.replied, sent]
      split
      · next refreshes =>
        refine pending_keeps before ?_ own ?_
        · simp only [finished, DocumentResponse.toResponse, if_pos refreshes]
          exact fun _ cached => cached
        · intro exchange member
          simp only [finished, DocumentResponse.toResponse, if_pos refreshes, ClientState.awaits,
            before.idle, List.nil_append, List.mem_singleton] at member
          subst member
          rw [sent]
          rfl
      · exact failed error
    | success document =>
      simp only [Services.replied, sent]
      split
      · exact pending_follows before (follows_serviceReplied services entry document io)
      · rw [sent] at own
        exact pending_callback before own (alone document request rfl sent) _ io.toClientIo _

/-- A login's user arrives while no forward waits for a bundle. -/
def LoadsAlone (services : Services) (event : ServiceEvent × ServiceIo) : Prop :=
  ∀ index document entry request, event.1 = .reply index (.success document) →
    services.inFlight[index]? = some entry → entry.exchange = .request request →
    request.continuation.awaitsUser = true → ∀ waiting ∈ services.inFlight, waitsForBundle waiting = false

theorem pending_step {services' : Services} {event : ServiceEvent × ServiceIo}
    (before : Pending services) (alone : LoadsAlone services event)
    (moved : servicesStep setup services event = some services') : Pending services' := by
  obtain ⟨event, io⟩ := event
  have quiet := keepsMessages_frame setup.toClientSetup
  have commanded {after : ClientState} (senderCopy : String)
      (kept : KeepsMessages services.client after) :
      Pending (services.continues after none senderCopy) := by
    refine pending_continues senderCopy (fun entry member messageId waiting => ?_) nofun
    exact forwards_of_keeps (keepsCached_of_messages kept)
      (before.forwards entry member messageId waiting)
  cases event with
  | login password => exact Option.some.inj moved ▸ commanded _ rfl
  | logout => exact Option.some.inj moved ▸ commanded _ rfl
  | trust username =>
    exact Option.some.inj moved ▸ commanded _ (quiet.trustUsername io.toClientIo services.client _)
  | send recipientUsername plaintext =>
    exact Option.some.inj moved ▸ commanded _ (quiet.send io.toClientIo services.client _ _)
  | forward messageId recipientUsername =>
    refine Option.some.inj moved ▸ pending_continues _ ?_ ?_
    · intro entry member forwarded waiting
      exact forwards_of_keeps
        (keepsCached_of_messages (quiet.forward io.toClientIo services.client _ _))
        (before.forwards entry member forwarded waiting)
    · intro forwarded same exchange member
      cases same
      have sent := sends_forward services.client io.toClientIo messageId recipientUsername exchange
        member
      rw [before.idle] at sent
      exact sent.resolve_left List.not_mem_nil
  | download messageId =>
    rw [← Option.some.inj moved]
    unfold Services.download
    split
    · exact before
    · exact ⟨before.idle, before.forwards⟩
  | reply index response =>
    obtain ⟨entry, present, rfl⟩ := Option.map_eq_some_iff.mp moved
    have erased : Pending { services with inFlight := services.inFlight.eraseIdx index } :=
      ⟨before.idle, fun other member => before.forwards other (List.mem_of_mem_eraseIdx member)⟩
    refine pending_replied erased (before.forwards entry (List.mem_of_getElem? present)) response io ?_
    rintro document request rfl sent awaits waiting member
    exact alone index document entry request rfl present sent awaits waiting
      (List.mem_of_mem_eraseIdx member)
  | _ => exact pending_follows before ((follows_frame setup).commanded rfl moved)

end EpicKfc.Guarantees.PendingForwards
