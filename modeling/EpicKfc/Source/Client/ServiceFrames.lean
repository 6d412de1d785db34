import EpicKfc.Source.Client.ClientFrames
import EpicKfc.Source.Client.ClientServices

/-!
# What the services leave alone

Only a login moves the store. A callback that works on the store alone keeps the
session and sends nothing.
-/

namespace EpicKfc.Source.Client
open EpicKfc.Lib

namespace ClientState

/-- Only the memory of the store and its files change. -/
structure OnlyStores (client client' : ClientState) : Prop where
  path : client'.store.path = client.store.path
  indexPath : client'.store.indexPath = client.store.indexPath
  session : client'.session = client.session
  inFlight : client'.inFlight = client.inFlight

theorem OnlyStores.refl (client : ClientState) : OnlyStores client client := ⟨rfl, rfl, rfl, rfl⟩

theorem OnlyStores.trans {first second third : ClientState} (before : OnlyStores first second)
    (after : OnlyStores second third) : OnlyStores first third where
  path := after.path.trans before.path
  indexPath := after.indexPath.trans before.indexPath
  session := after.session.trans before.session
  inFlight := after.inFlight.trans before.inFlight

theorem onlyStores_mutate (setup : ClientSetup) (client : ClientState)
    (mutation : JsonLocalStore.StoreMutation) (io : StoreIo) :
    OnlyStores client (client.mutate setup mutation io).2 := by
  obtain ⟨files, same⟩ := mutate_eq setup client mutation io
  rw [same]
  exact ⟨rfl, rfl, rfl, rfl⟩

/-- The store stays where it is, and nobody logs in. -/
structure KeepsPlace (client client' : ClientState) : Prop where
  path : client'.store.path = client.store.path
  indexPath : client'.store.indexPath = client.store.indexPath
  account : ∀ account, client'.currentAccount = some account → client.currentAccount = some account

theorem KeepsPlace.refl (client : ClientState) : KeepsPlace client client :=
  ⟨rfl, rfl, fun _ here => here⟩

theorem OnlyStores.keepsPlace {client client' : ClientState} (only : OnlyStores client client') :
    KeepsPlace client client' := by
  refine ⟨only.path, only.indexPath, fun account here => ?_⟩
  unfold currentAccount at here ⊢
  rwa [only.session] at here

theorem SameIdentity.keepsPlace {client client' : ClientState} (same : SameIdentity client client') :
    KeepsPlace client client' := by
  refine ⟨same.path, same.indexPath, fun account here => ?_⟩
  have users : client'.currentAccount = client.currentAccount := by
    have sameIds := congrArg (Option.map (·.id)) same.user
    rwa [Option.map_map, Option.map_map] at sameIds
  exact users ▸ here

end ClientState

/-! ## Saved lists -/

/-- A store at the same place. -/
def SamePlace (store store' : JsonLocalStore) : Prop :=
  store'.path = store.path ∧ store'.indexPath = store.indexPath

theorem place_mutate (library : StoreDocuments.StorageLibrary) (store : JsonLocalStore)
    (mutation : JsonLocalStore.StoreMutation) (io : StoreIo) (files : Files) :
    SamePlace store (JsonLocalStore.mutate library store mutation io files).2.1 := by
  unfold JsonLocalStore.mutate
  split <;> exact ⟨rfl, rfl⟩

theorem place_saveMessages (library : StoreDocuments.StorageLibrary)
    (saves : List (LocalMessage × StoreIo)) : ∀ (store : JsonLocalStore) (files : Files),
    SamePlace store (MessageSync.saveMessages library saves store files).2.1 := by
  induction saves with
  | nil => exact fun _ _ => ⟨rfl, rfl⟩
  | cons save rest ih =>
    intro store files
    obtain ⟨message, io⟩ := save
    have saved := place_mutate library store (.saveMessage message) io files
    unfold MessageSync.saveMessages
    split
    · next result =>
      rw [result] at saved
      exact saved
    · next store' files' result =>
      rw [result] at saved
      have later := ih store' files'
      exact ⟨later.1.trans saved.1, later.2.trans saved.2⟩

theorem place_saveAndReconcileMessages (library : StoreDocuments.StorageLibrary)
    (currentUserId : String) (direction : MessageDirection) (saves : List (LocalMessage × StoreIo))
    (reconcileIo : StoreIo) (store : JsonLocalStore) (files : Files) :
    SamePlace store (MessageSync.saveAndReconcileMessages library currentUserId direction saves
      reconcileIo store files).2.1 := by
  have saved := place_saveMessages library saves store files
  have reconciled := place_mutate library (MessageSync.saveMessages library saves store files).2.1
    (.reconcileVisibleMessages currentUserId direction (saves.map fun save => save.1.id)) reconcileIo
    (MessageSync.saveMessages library saves store files).2.2
  exact ⟨reconciled.1.trans saved.1, reconciled.2.trans saved.2⟩

open ClientState

namespace MessageService

variable (setup : ClientSetup)

theorem onlyStores_saveAndReconcileMessages (client : ClientState) (messages : MessageList)
    (direction : MessageDirection) (io : Nat → StoreIo) :
    OnlyStores client (saveAndReconcileMessages setup client messages direction io) := by
  obtain ⟨path, indexPath⟩ := place_saveAndReconcileMessages setup.library client.currentUserId
    direction (messages.zipIdx.map fun entry => (entry.1, io (entry.2 + 1))) (io 0)
    client.store client.files
  exact ⟨path, indexPath, rfl, rfl⟩

/-- Opening a conversation marks it read, or does nothing to the client. -/
theorem openConversationFromCache_ensures {ensured : ClientState → Prop} {client : ClientState}
    (order : CreatedAtSort) (address : UserAddress) (username : String) (page : Int) (io : ClientIo)
    (same : ensured client) (marked : ensured (client.mutate setup
      (.markConversationRead client.currentUserId address.userId) (io.store 0)).2) :
    ensured (openConversationFromCache setup order client address username page io).2 := by
  simp only [openConversationFromCache]
  split
  · exact same
  · split
    · exact same
    · split <;>
      · next result =>
        rw [result] at marked
        exact marked

theorem onlyStores_openConversationFromCache (order : CreatedAtSort) (client : ClientState)
    (address : UserAddress) (username : String) (page : Int) (io : ClientIo) :
    OnlyStores client
      (openConversationFromCache setup order client address username page io).2 :=
  openConversationFromCache_ensures setup order address username page io (.refl client)
    (onlyStores_mutate setup client _ _)

/-- An anchor that arrives is saved with the cached message it belongs to, if there is one. -/
theorem anchorArrived_ensures {ensured : ClientState → Prop} {client : ClientState}
    (messageId : String) (reply : Result Json.Members) (io : StoreIo) (same : ensured client)
    (saved : ∀ cached ∈ client.store.memory.messages, ∀ anchor, ensured
      (client.mutate setup (.saveMessage { cached with cachedAnchor := anchor }) io).2) :
    let arrived := anchorArrived setup.library client.store messageId reply io client.files
    ensured { client with store := arrived.2.1, files := arrived.2.2 } := by
  cases reply with
  | error error => exact same
  | ok object =>
    simp only [anchorArrived, cacheAnchor]
    split
    · next cached found => exact saved cached (KeyedList.find_some found).1 _
    · exact same

theorem onlyStores_anchorArrived (client : ClientState) (messageId : String)
    (reply : Result Json.Members) (io : StoreIo) :
    let arrived := anchorArrived setup.library client.store messageId reply io client.files
    OnlyStores client { client with store := arrived.2.1, files := arrived.2.2 } :=
  anchorArrived_ensures setup messageId reply io (.refl client) fun _ _ _ =>
    onlyStores_mutate setup client _ _

end MessageService

variable (setup : ClientSetup) (io : ClientIo)

namespace SessionService

theorem keepsPlace_loggedOut (client : ClientState) :
    KeepsPlace client (loggedOut setup client io) := by
  have cleared := (onlyStores_mutate setup { client with tokens := {}, session := none }
    .clearSession (io.store 0)).keepsPlace
  unfold loggedOut
  split
  · next result =>
    rw [result] at cleared
    exact ⟨cleared.path, cleared.indexPath, fun account here => nomatch cleared.account account here⟩
  · next result =>
    rw [result] at cleared
    exact ⟨cleared.path, cleared.indexPath, fun account here => nomatch cleared.account account here⟩

theorem inFlight_updateTokens (client : ClientState) (tokens : TokenSet) :
    (updateTokens setup client tokens io).inFlight = client.inFlight := by
  unfold updateTokens
  split
  · rfl
  · exact (onlyStores_mutate setup _ _ _).inFlight

theorem keepsPlace_tokensRefreshed (client : ClientState) (previousRefreshToken : String)
    (retried : Request) (object : Json.Members) :
    KeepsPlace client (tokensRefreshed setup client previousRefreshToken retried object io) := by
  have updated := (sameIdentity_updateTokens setup io
    { client with tokens := refreshedTokens previousRefreshToken object }
    (refreshedTokens previousRefreshToken object)).keepsPlace
  exact ⟨updated.path, updated.indexPath, updated.account⟩

theorem inFlight_tokensRefreshed (client : ClientState) (previousRefreshToken : String)
    (retried : Request) (object : Json.Members) : ∃ resent : Request,
    (tokensRefreshed setup client previousRefreshToken retried object io).inFlight =
      client.inFlight ++ [.request resent] ∧ resent.continuation = retried.continuation := by
  simp only [tokensRefreshed, ClientState.send, awaits, inFlight_updateTokens]
  exact ⟨_, rfl, rfl⟩

end SessionService

/-- The callback of every request but that of a login's user. -/
theorem keepsPlace_callback (client : ClientState) {continuation : Continuation}
    (object : Json.Members) (quiet : continuation.awaitsUser = false) :
    KeepsPlace client (callback setup client continuation object io) := by
  cases session : continuation.ofSession with
  | false => exact ((sameIdentity_frame setup).callback io client object session).keepsPlace
  | true =>
    cases continuation with
    | loginTokens password => exact ⟨rfl, rfl, fun _ here => here⟩
    | loginUser tokens password => cases quiet
    | logout => exact SessionService.keepsPlace_loggedOut setup io client
    | _ => cases session

/-! ## Messages -/

namespace SessionService

theorem keepsMessages_loggedOut (client : ClientState) :
    KeepsMessages client (loggedOut setup client io) := by
  have cleared : KeepsMessages client
      ({ client with tokens := {}, session := none }.mutate setup .clearSession (io.store 0)).2 :=
    keepsMessages_mutate setup _ rfl _
  unfold loggedOut
  split
  · next result =>
    rw [result] at cleared
    exact cleared
  · next result =>
    rw [result] at cleared
    exact cleared

theorem keepsMessages_updateTokens (client : ClientState) (tokens : TokenSet) :
    KeepsMessages client (updateTokens setup client tokens io) := by
  unfold updateTokens
  split
  · rfl
  · next session _ =>
    exact keepsMessages_mutate setup { client with session := some { session with tokens := tokens } }
      rfl (io.store 0)

theorem keepsMessages_tokensRefreshed (client : ClientState) (previousRefreshToken : String)
    (retried : Request) (object : Json.Members) :
    KeepsMessages client (tokensRefreshed setup client previousRefreshToken retried object io) :=
  keepsMessages_updateTokens setup io
    { client with tokens := refreshedTokens previousRefreshToken object } _

end SessionService

/-- Only the user of a login brings other messages. -/
theorem keepsMessages_callback (client : ClientState) {continuation : Continuation}
    (object : Json.Members) (quiet : continuation.awaitsUser = false) :
    KeepsMessages client (callback setup client continuation object io) := by
  cases session : continuation.ofSession with
  | false => exact (keepsMessages_frame setup).callback io client object session
  | true =>
    cases continuation with
    | loginTokens password => rfl
    | loginUser tokens password => cases quiet
    | logout => exact SessionService.keepsMessages_loggedOut setup io client
    | _ => cases session

/-! ## Services -/

theorem Services.client_openConversation (setup : ServiceSetup) (services : Services)
    (address : UserAddress) (username : String) (page : Int) (io : ClientIo) :
    (services.openConversation setup address username page io).client =
      (MessageService.openConversationFromCache setup.toClientSetup setup.order services.client
        address username page io).2 := by
  unfold Services.openConversation
  split <;>
  · next result => exact (congrArg Prod.snd result).symm

theorem Services.inFlight_openConversation (setup : ServiceSetup) (services : Services)
    (address : UserAddress) (username : String) (page : Int) (io : ClientIo) :
    (services.openConversation setup address username page io).inFlight = services.inFlight := by
  unfold Services.openConversation
  split <;> rfl

def ServiceCallback.isOwn : ServiceCallback → Bool
  | .own _ => true
  | _ => false

/-- The commands that the services carry out without a step of `ClientState` and without a release. -/
def ServiceEvent.ofServices : ServiceEvent → Bool
  | .login _ | .logout | .trust _ | .send _ _ | .forward _ _ | .download _ | .reply _ _ => false
  | _ => true

/-- A relation that the services keep where they neither work on messages nor run a callback of
`ClientState`: other store operations and their own requests are all that happens there. -/
structure ServiceFrame (setup : ServiceSetup) (kept : Services → Services → Prop) : Prop where
  refl : ∀ services, kept services services
  trans : ∀ {first second third}, kept first second → kept second third → kept first third
  mutates : ∀ services {mutation : JsonLocalStore.StoreMutation}, mutation.ofMessages = false →
    ∀ io, kept services (services.mutate setup mutation io).2
  issue : ∀ services accessToken {callback : ServiceCallback}, callback.isOwn = false →
    kept services (services.issue accessToken callback)

namespace ServiceFrame

variable {setup : ServiceSetup} {kept : Services → Services → Prop}
  (frame : ServiceFrame setup kept) (services : Services)

include frame

theorem issueAuthenticated {callback : String → ServiceCallback}
    (other : ∀ accessToken, (callback accessToken).isOwn = false) :
    kept services (services.issueAuthenticated callback) := by
  unfold Services.issueAuthenticated
  split
  · exact frame.issue services _ (other _)
  · exact frame.refl services

variable {services}

theorem mutated {mutation : JsonLocalStore.StoreMutation} {io : StoreIo} {result : Result Unit}
    {after : Services} (quiet : mutation.ofMessages = false)
    (changed : services.mutate setup mutation io = (result, after)) : kept services after := by
  have saved := frame.mutates services quiet io
  rwa [changed] at saved

variable (services)

theorem uploadOneTimePreKeys (io : ServiceIo) :
    kept services (services.uploadOneTimePreKeys setup io) := by
  simp only [Services.uploadOneTimePreKeys]
  split
  · split
    · exact frame.refl services
    · split
      · next result => exact frame.mutated rfl result
      · next result => exact frame.trans (frame.mutated rfl result) (frame.issue _ _ rfl)
  · exact frame.issue services _ rfl

theorem ensureDeviceKeysUploaded (io : ServiceIo) :
    kept services (services.ensureDeviceKeysUploaded setup io) := by
  unfold Services.ensureDeviceKeysUploaded
  split
  · split
    · exact frame.refl services
    · split
      · next result => exact frame.mutated rfl result
      · next result => exact frame.trans (frame.mutated rfl result) (frame.issue _ _ rfl)
  · exact frame.refl services

theorem readAddressArrived (address : UserAddress) (username : String) (page : Int)
    (io : ServiceIo) :
    kept services (services.readAddressArrived setup address username page io) := by
  unfold Services.readAddressArrived
  split
  · next result => exact frame.mutated rfl result
  · next result => exact frame.trans (frame.mutated rfl result) (frame.issue _ _ rfl)

theorem readConversation (username : String) (page : Int) (io : ServiceIo) :
    kept services (services.readConversation setup username page io) := by
  simp only [Services.readConversation]
  split
  · exact frame.refl services
  · split
    · exact frame.readAddressArrived services _ _ _ _
    · exact frame.issue services _ rfl

/-- Such a command makes store operations and requests of the services only. -/
theorem commanded {services services' : Services} {event : ServiceEvent × ServiceIo}
    (own : event.1.ofServices = true) (moved : servicesStep setup services event = some services') :
    kept services services' := by
  obtain ⟨event, io⟩ := event
  cases event with
  | registerUser => exact Option.some.inj moved ▸ frame.issue services _ rfl
  | ensureDeviceKeysUploaded =>
    exact Option.some.inj moved ▸ frame.ensureDeviceKeysUploaded services io
  | listReceived =>
    exact Option.some.inj moved ▸ frame.issueAuthenticated services fun _ => rfl
  | listSent => exact Option.some.inj moved ▸ frame.issueAuthenticated services fun _ => rfl
  | listConversations =>
    exact Option.some.inj moved ▸ frame.issueAuthenticated services fun _ => rfl
  | listUnreadSenders =>
    exact Option.some.inj moved ▸ frame.issueAuthenticated services fun _ => rfl
  | readConversation username page =>
    exact Option.some.inj moved ▸ frame.readConversation services username page io
  | revoke messageId => exact Option.some.inj moved ▸ frame.issue services _ rfl
  | deleteMessage messageId => exact Option.some.inj moved ▸ frame.issue services _ rfl
  | verify messageId => exact Option.some.inj moved ▸ frame.issue services _ rfl
  | _ => cases own

end ServiceFrame

theorem releases_frame (setup : ServiceSetup) :
    ServiceFrame setup fun services services' => services'.releases = services.releases where
  refl := fun _ => rfl
  trans := fun before after => after.trans before
  mutates := fun _ _ _ _ => rfl
  issue := fun _ _ _ _ => rfl

theorem messages_frame (setup : ServiceSetup) :
    ServiceFrame setup fun services services' => KeepsMessages services.client services'.client where
  refl := fun _ => rfl
  trans := fun before after => after.trans before
  mutates := fun services _ quiet io =>
    keepsMessages_mutate setup.toClientSetup services.client quiet io
  issue := fun _ _ _ _ => rfl

end EpicKfc.Source.Client
