import EpicKfc.Lib.Runs
import EpicKfc.Source.Client.ClientFrames

/-!
# Pins behind every encryption for a recipient

The pin is compared when a bundle arrives, and the bundle may be used later: from
the cache, or after a fetch that captured its pin. It is still the pinned one
when the reply named the device that was asked for, and when no login in between
has loaded a store with other pins.
-/

namespace EpicKfc.Guarantees.TrustPinning
open EpicKfc.Lib
open EpicKfc.Source.Client
open EpicKfc.Source.Client.ClientState

variable (setup : ClientSetup) (io : ClientIo)

/-- The store pins this identity key for the device. -/
def Pinned (memory : StoreMemory) (userId : String) (deviceId : Int) (identityKey : String) :
    Prop :=
  ∃ pin, JsonLocalStore.trustPin userId deviceId memory = some pin ∧ pin.identityKey = identityKey

/-- A delivery waits for the bundle of its recipient, with the pin it captured. -/
def Fetching (client : ClientState) (pin : TrustPin) (delivery : Delivery) : Prop :=
  ∃ exchange ∈ client.inFlight, exchange.continuation = .trustedBundle pin delivery

/-- The pins behind the cached bundle and behind the deliveries that wait. -/
structure PinsBehind (client : ClientState) (memory : StoreMemory) : Prop where
  cached : ∀ bundle, client.lastTrustedBundle = some bundle →
    Pinned memory bundle.userId bundle.deviceId bundle.identityKey
  fetching : ∀ pin delivery, Fetching client pin delivery →
    Pinned memory delivery.recipientAddress.userId delivery.recipientAddress.deviceId
      pin.identityKey

/-- The reply of a bundle names the device that was asked for, and a login loads a
store that pins what the cache and the waiting deliveries rely on. -/
def KeepsPins (client : ClientState) (io : ClientIo) (object : Json.Members) :
    Continuation → Prop
  | .trustBundle address => (bundleFromJson address.userId object).deviceId = address.deviceId
  | .trustedBundle _ delivery =>
    (bundleFromJson delivery.recipientAddress.userId object).deviceId =
      delivery.recipientAddress.deviceId
  | .loginUser _ password =>
    PinsBehind client (SessionService.loginStore setup client.store client.files
      (StoreDocuments.userFromJson object).id password io).2.1.memory
  | _ => True

def TrustSafe (client : ClientState) (event : ClientEvent × ClientIo) : Prop :=
  ∀ index object, event.1 = .reply index (.success object) → ∀ request,
    client.inFlight[index]? = some (.request request) →
    KeepsPins setup client event.2 object request.continuation

/-- A client that has fetched no bundle yet. -/
def Fresh (client : ClientState) : Prop :=
  client.lastTrustedBundle = none ∧ client.inFlight = [] ∧ client.encryptions = []

structure PinsHold (client : ClientState) : Prop where
  behind : PinsBehind client client.store.memory
  used : ∀ encryption ∈ client.encryptions, ∃ pin,
    encryption.pinned = some pin ∧ pin.identityKey = encryption.bundle.identityKey

/-! ## Frames -/

/-- Pins stay, and nothing that relies on a pin is added. -/
structure KeepsTrust (client client' : ClientState) : Prop where
  pins : ∀ userId deviceId identityKey, Pinned client.store.memory userId deviceId identityKey →
    Pinned client'.store.memory userId deviceId identityKey
  bundle : client'.lastTrustedBundle = client.lastTrustedBundle
  fetching : ∀ pin delivery, Fetching client' pin delivery → Fetching client pin delivery
  encryptions : client'.encryptions = client.encryptions

/-- A change of the session, the tokens or the place of the store. -/
theorem KeepsTrust.of_eq {client client' : ClientState}
    (memory : client'.store.memory = client.store.memory)
    (bundle : client'.lastTrustedBundle = client.lastTrustedBundle)
    (inFlight : client'.inFlight = client.inFlight)
    (encryptions : client'.encryptions = client.encryptions) : KeepsTrust client client' := by
  refine ⟨fun _ _ _ holds => memory ▸ holds, bundle, ?_, encryptions⟩
  rintro pin delivery ⟨exchange, member, waits⟩
  exact ⟨exchange, inFlight ▸ member, waits⟩

theorem KeepsTrust.refl (client : ClientState) : KeepsTrust client client :=
  .of_eq rfl rfl rfl rfl

theorem KeepsTrust.trans {first second third : ClientState} (before : KeepsTrust first second)
    (after : KeepsTrust second third) : KeepsTrust first third where
  pins := fun _ _ _ holds => after.pins _ _ _ (before.pins _ _ _ holds)
  bundle := after.bundle.trans before.bundle
  fetching := fun _ _ waits => before.fetching _ _ (after.fetching _ _ waits)
  encryptions := after.encryptions.trans before.encryptions

theorem pinsHold_keepsTrust {client client' : ClientState} (before : PinsHold client)
    (keeps : KeepsTrust client client') : PinsHold client' := by
  refine ⟨⟨?_, ?_⟩, ?_⟩
  · intro bundle held
    exact keeps.pins _ _ _ (before.behind.cached bundle (keeps.bundle ▸ held))
  · intro pin delivery waits
    exact keeps.pins _ _ _ (before.behind.fetching pin delivery (keeps.fetching pin delivery waits))
  · intro encryption member
    exact before.used encryption (keeps.encryptions ▸ member)

theorem keepsTrust_awaits {client client' : ClientState} {exchange : Exchange}
    (keeps : KeepsTrust client client')
    (known : ∀ pin delivery, exchange.continuation = .trustedBundle pin delivery →
      Fetching client pin delivery) : KeepsTrust client (client'.awaits exchange) := by
  refine ⟨keeps.pins, keeps.bundle, ?_, keeps.encryptions⟩
  rintro pin delivery ⟨other, member, waits⟩
  obtain earlier | new := List.mem_append.mp member
  · exact keeps.fetching pin delivery ⟨other, earlier, waits⟩
  · rw [List.mem_singleton] at new
    exact known pin delivery (new ▸ waits)

theorem keepsTrust_send {client client' : ClientState} {accessToken : String}
    {alreadyRetried : Bool} {continuation : Continuation} (keeps : KeepsTrust client client')
    (quiet : ∀ pin delivery, continuation ≠ .trustedBundle pin delivery) :
    KeepsTrust client (client'.send accessToken alreadyRetried continuation) :=
  keepsTrust_awaits keeps fun pin delivery waits => absurd waits (quiet pin delivery)

theorem keepsTrust_answered (client : ClientState) (index : Nat) :
    KeepsTrust client (client.answered index) := by
  refine ⟨fun _ _ _ holds => holds, rfl, ?_, rfl⟩
  rintro pin delivery ⟨exchange, member, waits⟩
  exact ⟨exchange, List.mem_of_mem_eraseIdx member, waits⟩

/-- Only `saveTrustPin` changes the pins. -/
theorem apply_trustPins {mutation : JsonLocalStore.StoreMutation} {now : String}
    {memory : StoreMemory} (other : ∀ pin, mutation ≠ .saveTrustPin pin) :
    ((mutation.apply now memory).getD memory).trustPins = memory.trustPins := by
  cases mutation with
  | saveTrustPin pin => exact absurd rfl (other pin)
  | saveKnownUser address =>
    simp only [JsonLocalStore.StoreMutation.apply]
    split <;> rfl
  | markMessageDeletedFor currentUserId messageId =>
    simp only [JsonLocalStore.StoreMutation.apply]
    cases LocalMessages.markMessageDeletedFor currentUserId messageId now memory.messages <;> rfl
  | _ => rfl

theorem keepsTrust_mutate (client : ClientState) {mutation : JsonLocalStore.StoreMutation}
    (storeIo : StoreIo) (other : ∀ pin, mutation ≠ .saveTrustPin pin) :
    KeepsTrust client (client.mutate setup mutation storeIo).2 := by
  obtain ⟨files, same⟩ := mutate_eq setup client mutation storeIo
  rw [same]
  refine ⟨?_, rfl, fun _ _ waits => waits, rfl⟩
  rintro userId deviceId identityKey ⟨pin, found, key⟩
  refine ⟨pin, ?_, key⟩
  unfold JsonLocalStore.trustPin
  rw [apply_trustPins other]
  exact found

/-- A first pin is added beside those that are there. -/
theorem pinned_saveTrustPin {client : ClientState} {pin : TrustPin} (storeIo : StoreIo)
    (first : client.trustPin pin.userId pin.deviceId = none) :
    Pinned (client.mutate setup (.saveTrustPin pin) storeIo).2.store.memory pin.userId pin.deviceId
      pin.identityKey ∧
    KeepsTrust client (client.mutate setup (.saveTrustPin pin) storeIo).2 := by
  obtain ⟨files, same⟩ := mutate_eq setup client (.saveTrustPin pin) storeIo
  have finds (userId : String) (deviceId : Int) : JsonLocalStore.trustPin userId deviceId
      { client.store.memory with
        trustPins := KeyedList.upsert JsonLocalStore.trustPinKey pin client.store.memory.trustPins } =
      if JsonLocalStore.trustPinKey pin = (userId, deviceId) then some pin
      else client.trustPin userId deviceId := by
    unfold JsonLocalStore.trustPin
    rw [KeyedList.find_upsert]
    rfl
  rw [same]
  refine ⟨⟨pin, ?_, rfl⟩, ?_, rfl, fun _ _ waits => waits, rfl⟩
  · exact (finds pin.userId pin.deviceId).trans (if_pos rfl)
  · rintro userId deviceId identityKey ⟨earlier, found, key⟩
    refine ⟨earlier, (finds userId deviceId).trans ?_, key⟩
    rw [if_neg]
    · exact found
    · intro here
      cases here
      exact absurd (first.symm.trans found) (by simp)

/-! ## Callbacks that use bundles -/

/-- The bundle that is cached now is pinned. -/
theorem pinsHold_cached {client : ClientState} {bundle : PreKeyBundle} (before : PinsHold client)
    (pinned : Pinned client.store.memory bundle.userId bundle.deviceId bundle.identityKey) :
    PinsHold { client with lastTrustedBundle := some bundle } := by
  refine ⟨⟨?_, before.behind.fetching⟩, before.used⟩
  intro other held
  cases held
  exact pinned

theorem pinsHold_trustBundle {client : ClientState} {address : UserAddress}
    {bundle : PreKeyBundle} (before : PinsHold client) (user : bundle.userId = address.userId)
    (device : bundle.deviceId = address.deviceId) :
    PinsHold (KeyService.trustBundle setup client address bundle io) := by
  simp only [KeyService.trustBundle]
  split
  · exact before
  · split
    · next first =>
      have saved := @pinned_saveTrustPin setup client
        ⟨address.userId, address.deviceId, bundle.identityKey, io.now⟩ (io.store 0) first
      split
      · next result =>
        rw [result] at saved
        exact pinsHold_keepsTrust before saved.2
      · next result =>
        rw [result] at saved
        refine pinsHold_cached (pinsHold_keepsTrust before saved.2) ?_
        rw [user, device]
        exact saved.1
    · next pin found =>
      split
      · exact before
      · next same =>
        refine pinsHold_cached before ⟨pin, ?_, not_not.mp same⟩
        rw [user, device]
        exact found

theorem pinsHold_deliver {client : ClientState} {delivery : Delivery} {bundle : PreKeyBundle}
    (before : PinsHold client)
    (pinned : Pinned client.store.memory delivery.recipientAddress.userId
      delivery.recipientAddress.deviceId bundle.identityKey) :
    PinsHold (MessageService.deliver setup client delivery bundle io) := by
  have recorded : PinsHold { client with encryptions := client.encryptions ++
      [⟨delivery.recipientAddress, bundle, client.trustPin delivery.recipientAddress.userId
        delivery.recipientAddress.deviceId⟩] } := by
    refine ⟨⟨before.behind.cached, before.behind.fetching⟩, ?_⟩
    intro encryption member
    obtain earlier | new := List.mem_append.mp member
    · exact before.used encryption earlier
    · rw [List.mem_singleton] at new
      subst new
      exact pinned
  simp only [MessageService.deliver]
  split
  · exact recorded
  · split
    · exact recorded
    · exact pinsHold_keepsTrust recorded (keepsTrust_send (.refl _) (by simp))

theorem pinsHold_trustedBundle {client : ClientState} (delivery : Delivery)
    (before : PinsHold client) : PinsHold (MessageService.trustedBundle setup client delivery io) := by
  simp only [MessageService.trustedBundle]
  split
  · next bundle cached =>
    obtain ⟨held, matches'⟩ := Option.filter_eq_some_iff.mp cached
    obtain ⟨user, device⟩ := of_decide_eq_true matches'
    refine pinsHold_deliver setup io before ?_
    rw [← user, ← device]
    exact before.behind.cached bundle held
  · split
    · exact before
    · next pin found =>
      refine ⟨⟨before.behind.cached, ?_⟩, before.used⟩
      rintro other waiting ⟨exchange, member, waits⟩
      obtain earlier | new := List.mem_append.mp member
      · exact before.behind.fetching other waiting ⟨exchange, earlier, waits⟩
      · rw [List.mem_singleton] at new
        subst new
        cases waits
        exact ⟨pin, found, rfl⟩

theorem pinsHold_bundleArrived {client : ClientState} {pin : TrustPin} {delivery : Delivery}
    {bundle : PreKeyBundle} (before : PinsHold client)
    (pinned : Pinned client.store.memory delivery.recipientAddress.userId
      delivery.recipientAddress.deviceId pin.identityKey)
    (user : bundle.userId = delivery.recipientAddress.userId)
    (device : bundle.deviceId = delivery.recipientAddress.deviceId) :
    PinsHold (MessageService.bundleArrived setup client pin delivery bundle io) := by
  unfold MessageService.bundleArrived
  split
  · exact before
  · split
    · exact before
    · next same =>
      have arrived : Pinned client.store.memory delivery.recipientAddress.userId
          delivery.recipientAddress.deviceId bundle.identityKey := not_not.mp same ▸ pinned
      refine pinsHold_deliver setup io (pinsHold_cached before ?_) arrived
      rw [user, device]
      exact arrived

theorem pinsHold_sendToAddress {client : ClientState} (address : UserAddress) (plaintext : String)
    (before : PinsHold client) :
    PinsHold (MessageService.sendToAddress setup client address plaintext io) := by
  unfold MessageService.sendToAddress
  split
  · exact before
  · exact pinsHold_trustedBundle setup io _ before

theorem pinsHold_forwardToAddress {client : ClientState} (messageId : String)
    (address : UserAddress) (before : PinsHold client) :
    PinsHold (MessageService.forwardToAddress setup client messageId address io) := by
  unfold MessageService.forwardToAddress
  split
  · exact before
  · exact pinsHold_trustedBundle setup io _ before

/-! ## Callbacks that resolve a user -/

theorem pinsHold_saveKnownUser {client : ClientState} (address : UserAddress)
    (before : PinsHold client) :
    PinsHold (client.mutate setup (.saveKnownUser address) (io.store 0)).2 :=
  pinsHold_keepsTrust before (keepsTrust_mutate setup client _ (by simp))

theorem pinsHold_trustAddress (client : ClientState) (address : UserAddress)
    (before : PinsHold client) : PinsHold (KeyService.trustAddress setup io client address) := by
  have saved := pinsHold_saveKnownUser setup io address before
  unfold KeyService.trustAddress
  split
  · next result => rwa [result] at saved
  · next result =>
    rw [result] at saved
    exact pinsHold_keepsTrust saved (keepsTrust_send (.refl _) (by simp))

theorem pinsHold_sendAddress (plaintext : String) (client : ClientState) (address : UserAddress)
    (before : PinsHold client) :
    PinsHold (MessageService.sendAddress setup plaintext io client address) := by
  have saved := pinsHold_saveKnownUser setup io address before
  unfold MessageService.sendAddress
  split
  · next result => rwa [result] at saved
  · next result =>
    rw [result] at saved
    exact pinsHold_sendToAddress setup io address plaintext saved

theorem pinsHold_forwardAddress (messageId : String) (client : ClientState)
    (address : UserAddress) (before : PinsHold client) :
    PinsHold (MessageService.forwardAddress setup messageId io client address) := by
  have saved := pinsHold_saveKnownUser setup io address before
  unfold MessageService.forwardAddress
  split
  · next result => rwa [result] at saved
  · next result =>
    rw [result] at saved
    exact pinsHold_forwardToAddress setup io messageId address saved

theorem pinsHold_resolveUsername {client : ClientState} (username : String)
    {found : ClientState → UserAddress → ClientState} {continuation : Continuation}
    (quiet : ∀ pin delivery, continuation ≠ .trustedBundle pin delivery)
    (keeps : ∀ client address, PinsHold client → PinsHold (found client address))
    (before : PinsHold client) :
    PinsHold (KeyService.resolveUsername setup client username found continuation) := by
  simp only [KeyService.resolveUsername]
  split
  · exact before
  · split
    · exact keeps client _ before
    · exact pinsHold_keepsTrust before (keepsTrust_send (.refl _) quiet)

theorem pinsHold_addressArrived {client : ClientState} (object : Json.Members)
    {found : ClientState → UserAddress → ClientState}
    (keeps : ∀ client address, PinsHold client → PinsHold (found client address))
    (before : PinsHold client) :
    PinsHold (KeyService.addressArrived setup client object found) := by
  simp only [KeyService.addressArrived]
  split
  · exact before
  · exact keeps client _ before

/-! ## Callbacks of the session service -/

theorem keepsTrust_loggedOut (client : ClientState) :
    KeepsTrust client (SessionService.loggedOut setup client io) := by
  have cleared : KeepsTrust client ({ client with tokens := {}, session := none }.mutate setup
      .clearSession (io.store 0)).2 := by
    refine .trans ?_ (keepsTrust_mutate setup _ (io.store 0) ?_)
    · exact .of_eq rfl rfl rfl rfl
    · simp
  unfold SessionService.loggedOut
  split
  · next result => rwa [result] at cleared
  · next result =>
    rw [result] at cleared
    exact cleared.trans (.of_eq rfl rfl rfl rfl)

theorem keepsTrust_updateTokens (client : ClientState) (tokens : TokenSet) :
    KeepsTrust client (SessionService.updateTokens setup client tokens io) := by
  unfold SessionService.updateTokens
  split
  · exact .refl client
  · refine .trans ?_ (keepsTrust_mutate setup _ (io.store 0) ?_)
    · exact .of_eq rfl rfl rfl rfl
    · simp

/-- A login that loads a store with the pins that are relied on. -/
theorem pinsHold_userArrived {client : ClientState} {session : AuthSession} {password : String}
    (before : PinsHold client)
    (behind : PinsBehind client (SessionService.loginStore setup client.store client.files
      session.user.id password io).2.1.memory) :
    PinsHold (SessionService.userArrived setup client session password io) := by
  unfold SessionService.userArrived
  split
  · next store files result =>
    rw [result] at behind
    exact ⟨⟨behind.cached, behind.fetching⟩, before.used⟩
  · next store files result =>
    rw [result] at behind
    have opened : PinsHold { client with
        store := store
        files := files
        loadedFrom := some store.path
        session := some session } := ⟨⟨behind.cached, behind.fetching⟩, before.used⟩
    exact pinsHold_keepsTrust opened (keepsTrust_mutate setup _ _ (by simp))

/-! ## Runs -/

theorem pinsHold_callback {client : ClientState} {index : Nat} {request : Request}
    {object : Json.Members} (before : PinsHold client)
    (present : client.inFlight[index]? = some (.request request))
    (keeps : KeepsPins setup client io object request.continuation) :
    PinsHold (callback setup (client.answered index) request.continuation object io) := by
  have answered := pinsHold_keepsTrust before (keepsTrust_answered client index)
  have member : Exchange.request request ∈ client.inFlight := List.mem_of_getElem? present
  cases continuation : request.continuation with
  | loginTokens password =>
    exact pinsHold_keepsTrust answered (keepsTrust_send (.of_eq rfl rfl rfl rfl) (by simp))
  | loginUser tokens password =>
    rw [continuation] at keeps
    refine pinsHold_userArrived setup io answered ⟨keeps.cached, ?_⟩
    exact fun pin delivery waits =>
      keeps.fetching pin delivery ((keepsTrust_answered client index).fetching pin delivery waits)
  | logout => exact pinsHold_keepsTrust answered (keepsTrust_loggedOut setup io _)
  | trustAddress =>
    exact pinsHold_addressArrived setup object (pinsHold_trustAddress setup io) answered
  | trustBundle address =>
    rw [continuation] at keeps
    exact pinsHold_trustBundle setup io answered rfl keeps
  | sendAddress plaintext =>
    exact pinsHold_addressArrived setup object (pinsHold_sendAddress setup io plaintext) answered
  | forwardAddress messageId =>
    exact pinsHold_addressArrived setup object (pinsHold_forwardAddress setup io messageId) answered
  | trustedBundle pin delivery =>
    rw [continuation] at keeps
    exact pinsHold_bundleArrived setup io answered
      (before.behind.fetching pin delivery ⟨_, member, continuation⟩) rfl keeps
  | other => exact answered

/-- A request that waits for a refresh, or is sent again after it, relied on its pin before. -/
theorem keepsTrust_finished {client : ClientState} {index : Nat} {exchange : Exchange}
    {response : Response} (present : client.inFlight[index]? = some exchange)
    (other : ∀ request object, ¬ (exchange = .request request ∧ response = .success object)) :
    KeepsTrust client (finished setup (client.answered index) io exchange response) := by
  have answered := keepsTrust_answered client index
  have member : exchange ∈ client.inFlight := List.mem_of_getElem? present
  cases exchange with
  | request request =>
    cases response with
    | success object => exact absurd ⟨rfl, rfl⟩ (other request object)
    | failure statusCode error =>
      simp only [finished]
      split
      · exact keepsTrust_awaits answered fun pin delivery waits => ⟨_, member, waits⟩
      · exact answered
  | refresh previousRefreshToken retried =>
    cases response with
    | success object =>
      simp only [finished, SessionService.tokensRefreshed]
      refine keepsTrust_awaits ?_ fun pin delivery waits => ⟨_, member, waits⟩
      refine answered.trans (.trans ?_ (keepsTrust_updateTokens setup io _ _))
      exact .of_eq rfl rfl rfl rfl
    | failure statusCode error => exact answered

/-- One event keeps the pins behind the cache, the waiting deliveries and the encryptions. -/
theorem pinsHold_step {client client' : ClientState} {event : ClientEvent × ClientIo}
    (before : PinsHold client) (safe : TrustSafe setup client event)
    (moved : clientStep setup client event = some client') : PinsHold client' := by
  obtain ⟨event, io⟩ := event
  cases event with
  | login password =>
    cases moved
    exact pinsHold_keepsTrust before (keepsTrust_send (.refl _) (by simp))
  | logout =>
    cases moved
    exact pinsHold_keepsTrust before (keepsTrust_send (.refl _) (by simp))
  | trust username =>
    cases moved
    unfold KeyService.trustUsername
    split
    · exact pinsHold_resolveUsername setup username (by simp) (pinsHold_trustAddress setup io) before
    · exact before
  | send recipientUsername plaintext =>
    cases moved
    unfold MessageService.send
    split
    · exact pinsHold_resolveUsername setup recipientUsername (by simp)
        (pinsHold_sendAddress setup io plaintext) before
    · exact before
  | forward messageId recipientUsername =>
    cases moved
    unfold MessageService.forward
    split
    · exact pinsHold_resolveUsername setup recipientUsername (by simp)
        (pinsHold_forwardAddress setup io messageId) before
    · exact before
  | otherRequest authorized =>
    cases moved
    exact pinsHold_keepsTrust before (keepsTrust_send (.refl _) (by simp))
  | otherWork mutation =>
    simp only [clientStep] at moved
    split at moved
    · next other =>
      cases moved
      refine pinsHold_keepsTrust before (keepsTrust_mutate setup client _ ?_)
      rintro pin rfl
      cases other
    · cases moved
  | reply index response =>
    obtain ⟨exchange, present, rfl⟩ := Option.map_eq_some_iff.mp moved
    by_cases document : ∃ request object, exchange = .request request ∧ response = .success object
    · obtain ⟨request, object, rfl, rfl⟩ := document
      exact pinsHold_callback setup io before present (safe index object rfl request present)
    · refine pinsHold_keepsTrust before (keepsTrust_finished setup io present ?_)
      exact fun request object both => document ⟨request, object, both⟩

/-- In every run whose bundles name the device asked for and whose logins load the pins
relied on, each encryption for a recipient uses the identity key pinned at that time. -/
theorem encryptions_use_pinned_identity {client : ClientState}
    (reached : Runs.ReachableBy (clientStep setup) Fresh (TrustSafe setup) client) :
    ∀ encryption ∈ client.encryptions, ∃ pin,
      encryption.pinned = some pin ∧ pin.identityKey = encryption.bundle.identityKey := by
  have holds : PinsHold client := by
    refine Runs.invariant_of_preserved ?_ ?_ reached
    · rintro start ⟨uncached, idle, unused⟩
      refine ⟨⟨?_, ?_⟩, ?_⟩
      · intro bundle held
        rw [uncached] at held
        cases held
      · rintro pin delivery ⟨exchange, member, _⟩
        rw [idle] at member
        cases member
      · intro encryption member
        rw [unused] at member
        cases member
    · exact fun _ _ _ before safe moved => pinsHold_step setup before safe moved
  exact holds.used

/-! ## A message to a peer -/

def sampleDevice : DeviceKeyMaterial where
  deviceId := 1
  registrationId := 1
  identityKey := "identity"
  identityPrivateKey := "identity private"
  identitySigningKey := "signing"
  identitySigningPrivateKey := "signing private"
  signedPreKeyId := 1
  signedPreKey := "signed"
  signedPreKeyPrivate := "signed private"
  signedPreKeySignature := "signature"

def bundleDocument (identityKey : String) : Json.Members :=
  [("deviceId", .number 1), ("identityKey", .string identityKey)]

def trustPeer : List (ClientEvent × ClientIo) :=
  [(.trust bobId, sampleIo), (.reply 0 (.success (bundleDocument "key of bob")), sampleIo)]

def sendToPeer : List (ClientEvent × ClientIo) :=
  [(.otherWork (.saveDeviceKeys sampleDevice), sampleIo), (.send bobId "hello", sampleIo)]

def switchAccount : List (ClientEvent × ClientIo) :=
  [(.logout, sampleIo), (.reply 0 (.success []), sampleIo)] ++ sampleLogin carolId

theorem fresh_sampleStart : Fresh sampleStart := ⟨rfl, rfl, rfl⟩

/-- Alice trusts a peer; Carol, who logs in after her and has pinned nobody, encrypts
for the peer with the bundle that is still cached. -/
theorem encrypts_without_pin_after_account_switch : ∃ client,
    Runs.Reachable (clientStep sampleSetup) Fresh client ∧ client.currentUserId = carolId ∧
    client.encryptions.map (·.pinned) = [none] := by
  have ends : (Runs.run (clientStep sampleSetup) sampleStart
      (sampleLogin aliceId ++ trustPeer ++ switchAccount ++ sendToPeer)).map (fun client =>
        (client.currentUserId, client.encryptions.map (·.pinned))) =
      some (carolId, [none]) := by decide
  obtain ⟨client, ran, facts⟩ := Option.map_eq_some_iff.mp ends
  rw [Prod.mk.injEq] at facts
  exact ⟨client, Runs.reachable_of_run fresh_sampleStart ran, facts⟩

/-- Nothing relies on a pin yet. -/
def checkUnused (client : ClientState) : Bool :=
  client.lastTrustedBundle.isNone && client.inFlight.all fun exchange =>
    match exchange.continuation with
    | .trustedBundle _ _ => false
    | _ => true

/-- A check of one event that lets no login happen once a bundle is cached. -/
def checkTrust (client : ClientState) (event : ClientEvent × ClientIo) : Bool :=
  match event.1 with
  | .reply index (.success object) => client.inFlight[index]?.all fun exchange =>
    match exchange.continuation with
    | .trustBundle address => (bundleFromJson address.userId object).deviceId == address.deviceId
    | .trustedBundle _ _ => false
    | .loginUser _ _ => checkUnused client
    | _ => true
  | _ => true

theorem pinsBehind_of_unused {client : ClientState} (unused : checkUnused client = true)
    (memory : StoreMemory) : PinsBehind client memory := by
  simp only [checkUnused, Bool.and_eq_true, Option.isNone_iff_eq_none, List.all_eq_true] at unused
  constructor
  · intro bundle held
    rw [unused.1] at held
    cases held
  · rintro pin delivery ⟨exchange, member, waits⟩
    have quiet := unused.2 exchange member
    rw [waits] at quiet
    cases quiet

theorem trustSafe_of_check {client : ClientState} {event : ClientEvent × ClientIo}
    (checked : checkTrust client event = true) : TrustSafe setup client event := by
  intro index object here request present
  simp only [checkTrust, here, present, Option.all_some, Exchange.continuation] at checked
  cases continuation : request.continuation with
  | trustBundle address =>
    rw [continuation] at checked
    exact eq_of_beq checked
  | trustedBundle pin delivery =>
    rw [continuation] at checked
    cases checked
  | loginUser tokens password =>
    rw [continuation] at checked
    exact pinsBehind_of_unused checked _
  | _ => trivial

theorem encryptions_use_pinned_identity_alice : ∃ client : ClientState,
    client.encryptions.map (·.bundle.identityKey) = ["key of bob"] ∧
    ∀ encryption ∈ client.encryptions, ∃ pin,
      encryption.pinned = some pin ∧ pin.identityKey = encryption.bundle.identityKey := by
  have ends : (Runs.run (clientStep sampleSetup) sampleStart
      (sampleLogin aliceId ++ trustPeer ++ sendToPeer)).map
        (·.encryptions.map (·.bundle.identityKey)) = some ["key of bob"] := by decide
  have safe : Runs.EveryStep (clientStep sampleSetup) (TrustSafe sampleSetup) sampleStart
      (sampleLogin aliceId ++ trustPeer ++ sendToPeer) :=
    Runs.everyStep_of_check (fun _ _ _ checked => trustSafe_of_check sampleSetup checked)
      (fun _ _ _ _ _ _ => trivial) _ trivial (by decide)
  obtain ⟨client, ran, keys⟩ := Option.map_eq_some_iff.mp ends
  exact ⟨client, keys, encryptions_use_pinned_identity sampleSetup
    (Runs.reachableBy_of_run _ (.start fresh_sampleStart) safe ran)⟩

end EpicKfc.Guarantees.TrustPinning
