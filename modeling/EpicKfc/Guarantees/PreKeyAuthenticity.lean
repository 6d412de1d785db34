import EpicKfc.Guarantees.MessageRoundTrip
import EpicKfc.Guarantees.TrustPinning

/-!
# The signing key behind a pinned device

A bundle carries the key that its signed pre-key is checked under, and the pin keeps
the identity key alone. Later bundles are signed by the key that the device had when
it was pinned as long as each accepted reply carries that key.
-/

namespace EpicKfc.Guarantees.PreKeyAuthenticity
open EpicKfc.Lib
open EpicKfc.Source.Client
open EpicKfc.Source.Client.ClientState
open EpicKfc.Source.Client.NativeSignalCryptoProvider
open EpicKfc.Guarantees.TrustPinning

/-- The signature of the signed pre-key verifies under a signing key. -/
def SignedUnder (library : NativeLibrary) (signingKey : String) (bundle : PreKeyBundle) : Prop :=
  library.ed25519Verify (fromBase64 signingKey) (fromBase64 bundle.signedPreKey)
    (fromBase64 bundle.signedPreKeySignature) = true

def Verified (library : NativeLibrary) (bundle : PreKeyBundle) : Prop :=
  verifySignedPreKey library bundle = .ok ()

/-- The pin that a reply is compared with, for the address that was asked for. -/
def Matches (client : ClientState) (address : UserAddress) (bundle : PreKeyBundle) :
    Continuation → Prop
  | .trustBundle asked => asked = address ∧
    ∀ pin, client.trustPin address.userId address.deviceId = some pin →
      pin.identityKey = bundle.identityKey
  | .trustedBundle pin delivery => delivery.recipientAddress = address ∧
    pin.identityKey = bundle.identityKey
  | _ => False

/-- The reply brings a bundle for the address, and the client's two checks let it pass. -/
def Accepts (library : NativeLibrary) (client : ClientState) (event : ClientEvent × ClientIo)
    (address : UserAddress) (bundle : PreKeyBundle) : Prop :=
  Verified library bundle ∧ ∃ index object request, event.1 = .reply index (.success object) ∧
    client.inFlight[index]? = some (.request request) ∧
    bundle = bundleFromJson address.userId object ∧ Matches client address bundle request.continuation

/-- A bundle accepted for the device, or that names it, carries its signing key. -/
def KeepsSigningKey (library : NativeLibrary) (device : UserAddress) (signingKey : String)
    (client : ClientState) (event : ClientEvent × ClientIo) : Prop :=
  ∀ address bundle, Accepts library client event address bundle → address.userId = device.userId →
    address.deviceId = device.deviceId ∨ bundle.deviceId = device.deviceId →
      bundle.identitySigningKey = signingKey

/-- The step pins a device that had no pin, with a bundle that it accepts. -/
structure Pins (setup : ClientSetup) (library : NativeLibrary) (client client' : ClientState)
    (event : ClientEvent × ClientIo) (device : UserAddress) (bundle : PreKeyBundle) : Prop where
  moved : clientStep setup client event = some client'
  accepted : Accepts library client event device bundle
  unpinned : client.trustPin device.userId device.deviceId = none
  pinned : Pinned client'.store.memory device.userId device.deviceId bundle.identityKey

/-- A bundle for the device that is already cached carries its signing key. -/
def CacheKeeps (device : UserAddress) (signingKey : String) (client : ClientState) : Prop :=
  ∀ bundle, client.lastTrustedBundle = some bundle → bundle.userId = device.userId →
    bundle.deviceId = device.deviceId → bundle.identitySigningKey = signingKey

theorem signedUnder_of_verified {library : NativeLibrary} {bundle : PreKeyBundle}
    (verified : Verified library bundle) :
    SignedUnder library bundle.identitySigningKey bundle := by
  simp only [Verified, verifySignedPreKey] at verified
  split at verified
  · cases verified
  · split at verified
    · next signed => exact signed
    · cases verified

/-! ## What a step does with bundles -/

/-- The cached bundle and the encryptions stay. -/
def SameBundles (client client' : ClientState) : Prop :=
  client'.lastTrustedBundle = client.lastTrustedBundle ∧ client'.encryptions = client.encryptions

theorem SameBundles.trans {first second third : ClientState} (before : SameBundles first second)
    (after : SameBundles second third) : SameBundles first third :=
  ⟨after.1.trans before.1, after.2.trans before.2⟩

theorem sameBundles_keepsTrust {client client' : ClientState} (keeps : KeepsTrust client client') :
    SameBundles client client' :=
  ⟨keeps.bundle, keeps.encryptions⟩

/-- A bundle is used from the cache, cached, or cached and used at once. -/
inductive BundleUse (accepted : UserAddress → PreKeyBundle → Prop) (client client' : ClientState) :
    Prop
  | unused (same : SameBundles client client')
  | fromCache (address : UserAddress) (bundle : PreKeyBundle) (pin : Option TrustPin)
      (held : client.lastTrustedBundle = some bundle) (user : bundle.userId = address.userId)
      (device : bundle.deviceId = address.deviceId)
      (cached : client'.lastTrustedBundle = client.lastTrustedBundle)
      (used : client'.encryptions = client.encryptions ++ [⟨address, bundle, pin⟩])
  | cached (address : UserAddress) (bundle : PreKeyBundle) (taken : accepted address bundle)
      (held : client'.lastTrustedBundle = some bundle)
      (kept : client'.encryptions = client.encryptions)
  | received (address : UserAddress) (bundle : PreKeyBundle) (pin : Option TrustPin)
      (taken : accepted address bundle) (held : client'.lastTrustedBundle = some bundle)
      (used : client'.encryptions = client.encryptions ++ [⟨address, bundle, pin⟩])

variable {accepted : UserAddress → PreKeyBundle → Prop}

theorem BundleUse.after {first second third : ClientState} (before : SameBundles first second)
    (use : BundleUse accepted second third) : BundleUse accepted first third := by
  obtain ⟨bundle, encryptions⟩ := before
  cases use with
  | unused same => exact .unused (.trans ⟨bundle, encryptions⟩ same)
  | fromCache address taken pin held user device cached used =>
    exact .fromCache address taken pin (bundle ▸ held) user device (cached.trans bundle)
      (encryptions ▸ used)
  | cached address taken accepts held kept =>
    exact .cached address taken accepts held (kept.trans encryptions)
  | received address taken pin accepts held used =>
    exact .received address taken pin accepts held (encryptions ▸ used)

variable (setup : ClientSetup) (io : ClientIo)

theorem sameBundles_mutate (client : ClientState) (mutation : JsonLocalStore.StoreMutation)
    (storeIo : StoreIo) : SameBundles client (client.mutate setup mutation storeIo).2 := by
  obtain ⟨files, same⟩ := mutate_eq setup client mutation storeIo
  rw [same]
  exact ⟨rfl, rfl⟩

theorem encryptions_deliver (client : ClientState) (delivery : Delivery) (bundle : PreKeyBundle) :
    (MessageService.deliver setup client delivery bundle io).lastTrustedBundle =
      client.lastTrustedBundle ∧
    ∃ pin, (MessageService.deliver setup client delivery bundle io).encryptions =
      client.encryptions ++ [⟨delivery.recipientAddress, bundle, pin⟩] := by
  simp only [MessageService.deliver]
  split
  · exact ⟨rfl, _, rfl⟩
  · split
    · exact ⟨rfl, _, rfl⟩
    · exact ⟨rfl, _, rfl⟩

theorem bundleUse_trustedBundle (client : ClientState) (delivery : Delivery) :
    BundleUse accepted client (MessageService.trustedBundle setup client delivery io) := by
  simp only [MessageService.trustedBundle]
  split
  · next bundle cached =>
    obtain ⟨held, matches'⟩ := Option.filter_eq_some_iff.mp cached
    obtain ⟨user, device⟩ := of_decide_eq_true matches'
    obtain ⟨same, pin, used⟩ := encryptions_deliver setup io client delivery bundle
    exact .fromCache _ _ pin held user device same used
  · split
    · exact .unused ⟨rfl, rfl⟩
    · exact .unused ⟨rfl, rfl⟩

theorem bundleUse_sendToAddress (client : ClientState) (address : UserAddress) (plaintext : String) :
    BundleUse accepted client (MessageService.sendToAddress setup client address plaintext io) := by
  unfold MessageService.sendToAddress
  split
  · exact .unused ⟨rfl, rfl⟩
  · exact bundleUse_trustedBundle setup io client _

theorem bundleUse_forwardToAddress (client : ClientState) (messageId : String)
    (address : UserAddress) :
    BundleUse accepted client (MessageService.forwardToAddress setup client messageId address io) := by
  unfold MessageService.forwardToAddress
  split
  · exact .unused ⟨rfl, rfl⟩
  · exact bundleUse_trustedBundle setup io client _

theorem bundleUse_sendAddress (plaintext : String) (client : ClientState) (address : UserAddress) :
    BundleUse accepted client (MessageService.sendAddress setup plaintext io client address) := by
  have saved := sameBundles_mutate setup client (.saveKnownUser address) (io.store 0)
  unfold MessageService.sendAddress
  split
  · next result =>
    rw [result] at saved
    exact .unused saved
  · next result =>
    rw [result] at saved
    exact (bundleUse_sendToAddress setup io _ address plaintext).after saved

theorem bundleUse_forwardAddress (messageId : String) (client : ClientState) (address : UserAddress) :
    BundleUse accepted client (MessageService.forwardAddress setup messageId io client address) := by
  have saved := sameBundles_mutate setup client (.saveKnownUser address) (io.store 0)
  unfold MessageService.forwardAddress
  split
  · next result =>
    rw [result] at saved
    exact .unused saved
  · next result =>
    rw [result] at saved
    exact (bundleUse_forwardToAddress setup io _ messageId address).after saved

theorem bundleUse_trustAddress (client : ClientState) (address : UserAddress) :
    BundleUse accepted client (KeyService.trustAddress setup io client address) := by
  have saved := sameBundles_mutate setup client (.saveKnownUser address) (io.store 0)
  unfold KeyService.trustAddress
  split
  · next result =>
    rw [result] at saved
    exact .unused saved
  · next result =>
    rw [result] at saved
    exact .unused (saved.trans ⟨rfl, rfl⟩)

theorem bundleUse_resolveUsername (client : ClientState) (username : String)
    {found : ClientState → UserAddress → ClientState} (continuation : Continuation)
    (uses : ∀ client address, BundleUse accepted client (found client address)) :
    BundleUse accepted client (KeyService.resolveUsername setup client username found continuation) := by
  simp only [KeyService.resolveUsername]
  split
  · exact .unused ⟨rfl, rfl⟩
  · split
    · exact uses client _
    · exact .unused ⟨rfl, rfl⟩

theorem bundleUse_addressArrived (client : ClientState) (object : Json.Members)
    {found : ClientState → UserAddress → ClientState}
    (uses : ∀ client address, BundleUse accepted client (found client address)) :
    BundleUse accepted client (KeyService.addressArrived setup client object found) := by
  simp only [KeyService.addressArrived]
  split
  · exact .unused ⟨rfl, rfl⟩
  · exact uses client _

theorem sameBundles_userArrived (client : ClientState) (session : AuthSession) (password : String) :
    SameBundles client (SessionService.userArrived setup client session password io) := by
  unfold SessionService.userArrived
  split
  · exact ⟨rfl, rfl⟩
  · next store files result =>
    exact .trans ⟨rfl, rfl⟩ (sameBundles_mutate setup { client with
      store := store
      files := files
      loadedFrom := some store.path
      session := some session } _ _)

/-! ## Bundles that arrive -/

variable {setup} {library : NativeLibrary}

theorem bundleUse_trustBundle (native : setup.crypto = provider library) {client : ClientState}
    {address : UserAddress} {bundle : PreKeyBundle}
    (takes : Verified library bundle → (∀ pin, client.trustPin address.userId address.deviceId = some pin →
      pin.identityKey = bundle.identityKey) → accepted address bundle) :
    BundleUse accepted client (KeyService.trustBundle setup client address bundle io) := by
  simp only [KeyService.trustBundle, native, provider]
  split
  · exact .unused ⟨rfl, rfl⟩
  · next verified =>
    split
    · next first =>
      have saved := sameBundles_mutate setup client (.saveTrustPin
        ⟨address.userId, address.deviceId, bundle.identityKey, io.now⟩) (io.store 0)
      split
      · next result =>
        rw [result] at saved
        exact .unused saved
      · next result =>
        rw [result] at saved
        refine .cached address bundle (takes verified ?_) rfl saved.2
        intro pin found
        cases first.symm.trans found
    · next pin found =>
      split
      · exact .unused ⟨rfl, rfl⟩
      · next same =>
        refine .cached address bundle (takes verified ?_) rfl rfl
        intro other found'
        rw [← Option.some.inj (found.symm.trans found')]
        exact not_not.mp same

theorem reply_trustBundle {client : ClientState} {index : Nat} {request : Request}
    {address : UserAddress} {object : Json.Members}
    (present : client.inFlight[index]? = some (.request request))
    (waits : request.continuation = .trustBundle address) :
    clientStep setup client (.reply index (.success object), io) = some (KeyService.trustBundle setup
      (client.answered index) address (bundleFromJson address.userId object) io) := by
  simp only [clientStep, present, Option.map_some, finished, waits, callback]

/-- A first bundle that passes the check is pinned and cached. -/
theorem trustBundle_first (native : setup.crypto = provider library) {client client' : ClientState}
    {address : UserAddress} {bundle : PreKeyBundle} (verified : Verified library bundle)
    (unpinned : client.trustPin address.userId address.deviceId = none)
    (saved : client.mutate setup (.saveTrustPin ⟨address.userId, address.deviceId, bundle.identityKey,
      io.now⟩) (io.store 0) = (.ok (), client')) :
    KeyService.trustBundle setup client address bundle io =
      { client' with lastTrustedBundle := some bundle } := by
  rw [Verified] at verified
  simp only [KeyService.trustBundle, native, provider, verified, unpinned, saved]

theorem bundleUse_bundleArrived (native : setup.crypto = provider library) {client : ClientState}
    {pin : TrustPin} {delivery : Delivery} {bundle : PreKeyBundle}
    (takes : Verified library bundle → pin.identityKey = bundle.identityKey →
      accepted delivery.recipientAddress bundle) :
    BundleUse accepted client (MessageService.bundleArrived setup client pin delivery bundle io) := by
  simp only [MessageService.bundleArrived, native, provider]
  split
  · exact .unused ⟨rfl, rfl⟩
  · next verified =>
    split
    · exact .unused ⟨rfl, rfl⟩
    · next same =>
      obtain ⟨held, pinned, used⟩ := encryptions_deliver setup io
        { client with lastTrustedBundle := some bundle } delivery bundle
      exact .received _ bundle pinned (takes verified (not_not.mp same)) held used

theorem bundleUse_callback (native : setup.crypto = provider library) {client : ClientState}
    {event : ClientEvent × ClientIo} {index : Nat} {request : Request} {object : Json.Members}
    (replied : event.1 = .reply index (.success object))
    (present : client.inFlight[index]? = some (.request request)) :
    BundleUse (Accepts library client event) client
      (callback setup (client.answered index) request.continuation object io) := by
  have answered : SameBundles client (client.answered index) := ⟨rfl, rfl⟩
  refine .after answered ?_
  cases continuation : request.continuation with
  | loginTokens password => exact .unused ⟨rfl, rfl⟩
  | loginUser tokens password => exact .unused (sameBundles_userArrived setup io _ _ _)
  | logout => exact .unused (sameBundles_keepsTrust (keepsTrust_loggedOut setup io _))
  | trustAddress =>
    exact bundleUse_addressArrived setup _ object (bundleUse_trustAddress setup io)
  | trustBundle address =>
    refine bundleUse_trustBundle io native fun verified same => ?_
    refine ⟨verified, index, object, request, replied, present, rfl, ?_⟩
    rw [continuation]
    exact ⟨rfl, same⟩
  | sendAddress plaintext =>
    exact bundleUse_addressArrived setup _ object (bundleUse_sendAddress setup io plaintext)
  | forwardAddress messageId =>
    exact bundleUse_addressArrived setup _ object (bundleUse_forwardAddress setup io messageId)
  | trustedBundle pin delivery =>
    refine bundleUse_bundleArrived io native fun verified same => ?_
    refine ⟨verified, index, object, request, replied, present, rfl, ?_⟩
    rw [continuation]
    exact ⟨rfl, same⟩
  | other => exact .unused ⟨rfl, rfl⟩

theorem bundleUse_step (native : setup.crypto = provider library) {client client' : ClientState}
    {event : ClientEvent × ClientIo} (moved : clientStep setup client event = some client') :
    BundleUse (Accepts library client event) client client' := by
  obtain ⟨event, io⟩ := event
  cases event with
  | login password =>
    cases moved
    exact .unused ⟨rfl, rfl⟩
  | logout =>
    cases moved
    exact .unused ⟨rfl, rfl⟩
  | trust username =>
    cases moved
    unfold KeyService.trustUsername
    split
    · exact bundleUse_resolveUsername setup client username _ (bundleUse_trustAddress setup io)
    · exact .unused ⟨rfl, rfl⟩
  | send recipientUsername plaintext =>
    cases moved
    unfold MessageService.send
    split
    · exact bundleUse_resolveUsername setup client recipientUsername _
        (bundleUse_sendAddress setup io plaintext)
    · exact .unused ⟨rfl, rfl⟩
  | forward messageId recipientUsername =>
    cases moved
    unfold MessageService.forward
    split
    · exact bundleUse_resolveUsername setup client recipientUsername _
        (bundleUse_forwardAddress setup io messageId)
    · exact .unused ⟨rfl, rfl⟩
  | otherRequest authorized =>
    cases moved
    exact .unused ⟨rfl, rfl⟩
  | otherWork mutation =>
    simp only [clientStep] at moved
    split at moved
    · cases moved
      exact .unused (sameBundles_mutate setup client mutation _)
    · cases moved
  | reply index response =>
    obtain ⟨exchange, present, rfl⟩ := Option.map_eq_some_iff.mp moved
    by_cases document : ∃ request object, exchange = .request request ∧ response = .success object
    · obtain ⟨request, object, rfl, rfl⟩ := document
      exact bundleUse_callback io native rfl present
    · refine .unused (sameBundles_keepsTrust (keepsTrust_finished setup io present ?_))
      exact fun request object both => document ⟨request, object, both⟩

/-! ## Runs -/

/-- The bundle that is cached has passed the signature check. -/
def CacheVerified (library : NativeLibrary) (client : ClientState) : Prop :=
  ∀ bundle, client.lastTrustedBundle = some bundle → Verified library bundle

theorem cacheVerified_step (native : setup.crypto = provider library) {client client' : ClientState}
    {event : ClientEvent × ClientIo} (before : CacheVerified library client)
    (moved : clientStep setup client event = some client') : CacheVerified library client' := by
  intro bundle held
  cases bundleUse_step native moved with
  | unused same => exact before bundle (same.1 ▸ held)
  | fromCache _ _ _ _ _ _ same _ => exact before bundle (same ▸ held)
  | cached address taken accepts held' _ =>
    cases held'.symm.trans held
    exact accepts.1
  | received address taken _ accepts held' _ =>
    cases held'.symm.trans held
    exact accepts.1

theorem cacheVerified_reachable (native : setup.crypto = provider library) {client : ClientState}
    (reached : Runs.Reachable (clientStep setup) Fresh client) : CacheVerified library client := by
  refine Runs.invariant_of_preserved ?_ ?_ reached
  · rintro start ⟨uncached, _, _⟩ bundle held
    cases uncached.symm.trans held
  · exact fun _ _ _ before _ moved => cacheVerified_step native before moved

/-- The encryptions after the first ones that are for the device use bundles that are
signed under the key. -/
def SignedAfter (library : NativeLibrary) (device : UserAddress) (signingKey : String)
    (first client : ClientState) : Prop :=
  ∃ later, client.encryptions = first.encryptions ++ later ∧ ∀ encryption ∈ later,
    encryption.recipientAddress.userId = device.userId →
      encryption.recipientAddress.deviceId = device.deviceId →
        SignedUnder library signingKey encryption.bundle

theorem SignedAfter.trans {device : UserAddress} {signingKey : String}
    {first second third : ClientState} (before : SignedAfter library device signingKey first second)
    (after : SignedAfter library device signingKey second third) :
    SignedAfter library device signingKey first third := by
  obtain ⟨earlier, sent, signed⟩ := before
  obtain ⟨later, sent', signed'⟩ := after
  refine ⟨earlier ++ later, by rw [sent', sent, List.append_assoc], ?_⟩
  intro encryption member
  obtain old | new := List.mem_append.mp member
  · exact signed encryption old
  · exact signed' encryption new

theorem SignedAfter.of_eq {device : UserAddress} {signingKey : String} {client client' : ClientState}
    (kept : client'.encryptions = client.encryptions) :
    SignedAfter library device signingKey client client' := by
  refine ⟨[], by rw [kept, List.append_nil], ?_⟩
  intro encryption member
  cases member

theorem SignedAfter.single {device : UserAddress} {signingKey : String} {client client' : ClientState}
    {encryption : Encryption} (sent : client'.encryptions = client.encryptions ++ [encryption])
    (signed : encryption.recipientAddress.userId = device.userId →
      encryption.recipientAddress.deviceId = device.deviceId →
        SignedUnder library signingKey encryption.bundle) :
    SignedAfter library device signingKey client client' := by
  refine ⟨[encryption], sent, ?_⟩
  intro other member
  rw [List.mem_singleton] at member
  exact member ▸ signed

/-- What holds of the cache when the device is pinned. -/
structure Authentic (library : NativeLibrary) (device : UserAddress) (signingKey : String)
    (client : ClientState) : Prop where
  verified : CacheVerified library client
  keeps : CacheKeeps device signingKey client

theorem authentic_step (native : setup.crypto = provider library) {device : UserAddress}
    {signingKey : String} {client client' : ClientState} {event : ClientEvent × ClientIo}
    (before : Authentic library device signingKey client)
    (meets : KeepsSigningKey library device signingKey client event)
    (moved : clientStep setup client event = some client') :
    Authentic library device signingKey client' ∧
      SignedAfter library device signingKey client client' := by
  have verified := cacheVerified_step native before.verified moved
  cases bundleUse_step native moved with
  | unused same =>
    refine ⟨⟨verified, fun bundle held => ?_⟩, .of_eq same.2⟩
    exact before.keeps bundle (same.1 ▸ held)
  | fromCache address bundle pin held user number same sent =>
    refine ⟨⟨verified, fun other held' => before.keeps other (same ▸ held')⟩, .single sent ?_⟩
    intro user' number'
    have carried := before.keeps bundle held (user.trans user') (number.trans number')
    exact carried ▸ signedUnder_of_verified (before.verified bundle held)
  | cached address bundle taken held kept =>
    refine ⟨⟨verified, ?_⟩, .of_eq kept⟩
    intro other held' user number
    cases held.symm.trans held'
    obtain ⟨_, _, _, _, _, _, rfl, _⟩ := id taken
    exact meets _ _ taken user (.inr number)
  | received address bundle pin taken held sent =>
    obtain ⟨passed, _, _, _, _, _, named, _⟩ := id taken
    refine ⟨⟨verified, ?_⟩, .single sent ?_⟩
    · intro other held' user number
      cases held.symm.trans held'
      subst named
      exact meets _ _ taken user (.inr number)
    · intro user number
      exact meets _ _ taken user (.inl number) ▸ signedUnder_of_verified passed

/-- After a device is pinned, and in later processes, each encryption for it uses a
signed pre-key under the signing key that it had then, if the accepted replies carry it. -/
theorem later_encryptions_signed (native : setup.crypto = provider library)
    {before pinned start client : ClientState} {pinning : ClientEvent × ClientIo}
    {device : UserAddress} {bundle : PreKeyBundle}
    (reached : Runs.Reachable (clientStep setup) Fresh before)
    (pins : Pins setup library before pinned pinning device bundle)
    (starts : start = pinned ∨ Fresh start)
    (cached : CacheKeeps device bundle.identitySigningKey start)
    (events : List (ClientEvent × ClientIo))
    (meets : Runs.EveryStep (clientStep setup)
      (KeepsSigningKey library device bundle.identitySigningKey) start events)
    (ran : Runs.run (clientStep setup) start events = some client) :
    SignedAfter library device bundle.identitySigningKey start client := by
  have verified : CacheVerified library start := by
    obtain rfl | ⟨uncached, _, _⟩ := starts
    · exact cacheVerified_step native (cacheVerified_reachable native reached) pins.moved
    · intro held present
      cases uncached.symm.trans present
  have authentic : Authentic library device bundle.identitySigningKey start := ⟨verified, cached⟩
  refine Runs.related_of_run (fun _ => .of_eq rfl) (fun _ _ _ first second => first.trans second) ?_
    events authentic meets ran
  exact fun _ _ _ authentic met moved => authentic_step native authentic met moved

/-! ## A substituted pre-key -/

open EpicKfc.Guarantees.MessageRoundTrip EpicKfc.Source.Client.StoreDocuments

def malloryPreKeyPair : RawKeyPair where
  publicKey := octets 32 0xb587543baec18ffbb6453e92f3bb214b34c4a6d207ffb365df17b7ce7288c06f
  privateKey := octets 32 0xea0dd1a3531fdc190b51de871d8b46cd9993e9ae8530dcf14d9747b6a38850ce

def mallorySigningKey : QByteArray :=
  octets 32 0x347dd741b90f76575c83b36ef35c62b8bf740cd775b1fb2b585104150bb306a8

def malloryPreKeySignature : QByteArray :=
  octets 64 0x77e24c8eca8dde2e9775919b34aa511c528d333681b751c25210448967f6cc44d121bceece1bde2b5e24aede72e288d06b1f2e47dde5b9d065b9e6855e61d208

/-- Bob's identity key, with all the rest of the server's own. -/
def substitutedBundle : PreKeyBundle :=
  { bobsBundle with
    identitySigningKey := toBase64 mallorySigningKey
    signedPreKey := toBase64 malloryPreKeyPair.publicKey
    signedPreKeySignature := toBase64 malloryPreKeySignature }

def malloryMessageKey : QByteArray :=
  octets 32 0xb1d2c6bc5dd2f6824c937f199534784067efbed382904e2e0977b6258d3eb8aa

def malloryTables : SampleTables :=
  { helloTables with
    pairs := malloryPreKeyPair :: helloTables.pairs
    secrets := helloTables.secrets ++ [
      ((aliceIdentityPair, malloryPreKeyPair),
        octets 32 0xcd2aa5042c5fe718deac53c1cb9102eb5f1dd7b299d4e58b6cfd229c3712ae17),
      ((ephemeralPair, malloryPreKeyPair),
        octets 32 0x5af797fa30c520248152b643b0920bd22c43b42a06950ba3f441c6113fb18c05),
      ((ratchetPair, malloryPreKeyPair),
        octets 32 0x7d306bfb72703a7e264783e9064210e62792d97dee81b75142b4d792f788586f)]
    expansions := helloTables.expansions ++ [
      ((octets 32 0xcd2aa5042c5fe718deac53c1cb9102eb5f1dd7b299d4e58b6cfd229c3712ae17 ++
          octets 32 0x2dccfcd7c09b48bc4b875c58d90a2744887b102fc38dfc73246e6a78e8eed83d ++
          octets 32 0x5af797fa30c520248152b643b0920bd22c43b42a06950ba3f441c6113fb18c05,
          List.replicate keyBytes 0),
        octets 32 0xc6365a19a4bd12662f29b35a4e9ee1791070010d0f88a22d1855bbed068c31a2),
      ((octets 32 0x7d306bfb72703a7e264783e9064210e62792d97dee81b75142b4d792f788586f,
          octets 32 0xc6365a19a4bd12662f29b35a4e9ee1791070010d0f88a22d1855bbed068c31a2),
        octets 32 0x627c0f2a349f1c69de5d0cc13a789f96593ffea1760f2d5b37b978b310b21610 ++
          octets 32 0xcbfdc8f4ae8795b5ff85f5543897ed4a9403ef4599e1d69cdffe56636dc5b14c)]
    authenticators := helloTables.authenticators ++
      [(octets 32 0xcbfdc8f4ae8795b5ff85f5543897ed4a9403ef4599e1d69cdffe56636dc5b14c, malloryMessageKey)]
    sealings := helloTables.sealings ++
      [⟨toUtf8 "hello", malloryMessageKey, messageNonce, aadFor 0 0 ratchetPair.publicKey,
        octets 5 0x7a6ce69ee6, octets 16 0x36feebd4565f83c010dc193b37e692ea⟩]
    verified := [
      (bobSigning.publicKey, bobPreKeyPair.publicKey, bobPreKeySignature),
      (mallorySigningKey, malloryPreKeyPair.publicKey, malloryPreKeySignature)] }

def bobsAddress : UserAddress := ⟨bobId, bobId, 1⟩

def publishedDocument (bundle : PreKeyBundle) : Json.Members := [
  ("registrationId", .number bundle.registrationId),
  ("deviceId", .number bundle.deviceId),
  ("identityKey", .string bundle.identityKey),
  ("identitySigningKey", .string bundle.identitySigningKey),
  ("signedPreKeyId", .number bundle.signedPreKeyId),
  ("signedPreKey", .string bundle.signedPreKey),
  ("signedPreKeySignature", .string bundle.signedPreKeySignature)]

/-- Alice is logged in, and nobody is pinned. -/
def aliceStart : ClientState :=
  { alicesClient with
    store := { alicesClient.store with
      secretProtectionRequired := false
      memory := { deviceKeys := [alice] } } }

def bundleReply (bundle : PreKeyBundle) : ClientEvent × ClientIo :=
  (.reply 0 (.success (publishedDocument bundle)), {})

def nativeRun (client : ClientState) (events : List (ClientEvent × ClientIo)) : Option ClientState :=
  Runs.run (clientStep (nativeSetup malloryTables)) client events

def askingClient : ClientState := (nativeRun aliceStart [(.trust bobId, {})]).getD aliceStart

def bobsPin : TrustPin := ⟨bobId, 1, bobsBundle.identityKey, none⟩

/-- Bob's identity key is pinned, and his bundle cached. -/
def pinnedClient : ClientState :=
  { ((askingClient.answered 0).mutate (nativeSetup malloryTables) (.saveTrustPin bobsPin) {}).2 with
    lastTrustedBundle := some bobsBundle }

/-- Bob is trusted again, and sent a message. -/
def trustAndSend (bundle : PreKeyBundle) : List (ClientEvent × ClientIo) := [
  (.trust bobId, {}),
  bundleReply bundle,
  (.send bobId "hello", { draws := helloDraws })]

theorem verified_bob : Verified malloryTables.native bobsBundle := by
  have keys : isValidBase64 bobsBundle.identityKey = true ∧
      isValidBase64 bobsBundle.identitySigningKey = true ∧ isValidBase64 bobsBundle.signedPreKey = true ∧
      isValidBase64 bobsBundle.signedPreKeySignature = true := by
    simp only [isValidBase64, bobsBundle, publishedBundle, bob, GeneratedKeys.device, fromBase64_toBase64]
    decide
  have signed : malloryTables.native.ed25519Verify (fromBase64 bobsBundle.identitySigningKey)
      (fromBase64 bobsBundle.signedPreKey) (fromBase64 bobsBundle.signedPreKeySignature) = true := by
    simp only [bobsBundle, publishedBundle, bob, GeneratedKeys.device, fromBase64_toBase64]
    decide
  obtain ⟨identity, signingKey, preKey, signature⟩ := keys
  simp only [Verified, verifySignedPreKey, identity, signingKey, preKey, signature, signed, Bool.and_self,
    Bool.not_true, Bool.false_eq_true, if_false, if_true]

theorem reachable_askingClient :
    Runs.Reachable (clientStep (nativeSetup malloryTables)) Fresh askingClient := by
  have runs : (nativeRun aliceStart [(.trust bobId, {})]).isSome = true := by decide
  obtain ⟨client, ran⟩ := Option.isSome_iff_exists.mp runs
  rw [askingClient, ran, Option.getD_some]
  exact Runs.reachable_of_run ⟨rfl, rfl, rfl⟩ ran

theorem waiting_askingClient : askingClient.inFlight[0]? =
    some (.request ⟨"", "", false, .trustBundle bobsAddress⟩) := by
  decide

theorem unpinned_askingClient : askingClient.trustPin bobId 1 = none := by decide

theorem bundleFromJson_bob :
    bundleFromJson bobsAddress.userId (publishedDocument bobsBundle) = bobsBundle := by
  decide

theorem pins_bob : Pins (nativeSetup malloryTables) malloryTables.native askingClient pinnedClient
    (bundleReply bobsBundle) bobsAddress bobsBundle where
  moved := by
    have saved : ((askingClient.answered 0).mutate (nativeSetup malloryTables) (.saveTrustPin bobsPin)
        {}).1.toBool = true := by decide
    rw [bundleReply, reply_trustBundle {} waiting_askingClient rfl, bundleFromJson_bob]
    cases written : (askingClient.answered 0).mutate (nativeSetup malloryTables) (.saveTrustPin bobsPin)
      {} with
    | mk result client =>
      rw [written] at saved
      cases result with
      | error error => cases saved
      | ok done =>
        rw [pinnedClient, written, trustBundle_first {} rfl verified_bob unpinned_askingClient written]
  accepted := by
    refine ⟨verified_bob, 0, publishedDocument bobsBundle, _, rfl, waiting_askingClient,
      bundleFromJson_bob.symm, rfl, ?_⟩
    intro pin found
    cases unpinned_askingClient.symm.trans found
  unpinned := unpinned_askingClient
  pinned := by
    have found : (pinnedClient.trustPin bobId 1) = some bobsPin := by decide
    exact ⟨bobsPin, found, rfl⟩

/-- Bob's own bundle is accepted again, and a message is encrypted for him. -/
theorem later_encryptions_signed_bob : ∃ client : ClientState,
    nativeRun pinnedClient (trustAndSend bobsBundle) = some client ∧ client.encryptions.length = 1 ∧
    SignedAfter malloryTables.native bobsAddress bobsBundle.identitySigningKey pinnedClient client := by
  have ends : (nativeRun pinnedClient (trustAndSend bobsBundle)).map (·.encryptions.length) = some 1 := by
    decide
  obtain ⟨client, ran, sent⟩ := Option.map_eq_some_iff.mp ends
  have keeps : ∀ event ∈ trustAndSend bobsBundle, ∀ client, KeepsSigningKey malloryTables.native
      bobsAddress bobsBundle.identitySigningKey client event := by
    intro event member client address bundle taken _ _
    obtain ⟨_, index, object, _, replied, _, rfl, _⟩ := taken
    simp only [trustAndSend, List.mem_cons, List.not_mem_nil, or_false] at member
    obtain rfl | rfl | rfl := member
    · cases replied
    · cases replied
      rfl
    · cases replied
  have cached : CacheKeeps bobsAddress bobsBundle.identitySigningKey pinnedClient := by
    intro bundle held _ _
    cases held
    rfl
  exact ⟨client, ran, sent, later_encryptions_signed rfl reachable_askingClient pins_bob (.inl rfl) cached _
    (Runs.everyStep_of_forall keeps pinnedClient) ran⟩

/-- Bob's identity key stays, the server signs a pre-key of its own, and the next message
goes out encrypted for that. -/
theorem substituted_pre_key_is_used :
    Runs.Reachable (clientStep (nativeSetup malloryTables)) Fresh askingClient ∧
    Pins (nativeSetup malloryTables) malloryTables.native askingClient pinnedClient
      (bundleReply bobsBundle) bobsAddress bobsBundle ∧
    ∃ client, nativeRun pinnedClient (trustAndSend substitutedBundle) = some client ∧
      client.inFlight.length = 1 ∧
      ¬ SignedAfter malloryTables.native bobsAddress bobsBundle.identitySigningKey pinnedClient client := by
  refine ⟨reachable_askingClient, pins_bob, ?_⟩
  have ends : (nativeRun pinnedClient (trustAndSend substitutedBundle)).map (fun client =>
      (client.inFlight.length, client.encryptions.map fun encryption =>
        (encryption.recipientAddress, encryption.bundle))) =
      some (1, [(bobsAddress, substitutedBundle)]) := by decide
  obtain ⟨client, ran, facts⟩ := Option.map_eq_some_iff.mp ends
  obtain ⟨outgoing, sent⟩ := Prod.mk.inj facts
  refine ⟨client, ran, outgoing, ?_⟩
  rintro ⟨later, added, signed⟩
  have unused : pinnedClient.encryptions = [] := by decide
  rw [unused, List.nil_append] at added
  rw [added] at sent
  obtain ⟨encryption, rfl, used⟩ := List.map_eq_singleton_iff.mp sent
  obtain ⟨recipient, bundle⟩ := Prod.mk.inj used
  have valid := signed encryption (List.mem_singleton_self _) (by rw [recipient]) (by rw [recipient])
  rw [bundle, SignedUnder] at valid
  simp only [substitutedBundle, bobsBundle, publishedBundle, bob, GeneratedKeys.device,
    fromBase64_toBase64] at valid
  exact absurd valid (by decide)

end EpicKfc.Guarantees.PreKeyAuthenticity
