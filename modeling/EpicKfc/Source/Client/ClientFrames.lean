import EpicKfc.Source.Client.ClientRuns

/-!
# What the callbacks leave alone

Everything outside `SessionService` keeps the tokens, the session, the place of
the store and the logins that wait for their user.
-/

namespace EpicKfc.Source.Client
open EpicKfc.Lib

/-- The callback waits for the user of a login whose tokens are installed. -/
def Continuation.awaitsUser : Continuation → Bool
  | .loginUser _ _ => true
  | _ => false

/-- The callbacks of `SessionService`. -/
def Continuation.ofSession : Continuation → Bool
  | .loginTokens _ | .loginUser _ _ | .logout => true
  | _ => false

namespace JsonLocalStore

/-- The operations on messages. -/
def StoreMutation.ofMessages : StoreMutation → Bool
  | .saveMessage _ | .markMessageDeletedFor _ _ | .reconcileVisibleMessages _ _ _
  | .markConversationRead _ _ => true
  | _ => false

theorem messages_apply {mutation : StoreMutation} {now : String} {memory memory' : StoreMemory}
    (quiet : mutation.ofMessages = false) (applied : mutation.apply now memory = some memory') :
    memory'.messages = memory.messages := by
  cases mutation with
  | saveKnownUser address =>
    simp only [StoreMutation.apply] at applied
    split at applied
    · cases applied
    · exact Option.some.inj applied ▸ rfl
  | saveMessage _ => cases quiet
  | markMessageDeletedFor _ _ => cases quiet
  | reconcileVisibleMessages _ _ _ => cases quiet
  | markConversationRead _ _ => cases quiet
  | _ => exact Option.some.inj applied ▸ rfl

end JsonLocalStore

namespace ClientState

/-- The logins between the arrival of their tokens and that of their user. -/
def handshakes (client : ClientState) : List Exchange :=
  client.inFlight.filter fun exchange => exchange.continuation.awaitsUser

structure SameIdentity (client client' : ClientState) : Prop where
  tokens : client'.tokens = client.tokens
  user : client'.session.map (·.user) = client.session.map (·.user)
  path : client'.store.path = client.store.path
  indexPath : client'.store.indexPath = client.store.indexPath
  loadedFrom : client'.loadedFrom = client.loadedFrom
  handshakes : client'.handshakes = client.handshakes

theorem SameIdentity.refl (client : ClientState) : SameIdentity client client :=
  ⟨rfl, rfl, rfl, rfl, rfl, rfl⟩

theorem SameIdentity.trans {first second third : ClientState} (before : SameIdentity first second)
    (after : SameIdentity second third) : SameIdentity first third where
  tokens := after.tokens.trans before.tokens
  user := after.user.trans before.user
  path := after.path.trans before.path
  indexPath := after.indexPath.trans before.indexPath
  loadedFrom := after.loadedFrom.trans before.loadedFrom
  handshakes := after.handshakes.trans before.handshakes

theorem effectiveAccessToken_self (client : ClientState) :
    client.effectiveAccessToken client.tokens.accessToken = client.tokens.accessToken := by
  unfold effectiveAccessToken
  split <;> rfl

theorem handshakes_awaits (client : ClientState) (exchange : Exchange) :
    (client.awaits exchange).handshakes =
      client.handshakes ++ if exchange.continuation.awaitsUser then [exchange] else [] := by
  unfold handshakes awaits
  rw [List.filter_append, List.filter_singleton]
  cases exchange.continuation.awaitsUser <;> rfl

theorem sameIdentity_awaits (client : ClientState) {exchange : Exchange}
    (quiet : exchange.continuation.awaitsUser = false) :
    SameIdentity client (client.awaits exchange) := by
  refine ⟨rfl, rfl, rfl, rfl, rfl, ?_⟩
  rw [handshakes_awaits, quiet, if_neg Bool.false_ne_true, List.append_nil]

theorem sameIdentity_send (client : ClientState) (accessToken : String) (alreadyRetried : Bool)
    {continuation : Continuation} (quiet : continuation.awaitsUser = false) :
    SameIdentity client (client.send accessToken alreadyRetried continuation) :=
  sameIdentity_awaits client quiet

theorem inFlight_split {client : ClientState} {index : Nat} {exchange : Exchange}
    (present : client.inFlight[index]? = some exchange) :
    client.inFlight = client.inFlight.take index ++ exchange :: client.inFlight.drop (index + 1) := by
  obtain ⟨inside, here⟩ := List.getElem?_eq_some_iff.mp present
  rw [← here, ← List.drop_eq_getElem_cons inside, List.take_append_drop]

/-- The handshakes around an exchange, and what remains of them without it. -/
theorem handshakes_around {client : ClientState} {index : Nat} {exchange : Exchange}
    (present : client.inFlight[index]? = some exchange) : ∃ earlier later,
    client.handshakes = earlier ++ (if exchange.continuation.awaitsUser then [exchange] else []) ++
      later ∧
    (client.answered index).handshakes = earlier ++ later := by
  refine ⟨(client.inFlight.take index).filter fun e => e.continuation.awaitsUser,
    (client.inFlight.drop (index + 1)).filter fun e => e.continuation.awaitsUser, ?_, ?_⟩
  · rw [handshakes, inFlight_split present, List.filter_append, List.filter_cons]
    rw [← inFlight_split present]
    split <;> simp
  · rw [handshakes, answered, List.eraseIdx_eq_take_drop_succ, List.filter_append]

/-- Taking an exchange that is no handshake out of flight. -/
theorem sameIdentity_answered {client : ClientState} {index : Nat} {exchange : Exchange}
    (present : client.inFlight[index]? = some exchange)
    (quiet : exchange.continuation.awaitsUser = false) :
    SameIdentity client (client.answered index) := by
  obtain ⟨earlier, later, before, after⟩ := handshakes_around present
  refine ⟨rfl, rfl, rfl, rfl, rfl, ?_⟩
  rw [after, before, quiet, if_neg Bool.false_ne_true, List.append_nil]

/-- Taking the only handshake out of flight. -/
theorem handshakes_answered_single {client : ClientState} {index : Nat} {exchange : Exchange}
    (present : client.inFlight[index]? = some exchange) (single : client.handshakes.length ≤ 1)
    (awaits : exchange.continuation.awaitsUser = true) :
    exchange ∈ client.handshakes ∧
      (client.answered index).handshakes = [] := by
  obtain ⟨earlier, later, before, after⟩ := handshakes_around present
  rw [before, if_pos awaits] at single ⊢
  rw [after]
  simp only [List.length_append, List.length_singleton] at single
  have none_earlier : earlier = [] := List.eq_nil_of_length_eq_zero (by omega)
  have none_later : later = [] := List.eq_nil_of_length_eq_zero (by omega)
  simp [none_earlier, none_later]

/-- A mutation changes the memory of the store and its files, and nothing else. -/
theorem mutate_eq (setup : ClientSetup) (client : ClientState)
    (mutation : JsonLocalStore.StoreMutation) (io : StoreIo) :
    ∃ files, (client.mutate setup mutation io).2 = { client with
      store := { client.store with
        memory := (mutation.apply io.now client.store.memory).getD client.store.memory }
      files := files } := by
  unfold mutate JsonLocalStore.mutate
  cases mutation.apply io.now client.store.memory with
  | none => exact ⟨_, rfl⟩
  | some memory => exact ⟨_, rfl⟩

theorem sameIdentity_mutate (setup : ClientSetup) (client : ClientState)
    (mutation : JsonLocalStore.StoreMutation) (io : StoreIo) :
    SameIdentity client (client.mutate setup mutation io).2 := by
  obtain ⟨files, same⟩ := mutate_eq setup client mutation io
  rw [same]
  exact ⟨rfl, rfl, rfl, rfl, rfl, rfl⟩

/-- The messages in the memory of the store stay as they are. -/
def KeepsMessages (client client' : ClientState) : Prop :=
  client'.store.memory.messages = client.store.memory.messages

theorem keepsMessages_mutate (setup : ClientSetup) (client : ClientState)
    {mutation : JsonLocalStore.StoreMutation} (quiet : mutation.ofMessages = false) (io : StoreIo) :
    KeepsMessages client (client.mutate setup mutation io).2 := by
  obtain ⟨files, same⟩ := mutate_eq setup client mutation io
  rw [same]
  cases applied : mutation.apply io.now client.store.memory with
  | none => rfl
  | some memory => exact JsonLocalStore.messages_apply quiet applied

end ClientState

open ClientState

/-- A relation that everything outside `SessionService` keeps: requests other than that of a
login's user, known users and pins, recorded encryptions and the cached bundle are all that
changes there. -/
structure CallbackFrame (setup : ClientSetup) (kept : ClientState → ClientState → Prop) : Prop where
  refl : ∀ client, kept client client
  trans : ∀ {first second third}, kept first second → kept second third → kept first third
  sends : ∀ client accessToken alreadyRetried {continuation : Continuation},
    continuation.awaitsUser = false → kept client (client.send accessToken alreadyRetried continuation)
  savesUser : ∀ client address io, kept client (client.mutate setup (.saveKnownUser address) io).2
  savesPin : ∀ client pin io, kept client (client.mutate setup (.saveTrustPin pin) io).2
  encrypts : ∀ (client : ClientState) encryptions, kept client { client with encryptions := encryptions }
  caches : ∀ (client : ClientState) bundle, kept client { client with lastTrustedBundle := bundle }

theorem sameIdentity_frame (setup : ClientSetup) : CallbackFrame setup SameIdentity where
  refl := .refl
  trans := .trans
  sends := fun client accessToken alreadyRetried => sameIdentity_send client accessToken alreadyRetried
  savesUser := fun client _ io => sameIdentity_mutate setup client _ io
  savesPin := fun client _ io => sameIdentity_mutate setup client _ io
  encrypts := fun _ _ => ⟨rfl, rfl, rfl, rfl, rfl, rfl⟩
  caches := fun _ _ => ⟨rfl, rfl, rfl, rfl, rfl, rfl⟩

theorem keepsMessages_frame (setup : ClientSetup) : CallbackFrame setup KeepsMessages where
  refl := fun _ => rfl
  trans := fun before after => after.trans before
  sends := fun _ _ _ _ _ => rfl
  savesUser := fun client _ io => keepsMessages_mutate setup client rfl io
  savesPin := fun client _ io => keepsMessages_mutate setup client rfl io
  encrypts := fun _ _ => rfl
  caches := fun _ _ => rfl

namespace SessionService

theorem sameIdentity_updateTokens (setup : ClientSetup) (io : ClientIo) (client : ClientState)
    (tokens : TokenSet) : SameIdentity client (updateTokens setup client tokens io) := by
  unfold updateTokens
  split
  · exact .refl client
  · next session held =>
    refine .trans ?_ (sameIdentity_mutate setup _ _ _)
    exact ⟨rfl, by rw [held]; rfl, rfl, rfl, rfl, rfl⟩

end SessionService

namespace CallbackFrame

variable {setup : ClientSetup} {kept : ClientState → ClientState → Prop}
  (frame : CallbackFrame setup kept) (io : ClientIo) (client : ClientState)

include frame

/-! ## Trust -/

theorem resolveUsername (username : String) {found : ClientState → UserAddress → ClientState}
    {continuation : Continuation} (quiet : continuation.awaitsUser = false)
    (keeps : ∀ client address, kept client (found client address)) :
    kept client (KeyService.resolveUsername setup client username found continuation) := by
  simp only [KeyService.resolveUsername]
  split
  · exact frame.refl client
  · split
    · exact keeps client _
    · exact frame.sends client _ _ quiet

theorem addressArrived (object : Json.Members) {found : ClientState → UserAddress → ClientState}
    (keeps : ∀ client address, kept client (found client address)) :
    kept client (KeyService.addressArrived setup client object found) := by
  simp only [KeyService.addressArrived]
  split
  · exact frame.refl client
  · exact keeps client _

theorem trustAddress (address : UserAddress) :
    kept client (KeyService.trustAddress setup io client address) := by
  have saved := frame.savesUser client address (io.store 0)
  unfold KeyService.trustAddress
  split
  · next result =>
    rw [result] at saved
    exact saved
  · next result =>
    rw [result] at saved
    exact frame.trans saved (frame.sends _ _ _ rfl)

theorem trustUsername (username : String) :
    kept client (KeyService.trustUsername setup client username io) := by
  unfold KeyService.trustUsername
  split
  · exact frame.resolveUsername client username rfl (frame.trustAddress io)
  · exact frame.refl client

theorem trustBundle (address : UserAddress) (bundle : PreKeyBundle) :
    kept client (KeyService.trustBundle setup client address bundle io) := by
  simp only [KeyService.trustBundle]
  split
  · exact frame.refl client
  · split
    · have saved := frame.savesPin client
        ⟨address.userId, address.deviceId, bundle.identityKey, io.now⟩ (io.store 0)
      split
      · next result =>
        rw [result] at saved
        exact saved
      · next result =>
        rw [result] at saved
        exact frame.trans saved (frame.caches _ _)
    · split
      · exact frame.refl client
      · exact frame.caches client _

/-! ## Sending and forwarding -/

theorem deliver (delivery : Delivery) (bundle : PreKeyBundle) :
    kept client (MessageService.deliver setup client delivery bundle io) := by
  simp only [MessageService.deliver]
  split
  · exact frame.encrypts client _
  · split
    · exact frame.encrypts client _
    · exact frame.trans (frame.encrypts client _) (frame.sends _ _ _ rfl)

theorem trustedBundle (delivery : Delivery) :
    kept client (MessageService.trustedBundle setup client delivery io) := by
  simp only [MessageService.trustedBundle]
  split
  · exact frame.deliver io client delivery _
  · split
    · exact frame.refl client
    · exact frame.sends client _ _ rfl

theorem bundleArrived (pin : TrustPin) (delivery : Delivery) (bundle : PreKeyBundle) :
    kept client (MessageService.bundleArrived setup client pin delivery bundle io) := by
  unfold MessageService.bundleArrived
  split
  · exact frame.refl client
  · split
    · exact frame.refl client
    · exact frame.trans (frame.caches client _) (frame.deliver io _ delivery bundle)

theorem sendToAddress (address : UserAddress) (plaintext : String) :
    kept client (MessageService.sendToAddress setup client address plaintext io) := by
  unfold MessageService.sendToAddress
  split
  · exact frame.refl client
  · exact frame.trustedBundle io client _

theorem sendAddress (plaintext : String) (address : UserAddress) :
    kept client (MessageService.sendAddress setup plaintext io client address) := by
  have saved := frame.savesUser client address (io.store 0)
  unfold MessageService.sendAddress
  split
  · next result =>
    rw [result] at saved
    exact saved
  · next result =>
    rw [result] at saved
    exact frame.trans saved (frame.sendToAddress io _ address plaintext)

theorem forwardToAddress (messageId : String) (address : UserAddress) :
    kept client (MessageService.forwardToAddress setup client messageId address io) := by
  unfold MessageService.forwardToAddress
  split
  · exact frame.refl client
  · exact frame.trustedBundle io client _

theorem forwardAddress (messageId : String) (address : UserAddress) :
    kept client (MessageService.forwardAddress setup messageId io client address) := by
  have saved := frame.savesUser client address (io.store 0)
  unfold MessageService.forwardAddress
  split
  · next result =>
    rw [result] at saved
    exact saved
  · next result =>
    rw [result] at saved
    exact frame.trans saved (frame.forwardToAddress io _ messageId address)

theorem send (recipientUsername plaintext : String) :
    kept client (MessageService.send setup client recipientUsername plaintext io) := by
  unfold MessageService.send
  split
  · exact frame.resolveUsername client _ rfl fun client => frame.sendAddress io client plaintext
  · exact frame.refl client

theorem forward (messageId recipientUsername : String) :
    kept client (MessageService.forward setup client messageId recipientUsername io) := by
  unfold MessageService.forward
  split
  · exact frame.resolveUsername client _ rfl fun client => frame.forwardAddress io client messageId
  · exact frame.refl client

/-! ## Callbacks -/

theorem callback {continuation : Continuation} (object : Json.Members)
    (outside : continuation.ofSession = false) :
    kept client (callback setup client continuation object io) := by
  cases continuation with
  | loginTokens password => cases outside
  | loginUser tokens password => cases outside
  | logout => cases outside
  | trustAddress => exact frame.addressArrived client object (frame.trustAddress io)
  | trustBundle address => exact frame.trustBundle io client address _
  | sendAddress plaintext =>
    exact frame.addressArrived client object fun client => frame.sendAddress io client plaintext
  | forwardAddress messageId =>
    exact frame.addressArrived client object fun client => frame.forwardAddress io client messageId
  | trustedBundle pin delivery => exact frame.bundleArrived io client pin delivery _
  | other => exact frame.refl client

end CallbackFrame

end EpicKfc.Source.Client
