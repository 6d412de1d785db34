import EpicKfc.Source.Client.ServiceFrames

/-!
# What has set tombstones

The markers that hide a message come from a document that arrived, from a deletion, or
from a list that leaves the message out. A history of them, kept from the load of the
store on, names every marker that a cached message carries.
-/

namespace EpicKfc.Guarantees.TombstoneHistory
open EpicKfc.Lib
open EpicKfc.Source.Client
open EpicKfc.Source.Client.ClientState
open EpicKfc.Source.Client.LocalMessages
open EpicKfc.Source.Client.StoreDocuments

inductive Marker where
  | accessRevoked
  | senderDeleted
  | recipientDeleted
  | deleted
deriving DecidableEq

def Marker.text (message : LocalMessage) : Marker → String
  | .accessRevoked => message.accessRevokedAt
  | .senderDeleted => message.senderDeletedAt
  | .recipientDeleted => message.recipientDeletedAt
  | .deleted => message.deletedAt

/-- The marker hides the message from the user. -/
def Marker.Concerns (message : LocalMessage) (userId : String) : Marker → Prop
  | .accessRevoked | .deleted => True
  | .senderDeleted => message.senderUserId = userId
  | .recipientDeleted => message.recipientUserId = userId

instance (message : LocalMessage) (userId : String) :
    DecidablePred (Marker.Concerns message userId) := fun marker => by
  cases marker <;> unfold Marker.Concerns <;> infer_instance

structure Tombstone where
  messageId : String
  marker : Marker
deriving DecidableEq

def allMarkers : List Marker := [.accessRevoked, .senderDeleted, .recipientDeleted, .deleted]

def tombstonesOf (message : LocalMessage) : List Tombstone :=
  (allMarkers.filter fun marker => marker.text message ≠ "").map (⟨message.id, ·⟩)

/-- The tombstones that the messages of a document carry. -/
def carried (messages : MessageList) : List Tombstone := messages.flatMap tombstonesOf

/-- The tombstones of a deletion by the user. -/
def deletion (userId : String) (message : LocalMessage) : List Tombstone :=
  (if message.senderUserId = userId then [⟨message.id, .senderDeleted⟩] else []) ++
  (if message.recipientUserId = userId then [⟨message.id, .recipientDeleted⟩] else []) ++
  (if message.senderUserId ≠ userId ∧ message.recipientUserId ≠ userId then
    [⟨message.id, .deleted⟩] else [])

def deleted (userId messageId : String) (messages : MessageList) : List Tombstone :=
  (messages.filter fun message => message.id = messageId).flatMap (deletion userId)

/-- The party of a message whose list is fetched. -/
def listedParty (message : LocalMessage) : MessageDirection → String
  | .received => message.recipientUserId
  | .sent => message.senderUserId

def omittedMarker : MessageDirection → Marker
  | .received => .accessRevoked
  | .sent => .senderDeleted

/-- The tombstones of a list that leaves messages of the user out. -/
def omitted (userId : String) (direction : MessageDirection) (visibleMessageIds : List String)
    (messages : MessageList) : List Tombstone :=
  (messages.filter fun message => listedParty message direction = userId ∧
    message.id ∉ visibleMessageIds).map fun message => ⟨message.id, omittedMarker direction⟩

/-- Every marker of a cached message is in the history. -/
def Covers (history : List Tombstone) (messages : MessageList) : Prop :=
  ∀ message ∈ messages, ∀ marker : Marker, marker.text message ≠ "" →
    ⟨message.id, marker⟩ ∈ history

/-! ## Visibility -/

theorem mem_allMarkers (marker : Marker) : marker ∈ allMarkers := by
  cases marker <;> decide

theorem isMessageVisibleToUser_iff_markers {message : LocalMessage} {userId : String} :
    isMessageVisibleToUser message userId = true ↔
      ∀ marker : Marker, marker.Concerns message userId → marker.text message = "" := by
  rw [isMessageVisibleToUser_iff]
  constructor
  · rintro ⟨deleted, revoked, sender, recipient⟩ marker concerns
    cases marker with
    | accessRevoked => exact revoked
    | senderDeleted => exact sender concerns
    | recipientDeleted => exact recipient concerns
    | deleted => exact deleted
  · intro clear
    exact ⟨clear .deleted trivial, clear .accessRevoked trivial, clear .senderDeleted,
      clear .recipientDeleted⟩

theorem mem_tombstonesOf {message : LocalMessage} {marker : Marker} :
    ⟨message.id, marker⟩ ∈ tombstonesOf message ↔ marker.text message ≠ "" := by
  simp [tombstonesOf, mem_allMarkers]

/-! ## Operations -/

variable {history : List Tombstone} {messages : MessageList}

theorem Covers.mono {more : List Tombstone} (covers : Covers history messages)
    (within : history ⊆ more) : Covers more messages :=
  fun message member marker carries => within (covers message member marker carries)

theorem covers_carried (messages : MessageList) : Covers (carried messages) messages :=
  fun message member _ carries => List.mem_flatMap.mpr ⟨message, member, mem_tombstonesOf.mpr carries⟩

/-- Each message keeps its id, and each new marker is in the history. -/
theorem covers_map {change : LocalMessage → LocalMessage} (covers : Covers history messages)
    (id : ∀ message, (change message).id = message.id)
    (sets : ∀ message ∈ messages, ∀ marker : Marker, marker.text (change message) ≠ "" →
      marker.text message ≠ "" ∨ ⟨message.id, marker⟩ ∈ history) :
    Covers history (messages.map change) := by
  intro message member marker carries
  obtain ⟨original, present, rfl⟩ := List.mem_map.mp member
  rw [id]
  exact (sets original present marker carries).elim (covers original present marker) (fun set => set)

theorem text_mergedMessage {message previous : LocalMessage} {marker : Marker}
    (carries : marker.text (mergedMessage message previous) ≠ "") :
    marker.text message ≠ "" ∨ marker.text previous ≠ "" := by
  by_contra neither
  rw [not_or, not_not, not_not] at neither
  refine carries ?_
  cases marker <;> exact firstNonEmpty_eq_empty.mpr neither

theorem covers_saveMessage {message : LocalMessage} (covers : Covers history messages)
    (arrived : tombstonesOf message ⊆ history) : Covers history (saveMessage message messages) := by
  intro stored member marker carries
  rcases KeyedList.mem_upsertWith member with earlier | rfl | ⟨previous, earlier, same, rfl⟩
  · exact covers stored earlier marker carries
  · exact arrived (mem_tombstonesOf.mpr carries)
  · rcases text_mergedMessage carries with new | old
    · exact arrived (mem_tombstonesOf.mpr new)
    · have known := covers previous earlier marker old
      rwa [same] at known

theorem text_markedDeletedFor {userId now : String} {message : LocalMessage} {marker : Marker}
    (carries : marker.text (markedDeletedFor userId now message) ≠ "") :
    marker.text message ≠ "" ∨ ⟨message.id, marker⟩ ∈ deletion userId message := by
  cases marker with
  | accessRevoked => exact Or.inl carries
  | senderDeleted =>
    by_cases sent : message.senderUserId = userId
    · simp [deletion, sent]
    · simp only [markedDeletedFor, Marker.text, if_neg sent] at carries
      exact Or.inl carries
  | recipientDeleted =>
    by_cases received : message.recipientUserId = userId
    · simp [deletion, received]
    · simp only [markedDeletedFor, Marker.text, if_neg received] at carries
      exact Or.inl carries
  | deleted =>
    by_cases third : message.senderUserId ≠ userId ∧ message.recipientUserId ≠ userId
    · simp [deletion, third]
    · simp only [markedDeletedFor, Marker.text] at carries
      rw [if_neg third] at carries
      exact Or.inl carries

theorem mem_markMessageDeletedFor {userId messageId now : String} {message : LocalMessage}
    (member : message ∈ (markMessageDeletedFor userId messageId now messages).getD messages) :
    message ∈ messages ∨ ∃ original ∈ messages, original.id = messageId ∧
      message = markedDeletedFor userId now original := by
  induction messages with
  | nil => exact Or.inl member
  | cons first rest ih =>
    rw [markMessageDeletedFor] at member
    split at member
    · next same =>
      rcases List.mem_cons.mp member with rfl | later
      · exact Or.inr ⟨first, List.mem_cons_self, same, rfl⟩
      · exact Or.inl (List.mem_cons_of_mem first later)
    · have split : message = first ∨
          message ∈ (markMessageDeletedFor userId messageId now rest).getD rest := by
        cases marked : markMessageDeletedFor userId messageId now rest <;> simpa [marked] using member
      rcases split with rfl | later
      · exact Or.inl List.mem_cons_self
      · rcases ih later with stored | ⟨original, stored, found⟩
        · exact Or.inl (List.mem_cons_of_mem first stored)
        · exact Or.inr ⟨original, List.mem_cons_of_mem first stored, found⟩

theorem covers_markMessageDeletedFor {userId messageId now : String}
    (covers : Covers history messages) (set : deleted userId messageId messages ⊆ history) :
    Covers history ((markMessageDeletedFor userId messageId now messages).getD messages) := by
  intro message member marker carries
  rcases mem_markMessageDeletedFor member with stored | ⟨original, stored, same, rfl⟩
  · exact covers message stored marker carries
  · rcases text_markedDeletedFor carries with old | new
    · exact covers original stored marker old
    · exact set (List.mem_flatMap.mpr ⟨original, by simp [stored, same], new⟩)

theorem text_reconciled {userId now : String} {direction : MessageDirection}
    {visibleMessageIds : List String} {message : LocalMessage} {marker : Marker}
    (carries : marker.text (reconciled userId now direction visibleMessageIds message) ≠ "") :
    marker.text message ≠ "" ∨
      ⟨message.id, marker⟩ ∈ omitted userId direction visibleMessageIds [message] := by
  simp only [reconciled] at carries
  split at carries
  · exact Or.inl carries
  · next relevant =>
    simp only [Bool.or_eq_true, Bool.not_eq_true', not_or, Bool.not_eq_false,
      List.contains_iff_mem] at relevant
    obtain ⟨⟨party, unlisted⟩, _⟩ := relevant
    cases direction with
    | received =>
      have received : message.recipientUserId = userId := by simpa using party
      cases marker with
      | accessRevoked => exact Or.inr (by simp [omitted, omittedMarker, listedParty, received, unlisted])
      | _ => exact Or.inl (by simpa [Marker.text, received] using carries)
    | sent =>
      have sent : message.senderUserId = userId := by simpa using party
      cases marker with
      | senderDeleted => exact Or.inr (by simp [omitted, omittedMarker, listedParty, sent, unlisted])
      | _ => exact Or.inl (by simpa [Marker.text, sent] using carries)

theorem covers_reconcileVisibleMessages {userId now : String} {direction : MessageDirection}
    {visibleMessageIds : List String} (covers : Covers history messages)
    (set : omitted userId direction visibleMessageIds messages ⊆ history) :
    Covers history (reconcileVisibleMessages userId now direction visibleMessageIds messages) := by
  refine covers_map covers (MessageSync.reconciled_id userId now direction visibleMessageIds) ?_
  intro message member marker carries
  refine (text_reconciled carries).imp_right fun new => set ?_
  exact (((List.singleton_sublist.mpr member).filter _).map _).subset new

/-! ## A fetched list -/

variable (library : StorageLibrary)

theorem memory_saveMessage (message : LocalMessage) (store : JsonLocalStore) (io : StoreIo)
    (files : Files) :
    (JsonLocalStore.mutate library store (.saveMessage message) io files).2.1.memory.messages =
      saveMessage message store.memory.messages :=
  congrArg StoreMemory.messages
    (MessageSync.mutate_memory library store (.saveMessage message) io files rfl)

/-- What a list leaves in the store: stored messages, and fetched ones under their own parties. -/
theorem mem_saveMessages {message : LocalMessage} (saves : List (LocalMessage × StoreIo)) :
    ∀ (store : JsonLocalStore) (files : Files),
      message ∈ (MessageSync.saveMessages library saves store files).2.1.memory.messages →
      message ∈ store.memory.messages ∨ ∃ save ∈ saves, save.1.id = message.id ∧
        MessageSync.HasParties save.1.senderUserId save.1.recipientUserId message := by
  induction saves with
  | nil => exact fun _ _ member => Or.inl member
  | cons save rest ih =>
    intro store files member
    obtain ⟨saved, io⟩ := save
    have memory := memory_saveMessage library saved store io files
    have once (stored : message ∈ saveMessage saved store.memory.messages) :
        message ∈ store.memory.messages ∨ ∃ save ∈ (saved, io) :: rest, save.1.id = message.id ∧
          MessageSync.HasParties save.1.senderUserId save.1.recipientUserId message := by
      rcases KeyedList.mem_upsertWith stored with earlier | rfl | ⟨_, _, _, rfl⟩
      · exact Or.inl earlier
      · exact Or.inr ⟨_, List.mem_cons_self, rfl, rfl, rfl⟩
      · exact Or.inr ⟨_, List.mem_cons_self, rfl, rfl, rfl⟩
    unfold MessageSync.saveMessages at member
    split at member
    · next result =>
      rw [result] at memory
      exact once (memory ▸ member)
    · next store' files' result =>
      rw [result] at memory
      rcases ih store' files' member with stored | ⟨later, listed, found⟩
      · exact once (memory ▸ stored)
      · exact Or.inr ⟨later, List.mem_cons_of_mem _ listed, found⟩

theorem covers_saveMessages {saves : List (LocalMessage × StoreIo)}
    (arrived : carried (saves.map Prod.fst) ⊆ history) :
    ∀ (store : JsonLocalStore) (files : Files), Covers history store.memory.messages →
      Covers history (MessageSync.saveMessages library saves store files).2.1.memory.messages := by
  induction saves with
  | nil => exact fun _ _ covers => covers
  | cons save rest ih =>
    intro store files covers
    obtain ⟨message, io⟩ := save
    rw [List.map_cons, carried, List.flatMap_cons, List.append_subset] at arrived
    have memory := memory_saveMessage library message store io files
    have once := covers_saveMessage covers arrived.1
    unfold MessageSync.saveMessages
    split
    · next result =>
      rw [result] at memory
      exact memory ▸ once
    · next result =>
      rw [result] at memory
      exact ih arrived.2 _ _ (memory ▸ once)

theorem covers_saveAndReconcileMessages {userId : String} {direction : MessageDirection}
    {saves : List (LocalMessage × StoreIo)} {reconcileIo : StoreIo} {store : JsonLocalStore}
    {files : Files} (covers : Covers history store.memory.messages)
    (arrived : carried (saves.map Prod.fst) ⊆ history)
    (set : omitted userId direction (saves.map fun save => save.1.id) store.memory.messages ⊆
      history) :
    Covers history (MessageSync.saveAndReconcileMessages library userId direction saves reconcileIo
      store files).2.1.memory.messages := by
  have saved := covers_saveMessages library arrived store files covers
  unfold MessageSync.saveAndReconcileMessages
  rw [MessageSync.mutate_memory library _ (.reconcileVisibleMessages userId direction
    (saves.map fun save => save.1.id)) reconcileIo _ rfl]
  refine covers_reconcileVisibleMessages saved fun tombstone left => set ?_
  -- what the list leaves out was stored before
  obtain ⟨message, kept, rfl⟩ := List.mem_map.mp left
  obtain ⟨member, relevant⟩ := List.mem_filter.mp kept
  have unlisted := (of_decide_eq_true relevant).2
  rcases mem_saveMessages library saves store files member with earlier | ⟨save, listed, same, _⟩
  · exact List.mem_map.mpr ⟨message, List.mem_filter.mpr ⟨earlier, relevant⟩, rfl⟩
  · exact absurd (List.mem_map.mpr ⟨save, listed, same⟩) unlisted

theorem parties_reconciled (userId now : String) (direction : MessageDirection)
    (visibleMessageIds : List String) (message : LocalMessage) :
    MessageSync.HasParties message.senderUserId message.recipientUserId
      (reconciled userId now direction visibleMessageIds message) := by
  simp only [reconciled]
  split
  · exact ⟨rfl, rfl⟩
  · split <;> exact ⟨rfl, rfl⟩

/-- Every message has the parties of one that was stored or fetched. -/
theorem parties_saveAndReconcileMessages {userId : String} {direction : MessageDirection}
    {saves : List (LocalMessage × StoreIo)} {reconcileIo : StoreIo} {store : JsonLocalStore}
    {files : Files} {message : LocalMessage}
    (member : message ∈ (MessageSync.saveAndReconcileMessages library userId direction saves
      reconcileIo store files).2.1.memory.messages) :
    ∃ original ∈ store.memory.messages ++ saves.map Prod.fst,
      MessageSync.HasParties original.senderUserId original.recipientUserId message := by
  unfold MessageSync.saveAndReconcileMessages at member
  rw [MessageSync.mutate_memory library _ (.reconcileVisibleMessages userId direction
    (saves.map fun save => save.1.id)) reconcileIo _ rfl] at member
  obtain ⟨saved, stored, rfl⟩ := List.mem_map.mp member
  have same := parties_reconciled userId reconcileIo.now direction
    (saves.map fun save => save.1.id) saved
  rcases mem_saveMessages library saves store files stored with earlier | ⟨save, listed, _, parties⟩
  · exact ⟨saved, List.mem_append_left _ earlier, same⟩
  · refine ⟨save.1, List.mem_append_right _ (List.mem_map_of_mem listed), ?_⟩
    exact ⟨same.1.trans parties.1, same.2.trans parties.2⟩

/-! ## The history of the services -/

variable (setup : ServiceSetup)

/-- The list that a last page completes. -/
def completed (direction : MessageDirection) (collected : MessageList) (document : Json) :
    Option MessageList :=
  let messages := MessageGateway.messageListFromJson setup.library.fromISODateWithMs
    (QJsonValue.toArray (some document)) direction
  if messages.length < MessageGateway.messagePageLimit then some (collected ++ messages) else none

/-- What the reply of a service sets. -/
def setByReply (client : ClientState) (callback : ServiceCallback) (document : Json) :
    List Tombstone :=
  match callback with
  | .messageSaved _ | .revoked =>
    tombstonesOf (MessageGateway.messageFromJson setup.library.fromISODateWithMs
      (QJsonValue.toObject (some document)) .sent)
  | .deleted messageId => deleted client.currentUserId messageId client.store.memory.messages
  | .listed direction _ collected _ =>
    match completed setup direction collected document with
    | none => []
    | some messages => carried messages ++ omitted client.currentUserId direction
        (messages.map (·.id)) client.store.memory.messages
  | _ => []

/-- The user of a login loads a store, whose messages start the history again. -/
def recordReply (client : ClientState) (entry : InFlight) (document : Json) (client' : ClientState)
    (history : List Tombstone) : List Tombstone :=
  match entry.exchange with
  | .refresh _ _ => history
  | .request request =>
    if request.continuation.awaitsUser then carried client'.store.memory.messages
    else if request.continuation = .other then
      history ++ setByReply setup client entry.callback document
    else history

def record (services : Services) (event : ServiceEvent × ServiceIo) (services' : Services)
    (history : List Tombstone) : List Tombstone :=
  match event.1 with
  | .reply index (.success document) =>
    match services.inFlight[index]? with
    | some entry => recordReply setup services.client entry document services'.client history
    | none => history
  | _ => history

/-- The history covers the messages in the memory of the client. -/
def CoversClient (history : List Tombstone) (client : ClientState) : Prop :=
  Covers history client.store.memory.messages

variable {setup} {client client' : ClientState}

theorem coversClient_of_keeps (covers : CoversClient history client)
    (kept : KeepsMessages client client') : CoversClient history client' :=
  Eq.mpr (congrArg (Covers history) kept) covers

/-! ## Operations on the client -/

theorem messages_mutate (setup : ClientSetup) (client : ClientState)
    (mutation : JsonLocalStore.StoreMutation) (io : StoreIo) :
    (client.mutate setup mutation io).2.store.memory.messages =
      ((mutation.apply io.now client.store.memory).getD client.store.memory).messages := by
  obtain ⟨files, same⟩ := mutate_eq setup client mutation io
  rw [same]

theorem coversClient_saveMessage {message : LocalMessage} (covers : CoversClient history client)
    (arrived : tombstonesOf message ⊆ history) (io : StoreIo) :
    CoversClient history (client.mutate setup.toClientSetup (.saveMessage message) io).2 := by
  unfold CoversClient
  rw [messages_mutate]
  exact covers_saveMessage covers arrived

theorem coversClient_markMessageDeletedFor {userId messageId : String}
    (covers : CoversClient history client)
    (set : deleted userId messageId client.store.memory.messages ⊆ history) (io : StoreIo) :
    CoversClient history
      (client.mutate setup.toClientSetup (.markMessageDeletedFor userId messageId) io).2 := by
  have marked : Covers history _ := @covers_markMessageDeletedFor _ _ _ _ io.now covers set
  unfold CoversClient
  rw [messages_mutate, JsonLocalStore.StoreMutation.apply]
  cases applied : markMessageDeletedFor userId messageId io.now client.store.memory.messages with
  | none => exact covers
  | some messages =>
    rw [applied] at marked
    exact marked

theorem coversClient_markConversationRead {userId peerUserId : String}
    (covers : CoversClient history client) (io : StoreIo) :
    CoversClient history
      (client.mutate setup.toClientSetup (.markConversationRead userId peerUserId) io).2 := by
  unfold CoversClient
  rw [messages_mutate]
  refine covers_map covers (fun message => ?_) fun message _ marker carries => Or.inl ?_
  · dsimp only
    split <;> rfl
  · dsimp only at carries
    split at carries
    · cases marker <;> exact carries
    · exact carries

/-- The saves of a list, each with what it meets outside. -/
theorem fst_zipIdx_saves (messages : MessageList) (io : Nat → StoreIo) :
    (messages.zipIdx.map fun entry => (entry.1, io (entry.2 + 1))).map Prod.fst = messages := by
  rw [List.map_map]
  exact List.zipIdx_map_fst 0 messages

theorem coversClient_saveAndReconcileMessages {messages : MessageList} {direction : MessageDirection}
    (covers : CoversClient history client) (arrived : carried messages ⊆ history)
    (set : omitted client.currentUserId direction (messages.map (·.id)) client.store.memory.messages ⊆
      history) (io : Nat → StoreIo) :
    CoversClient history (MessageService.saveAndReconcileMessages setup.toClientSetup client messages
      direction io) := by
  have fetched := fst_zipIdx_saves messages io
  have ids : (messages.zipIdx.map fun entry => (entry.1, io (entry.2 + 1))).map
      (fun save => save.1.id) = messages.map (·.id) := by
    have kept := congrArg (List.map LocalMessage.id) fetched
    rwa [List.map_map] at kept
  exact covers_saveAndReconcileMessages setup.library covers (by rwa [fetched]) (by rwa [ids])

theorem coversClient_anchorArrived {messageId : String} (covers : CoversClient history client)
    (reply : Result Json.Members) (io : StoreIo) :
    let arrived := MessageService.anchorArrived setup.library client.store messageId reply io
      client.files
    CoversClient history { client with store := arrived.2.1, files := arrived.2.2 } := by
  refine MessageService.anchorArrived_ensures setup.toClientSetup messageId reply io covers ?_
  intro cached stored anchor
  refine coversClient_saveMessage covers (fun tombstone carries => ?_) io
  obtain ⟨marker, kept, rfl⟩ := List.mem_map.mp carries
  have carried := of_decide_eq_true (List.mem_filter.mp kept).2
  exact covers cached stored marker (by cases marker <;> exact carried)

/-! ## Operations of the services -/

variable {services : Services}

theorem coversClient_openConversation (covers : CoversClient history services.client)
    (address : UserAddress) (username : String) (page : Int) (io : ClientIo) :
    CoversClient history (services.openConversation setup address username page io).client := by
  rw [Services.client_openConversation]
  exact MessageService.openConversationFromCache_ensures setup.toClientSetup setup.order address
    username page io covers (coversClient_markConversationRead covers (io.store 0))

theorem coversClient_listComplete {direction : MessageDirection} {messages : MessageList}
    {purpose : ListPurpose} (covers : CoversClient history services.client)
    (arrived : carried messages ⊆ history)
    (set : omitted services.client.currentUserId direction (messages.map (·.id))
      services.client.store.memory.messages ⊆ history) (io : ServiceIo) :
    CoversClient history (services.listComplete setup direction messages purpose io).client := by
  have saved : CoversClient history _ :=
    @coversClient_saveAndReconcileMessages _ setup _ _ _ covers arrived set io.store
  simp only [Services.listComplete]
  split
  · exact saved
  · exact saved
  · exact coversClient_openConversation saved _ _ _ _
  · exact saved

theorem coversClient_serviceReplied {entry : InFlight} {document : Json}
    (covers : CoversClient history services.client)
    (set : setByReply setup services.client entry.callback document ⊆ history) (io : ServiceIo) :
    CoversClient history (services.serviceReplied setup entry document io).client := by
  simp only [Services.serviceReplied]
  cases waiting : entry.callback with
  | own forwarding => exact covers
  | quiet => exact covers
  | readAddress username page =>
    dsimp only
    split
    · exact covers
    · exact coversClient_of_keeps covers ((messages_frame setup).readAddressArrived services _ _ _ _)
  | listed direction accessToken collected purpose =>
    simp only [waiting, setByReply, completed] at set
    simp only [Services.pageArrived]
    split
    · next complete =>
      rw [if_pos complete, List.append_subset] at set
      exact coversClient_listComplete covers set.1 set.2 io
    · exact covers
  | messageSaved localSenderCopy =>
    rw [waiting] at set
    have saved : CoversClient history _ := @coversClient_saveMessage _ setup _
      { MessageGateway.messageFromJson setup.library.fromISODateWithMs
          (QJsonValue.toObject (some document)) .sent with
        localSenderCopyWirePayloadJson := localSenderCopy } covers set (io.store 0)
    exact saved
  | revoked =>
    rw [waiting] at set
    exact coversClient_saveMessage covers set (io.store 0)
  | deleted messageId =>
    rw [waiting] at set
    exact coversClient_markMessageDeletedFor covers set (io.store 0)
  | anchor messageId =>
    simp only [Services.anchorArrived, Services.judged]
    have stored := @coversClient_anchorArrived _ setup _ messageId covers
      (.ok (QJsonValue.toObject (some document))) (io.store 0)
    split <;> exact stored
  | deviceKeys => exact coversClient_of_keeps covers ((messages_frame setup).uploadOneTimePreKeys services io)

/-! ## Steps -/

theorem coversClient_serviceFailed (covers : CoversClient history services.client) (entry : InFlight)
    (error : ClientError) (io : ServiceIo) :
    CoversClient history (services.serviceFailed setup entry error io).client := by
  unfold Services.serviceFailed
  split
  · next messageId _ =>
    simp only [Services.anchorArrived, Services.judged]
    have stored := @coversClient_anchorArrived _ setup _ messageId covers (.error error) (io.store 0)
    split <;> exact stored
  · exact covers

theorem coversClient_failed {entry : InFlight} (covers : CoversClient history services.client)
    (statusCode : Nat) (error : ClientError) (io : ServiceIo) :
    CoversClient history (services.replied setup entry (.failure statusCode error) io).client := by
  have failed := @coversClient_serviceFailed history setup services covers entry error io
  cases sent : entry.exchange with
  | refresh previousRefreshToken retried =>
    simp only [Services.replied, sent]
    exact failed
  | request request =>
    simp only [Services.replied, sent]
    split
    · next refreshes =>
      simp only [finished, DocumentResponse.toResponse, if_pos refreshes]
      exact covers
    · exact failed

theorem coversClient_replied {entry : InFlight} (covers : CoversClient history services.client)
    (document : Json) (io : ServiceIo) :
    let replied := services.replied setup entry (.success document) io
    CoversClient (recordReply setup services.client entry document replied.client history)
      replied.client := by
  cases sent : entry.exchange with
  | refresh previousRefreshToken retried =>
    simp only [Services.replied, recordReply, sent]
    exact coversClient_of_keeps covers (SessionService.keepsMessages_tokensRefreshed
      setup.toClientSetup io.toClientIo services.client previousRefreshToken retried _)
  | request request =>
    simp only [Services.replied, recordReply, sent]
    cases awaits : request.continuation.awaitsUser with
    | true => exact covers_carried _
    | false =>
      rw [if_neg Bool.false_ne_true]
      split
      · refine coversClient_serviceReplied ?_ (List.subset_append_right _ _) io
        exact covers.mono (List.subset_append_left _ _)
      · exact coversClient_of_keeps covers (keepsMessages_callback setup.toClientSetup io.toClientIo
          services.client _ awaits)

/-- One event, with what it adds to the history. -/
theorem covers_step {services' : Services} {event : ServiceEvent × ServiceIo}
    (covers : CoversClient history services.client)
    (moved : servicesStep setup services event = some services') :
    CoversClient (record setup services event services' history) services'.client := by
  obtain ⟨event, io⟩ := event
  have frame := keepsMessages_frame setup.toClientSetup
  cases event with
  | login password => exact Option.some.inj moved ▸ covers
  | logout => exact Option.some.inj moved ▸ covers
  | trust username =>
    exact Option.some.inj moved ▸ coversClient_of_keeps covers
      (frame.trustUsername io.toClientIo services.client username)
  | send recipientUsername plaintext =>
    exact Option.some.inj moved ▸ coversClient_of_keeps covers
      (frame.send io.toClientIo services.client recipientUsername plaintext)
  | forward messageId recipientUsername =>
    exact Option.some.inj moved ▸ coversClient_of_keeps covers
      (frame.forward io.toClientIo services.client messageId recipientUsername)
  | download messageId =>
    rw [← Option.some.inj moved]
    simp only [Services.download, record]
    split <;> exact covers
  | reply index response =>
    obtain ⟨entry, present, rfl⟩ := Option.map_eq_some_iff.mp moved
    have answered : CoversClient history
        { services with inFlight := services.inFlight.eraseIdx index }.client := covers
    cases response with
    | failure statusCode error => exact coversClient_failed answered statusCode error io
    | success document =>
      simp only [record, present]
      exact coversClient_replied answered document io
  | _ => exact coversClient_of_keeps covers ((messages_frame setup).commanded rfl moved)

end EpicKfc.Guarantees.TombstoneHistory
