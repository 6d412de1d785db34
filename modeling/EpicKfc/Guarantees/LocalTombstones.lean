import EpicKfc.Lib.Runs
import EpicKfc.Source.Client.MessageSync

/-!
# Markers of the local messages

What the operations on stored messages never take away: a marker that hides a
message, and what only the client knows about it. A sync that is repeated finds
nothing left to do.
-/

namespace EpicKfc.Guarantees.LocalTombstones
open EpicKfc.Lib
open EpicKfc.Source.Client
open EpicKfc.Source.Client.StoreDocuments
open EpicKfc.Source.Client.JsonLocalStore
open EpicKfc.Source.Client.LocalMessages
open EpicKfc.Source.Client.MessageSync

/-! ## One stored message -/

/-- What a later version of a stored message keeps. -/
structure Keeps (before after : LocalMessage) : Prop where
  revoked : before.accessRevokedAt ≠ "" → after.accessRevokedAt ≠ ""
  senderDeleted : before.senderDeletedAt ≠ "" → after.senderDeletedAt ≠ ""
  recipientDeleted : before.recipientDeletedAt ≠ "" → after.recipientDeletedAt ≠ ""
  deleted : before.deletedAt ≠ "" → after.deletedAt ≠ ""
  read : before.readAt ≠ "" → after.readAt ≠ ""
  senderCopy : before.localSenderCopyWirePayloadJson ≠ "" →
    after.localSenderCopyWirePayloadJson ≠ ""
  anchor : before.cachedAnchor.digest ≠ "" → after.cachedAnchor.digest ≠ ""
  sender : after.senderUserId = before.senderUserId
  recipient : after.recipientUserId = before.recipientUserId

theorem Keeps.refl (message : LocalMessage) : Keeps message message :=
  ⟨id, id, id, id, id, id, id, rfl, rfl⟩

theorem Keeps.trans {first second third : LocalMessage} (before : Keeps first second)
    (after : Keeps second third) : Keeps first third where
  revoked := after.revoked ∘ before.revoked
  senderDeleted := after.senderDeleted ∘ before.senderDeleted
  recipientDeleted := after.recipientDeleted ∘ before.recipientDeleted
  deleted := after.deleted ∘ before.deleted
  read := after.read ∘ before.read
  senderCopy := after.senderCopy ∘ before.senderCopy
  anchor := after.anchor ∘ before.anchor
  sender := after.sender.trans before.sender
  recipient := after.recipient.trans before.recipient

/-- A message that was invisible to a user stays so. -/
theorem Keeps.invisible {before after : LocalMessage} (keeps : Keeps before after)
    {userId : String} (hidden : isMessageVisibleToUser before userId = false) :
    isMessageVisibleToUser after userId = false := by
  rw [Bool.eq_false_iff, ne_eq, isMessageVisibleToUser_iff] at hidden ⊢
  rintro ⟨deleted, revoked, sent, received⟩
  refine hidden ⟨?_, ?_, ?_, ?_⟩
  · exact not_not.mp fun marked => keeps.deleted marked deleted
  · exact not_not.mp fun marked => keeps.revoked marked revoked
  · intro sender
    exact not_not.mp fun marked => keeps.senderDeleted marked (sent (keeps.sender.trans sender))
  · intro recipient
    exact not_not.mp fun marked =>
      keeps.recipientDeleted marked (received (keeps.recipient.trans recipient))

theorem firstNonEmpty_ne_left {first fallback : String} (given : first ≠ "") :
    firstNonEmpty first fallback ≠ "" :=
  fun empty => given (firstNonEmpty_eq_empty.mp empty).1

theorem firstNonEmpty_ne_right {first fallback : String} (given : fallback ≠ "") :
    firstNonEmpty first fallback ≠ "" :=
  fun empty => given (firstNonEmpty_eq_empty.mp empty).2

theorem keeps_mergedMessage {message previous : LocalMessage}
    (sender : message.senderUserId = previous.senderUserId)
    (recipient : message.recipientUserId = previous.recipientUserId) :
    Keeps previous (mergedMessage message previous) where
  revoked := firstNonEmpty_ne_right
  senderDeleted := firstNonEmpty_ne_right
  recipientDeleted := firstNonEmpty_ne_right
  deleted := firstNonEmpty_ne_right
  read := firstNonEmpty_ne_right
  senderCopy := firstNonEmpty_ne_right
  anchor := by
    intro given
    unfold mergedMessage
    by_cases empty : message.cachedAnchor.digest = ""
    · simpa [empty] using given
    · simp [String.isEmpty_iff, empty]
  sender := sender
  recipient := recipient

theorem keeps_markedDeletedFor (currentUserId now : String) (message : LocalMessage) :
    Keeps message (markedDeletedFor currentUserId now message) where
  revoked := id
  senderDeleted := by
    intro given
    simp only [markedDeletedFor]
    split
    · exact firstNonEmpty_ne_left given
    · exact given
  recipientDeleted := by
    intro given
    simp only [markedDeletedFor]
    split
    · exact firstNonEmpty_ne_left given
    · exact given
  deleted := by
    intro given
    simp only [markedDeletedFor]
    split
    · exact firstNonEmpty_ne_left given
    · exact given
  read := id
  senderCopy := id
  anchor := id
  sender := rfl
  recipient := rfl

theorem keeps_reconciled (currentUserId now : String) (direction : MessageDirection)
    (visibleMessageIds : List String) (message : LocalMessage) :
    Keeps message (reconciled currentUserId now direction visibleMessageIds message) := by
  simp only [reconciled]
  split
  · exact .refl message
  · split
    · exact ⟨firstNonEmpty_ne_left, id, id, id, id, id, id, rfl, rfl⟩
    · exact ⟨id, firstNonEmpty_ne_left, id, id, id, id, id, rfl, rfl⟩

/-- What `markConversationRead` makes of one message. -/
def markedRead (currentUserId peerUserId now : String) (message : LocalMessage) : LocalMessage :=
  let incomingFromPeer :=
    message.senderUserId == peerUserId && message.recipientUserId == currentUserId
  if incomingFromPeer && message.readAt.isEmpty then { message with readAt := now } else message

theorem markedRead_id (currentUserId peerUserId now : String) (message : LocalMessage) :
    (markedRead currentUserId peerUserId now message).id = message.id := by
  simp only [markedRead]
  split <;> rfl

theorem keeps_markedRead (currentUserId peerUserId now : String) (message : LocalMessage) :
    Keeps message (markedRead currentUserId peerUserId now message) := by
  simp only [markedRead]
  split
  · next unread =>
    refine ⟨id, id, id, id, fun given => ?_, id, id, rfl, rfl⟩
    simp only [Bool.and_eq_true, String.isEmpty_iff] at unread
    exact absurd unread.2 given
  · exact .refl message

/-! ## The stored messages -/

/-- Every stored message is still found by its id, in a version that keeps what it had. -/
def StoreKeeps (before after : MessageList) : Prop :=
  ∀ messageId stored, findMessage messageId before = some stored →
    ∃ later, findMessage messageId after = some later ∧ Keeps stored later

theorem storeKeeps_refl (messages : MessageList) : StoreKeeps messages messages :=
  fun _ stored found => ⟨stored, found, .refl stored⟩

theorem storeKeeps_trans {first second third : MessageList} (before : StoreKeeps first second)
    (after : StoreKeeps second third) : StoreKeeps first third := by
  intro messageId stored found
  obtain ⟨middle, found', keeps⟩ := before messageId stored found
  obtain ⟨later, found'', keeps'⟩ := after messageId middle found'
  exact ⟨later, found'', keeps.trans keeps'⟩

theorem storeKeeps_map {change : LocalMessage → LocalMessage} {messages : MessageList}
    (sameId : ∀ message, (change message).id = message.id)
    (keeps : ∀ message, Keeps message (change message)) :
    StoreKeeps messages (messages.map change) := by
  intro messageId stored found
  refine ⟨change stored, ?_, keeps stored⟩
  rw [findMessage, KeyedList.find_map change sameId]
  exact congrArg (Option.map change) found

/-- The parties that every message of an id has. -/
abbrev Parties := String → String × String

def HasItsParties (parties : Parties) (message : LocalMessage) : Prop :=
  (message.senderUserId, message.recipientUserId) = parties message.id

theorem storeKeeps_saveMessage {parties : Parties} {message : LocalMessage}
    {messages : MessageList} (saved : HasItsParties parties message)
    (stored : ∀ previous ∈ messages, HasItsParties parties previous) :
    StoreKeeps messages (saveMessage message messages) := by
  intro messageId previous found
  by_cases same : message.id = messageId
  · subst same
    obtain ⟨member, id⟩ := KeyedList.find_some found
    have equal := saved.trans (id ▸ (stored previous member).symm)
    obtain ⟨sender, recipient⟩ := Prod.mk.inj equal
    refine ⟨mergedMessage message previous, ?_, keeps_mergedMessage sender recipient⟩
    rw [findMessage_saveMessage_same, found]
    rfl
  · exact ⟨previous, (findMessage_saveMessage_other message messageId same messages).trans found,
      .refl previous⟩

theorem findMessage_markMessageDeletedFor (currentUserId messageId now other : String) :
    ∀ {messages marked : MessageList},
      markMessageDeletedFor currentUserId messageId now messages = some marked →
      findMessage other marked = if messageId = other then
        (findMessage other messages).map (markedDeletedFor currentUserId now)
      else findMessage other messages := by
  intro messages
  induction messages with
  | nil => simp [markMessageDeletedFor]
  | cons message rest ih =>
    intro marked done
    unfold markMessageDeletedFor at done
    unfold findMessage at ih ⊢
    by_cases here : message.id = messageId
    · rw [if_pos here] at done
      cases done
      have sameId : (markedDeletedFor currentUserId now message).id = message.id := rfl
      rw [KeyedList.find_cons, KeyedList.find_cons, sameId, here]
      split <;> rfl
    · rw [if_neg here] at done
      obtain ⟨markedRest, doneRest, rfl⟩ := Option.map_eq_some_iff.mp done
      rw [KeyedList.find_cons, KeyedList.find_cons, ih doneRest]
      by_cases found : message.id = other
      · have different : messageId ≠ other := fun same => here (found.trans same.symm)
        simp [found, different]
      · simp [found]

theorem storeKeeps_markMessageDeletedFor {currentUserId messageId now : String}
    {messages marked : MessageList}
    (done : markMessageDeletedFor currentUserId messageId now messages = some marked) :
    StoreKeeps messages marked := by
  intro other stored found
  rw [findMessage_markMessageDeletedFor currentUserId messageId now other done, found]
  split
  · exact ⟨_, rfl, keeps_markedDeletedFor currentUserId now stored⟩
  · exact ⟨stored, rfl, .refl stored⟩

/-! ## Runs of mutations -/

/-- Every stored message has the parties of its id. -/
def AllHaveParties (parties : Parties) (messages : MessageList) : Prop :=
  ∀ message ∈ messages, HasItsParties parties message

theorem hasItsParties_of_keeps {parties : Parties} {before after : LocalMessage}
    (its : HasItsParties parties before) (sameId : after.id = before.id)
    (keeps : Keeps before after) : HasItsParties parties after := by
  rw [HasItsParties, keeps.sender, keeps.recipient, sameId]
  exact its

theorem allHaveParties_map {parties : Parties} {change : LocalMessage → LocalMessage}
    {messages : MessageList} (stored : AllHaveParties parties messages)
    (sameId : ∀ message, (change message).id = message.id)
    (keeps : ∀ message, Keeps message (change message)) :
    AllHaveParties parties (messages.map change) := by
  intro changed member
  obtain ⟨message, before, rfl⟩ := List.mem_map.mp member
  exact hasItsParties_of_keeps (stored message before) (sameId message) (keeps message)

theorem allHaveParties_saveMessage {parties : Parties} {message : LocalMessage}
    (saved : HasItsParties parties message) :
    ∀ {messages : MessageList}, AllHaveParties parties messages →
      AllHaveParties parties (saveMessage message messages) := by
  intro messages
  unfold saveMessage
  induction messages with
  | nil => exact fun _ => List.forall_mem_singleton.mpr saved
  | cons previous rest ih =>
    intro stored
    obtain ⟨first, others⟩ := List.forall_mem_cons.mp stored
    unfold KeyedList.upsertWith
    split
    · exact List.forall_mem_cons.mpr ⟨saved, others⟩
    · exact List.forall_mem_cons.mpr ⟨first, ih others⟩

theorem allHaveParties_markMessageDeletedFor {parties : Parties}
    (currentUserId messageId now : String) :
    ∀ {messages marked : MessageList}, AllHaveParties parties messages →
      markMessageDeletedFor currentUserId messageId now messages = some marked →
      AllHaveParties parties marked := by
  intro messages
  induction messages with
  | nil => simp [markMessageDeletedFor]
  | cons message rest ih =>
    intro marked stored done
    obtain ⟨first, others⟩ := List.forall_mem_cons.mp stored
    unfold markMessageDeletedFor at done
    split at done
    · cases done
      exact List.forall_mem_cons.mpr ⟨first, others⟩
    · obtain ⟨markedRest, doneRest, rfl⟩ := Option.map_eq_some_iff.mp done
      exact List.forall_mem_cons.mpr ⟨first, ih others doneRest⟩

/-- A saved message has the parties of its id. -/
def SavesItsParties (parties : Parties) (mutation : StoreMutation) : Prop :=
  ∀ message, mutation = .saveMessage message → HasItsParties parties message

/-- One mutation keeps what the stored messages have. -/
theorem apply_keeps {parties : Parties} {now : String} {mutation : StoreMutation}
    {memory changed : StoreMemory} (fixed : SavesItsParties parties mutation)
    (stored : AllHaveParties parties memory.messages)
    (applied : mutation.apply now memory = some changed) :
    AllHaveParties parties changed.messages ∧ StoreKeeps memory.messages changed.messages := by
  have unchanged : changed.messages = memory.messages →
      AllHaveParties parties changed.messages ∧ StoreKeeps memory.messages changed.messages := by
    intro same
    rw [same]
    exact ⟨stored, storeKeeps_refl memory.messages⟩
  cases mutation with
  | saveSession session => cases applied; exact unchanged rfl
  | clearSession => cases applied; exact unchanged rfl
  | saveDeviceKeys material => cases applied; exact unchanged rfl
  | saveOneTimePreKeys preKeys => cases applied; exact unchanged rfl
  | saveTrustPin pin => cases applied; exact unchanged rfl
  | saveKnownUser address =>
    simp only [StoreMutation.apply] at applied
    split at applied
    · cases applied
    · cases applied
      exact unchanged rfl
  | saveMessage message =>
    cases applied
    have its := fixed message rfl
    exact ⟨allHaveParties_saveMessage its stored, storeKeeps_saveMessage its stored⟩
  | markMessageDeletedFor currentUserId messageId =>
    obtain ⟨marked, done, rfl⟩ := Option.map_eq_some_iff.mp applied
    exact ⟨allHaveParties_markMessageDeletedFor currentUserId messageId now stored done,
      storeKeeps_markMessageDeletedFor done⟩
  | reconcileVisibleMessages currentUserId direction visibleMessageIds =>
    cases applied
    have sameId := fun message => reconciled_id currentUserId now direction visibleMessageIds message
    have keeps := keeps_reconciled currentUserId now direction visibleMessageIds
    exact ⟨allHaveParties_map stored sameId keeps, storeKeeps_map sameId keeps⟩
  | markConversationRead currentUserId peerUserId =>
    cases applied
    have sameId := markedRead_id currentUserId peerUserId now
    have keeps := keeps_markedRead currentUserId peerUserId now
    exact ⟨allHaveParties_map stored sameId keeps, storeKeeps_map sameId keeps⟩

variable (library : StorageLibrary)

/-- One mutation of the store, saved as far as the files allow. -/
def mutationStep (state : JsonLocalStore × Files) (event : StoreMutation × StoreIo) :
    Option (JsonLocalStore × Files) :=
  some (mutate library state.1 event.1 event.2 state.2).2

theorem mutationStep_keeps {parties : Parties} {state state' : JsonLocalStore × Files}
    {event : StoreMutation × StoreIo} (stored : AllHaveParties parties state.1.memory.messages)
    (fixed : SavesItsParties parties event.1) (moved : mutationStep library state event = some state') :
    AllHaveParties parties state'.1.memory.messages ∧
      StoreKeeps state.1.memory.messages state'.1.memory.messages := by
  cases moved
  cases applied : event.1.apply event.2.now state.1.memory with
  | none =>
    simp only [JsonLocalStore.mutate, applied]
    exact ⟨stored, storeKeeps_refl state.1.memory.messages⟩
  | some memory =>
    rw [mutate_memory library state.1 event.1 event.2 state.2 applied]
    exact apply_keeps fixed stored applied

theorem storeKeeps_of_run {parties : Parties} {state state' : JsonLocalStore × Files}
    {events : List (StoreMutation × StoreIo)}
    (stored : AllHaveParties parties state.1.memory.messages)
    (fixed : ∀ event ∈ events, SavesItsParties parties event.1)
    (ran : Runs.run (mutationStep library) state events = some state') :
    StoreKeeps state.1.memory.messages state'.1.memory.messages := by
  have met := @Runs.everyStep_of_forall _ _ (mutationStep library)
    (fun _ event => SavesItsParties parties event.1) events
    (fun event member _ => fixed event member) state
  exact @Runs.related_of_run _ _ (mutationStep library) _
    (fun state => AllHaveParties parties state.1.memory.messages)
    (fun before after => StoreKeeps before.1.memory.messages after.1.memory.messages)
    (fun state => storeKeeps_refl state.1.memory.messages)
    (fun _ _ _ before after => storeKeeps_trans before after)
    (fun _ _ _ stored fixed moved => mutationStep_keeps library stored fixed moved)
    events _ _ stored met ran

/-! ## What one save lacks -/

/-- A save keeps the exact value of what its message lacks. -/
theorem saveMessage_keeps_lacking {message stored : LocalMessage} {messages : MessageList}
    (found : findMessage message.id messages = some stored) :
    ∃ later, findMessage message.id (saveMessage message messages) = some later ∧
      (message.readAt = "" → later.readAt = stored.readAt) ∧
      (message.localSenderCopyWirePayloadJson = "" →
        later.localSenderCopyWirePayloadJson = stored.localSenderCopyWirePayloadJson) ∧
      (message.cachedAnchor.digest = "" → later.cachedAnchor = stored.cachedAnchor) := by
  refine ⟨mergedMessage message stored, ?_, ?_, ?_, ?_⟩
  · rw [findMessage_saveMessage_same, found]
    rfl
  · intro lacks
    simp [mergedMessage, firstNonEmpty, lacks]
  · intro lacks
    simp [mergedMessage, firstNonEmpty, lacks]
  · intro lacks
    simp [mergedMessage, lacks]

/-! ## A sync that is repeated -/

theorem firstNonEmpty_assoc (first second third : String) :
    firstNonEmpty first (firstNonEmpty second third) =
      firstNonEmpty (firstNonEmpty first second) third := by
  unfold firstNonEmpty
  by_cases empty : first.isEmpty <;> simp [empty]

theorem firstNonEmpty_self (text : String) : firstNonEmpty text text = text := by
  unfold firstNonEmpty
  split <;> rfl

theorem merges_mergedMessage : KeyedList.Merges LocalMessage.id mergedMessage where
  key _ _ := rfl
  assoc first second third := by
    simp only [mergedMessage, firstNonEmpty_assoc]
    by_cases empty : first.cachedAnchor.digest.isEmpty <;> simp [empty]
  idem message := by
    simp only [mergedMessage, firstNonEmpty_self, ite_self]

/-- A reconciliation leaves a message at any time, or hides it. -/
theorem reconciled_left_or_hidden {currentUserId now : String} (direction : MessageDirection)
    (visibleMessageIds : List String) (message : LocalMessage) (clock : now ≠ "") :
    (∀ later, reconciled currentUserId later direction visibleMessageIds message = message) ∨
      isMessageVisibleToUser (reconciled currentUserId now direction visibleMessageIds message)
        currentUserId = false := by
  simp only [reconciled]
  split
  · exact Or.inl fun _ => rfl
  · next considered =>
    right
    rw [Bool.eq_false_iff, ne_eq, isMessageVisibleToUser_iff]
    split
    · rintro ⟨_, revoked, _, _⟩
      exact firstNonEmpty_ne_right clock revoked
    · next notReceived =>
      rintro ⟨_, _, sent, _⟩
      simp only [Bool.or_eq_true, Bool.not_eq_true', not_or, Bool.not_eq_false] at considered
      have relevant := considered.1.1.resolve_left notReceived
      simp only [Bool.and_eq_true, beq_iff_eq] at relevant
      exact firstNonEmpty_ne_right clock (sent relevant.2)

theorem reconciled_again {currentUserId now later : String} {direction : MessageDirection}
    {visibleMessageIds : List String} (clock : now ≠ "") (message : LocalMessage) :
    reconciled currentUserId later direction visibleMessageIds
        (reconciled currentUserId now direction visibleMessageIds message) =
      reconciled currentUserId now direction visibleMessageIds message := by
  rcases reconciled_left_or_hidden direction visibleMessageIds message clock with left | hidden
  · rw [left now, left later]
  · rw [reconciled]
    simp [hidden]

/-- Saving the fetched messages and reconciling, again and at another time. -/
theorem reconcile_saveAll_again {currentUserId now later : String} {direction : MessageDirection}
    {visibleMessageIds : List String} {saved : List LocalMessage} (clock : now ≠ "")
    (fetched : ∀ message ∈ saved, message.id ∈ visibleMessageIds) (messages : MessageList) :
    reconcileVisibleMessages currentUserId later direction visibleMessageIds
        (KeyedList.saveAll LocalMessage.id mergedMessage saved
          (reconcileVisibleMessages currentUserId now direction visibleMessageIds
            (KeyedList.saveAll LocalMessage.id mergedMessage saved messages))) =
      reconcileVisibleMessages currentUserId now direction visibleMessageIds
        (KeyedList.saveAll LocalMessage.id mergedMessage saved messages) := by
  have fixes : ∀ item ∈ saved, ∀ entry : LocalMessage, entry.id = item.id →
      reconciled currentUserId now direction visibleMessageIds entry = entry := by
    intro item member entry sameId
    exact reconciled_of_fetched _ _ _ _ _ (sameId ▸ fetched item member)
  have sameId := fun message => reconciled_id currentUserId now direction visibleMessageIds message
  simp only [reconcileVisibleMessages]
  rw [KeyedList.saveAll_map merges_mergedMessage sameId saved fixes,
    KeyedList.saveAll_again merges_mergedMessage, List.map_map]
  exact List.map_congr_left fun message _ => reconciled_again clock message

/-- The messages that `saveMessages` gets to: a failed save is the last one. -/
def savedMessages : List (LocalMessage × StoreIo) → JsonLocalStore → Files → List LocalMessage
  | [], _, _ => []
  | (message, io) :: rest, store, files =>
    match mutate library store (.saveMessage message) io files with
    | (.error _, _, _) => [message]
    | (.ok (), store, files) => message :: savedMessages rest store files

def withMessages (messages : MessageList) (store : JsonLocalStore) : JsonLocalStore :=
  { store with memory := { store.memory with messages := messages } }

theorem savedMessages_fetched (saves : List (LocalMessage × StoreIo)) :
    ∀ (store : JsonLocalStore) (files : Files), ∀ message ∈ savedMessages library saves store files,
      message.id ∈ saves.map fun save => save.1.id := by
  induction saves with
  | nil => simp [savedMessages]
  | cons save rest ih =>
    obtain ⟨message, io⟩ := save
    intro store files other member
    simp only [savedMessages] at member
    rw [List.map_cons, List.mem_cons]
    split at member
    · exact Or.inl (congrArg LocalMessage.id (List.mem_singleton.mp member))
    · rcases List.mem_cons.mp member with same | later
      · exact Or.inl (congrArg LocalMessage.id same)
      · exact Or.inr (ih _ _ other later)

theorem saveMessages_store (saves : List (LocalMessage × StoreIo)) :
    ∀ (store : JsonLocalStore) (files : Files), (saveMessages library saves store files).2.1 =
      withMessages (KeyedList.saveAll LocalMessage.id mergedMessage
        (savedMessages library saves store files) store.memory.messages) store := by
  induction saves with
  | nil => exact fun store files => rfl
  | cons save rest ih =>
    obtain ⟨message, io⟩ := save
    intro store files
    have changed : (mutate library store (.saveMessage message) io files).2.1 =
        withMessages (saveMessage message store.memory.messages) store := rfl
    rcases outcome : mutate library store (.saveMessage message) io files with
      ⟨error | _, store', files'⟩
    · rw [outcome] at changed
      simp only [saveMessages, savedMessages, outcome]
      exact changed
    · rw [outcome] at changed
      simp only [saveMessages, savedMessages, outcome]
      rw [ih, show store' = _ from changed]
      rfl

theorem saveAndReconcileMessages_store (currentUserId : String) (direction : MessageDirection)
    (saves : List (LocalMessage × StoreIo)) (reconcileIo : StoreIo) (store : JsonLocalStore)
    (files : Files) :
    (saveAndReconcileMessages library currentUserId direction saves reconcileIo store files).2.1 =
      withMessages (reconcileVisibleMessages currentUserId reconcileIo.now direction
        (saves.map fun save => save.1.id) (KeyedList.saveAll LocalMessage.id mergedMessage
          (savedMessages library saves store files) store.memory.messages)) store := by
  have saved := saveMessages_store library saves store files
  change withMessages (reconcileVisibleMessages currentUserId reconcileIo.now direction
    (saves.map fun save => save.1.id)
    (saveMessages library saves store files).2.1.memory.messages)
    (saveMessages library saves store files).2.1 = _
  rw [saved]
  rfl

/-- The second of two equal syncs finds nothing to do, when its saves get to the same
messages. -/
theorem saveAndReconcileMessages_again {currentUserId : String} {direction : MessageDirection}
    {first second : List (LocalMessage × StoreIo)} {firstIo secondIo : StoreIo}
    {store synced : JsonLocalStore} {files files' : Files} (clock : firstIo.now ≠ "")
    (fetched : second.map (fun save => save.1.id) = first.map fun save => save.1.id)
    (once : (saveAndReconcileMessages library currentUserId direction first firstIo store
      files).2.1 = synced)
    (saved : savedMessages library second synced files' = savedMessages library first store files) :
    (saveAndReconcileMessages library currentUserId direction second secondIo synced files').2.1 =
      synced := by
  rw [saveAndReconcileMessages_store] at once ⊢
  rw [saved, fetched]
  subst once
  simp only [withMessages]
  rw [reconcile_saveAll_again clock (savedMessages_fetched library first store files)]

/-- Any run of mutations that saves messages under their own parties keeps what each
stored message has, and hides no less; a save keeps the values its message lacks; the
second of two equal syncs leaves the store as the first left it. -/
theorem stored_markers_kept (parties : Parties) :
    (∀ (before after : JsonLocalStore × Files) (events : List (StoreMutation × StoreIo)),
      AllHaveParties parties before.1.memory.messages →
      (∀ event ∈ events, SavesItsParties parties event.1) →
      Runs.run (mutationStep library) before events = some after →
      ∀ messageId stored, findMessage messageId before.1.memory.messages = some stored →
        ∃ later, findMessage messageId after.1.memory.messages = some later ∧ Keeps stored later ∧
          ∀ userId, isMessageVisibleToUser stored userId = false →
            isMessageVisibleToUser later userId = false) ∧
    (∀ (message stored : LocalMessage) (messages : MessageList),
      findMessage message.id messages = some stored →
      ∃ later, findMessage message.id (saveMessage message messages) = some later ∧
        (message.readAt = "" → later.readAt = stored.readAt) ∧
        (message.localSenderCopyWirePayloadJson = "" →
          later.localSenderCopyWirePayloadJson = stored.localSenderCopyWirePayloadJson) ∧
        (message.cachedAnchor.digest = "" → later.cachedAnchor = stored.cachedAnchor)) ∧
    ∀ (currentUserId : String) (direction : MessageDirection)
      (first second : List (LocalMessage × StoreIo)) (firstIo secondIo : StoreIo)
      (store synced : JsonLocalStore) (files files' : Files), firstIo.now ≠ "" →
      second.map Prod.fst = first.map Prod.fst →
      (saveAndReconcileMessages library currentUserId direction first firstIo store
        files).2.1 = synced →
      savedMessages library second synced files' = savedMessages library first store files →
      (saveAndReconcileMessages library currentUserId direction second secondIo synced files').2.1 =
        synced := by
  refine ⟨?_, fun _ _ _ found => saveMessage_keeps_lacking found, ?_⟩
  · intro before after events stored fixed ran messageId message found
    obtain ⟨later, found', keeps⟩ :=
      storeKeeps_of_run library stored fixed ran messageId message found
    exact ⟨later, found', keeps, fun _ hidden => keeps.invisible hidden⟩
  · intro currentUserId direction first second firstIo secondIo store synced files files' clock
      same once saved
    have fetched := congrArg (List.map LocalMessage.id) same
    rw [List.map_map, List.map_map] at fetched
    exact saveAndReconcileMessages_again library clock fetched once saved

/-! ## A revoked message that the server still lists -/

def revokedMessage : LocalMessage where
  id := "1"
  senderUserId := "bob"
  senderDeviceId := 1
  recipientUserId := "alice"
  recipientDeviceId := 1
  wirePayloadJson := "\x7b\x7d"
  consumedOneTimePreKeyId := none
  createdAt := some 0
  accessRevokedAt := "2026-01-01T00:00:00.000Z"
  readAt := "2026-01-01T00:00:00.000Z"
  direction := .received

/-- The server's copy has no marker. -/
def listedMessage : LocalMessage := { revokedMessage with accessRevokedAt := "", readAt := "" }

def revokedStore : JsonLocalStore where
  memory := { messages := [revokedMessage] }
  indexPath := "index"
  path := "state"
  secretProtectionRequired := false

def clock : StoreIo := { now := "2026-01-02T00:00:00.000Z" }

def sampleMutations : List (StoreMutation × StoreIo) := [
  (.saveMessage listedMessage, clock),
  (.reconcileVisibleMessages "alice" .received [], clock),
  (.markMessageDeletedFor "alice" "1", clock),
  (.saveMessage listedMessage, clock),
  (.markConversationRead "alice" "bob", clock)]

theorem revokedStore_parties :
    AllHaveParties (fun _ => ("bob", "alice")) revokedStore.memory.messages :=
  List.forall_mem_singleton.mpr rfl

theorem sampleMutations_parties :
    ∀ event ∈ sampleMutations, SavesItsParties (fun _ => ("bob", "alice")) event.1 := by
  intro event member message saves
  simp only [sampleMutations, List.mem_cons, List.not_mem_nil, or_false] at member
  rcases member with rfl | rfl | rfl | rfl | rfl <;> cases saves <;> rfl

theorem stored_markers_kept_revoked :
    (∀ after, Runs.run (mutationStep refusingLibrary) (revokedStore, fun _ => none)
        sampleMutations = some after →
      ∃ later, findMessage "1" after.1.memory.messages = some later ∧ Keeps revokedMessage later ∧
        isMessageVisibleToUser later "alice" = false) ∧
    (∃ later, findMessage "1" (saveMessage listedMessage [revokedMessage]) = some later ∧
      later.readAt = revokedMessage.readAt) ∧
    ∀ synced, (saveAndReconcileMessages refusingLibrary "alice" .received [(listedMessage, {})]
        clock revokedStore fun _ => none).2.1 = synced →
      (saveAndReconcileMessages refusingLibrary "alice" .received [(listedMessage, {})] {} synced
        fun _ => none).2.1 = synced := by
  obtain ⟨runs, saves, syncs⟩ := stored_markers_kept refusingLibrary fun _ => ("bob", "alice")
  refine ⟨fun after ran => ?_, ?_, fun synced once => ?_⟩
  · obtain ⟨later, found, keeps, hidden⟩ := runs _ after _ revokedStore_parties
      sampleMutations_parties ran "1" revokedMessage rfl
    exact ⟨later, found, keeps, hidden "alice" (by decide)⟩
  · obtain ⟨later, found, read, _, _⟩ := saves listedMessage revokedMessage [revokedMessage] rfl
    exact ⟨later, found, read rfl⟩
  · refine syncs "alice" .received _ _ clock {} revokedStore synced (fun _ => none) _ (by decide)
      rfl once ?_
    subst once
    rfl

end EpicKfc.Guarantees.LocalTombstones
