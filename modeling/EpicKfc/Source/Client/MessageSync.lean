import EpicKfc.Source.Client.JsonLocalStore

/-!
# Storing a fetched list

`MessageService::saveMessages` and `saveAndReconcileMessages` of
`client/src/services/Services.cpp`. Each save meets its own outside conditions,
so a message is paired with them.
-/

namespace EpicKfc.Source.Client.MessageSync
open EpicKfc.Lib
open EpicKfc.Source.Client
open EpicKfc.Source.Client.StoreDocuments
open EpicKfc.Source.Client.JsonLocalStore
open EpicKfc.Source.Client.LocalMessages

variable (library : StorageLibrary)

/-- `saveMessages` stops at the first save that fails. -/
def saveMessages : List (LocalMessage × StoreIo) → JsonLocalStore → Files →
    Result Unit × JsonLocalStore × Files
  | [], store, files => (.ok (), store, files)
  | (message, io) :: rest, store, files =>
    match mutate library store (.saveMessage message) io files with
    | (.error error, store, files) => (.error error, store, files)
    | (.ok (), store, files) => saveMessages rest store files

/-- The reconciliation runs also after a failed save, with all fetched ids. -/
def saveAndReconcileMessages (currentUserId : String) (direction : MessageDirection)
    (saves : List (LocalMessage × StoreIo)) (reconcileIo : StoreIo) (store : JsonLocalStore)
    (files : Files) : Result Unit × JsonLocalStore × Files :=
  let (_, store, files) := saveMessages library saves store files
  mutate library store
    (.reconcileVisibleMessages currentUserId direction (saves.map fun save => save.1.id)) reconcileIo
    files

/-! ## One message through a save and a reconciliation -/

/-- The parties of a message, which the server never changes. -/
def HasParties (sender recipient : String) (message : LocalMessage) : Prop :=
  message.senderUserId = sender ∧ message.recipientUserId = recipient

/-- The stored message of this id has these parties and is visible to the user. -/
def Shows (messageId sender recipient userId : String) (messages : MessageList) : Prop :=
  ∃ stored, findMessage messageId messages = some stored ∧ HasParties sender recipient stored ∧
    isMessageVisibleToUser stored userId = true

theorem mergedMessage_visible {sender recipient userId : String} {message previous : LocalMessage}
    (parties : HasParties sender recipient message) (parties' : HasParties sender recipient previous)
    (visible : isMessageVisibleToUser message userId = true)
    (visible' : isMessageVisibleToUser previous userId = true) :
    isMessageVisibleToUser (mergedMessage message previous) userId = true := by
  rw [isMessageVisibleToUser_iff] at visible visible' ⊢
  obtain ⟨deleted, revoked, sent, received⟩ := visible
  obtain ⟨deleted', revoked', sent', received'⟩ := visible'
  refine ⟨firstNonEmpty_eq_empty.mpr ⟨deleted, deleted'⟩,
    firstNonEmpty_eq_empty.mpr ⟨revoked, revoked'⟩, fun isSender => ?_, fun isRecipient => ?_⟩
  · have isSender' : previous.senderUserId = userId :=
      parties'.1.trans (parties.1.symm.trans isSender)
    exact firstNonEmpty_eq_empty.mpr ⟨sent isSender, sent' isSender'⟩
  · have isRecipient' : previous.recipientUserId = userId :=
      parties'.2.trans (parties.2.symm.trans isRecipient)
    exact firstNonEmpty_eq_empty.mpr ⟨received isRecipient, received' isRecipient'⟩

theorem findMessage_saveMessage_same (message : LocalMessage) (messages : MessageList) :
    findMessage message.id (saveMessage message messages) =
      some (((findMessage message.id messages).map (mergedMessage message)).getD message) :=
  @KeyedList.find_upsertWith_same _ _ _ LocalMessage.id (mergedMessage message) message
    (fun _ _ => rfl) messages

theorem findMessage_saveMessage_other (message : LocalMessage) (messageId : String)
    (other : message.id ≠ messageId) (messages : MessageList) :
    findMessage messageId (saveMessage message messages) = findMessage messageId messages :=
  @KeyedList.find_upsertWith_other _ _ _ LocalMessage.id (mergedMessage message) message
    (fun _ _ => rfl) messageId other messages

variable {messageId sender recipient userId : String}

/-- Saving a visible copy shows the message, unless a hidden one is stored. -/
theorem saveMessage_shows {message : LocalMessage} {messages : MessageList}
    (same : message.id = messageId) (parties : HasParties sender recipient message)
    (visible : isMessageVisibleToUser message userId = true)
    (before : findMessage messageId messages = none ∨
      Shows messageId sender recipient userId messages) :
    Shows messageId sender recipient userId (saveMessage message messages) := by
  subst same
  rw [Shows, findMessage_saveMessage_same]
  rcases before with absent | ⟨stored, found, parties', visible'⟩
  · rw [absent]
    exact ⟨message, rfl, parties, visible⟩
  · rw [found]
    exact ⟨_, rfl, parties, mergedMessage_visible parties parties' visible visible'⟩

theorem saveMessage_keeps_shown {message : LocalMessage} {messages : MessageList}
    (good : message.id = messageId → HasParties sender recipient message ∧
      isMessageVisibleToUser message userId = true)
    (before : Shows messageId sender recipient userId messages) :
    Shows messageId sender recipient userId (saveMessage message messages) := by
  by_cases same : message.id = messageId
  · exact saveMessage_shows same (good same).1 (good same).2 (Or.inr before)
  · rw [Shows, findMessage_saveMessage_other message messageId same]
    exact before

theorem mutate_memory (store : JsonLocalStore) (mutation : StoreMutation) (io : StoreIo)
    (files : Files) {memory : StoreMemory}
    (applied : mutation.apply io.now store.memory = some memory) :
    (mutate library store mutation io files).2.1.memory = memory := by
  simp only [JsonLocalStore.mutate, applied]

/-- Whatever happens to the saves, a shown message stays shown. -/
theorem saveMessages_keeps_shown (saves : List (LocalMessage × StoreIo))
    (good : ∀ save ∈ saves, save.1.id = messageId → HasParties sender recipient save.1 ∧
      isMessageVisibleToUser save.1 userId = true) :
    ∀ (store : JsonLocalStore) (files : Files),
      Shows messageId sender recipient userId store.memory.messages →
      Shows messageId sender recipient userId
        (saveMessages library saves store files).2.1.memory.messages := by
  induction saves with
  | nil => exact fun store files before => before
  | cons save rest ih =>
    intro store files before
    obtain ⟨message, io⟩ := save
    have saved := saveMessage_keeps_shown (good _ List.mem_cons_self) before
    have memory := mutate_memory library store (.saveMessage message) io files rfl
    unfold saveMessages
    split
    · rename_i error store' files' outcome
      rw [outcome] at memory
      rw [memory]
      exact saved
    · rename_i store' files' outcome
      rw [outcome] at memory
      refine ih (fun other belongs => good other (List.mem_cons_of_mem _ belongs)) store' files' ?_
      rw [memory]
      exact saved

/-- When all saves succeed, a fetched message that was not stored becomes shown. -/
theorem saveMessages_shows (saves : List (LocalMessage × StoreIo))
    (good : ∀ save ∈ saves, save.1.id = messageId → HasParties sender recipient save.1 ∧
      isMessageVisibleToUser save.1 userId = true)
    (fetched : messageId ∈ saves.map fun save => save.1.id) :
    ∀ (store : JsonLocalStore) (files : Files),
      findMessage messageId store.memory.messages = none →
      (saveMessages library saves store files).1 = .ok () →
      Shows messageId sender recipient userId
        (saveMessages library saves store files).2.1.memory.messages := by
  induction saves with
  | nil => simp at fetched
  | cons save rest ih =>
    intro store files absent
    obtain ⟨message, io⟩ := save
    have memory := mutate_memory library store (.saveMessage message) io files rfl
    have later : ∀ other ∈ rest, other.1.id = messageId → HasParties sender recipient other.1 ∧
        isMessageVisibleToUser other.1 userId = true :=
      fun other belongs => good other (List.mem_cons_of_mem _ belongs)
    unfold saveMessages
    split
    · exact fun succeeded => nomatch succeeded
    · rename_i store' files' outcome
      rw [outcome] at memory
      intro succeeded
      by_cases same : message.id = messageId
      · have copy := good _ List.mem_cons_self same
        refine saveMessages_keeps_shown library rest later store' files' ?_
        rw [memory]
        exact saveMessage_shows same copy.1 copy.2 (Or.inl absent)
      · have remaining : messageId ∈ rest.map fun save => save.1.id := by
          simp only [List.map_cons, List.mem_cons] at fetched
          exact fetched.resolve_left fun equal => same equal.symm
        refine ih later remaining store' files' ?_ succeeded
        rw [memory]
        exact (findMessage_saveMessage_other message messageId same _).trans absent

theorem reconciled_of_fetched (currentUserId now : String) (direction : MessageDirection)
    (visibleMessageIds : List String) (message : LocalMessage)
    (fetched : message.id ∈ visibleMessageIds) :
    reconciled currentUserId now direction visibleMessageIds message = message := by
  have stillVisible : visibleMessageIds.contains message.id = true := by simpa using fetched
  unfold reconciled
  rw [stillVisible]
  simp

theorem reconciled_id (currentUserId now : String) (direction : MessageDirection)
    (visibleMessageIds : List String) (message : LocalMessage) :
    (reconciled currentUserId now direction visibleMessageIds message).id = message.id := by
  simp only [reconciled]
  split
  · rfl
  · split <;> rfl

theorem findMessage_reconcile (messageId currentUserId now : String) (direction : MessageDirection)
    (visibleMessageIds : List String) (messages : MessageList) :
    findMessage messageId
        (reconcileVisibleMessages currentUserId now direction visibleMessageIds messages) =
      (findMessage messageId messages).map
        (reconciled currentUserId now direction visibleMessageIds) :=
  KeyedList.find_map _ (fun message => reconciled_id currentUserId now direction visibleMessageIds
    message) messageId messages

/-- The reconciliation does not touch a message whose id was fetched. -/
theorem reconcile_keeps_shown {currentUserId now : String} {direction : MessageDirection}
    {visibleMessageIds : List String} {messages : MessageList} (fetched : messageId ∈ visibleMessageIds)
    (before : Shows messageId sender recipient userId messages) :
    Shows messageId sender recipient userId
      (reconcileVisibleMessages currentUserId now direction visibleMessageIds messages) := by
  obtain ⟨stored, found, parties, visible⟩ := before
  have id : stored.id = messageId := (KeyedList.find_some found).2
  refine ⟨stored, ?_, parties, visible⟩
  rw [findMessage_reconcile, found, Option.map_some,
    reconciled_of_fetched _ _ _ _ _ (id ▸ fetched)]

/-- A fetched message that the store shows, or does not have and can save, is shown afterwards. -/
theorem saveAndReconcile_shows (currentUserId : String) (direction : MessageDirection)
    (saves : List (LocalMessage × StoreIo)) (reconcileIo : StoreIo) (store : JsonLocalStore)
    (files : Files)
    (good : ∀ save ∈ saves, save.1.id = messageId → HasParties sender recipient save.1 ∧
      isMessageVisibleToUser save.1 userId = true)
    (fetched : messageId ∈ saves.map fun save => save.1.id)
    (before : Shows messageId sender recipient userId store.memory.messages ∨
      findMessage messageId store.memory.messages = none ∧
        (saveMessages library saves store files).1 = .ok ()) :
    Shows messageId sender recipient userId (saveAndReconcileMessages library currentUserId direction
      saves reconcileIo store files).2.1.memory.messages := by
  have saved : Shows messageId sender recipient userId
      (saveMessages library saves store files).2.1.memory.messages := by
    rcases before with shown | ⟨absent, succeeded⟩
    · exact saveMessages_keeps_shown library saves good store files shown
    · exact saveMessages_shows library saves good fetched store files absent succeeded
  unfold saveAndReconcileMessages
  rw [mutate_memory library _ (.reconcileVisibleMessages currentUserId direction
    (saves.map fun save => save.1.id)) reconcileIo _ rfl]
  exact reconcile_keeps_shown fetched saved

/-- Saves of other messages leave a stored one alone. -/
theorem saveMessages_other (saves : List (LocalMessage × StoreIo))
    (absent : messageId ∉ saves.map fun save => save.1.id) :
    ∀ (store : JsonLocalStore) (files : Files),
      findMessage messageId (saveMessages library saves store files).2.1.memory.messages =
        findMessage messageId store.memory.messages := by
  induction saves with
  | nil => exact fun store files => rfl
  | cons save rest ih =>
    intro store files
    obtain ⟨message, io⟩ := save
    simp only [List.map_cons, List.mem_cons, not_or] at absent
    have memory := mutate_memory library store (.saveMessage message) io files rfl
    have untouched := findMessage_saveMessage_other message messageId (Ne.symm absent.1)
      store.memory.messages
    unfold saveMessages
    split
    · rename_i error store' files' outcome
      rw [outcome] at memory
      rw [memory]
      exact untouched
    · rename_i store' files' outcome
      rw [outcome] at memory
      rw [ih absent.2, memory]
      exact untouched

/-- A received message that was not fetched is hidden for good. -/
theorem saveAndReconcile_hides (saves : List (LocalMessage × StoreIo)) (reconcileIo : StoreIo)
    (store : JsonLocalStore) (files : Files) (clock : reconcileIo.now ≠ "")
    (absent : messageId ∉ saves.map fun save => save.1.id)
    (before : Shows messageId sender userId userId store.memory.messages) :
    ¬ Shows messageId sender userId userId (saveAndReconcileMessages library userId .received
      saves reconcileIo store files).2.1.memory.messages := by
  obtain ⟨stored, found, parties, visible⟩ := before
  have id : stored.id = messageId := (KeyedList.find_some found).2
  rintro ⟨after, found', _, visible'⟩
  unfold saveAndReconcileMessages at found'
  rw [mutate_memory library _ (.reconcileVisibleMessages userId .received
    (saves.map fun save => save.1.id)) reconcileIo _ rfl] at found'
  change findMessage messageId (reconcileVisibleMessages userId reconcileIo.now .received
    (saves.map fun save => save.1.id) _) = some after at found'
  rw [findMessage_reconcile, saveMessages_other library saves absent, found, Option.map_some,
    Option.some.injEq] at found'
  have missing : (saves.map fun save => save.1.id).contains stored.id = false := by
    simpa [id] using absent
  have hidden : after.accessRevokedAt = firstNonEmpty stored.accessRevokedAt reconcileIo.now := by
    have relevant : (MessageDirection.received == .received && stored.recipientUserId == userId) =
        true := by simp [parties.2]
    rw [← found']
    simp only [reconciled, relevant, missing, visible, Bool.true_or, Bool.not_true, Bool.or_self,
      Bool.false_eq_true, if_false, if_true]
  have unmarked := ((isMessageVisibleToUser_iff after userId).mp visible').2.1
  exact clock (firstNonEmpty_eq_empty.mp (hidden.symm.trans unmarked)).2

end EpicKfc.Source.Client.MessageSync
