import EpicKfc.Guarantees.LocalTombstones

/-!
# A sync of the received messages

After a complete received list was saved and reconciled, what the store shows a user
of the messages of others is that list, less what a local marker had hidden before.
-/

namespace EpicKfc.Guarantees.SyncConvergence
open EpicKfc.Lib
open EpicKfc.Source.Client
open EpicKfc.Source.Client.StoreDocuments
open EpicKfc.Source.Client.JsonLocalStore
open EpicKfc.Source.Client.LocalMessages
open EpicKfc.Source.Client.MessageSync
open EpicKfc.Guarantees.LocalTombstones

/-- No marker hides the message from its recipient. -/
def Unmarked (message : LocalMessage) : Prop :=
  message.accessRevokedAt = "" ∧ message.recipientDeletedAt = "" ∧ message.deletedAt = ""

/-- A message of the received list of a user. -/
def Received (userId : String) (message : LocalMessage) : Prop :=
  message.recipientUserId = userId ∧ Unmarked message

/-- Everything but the markers and what only the client knows is the server's. -/
def IsServers (server stored : LocalMessage) : Prop :=
  stored = { server with
    accessRevokedAt := stored.accessRevokedAt
    senderDeletedAt := stored.senderDeletedAt
    recipientDeletedAt := stored.recipientDeletedAt
    deletedAt := stored.deletedAt
    readAt := stored.readAt
    localSenderCopyWirePayloadJson := stored.localSenderCopyWirePayloadJson
    cachedAnchor := stored.cachedAnchor }

/-- The store shows the user a message of another user with this id. -/
def ShowsFromOthers (userId messageId : String) (messages : MessageList) : Prop :=
  ∃ message ∈ messages, message.id = messageId ∧ message.senderUserId ≠ userId ∧
    message.recipientUserId = userId ∧ isMessageVisibleToUser message userId = true

/-! ## One message -/

theorem visible_iff_unmarked {message : LocalMessage} {userId : String}
    (other : message.senderUserId ≠ userId) (recipient : message.recipientUserId = userId) :
    isMessageVisibleToUser message userId = true ↔ Unmarked message := by
  rw [isMessageVisibleToUser_iff, Unmarked]
  constructor
  · rintro ⟨deleted, revoked, -, received⟩
    exact ⟨revoked, received recipient, deleted⟩
  · rintro ⟨revoked, received, deleted⟩
    exact ⟨deleted, revoked, fun sent => absurd sent other, fun _ => received⟩

theorem unmarked_mergedMessage {message previous : LocalMessage} (unmarked : Unmarked message) :
    Unmarked (mergedMessage message previous) ↔ Unmarked previous := by
  simp only [Unmarked, mergedMessage, firstNonEmpty_eq_empty, unmarked.1, unmarked.2.1,
    unmarked.2.2, true_and]

theorem isServers_refl (message : LocalMessage) : IsServers message message := rfl

theorem isServers_mergedMessage (message previous : LocalMessage) :
    IsServers message (mergedMessage message previous) := rfl

/-- A message to the user that was not listed is hidden. -/
theorem hidden_of_unlisted {message : LocalMessage} {userId now : String} {listed : List String}
    (recipient : message.recipientUserId = userId) (unlisted : message.id ∉ listed) (clock : now ≠ "") :
    isMessageVisibleToUser (reconciled userId now .received listed message) userId = false := by
  have considered : listed.contains message.id = false := by simpa using unlisted
  have relevant : (MessageDirection.received == .received && message.recipientUserId == userId) =
      true := by simp [recipient]
  simp only [reconciled, relevant, considered, Bool.true_or, Bool.not_true, Bool.or_false,
    Bool.false_or, if_true]
  cases visible : isMessageVisibleToUser message userId with
  | false => simp [visible]
  | true =>
    rw [Bool.eq_false_iff, ne_eq, isMessageVisibleToUser_iff]
    rintro ⟨-, revoked, -⟩
    exact firstNonEmpty_ne_right clock revoked

/-- A message that is not addressed to the user is left alone. -/
theorem reconciled_of_other {message : LocalMessage} {userId now : String} {listed : List String}
    (other : message.recipientUserId ≠ userId) :
    reconciled userId now .received listed message = message := by
  simp [reconciled, other]

theorem recipient_reconciled (message : LocalMessage) (userId now : String)
    (direction : MessageDirection) (listed : List String) :
    (reconciled userId now direction listed message).recipientUserId = message.recipientUserId := by
  simp only [reconciled]
  split
  · rfl
  · split <;> rfl

/-! ## The list -/

section Sync
variable {library : StorageLibrary} {parties : Parties} {userId now : String}

/-- When the saves succeed every message was saved. -/
theorem savedMessages_of_ok {saves : List (LocalMessage × StoreIo)} {store : JsonLocalStore}
    {files : Files} (succeeded : (saveMessages library saves store files).1 = .ok ()) :
    savedMessages library saves store files = saves.map Prod.fst := by
  induction saves generalizing store files with
  | nil => rfl
  | cons save rest ih =>
    obtain ⟨message, io⟩ := save
    simp only [saveMessages] at succeeded
    rw [savedMessages, List.map_cons]
    split
    · next error store' files' failed =>
      rw [failed] at succeeded
      cases succeeded
    · next store' files' saved =>
      rw [saved] at succeeded
      rw [ih succeeded]

/-- The stored messages after saving a list and reconciling with it. -/
def synced (userId now : String) (list messages : MessageList) : MessageList :=
  reconcileVisibleMessages userId now .received (list.map LocalMessage.id)
    (KeyedList.saveAll LocalMessage.id mergedMessage list messages)

variable {list messages : MessageList}

theorem synced_ids (unique : (messages.map LocalMessage.id).Nodup) :
    ((synced userId now list messages).map LocalMessage.id).Nodup := by
  have saved := KeyedList.nodup_saveAll merges_mergedMessage list unique
  rw [synced, reconcileVisibleMessages, List.map_map]
  have same : LocalMessage.id ∘ reconciled userId now .received (list.map LocalMessage.id) =
      LocalMessage.id := funext fun message => reconciled_id userId now .received _ message
  rwa [same]

/-- A listed message is stored as the server has it, over what was stored before. -/
theorem find_synced_of_listed (distinct : (list.map LocalMessage.id).Nodup) {message : LocalMessage}
    (listed : message ∈ list) : findMessage message.id (synced userId now list messages) =
      some (((findMessage message.id messages).map (mergedMessage message)).getD message) := by
  have saved := KeyedList.find_saveAll_of_mem merges_mergedMessage distinct listed messages
  rw [synced, findMessage_reconcile, findMessage, saved, Option.map_some, Option.some.injEq]
  apply reconciled_of_fetched
  have sameId : (((findMessage message.id messages).map (mergedMessage message)).getD message).id =
      message.id := by
    cases findMessage message.id messages <;> rfl
  have fetched : message.id ∈ list.map LocalMessage.id := List.mem_map_of_mem listed
  rw [← sameId] at fetched
  exact fetched

theorem find_synced_of_unlisted {messageId : String} (unlisted : messageId ∉ list.map LocalMessage.id) :
    findMessage messageId (synced userId now list messages) =
      (findMessage messageId messages).map
        (reconciled userId now .received (list.map LocalMessage.id)) := by
  rw [synced, findMessage_reconcile, findMessage,
    KeyedList.find_saveAll_of_not_mem merges_mergedMessage unlisted]
  rfl

/-- Messages to others keep their place and their content. -/
theorem filter_synced (received : ∀ message ∈ list, HasItsParties parties message ∧ Received userId message)
    (stored : AllHaveParties parties messages) :
    (synced userId now list messages).filter (fun message => message.recipientUserId ≠ userId) =
      messages.filter fun message => message.recipientUserId ≠ userId := by
  have saved : (KeyedList.saveAll LocalMessage.id mergedMessage list messages).filter
      (fun message => message.recipientUserId ≠ userId) =
        messages.filter fun message => message.recipientUserId ≠ userId := by
    apply KeyedList.filter_saveAll
    · intro message listed
      simp [(received message listed).2.1]
    · intro message listed previous
      simp [mergedMessage, (received message listed).2.1]
    · intro message listed previous member sameId
      have its := stored previous member
      rw [HasItsParties, sameId, ← (received message listed).1] at its
      simp [(Prod.mk.inj its).2, (received message listed).2.1]
  rw [← saved, synced, reconcileVisibleMessages, List.filter_map]
  have test : (fun message : LocalMessage => decide (message.recipientUserId ≠ userId)) ∘
      reconciled userId now .received (list.map LocalMessage.id) =
        fun message => decide (message.recipientUserId ≠ userId) :=
    funext fun message => by simp [recipient_reconciled]
  rw [test]
  apply (List.map_congr_left _).trans (List.map_id _)
  intro message member
  exact reconciled_of_other (by simpa using (List.mem_filter.mp member).2)

/-- The store shows the user exactly the listed messages of others that no local marker had hidden. -/
theorem showsFromOthers_synced (unique : (messages.map LocalMessage.id).Nodup)
    (distinct : (list.map LocalMessage.id).Nodup) (clock : now ≠ "")
    (received : ∀ message ∈ list, Received userId message) (messageId : String) :
    ShowsFromOthers userId messageId (synced userId now list messages) ↔
      ∃ message ∈ list, message.id = messageId ∧ message.senderUserId ≠ userId ∧
        ∀ previous ∈ messages, previous.id = messageId → Unmarked previous := by
  have previousOf (previous : LocalMessage) : findMessage messageId messages = some previous ↔
      previous ∈ messages ∧ previous.id = messageId := KeyedList.find_iff_mem unique
  have shows_iff : ShowsFromOthers userId messageId (synced userId now list messages) ↔
      ∃ message, findMessage messageId (synced userId now list messages) = some message ∧
        message.senderUserId ≠ userId ∧ message.recipientUserId = userId ∧
          isMessageVisibleToUser message userId = true := by
    simp only [ShowsFromOthers, findMessage, KeyedList.find_iff_mem (synced_ids unique), and_assoc]
  rw [shows_iff]
  by_cases listed : messageId ∈ list.map LocalMessage.id
  · obtain ⟨message, member, rfl⟩ := List.mem_map.mp listed
    obtain ⟨recipient, unmarked⟩ := received message member
    rw [find_synced_of_listed distinct member]
    obtain ⟨stored, agrees⟩ : ∃ stored,
        ((findMessage message.id messages).map (mergedMessage message)).getD message = stored := ⟨_, rfl⟩
    have servers : stored.senderUserId = message.senderUserId ∧
        stored.recipientUserId = message.recipientUserId ∧
        (Unmarked stored ↔ ∀ previous ∈ messages, previous.id = message.id → Unmarked previous) := by
      rw [← agrees]
      cases before : findMessage message.id messages with
      | none =>
        refine ⟨rfl, rfl, iff_of_true unmarked fun previous belongs sameId => ?_⟩
        rw [(previousOf previous).mpr ⟨belongs, sameId⟩] at before
        cases before
      | some previous =>
        refine ⟨rfl, rfl, (unmarked_mergedMessage unmarked).trans ⟨fun clean other belongs sameId => ?_, ?_⟩⟩
        · rw [(previousOf other).mpr ⟨belongs, sameId⟩] at before
          cases before
          exact clean
        · intro clean
          obtain ⟨belongs, sameId⟩ := (previousOf previous).mp before
          exact clean previous belongs sameId
    rw [agrees]
    constructor
    · rintro ⟨_, ⟨rfl⟩, other, recipient', visible⟩
      rw [visible_iff_unmarked other recipient', servers.2.2] at visible
      exact ⟨message, member, rfl, servers.1 ▸ other, visible⟩
    · rintro ⟨listedMessage, belongs, sameId, other, clean⟩
      obtain rfl := List.inj_on_of_nodup_map distinct belongs member sameId
      have other' : stored.senderUserId ≠ userId := servers.1 ▸ other
      have recipient' : stored.recipientUserId = userId := servers.2.1.trans recipient
      exact ⟨stored, rfl, other', recipient',
        (visible_iff_unmarked other' recipient').mpr (servers.2.2.mpr clean)⟩
  · rw [find_synced_of_unlisted listed]
    constructor
    · rintro ⟨message, found, -, recipient, visible⟩
      obtain ⟨previous, before, rfl⟩ := Option.map_eq_some_iff.mp found
      obtain ⟨-, rfl⟩ := (previousOf previous).mp before
      rw [recipient_reconciled] at recipient
      rw [hidden_of_unlisted recipient listed clock] at visible
      cases visible
    · rintro ⟨message, member, rfl, -⟩
      exact absurd (List.mem_map_of_mem member) listed

theorem sync_converges (saves : List (LocalMessage × StoreIo)) (reconcileIo : StoreIo)
    (store : JsonLocalStore) (files : Files)
    (unique : (store.memory.messages.map LocalMessage.id).Nodup)
    (stored : AllHaveParties parties store.memory.messages)
    (distinct : (saves.map fun save => save.1.id).Nodup)
    (received : ∀ save ∈ saves, HasItsParties parties save.1 ∧ Received userId save.1)
    (succeeded : (saveMessages library saves store files).1 = .ok ()) (clock : reconcileIo.now ≠ "") :
    ∃ messages, (saveAndReconcileMessages library userId .received saves reconcileIo store
        files).2.1.memory.messages = messages ∧
      (messages.map LocalMessage.id).Nodup ∧
      (∀ messageId, ShowsFromOthers userId messageId messages ↔ ∃ save ∈ saves,
        save.1.id = messageId ∧ save.1.senderUserId ≠ userId ∧
          ∀ previous ∈ store.memory.messages, previous.id = messageId → Unmarked previous) ∧
      (∀ save ∈ saves, ∃ message ∈ messages, IsServers save.1 message) ∧
      messages.filter (fun message => message.recipientUserId ≠ userId) =
        store.memory.messages.filter fun message => message.recipientUserId ≠ userId := by
  have ids : saves.map (fun save => save.1.id) = (saves.map Prod.fst).map LocalMessage.id :=
    List.map_map.symm
  have received' : ∀ message ∈ saves.map Prod.fst,
      HasItsParties parties message ∧ Received userId message := by
    intro message member
    obtain ⟨save, belongs, rfl⟩ := List.mem_map.mp member
    exact received save belongs
  refine ⟨synced userId reconcileIo.now (saves.map Prod.fst) store.memory.messages, ?_,
    synced_ids unique, ?_, ?_, filter_synced received' stored⟩
  · rw [saveAndReconcileMessages_store, savedMessages_of_ok succeeded, ids]
    rfl
  · intro messageId
    rw [showsFromOthers_synced unique (ids ▸ distinct) clock fun message member =>
      (received' message member).2]
    simp only [List.mem_map, exists_exists_and_eq_and]
  · intro save member
    have found := @find_synced_of_listed userId reconcileIo.now _ store.memory.messages
      (ids ▸ distinct) save.1 (List.mem_map_of_mem member)
    refine ⟨_, (KeyedList.find_some found).1, ?_⟩
    cases findMessage save.1.id store.memory.messages with
    | none => exact isServers_refl save.1
    | some previous => exact isServers_mergedMessage save.1 previous

end Sync

/-! ## Four kinds of messages in one sync -/

/-- A message of bob to alice. -/
def toAlice (id : String) : LocalMessage := { listedMessage with id := id }

def mixedStore : JsonLocalStore where
  memory := { messages := [
    { toAlice "known" with readAt := "2026-01-01T00:00:00.000Z" },
    { toAlice "deleted" with recipientDeletedAt := "2026-01-01T00:00:00.000Z" },
    toAlice "vanished",
    { toAlice "to bob" with senderUserId := "alice", recipientUserId := "bob" }] }
  indexPath := "index"
  path := "state"
  secretProtectionRequired := false

def listedIds : List String := ["known", "deleted", "new"]

def listedSaves : List (LocalMessage × StoreIo) := listedIds.map fun id => (toAlice id, clock)

/-- Only the message from alice goes to bob. -/
def mixedParties : Parties := fun id => if id = "to bob" then ("alice", "bob") else ("bob", "alice")

theorem sync_converges_mixed : ∃ messages, (saveAndReconcileMessages refusingLibrary "alice" .received
      listedSaves clock mixedStore fun _ => none).2.1.memory.messages = messages ∧
    ShowsFromOthers "alice" "known" messages ∧ ShowsFromOthers "alice" "new" messages ∧
    ¬ ShowsFromOthers "alice" "deleted" messages ∧ ¬ ShowsFromOthers "alice" "vanished" messages := by
  have stored : AllHaveParties mixedParties mixedStore.memory.messages := by
    intro message member
    simp only [mixedStore, List.mem_cons, List.not_mem_nil, or_false] at member
    rcases member with rfl | rfl | rfl | rfl <;> rfl
  have received : ∀ save ∈ listedSaves, HasItsParties mixedParties save.1 ∧ Received "alice" save.1 := by
    intro save member
    simp only [listedSaves, listedIds, List.map_cons, List.map_nil, List.mem_cons, List.not_mem_nil,
      or_false] at member
    rcases member with rfl | rfl | rfl <;> exact ⟨rfl, rfl, rfl, rfl, rfl⟩
  obtain ⟨messages, after, -, shows_iff, -⟩ := @sync_converges refusingLibrary mixedParties "alice"
    listedSaves clock mixedStore (fun _ => none) (by decide) stored (by decide) received rfl (by decide)
  have bob : (toAlice "known").senderUserId ≠ "alice" := by decide
  refine ⟨messages, after, (shows_iff _).mpr ?_, (shows_iff _).mpr ?_, fun shown => ?_, fun shown => ?_⟩
  · refine ⟨(toAlice "known", clock), List.mem_cons_self, rfl, bob, fun previous member same => ?_⟩
    simp only [mixedStore, List.mem_cons, List.not_mem_nil, or_false] at member
    rcases member with rfl | rfl | rfl | rfl
    · exact ⟨rfl, rfl, rfl⟩
    all_goals exact absurd same (by decide)
  · refine ⟨(toAlice "new", clock), by simp [listedSaves, listedIds], rfl, bob, ?_⟩
    intro previous member same
    simp only [mixedStore, List.mem_cons, List.not_mem_nil, or_false] at member
    rcases member with rfl | rfl | rfl | rfl <;> exact absurd same (by decide)
  · obtain ⟨save, -, -, -, clean⟩ := (shows_iff _).mp shown
    have unmarked := clean { toAlice "deleted" with recipientDeletedAt := "2026-01-01T00:00:00.000Z" }
      (by simp [mixedStore]) rfl
    exact absurd unmarked.2.1 (by decide)
  · obtain ⟨save, member, same, -⟩ := (shows_iff _).mp shown
    obtain ⟨id, listed, rfl⟩ := List.mem_map.mp member
    obtain rfl : id = "vanished" := same
    simp [listedIds] at listed

end EpicKfc.Guarantees.SyncConvergence
