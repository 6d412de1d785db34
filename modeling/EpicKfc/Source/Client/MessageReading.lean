import EpicKfc.Source.Client.MessageService

/-!
# Reading messages

`MessageService::openConversationFromCache`, where `readConversation` ends, and
`MessageService::download`. Neither asks for the pin of a sender.
-/

namespace EpicKfc.Source.Client
open EpicKfc.Lib

/-- An invalid date sorts as the epoch. -/
def createdBefore (left right : LocalMessage) : Prop :=
  left.createdAt.getD 0 < right.createdAt.getD 0

/-- `std::sort` by `createdAt`: messages of one instant come in any order. -/
structure CreatedAtSort where
  sort : MessageList → MessageList
  perm : ∀ messages, (sort messages).Perm messages
  ordered : ∀ messages, (sort messages).Pairwise fun left right => ¬ createdBefore right left

instance (left right : LocalMessage) : Decidable (createdBefore left right) :=
  inferInstanceAs (Decidable (_ < _))

def notAfter (left right : LocalMessage) : Bool := ¬ createdBefore right left

theorem notAfter_iff (left right : LocalMessage) :
    notAfter left right = true ↔ ¬ createdBefore right left := decide_eq_true_iff

theorem notAfter_trans (first second third : LocalMessage) (before : notAfter first second = true)
    (after : notAfter second third = true) : notAfter first third = true := by
  rw [notAfter_iff, createdBefore] at before after ⊢
  omega

theorem notAfter_total (left right : LocalMessage) :
    (notAfter left right || notAfter right left) = true := by
  rw [Bool.or_eq_true, notAfter_iff, notAfter_iff, createdBefore, createdBefore]
  omega

/-- A stable sort is one of them. -/
def stableCreatedAtSort : CreatedAtSort where
  sort messages := messages.mergeSort notAfter
  perm messages := List.mergeSort_perm messages notAfter
  ordered messages :=
    (List.pairwise_mergeSort notAfter_trans notAfter_total messages).imp (notAfter_iff _ _).mp

structure ConversationLogEntry where
  message : LocalMessage
  plaintext : String := ""
  decryptError : Option ClientError := none
deriving DecidableEq

structure ConversationPage where
  entries : List ConversationLogEntry
  page : Int
  pageCount : Int

/-- The file that a download writes into the current directory. -/
structure Download where
  name : String
  content : String
deriving DecidableEq

namespace MessageService

variable (setup : ClientSetup) (order : CreatedAtSort)

def conversationPageSize : Nat := 10

/-- `JsonLocalStore::messagesWithPeer`. -/
def messagesWithPeer (currentUserId peerUserId : String) (messages : MessageList) : MessageList :=
  order.sort (messages.filter (LocalMessages.isWithPeer currentUserId peerUserId))

/-- The entry of a message that was tried to be decrypted. -/
def openedEntry (message : LocalMessage) : Result String → ConversationLogEntry
  | .ok plaintext => { message := message, plaintext := plaintext }
  | .error error => { message := message, decryptError := some error }

/-- One turn of the loop over the page. -/
def conversationEntry (client : ClientState) (device : DeviceKeyMaterial) (message : LocalMessage) :
    ConversationLogEntry :=
  if message.senderUserId = client.currentUserId then
    if message.localSenderCopyWirePayloadJson.isEmpty then
      { message := message, plaintext := "<sent message encrypted for recipient>" }
    else openedEntry message
      (setup.crypto.decrypt client.currentUserId device (senderCopy message) none)
  else openedEntry message (setup.crypto.decrypt client.currentUserId device message
    (oneTimePreKeyFor setup client message))

def openConversationFromCache (client : ClientState) (address : UserAddress) (username : String)
    (page : Int) (io : ClientIo) : Result ConversationPage × ClientState :=
  let messages :=
    messagesWithPeer order client.currentUserId address.userId client.store.memory.messages
  if messages.isEmpty then
    (.error (notFound ("No cached conversation with " ++ username ++ ".")), client)
  else
    let pageCount := (messages.length + conversationPageSize - 1) / conversationPageSize
    let safePage := max 1 (min page pageCount)
    let start := (safePage.toNat - 1) * conversationPageSize
    match client.currentDevice setup with
    | none => (.error deviceKeysUnavailable, client)
    | some device =>
      let shown := (messages.drop start).take conversationPageSize
      let entries := shown.map (conversationEntry setup client device)
      match client.mutate setup (.markConversationRead client.currentUserId address.userId)
          (io.store 0) with
      | (.error error, client) => (.error error, client)
      | (.ok (), client) => (.ok ⟨entries, safePage, pageCount⟩, client)

def downloadName (messageId : String) : String :=
  let isSafe (char : Char) : Bool := char.isAlphanum || char == '_' || char == '-'
  let safeMessageId := messageId.toList.map fun char => if isSafe char then char else '_'
  "message-" ++ String.ofList safeMessageId ++ ".txt"

def download (client : ClientState) (messageId : String) (opens : Bool) : Result Download :=
  match cachedPlaintext setup (notFound "Message must be cached before download. Use /read first.")
      client messageId with
  | .error error => .error error
  | .ok (_, plaintext) =>
    if opens then .ok ⟨downloadName messageId, plaintext ++ "\n"⟩
    else .error ⟨.storageError, "Could not write " ++ downloadName messageId ++ "."⟩

/-! ## What a page shows -/

variable {setup} {order}

theorem message_conversationEntry (client : ClientState) (device : DeviceKeyMaterial)
    (message : LocalMessage) :
    (conversationEntry setup client device message).message = message := by
  have opened (plaintext : Result String) : (openedEntry message plaintext).message = message := by
    cases plaintext <;> rfl
  unfold conversationEntry
  split
  · split
    · rfl
    · exact opened _
  · exact opened _

/-- A page shows messages of the peer, each as the loop over the page has opened it. -/
theorem openConversationFromCache_entries {client : ClientState} {address : UserAddress}
    {username : String} {page : Int} {io : ClientIo} {shown : ConversationPage}
    (opened : (openConversationFromCache setup order client address username page io).1 = .ok shown) :
    ∃ device, client.currentDevice setup = some device ∧ ∀ entry ∈ shown.entries,
      ∃ message ∈ messagesWithPeer order client.currentUserId address.userId
        client.store.memory.messages, conversationEntry setup client device message = entry := by
  simp only [openConversationFromCache] at opened
  split at opened
  · cases opened
  · split at opened
    · cases opened
    · next device held =>
      refine ⟨device, held, ?_⟩
      split at opened
      · cases opened
      · cases opened
        intro entry member
        obtain ⟨message, listed, same⟩ := List.mem_map.mp member
        exact ⟨message, List.mem_of_mem_drop (List.mem_of_mem_take listed), same⟩

end MessageService

end EpicKfc.Source.Client
