import EpicKfc.Lib.KeyedList
import EpicKfc.Source.Client.Models

/-!
# The message list of the local store

The operations of `client/src/storage/JsonLocalStore.cpp` on `m_messages`, as
functions of the list; the store saves after each. `now` is the text of the
current time that an operation writes as a marker.
-/

namespace EpicKfc.Source.Client.LocalMessages
open EpicKfc.Lib
open EpicKfc.Source.Client

/-- `isMessageVisibleToUser`. -/
def isMessageVisibleToUser (message : LocalMessage) (currentUserId : String) : Bool :=
  let globallyDeleted := !message.deletedAt.isEmpty
  let revoked := !message.accessRevokedAt.isEmpty
  let sentByCurrentUser := message.senderUserId == currentUserId
  let receivedByCurrentUser := message.recipientUserId == currentUserId
  let deletedBySender := sentByCurrentUser && !message.senderDeletedAt.isEmpty
  let deletedByRecipient := receivedByCurrentUser && !message.recipientDeletedAt.isEmpty
  !globallyDeleted && !revoked && !deletedBySender && !deletedByRecipient

def firstNonEmpty (first fallback : String) : String := if first.isEmpty then fallback else first

/-- A saved message over the stored one of its id: what it lacks is kept. -/
def mergedMessage (message previous : LocalMessage) : LocalMessage :=
  { message with
    readAt := firstNonEmpty message.readAt previous.readAt
    localSenderCopyWirePayloadJson :=
      firstNonEmpty message.localSenderCopyWirePayloadJson previous.localSenderCopyWirePayloadJson
    cachedAnchor :=
      if message.cachedAnchor.digest.isEmpty then previous.cachedAnchor else message.cachedAnchor
    accessRevokedAt := firstNonEmpty message.accessRevokedAt previous.accessRevokedAt
    senderDeletedAt := firstNonEmpty message.senderDeletedAt previous.senderDeletedAt
    recipientDeletedAt := firstNonEmpty message.recipientDeletedAt previous.recipientDeletedAt
    deletedAt := firstNonEmpty message.deletedAt previous.deletedAt }

/-- `saveMessage`: the first message of that id is merged, else one is added. -/
def saveMessage (message : LocalMessage) (messages : MessageList) : MessageList :=
  KeyedList.upsertWith LocalMessage.id (mergedMessage message) message messages

/-- The markers `markMessageDeletedFor` sets on the message it finds. -/
def markedDeletedFor (currentUserId now : String) (message : LocalMessage) : LocalMessage :=
  let sent := message.senderUserId = currentUserId
  let received := message.recipientUserId = currentUserId
  { message with
    senderDeletedAt :=
      if sent then firstNonEmpty message.senderDeletedAt now else message.senderDeletedAt
    recipientDeletedAt :=
      if received then firstNonEmpty message.recipientDeletedAt now else message.recipientDeletedAt
    deletedAt :=
      if ¬ sent ∧ ¬ received then firstNonEmpty message.deletedAt now else message.deletedAt }

/-- `markMessageDeletedFor`; `none` when no message of that id is stored, and then nothing is saved. -/
def markMessageDeletedFor (currentUserId messageId now : String) : MessageList → Option MessageList
  | [] => none
  | message :: rest =>
    if message.id = messageId then some (markedDeletedFor currentUserId now message :: rest)
    else (markMessageDeletedFor currentUserId messageId now rest).map (message :: ·)

/-- What `reconcileVisibleMessages` makes of one message. -/
def reconciled (currentUserId now : String) (direction : MessageDirection)
    (visibleMessageIds : List String) (message : LocalMessage) : LocalMessage :=
  let relevantReceivedMessage :=
    direction == .received && message.recipientUserId == currentUserId
  let relevantSentMessage := direction == .sent && message.senderUserId == currentUserId
  let relevantMessage := relevantReceivedMessage || relevantSentMessage
  let stillVisible := visibleMessageIds.contains message.id
  if !relevantMessage || stillVisible || !isMessageVisibleToUser message currentUserId then message
  else if relevantReceivedMessage then
    { message with accessRevokedAt := firstNonEmpty message.accessRevokedAt now }
  else { message with senderDeletedAt := firstNonEmpty message.senderDeletedAt now }

def reconcileVisibleMessages (currentUserId now : String) (direction : MessageDirection)
    (visibleMessageIds : List String) (messages : MessageList) : MessageList :=
  messages.map (reconciled currentUserId now direction visibleMessageIds)

def findMessage (messageId : String) (messages : MessageList) : Option LocalMessage :=
  KeyedList.find LocalMessage.id messageId messages

/-- The filter of `messagesWithPeer`. -/
def isWithPeer (currentUserId peerUserId : String) (message : LocalMessage) : Bool :=
  let sentToPeer := message.senderUserId == currentUserId && message.recipientUserId == peerUserId
  let receivedFromPeer :=
    message.senderUserId == peerUserId && message.recipientUserId == currentUserId
  (sentToPeer || receivedFromPeer) && isMessageVisibleToUser message currentUserId

/-- `markConversationRead`. -/
def markConversationRead (currentUserId peerUserId now : String) (messages : MessageList) :
    MessageList :=
  messages.map fun message =>
    let incomingFromPeer :=
      message.senderUserId == peerUserId && message.recipientUserId == currentUserId
    if incomingFromPeer && message.readAt.isEmpty then { message with readAt := now } else message

/-! ## Facts about one save -/

theorem firstNonEmpty_eq_empty {first fallback : String} :
    firstNonEmpty first fallback = "" ↔ first = "" ∧ fallback = "" := by
  unfold firstNonEmpty
  by_cases empty : first = ""
  · simp [empty]
  · simp [String.isEmpty_iff, empty]

theorem isMessageVisibleToUser_iff (message : LocalMessage) (currentUserId : String) :
    isMessageVisibleToUser message currentUserId = true ↔
      message.deletedAt = "" ∧ message.accessRevokedAt = "" ∧
      (message.senderUserId = currentUserId → message.senderDeletedAt = "") ∧
      (message.recipientUserId = currentUserId → message.recipientDeletedAt = "") := by
  unfold isMessageVisibleToUser
  simp only [Bool.and_eq_true, Bool.not_eq_true', Bool.not_eq_false', Bool.and_eq_false_iff,
    String.isEmpty_iff, beq_eq_false_iff_ne]
  constructor
  · rintro ⟨⟨⟨deleted, revoked⟩, sender⟩, recipient⟩
    exact ⟨deleted, revoked, fun sent => sender.resolve_left (fun other => other sent),
      fun received => recipient.resolve_left (fun other => other received)⟩
  · rintro ⟨deleted, revoked, sender, recipient⟩
    refine ⟨⟨⟨deleted, revoked⟩, ?_⟩, ?_⟩
    · by_cases sent : message.senderUserId = currentUserId
      · exact Or.inr (sender sent)
      · exact Or.inl sent
    · by_cases received : message.recipientUserId = currentUserId
      · exact Or.inr (recipient received)
      · exact Or.inl received

end EpicKfc.Source.Client.LocalMessages
