import EpicKfc.Guarantees.LocalTombstones
import EpicKfc.Source.Client.Conversations
import EpicKfc.Source.Client.MessageReading
import Mathlib.Algebra.GroupWithZero.Nat
import Mathlib.Algebra.Order.BigOperators.Group.List
import Mathlib.Data.List.MinMax

/-!
# The overview and the conversations

The overview counts a message that the user neither sent nor received for its sender,
while no conversation shows it. Everything else agrees, as far as the times can be
compared.
-/

namespace EpicKfc.Guarantees.OverviewAgreement
open EpicKfc.Lib
open EpicKfc.Source.Client
open EpicKfc.Source.Client.LocalMessages
open EpicKfc.Source.Client.Conversations
open EpicKfc.Source.Client.MessageService (messagesWithPeer)
open EpicKfc.Guarantees.LocalTombstones (markedRead)

/-- The conversations of the overview with a peer, one for each device. -/
def withPeer (peerUserId : String) (conversations : ConversationList) : ConversationList :=
  conversations.filter fun conversation => conversation.peerUserId = peerUserId

def messageTotal (conversations : ConversationList) : Nat :=
  (conversations.map ConversationSummary.messageCount).sum

def unreadTotal (conversations : ConversationList) : Nat :=
  (conversations.map ConversationSummary.unreadCount).sum

/-- The memory after `markConversationRead`. -/
def markedMemory (currentUserId peerUserId now : String) (memory : StoreMemory) : StoreMemory :=
  { memory with messages := markConversationRead currentUserId peerUserId now memory.messages }

/-- What the overview says of a peer agrees with the conversation. -/
structure Agrees (order : CreatedAtSort) (currentUserId : String) (memory : StoreMemory)
    (peerUserId : String) : Prop where
  count : messageTotal (withPeer peerUserId (conversationsFor currentUserId memory)) =
    (messagesWithPeer order currentUserId peerUserId memory.messages).length
  unread : unreadTotal (withPeer peerUserId (conversationsFor currentUserId memory)) ≤
    messageTotal (withPeer peerUserId (conversationsFor currentUserId memory))
  read : ∀ now ≠ "", unreadTotal (withPeer peerUserId (conversationsFor currentUserId
    (markedMemory currentUserId peerUserId now memory))) = 0
  shown : ∀ conversation ∈ withPeer peerUserId (conversationsFor currentUserId memory),
    ∃ message ∈ messagesWithPeer order currentUserId peerUserId memory.messages,
      message.createdAt = conversation.latestMessageAt
  latest : messagesWithPeer order currentUserId peerUserId memory.messages ≠ [] →
    ∃ conversation ∈ withPeer peerUserId (conversationsFor currentUserId memory),
      ∀ message ∈ messagesWithPeer order currentUserId peerUserId memory.messages,
        isLater message.createdAt conversation.latestMessageAt = false

/-- Messages of different peers have different keys. -/
def KeysApart (currentUserId : String) (messages : MessageList) : Prop :=
  ∀ message ∈ visibleMessages currentUserId messages,
    ∀ other ∈ visibleMessages currentUserId messages,
      keyOf currentUserId message = keyOf currentUserId other →
        peerUserIdOf currentUserId message = peerUserIdOf currentUserId other

theorem colon_not_mem (device : Int) : ':' ∉ (toString device).toList := by
  have digits (value : Nat) : ':' ∉ (toString value).toList := by
    intro listed
    rw [Nat.toString_eq_repr, Nat.toList_repr] at listed
    have digit := Nat.isDigit_of_mem_toDigits (by decide) (by decide) listed
    revert digit
    decide
  intro member
  rw [Int.toString_eq_repr, Int.repr_eq_if] at member
  split at member
  · exact digits device.toNat member
  · rw [String.toList_append, List.mem_append] at member
    rcases member with sign | listed
    · revert sign
      decide
    · exact digits _ listed

/-- Peers without a percent sign in their ids have keys of their own. -/
theorem keysApart_of_plain {currentUserId : String} {messages : MessageList}
    (plain : ∀ message ∈ messages,
      '%' ∉ message.senderUserId.toList ∧ '%' ∉ message.recipientUserId.toList) :
    KeysApart currentUserId messages := by
  have free {message : LocalMessage} (member : message ∈ visibleMessages currentUserId messages) :
      '%' ∉ (peerUserIdOf currentUserId message).toList := by
    rw [peerUserIdOf]
    split
    · exact (plain message (List.mem_of_mem_filter member)).2
    · exact (plain message (List.mem_of_mem_filter member)).1
  intro message member other member' same
  have texts := String.ofList_injective same
  have template : "%1:%2".toList = ['%', '1', ':', '%', '2'] := rfl
  rw [template, PlaceMarkers.arg_pair (free member), PlaceMarkers.arg_pair (free member')] at texts
  exact String.toList_inj.mp
    (PlaceMarkers.append_cons_inj (colon_not_mem _) (colon_not_mem _) texts)

variable {currentUserId peerUserId : String} {memory : StoreMemory} {messages : MessageList}

/-! ## Counts -/

end EpicKfc.Guarantees.OverviewAgreement
