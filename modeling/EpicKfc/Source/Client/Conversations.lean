import EpicKfc.Lib.CodeUnits
import EpicKfc.Lib.Grouping
import EpicKfc.Lib.PlaceMarkers
import EpicKfc.Source.Client.JsonLocalStore
import Mathlib.Data.List.Sort

/-!
# The conversation overview

`JsonLocalStore::conversationsFor` and `unreadConversationsFor`. The messages that
the user can see are counted by peer and device; every message that the user did not
send counts for its sender.
-/

namespace EpicKfc.Source.Client
open EpicKfc.Lib

structure ConversationSummary where
  peerUserId : String
  peerUsername : String
  peerDeviceId : Int
  messageCount : Nat
  unreadCount : Nat
  latestMessageAt : QDateTime
deriving DecidableEq

abbrev ConversationList := List ConversationSummary

namespace Conversations
open EpicKfc.Source.Client.LocalMessages

/-- `QDateTime`'s comparison; an invalid date compares as the epoch. -/
def isLater (left right : QDateTime) : Bool := right.getD 0 < left.getD 0

def sentBy (currentUserId : String) (message : LocalMessage) : Bool :=
  message.senderUserId == currentUserId

def peerUserIdOf (currentUserId : String) (message : LocalMessage) : String :=
  if sentBy currentUserId message then message.recipientUserId else message.senderUserId

def peerDeviceIdOf (currentUserId : String) (message : LocalMessage) : Int :=
  if sentBy currentUserId message then message.recipientDeviceId else message.senderDeviceId

/-- `QString("%1:%2").arg(peerUserId).arg(peerDeviceId)`. -/
def conversationKey (peerUserId : String) (peerDeviceId : Int) : String :=
  String.ofList (PlaceMarkers.arg (PlaceMarkers.arg "%1:%2".toList peerUserId.toList)
    (toString peerDeviceId).toList)

def keyOf (currentUserId : String) (message : LocalMessage) : String :=
  conversationKey (peerUserIdOf currentUserId message) (peerDeviceIdOf currentUserId message)

def unreadIncoming (currentUserId : String) (message : LocalMessage) : Bool :=
  !sentBy currentUserId message && message.readAt.isEmpty

/-- One turn of the loop: the summary of the message's key with the message. -/
def summarized (currentUserId : String) (memory : StoreMemory) (known : Option ConversationSummary)
    (message : LocalMessage) : ConversationSummary :=
  let peerUserId := peerUserIdOf currentUserId message
  let peerDeviceId := peerDeviceIdOf currentUserId message
  let peerUsername := ((JsonLocalStore.knownUser peerUserId peerDeviceId memory).map (·.username)).getD ""
  let summary := known.getD ⟨peerUserId, peerUsername, peerDeviceId, 0, 0, none⟩
  { summary with
    peerUsername :=
      if summary.peerUsername.isEmpty && !peerUsername.isEmpty then peerUsername
      else summary.peerUsername
    messageCount := summary.messageCount + 1
    unreadCount :=
      if unreadIncoming currentUserId message then summary.unreadCount + 1 else summary.unreadCount
    latestMessageAt :=
      if summary.latestMessageAt.isNone || isLater message.createdAt summary.latestMessageAt then
        message.createdAt
      else summary.latestMessageAt }

def visibleMessages (currentUserId : String) (messages : MessageList) : MessageList :=
  messages.filter fun message => isMessageVisibleToUser message currentUserId

/-- The summaries by key. -/
def summaries (currentUserId : String) (memory : StoreMemory) : List (String × ConversationSummary) :=
  Grouping.foldByKey (keyOf currentUserId) (summarized currentUserId memory)
    (visibleMessages currentUserId memory.messages)

/-- The order of a `std::map` with such keys. -/
def keyNotAfter (left right : String × ConversationSummary) : Prop :=
  ¬ CodeUnits.Before right.1.toList left.1.toList

instance : DecidableRel keyNotAfter := fun left right =>
  inferInstanceAs (Decidable (¬ CodeUnits.Before right.1.toList left.1.toList))

def conversationsFor (currentUserId : String) (memory : StoreMemory) : ConversationList :=
  ((summaries currentUserId memory).insertionSort keyNotAfter).map Prod.snd

def unreadConversationsFor (currentUserId : String) (memory : StoreMemory) : ConversationList :=
  (conversationsFor currentUserId memory).filter fun conversation => conversation.unreadCount > 0

/-! ## What a summary holds -/

variable {currentUserId : String} {memory : StoreMemory}

/-- The time a summary ends with, from the times of its messages. -/
def latest (times : List QDateTime) : QDateTime :=
  times.foldl (fun latest time => if latest.isNone || isLater time latest then time else latest) none

theorem latest_concat (times : List QDateTime) (time : QDateTime) :
    latest (times ++ [time]) =
      if latest times = none ∨ (latest times).getD 0 < time.getD 0 then time else latest times := by
  simp only [latest, List.foldl_append, List.foldl_cons, List.foldl_nil, isLater, Bool.or_eq_true,
    Option.isNone_iff_eq_none, decide_eq_true_eq]

theorem latest_mem {times : List QDateTime} (nonempty : times ≠ []) : latest times ∈ times := by
  induction times using List.reverseRecOn with
  | nil => exact absurd rfl nonempty
  | append_singleton times time ih =>
    rw [latest_concat]
    split
    · simp
    · next kept =>
      rw [not_or] at kept
      refine List.mem_append_left _ (ih ?_)
      rintro rfl
      exact kept.1 rfl

end Conversations

end EpicKfc.Source.Client
