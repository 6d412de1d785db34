import EpicKfc.Guarantees.LocalTombstones
import EpicKfc.Lib.OffsetPaging
import EpicKfc.Source.Client.ClientRuns
import EpicKfc.Source.Client.MessageReading

/-!
# Reading a conversation by pages

The pages of a conversation hold each of its messages once and in order, ten at most.
Opening one of them marks the whole conversation as read, also what it does not show.
-/

namespace EpicKfc.Guarantees.PageReading
open EpicKfc.Lib
open EpicKfc.Lib.OffsetPaging (page pageCount)
open EpicKfc.Source.Client
open EpicKfc.Source.Client.LocalMessages
open EpicKfc.Source.Client.MessageService
open EpicKfc.Guarantees.LocalTombstones (markedRead)

variable (setup : ClientSetup) (order : CreatedAtSort)

/-- What the user sees of the conversation with a peer, in order. -/
def conversation (client : ClientState) (address : UserAddress) : MessageList :=
  messagesWithPeer order client.currentUserId address.userId client.store.memory.messages

/-- The page that is opened for a number. -/
def safePage (number : Int) (messages : MessageList) : Int :=
  max 1 (min number (pageCount conversationPageSize messages))

def pages (messages : MessageList) : List MessageList :=
  (List.range (pageCount conversationPageSize messages)).map fun index =>
    page conversationPageSize (index * conversationPageSize) messages

/-- The conversation is marked as read and saved. -/
def Saves (client : ClientState) (address : UserAddress) (io : ClientIo) : Prop :=
  (client.mutate setup (.markConversationRead client.currentUserId address.userId) (io.store 0)).1 =
    .ok ()

variable {setup} {order} {client : ClientState} {address : UserAddress} {username : String}
  {number : Int} {io : ClientIo}

/-! ## Opening a page -/

/-- Nothing is opened without messages or without the keys of the device. -/
theorem unopened (closed : conversation order client address = [] ∨ client.currentDevice setup = none) :
    (∃ error, (openConversationFromCache setup order client address username number io).1 =
      .error error) ∧
    (openConversationFromCache setup order client address username number io).2 = client := by
  simp only [openConversationFromCache]
  split
  · exact ⟨⟨_, rfl⟩, rfl⟩
  · next filled =>
    rcases closed with empty | absent
    · rw [conversation] at empty
      rw [empty] at filled
      exact absurd rfl filled
    · simp only [absent]
      exact ⟨⟨_, rfl⟩, trivial⟩

def bobsAddress : UserAddress := ⟨"bob", "bob", 1⟩

end EpicKfc.Guarantees.PageReading
