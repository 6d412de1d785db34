import EpicKfc.Lib.OffsetPaging
import EpicKfc.Source.DecodedMessages
import EpicKfc.Source.Server.MessageListings

/-!
# The paged fetch against a changing relay

`HttpMessageGateway::fetchMessages` asks for a page, appends it, and asks for the
next offset until a page is short. Requests of other clients commit between two
pages. The state keeps the rows of the pages; the client decodes each of them.
-/

namespace EpicKfc.Source.PagedFetch
open EpicKfc.Lib
open EpicKfc.Source.Client
open EpicKfc.Source.Client.Keccak256 (intMax)
open EpicKfc.Source.Client.MessageGateway
open EpicKfc.Source.Server
open EpicKfc.Source.Server.Messages
open EpicKfc.Source.Server.MessageApi

inductive FetchStatus where
  | fetching
  | finished
  | failed
deriving DecidableEq, Repr

structure FetchState where
  relay : RelayState
  offset : Nat
  /-- The rows of all pages so far. -/
  pages : List Message
  status : FetchStatus

inductive FetchEvent where
  | relay (event : RelayEvent)
  | page
  | pageFails

def direction : Listing → MessageDirection
  | .received => .received
  | .sent => .sent

/-- The fetch has no next state when its next offset overflows an `int`. -/
def fetchStep (listing : Listing) (userId : Uuid) (state : FetchState) : FetchEvent → Option FetchState
  | .relay event => (relayStep state.relay event).map fun relay => { state with relay := relay }
  | .page =>
    if state.status = .fetching then
      let page := listPage listing userId messagePageLimit state.offset state.relay.rows
      let collected := state.pages ++ page
      if page.length < messagePageLimit then
        some { state with pages := collected, status := .finished }
      else if state.offset + messagePageLimit ≤ intMax then
        some { state with pages := collected, offset := state.offset + messagePageLimit }
      else none
    else none
  | .pageFails => if state.status = .fetching then some { state with status := .failed } else none

/-- The list the callback gets when the fetch has finished. -/
def collected (parser : DateParser) (serializer : DateTimeSerializer) (listing : Listing)
    (state : FetchState) : MessageList :=
  messageListFromJson parser
    (state.pages.map fun message => .object (messageResponse serializer message)) (direction listing)

/-- A fetch that has not sent its first request yet. -/
def FetchStarts (state : FetchState) : Prop :=
  UniqueIds state.relay.rows ∧ state.offset = initialMessageOffset ∧ state.pages = [] ∧
    state.status = .fetching

theorem collected_eq (parser : DateParser) (serializer : DateTimeSerializer) (listing : Listing)
    (state : FetchState) :
    collected parser serializer listing state =
      state.pages.map fun message => decoded parser serializer message (direction listing) := by
  rw [collected, messageListFromJson, List.map_map]
  rfl

/-! ## Where a message stands -/

/-- The keys of a listing in order. -/
def listingKeys (listing : Listing) (userId : Uuid) (rows : MessageTable) : List MessageKey :=
  (listingRows listing userId rows).map sortKey

/-- The number of listed rows before this one. -/
def standing (listing : Listing) (userId : Uuid) (row : Message) (rows : MessageTable) : Nat :=
  OffsetPaging.position keyBefore (sortKey row) (listingKeys listing userId rows)

variable {listing : Listing} {userId : Uuid}

theorem sortKey_mem_listingKeys {rows : MessageTable} {row : Message} (present : row ∈ rows)
    (shown : listed listing userId row) : sortKey row ∈ listingKeys listing userId rows :=
  List.mem_map_of_mem (mem_listingRows.mpr ⟨present, shown⟩)

/-- A page covers a listed row that stands in its range. -/
theorem mem_listPage {rows : MessageTable} (unique : UniqueIds rows) {row : Message}
    (present : row ∈ rows) (shown : listed listing userId row) {limit offset : Nat}
    (reached : offset ≤ standing listing userId row rows)
    (covered : standing listing userId row rows < offset + limit) :
    row ∈ listPage listing userId limit offset rows := by
  have key := OffsetPaging.mem_page_of_position keyBefore_asymmetric
    (listingKeys_sorted listing userId unique) (sortKey_mem_listingKeys present shown) reached covered
  have cut : OffsetPaging.page limit offset (listingKeys listing userId rows) =
      (listPage listing userId limit offset rows).map sortKey := by
    rw [OffsetPaging.page, listingKeys, ← List.map_drop, ← List.map_take]
    rfl
  rw [listingKeys] at cut
  rw [cut] at key
  obtain ⟨found, member, same⟩ := List.mem_map.mp key
  have belongs : found ∈ rows :=
    (mem_listingRows.mp (List.mem_of_mem_drop (List.mem_of_mem_take member))).1
  have equal : found = row := unique.eq_of_id belongs present (congrArg Prod.snd same)
  exact equal ▸ member

theorem standing_lt_length {rows : MessageTable} (unique : UniqueIds rows) {row : Message}
    (present : row ∈ rows) (shown : listed listing userId row) :
    standing listing userId row rows < (listingRows listing userId rows).length := by
  have below := OffsetPaging.position_lt_length keyBefore_asymmetric
    (listingKeys_sorted listing userId unique) (sortKey_mem_listingKeys present shown)
  rwa [List.length_map] at below

/-- A commit that keeps the rows before an offset listed keeps later rows behind it. -/
theorem standing_kept {rows rows' : MessageTable} (unique : UniqueIds rows)
    (unique' : UniqueIds rows') (survive : ∀ message ∈ rows, ∃ message' ∈ rows', SameRow message message')
    {offset : Nat}
    (stay : ∀ message ∈ (listingRows listing userId rows).take offset,
      ∃ message' ∈ listingRows listing userId rows', message'.id = message.id)
    {row row' : Message} (present : row ∈ rows) (shown : listed listing userId row)
    (same : SameRow row row') (reached : offset ≤ standing listing userId row rows) :
    offset ≤ standing listing userId row' rows' := by
  rw [standing, same.sortKey]
  refine OffsetPaging.position_kept keyBefore_asymmetric (listingKeys_sorted listing userId unique)
    (sortKey_mem_listingKeys present shown) ?_ reached
  intro key earlier
  rw [← List.map_take] at earlier
  obtain ⟨message, member, rfl⟩ := List.mem_map.mp earlier
  obtain ⟨message', member', sameId⟩ := stay message member
  obtain ⟨survivor, belongs, kept⟩ :=
    survive message (mem_listingRows.mp (List.mem_of_mem_take member)).1
  have equal : message' = survivor :=
    unique'.eq_of_id (mem_listingRows.mp member').1 belongs (sameId.trans kept.id.symm)
  rw [← kept.sortKey, ← equal]
  exact List.mem_map_of_mem member'

end EpicKfc.Source.PagedFetch
