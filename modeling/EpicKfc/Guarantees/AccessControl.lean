import EpicKfc.Lib.Runs
import EpicKfc.Source.Server.BlockchainAnchors
import EpicKfc.Source.Server.MessageListings

/-!
# Access to messages over runs of the relay

A row carries three markers of its own. Every committed write sets markers of one
row or adds a row, none clears one, and the queries of a user read nothing else of
a row but its parties. So a message that a query has refused stays refused, and a
committed revocation closes every way in for a recipient who is not the sender.
-/

namespace EpicKfc.Guarantees.AccessControl
open EpicKfc.Lib
open EpicKfc.Lib.Keccak (Byte)
open EpicKfc.Source.Server
open EpicKfc.Source.Server.Messages
open EpicKfc.Source.Server.BlockchainAnchors

/-- Any table with its primary key, and no request under way. -/
def RelayStarts (state : RelayState) : Prop := UniqueIds state.rows ∧ state.openWrites = []

/-- The message occurs on some page of the listing. -/
def OnSomePage (listing : Listing) (userId : Uuid) (limit : Nat) (message : Message)
    (rows : MessageTable) : Prop :=
  ∃ page, message ∈ listPage listing userId limit (page * limit) rows

/-- What `revoke_message_access` prepared from the rows it read takes effect. -/
def RevocationCommits (currentUser messageId : Uuid) (state state' : RelayState) : Prop :=
  ∃ index now rows write, revokeMessageAccess currentUser messageId now rows = .ok write ∧
    state.openWrites[index]? = some write ∧ relayStep state (.commit index) = some state'

/-! ## Pages and queries -/

/-- The pages of a listing show exactly its rows, whatever the page size. -/
theorem onSomePage_iff {listing : Listing} {userId : Uuid} {limit : Nat} (positive : 0 < limit)
    {message : Message} {rows : MessageTable} :
    OnSomePage listing userId limit message rows ↔ message ∈ listingRows listing userId rows := by
  constructor
  · rintro ⟨page, shown⟩
    exact List.mem_of_mem_drop (List.mem_of_mem_take shown)
  · intro member
    obtain ⟨index, inside, rfl⟩ := List.mem_iff_getElem.mp member
    refine ⟨index / limit, ?_⟩
    have within : index % limit < limit := Nat.mod_lt index positive
    have position : index / limit * limit + index % limit = index := Nat.div_add_mod' index limit
    apply List.mem_of_getElem? (i := index % limit)
    rw [listPage, List.getElem?_take_of_lt within, List.getElem?_drop, position,
      List.getElem?_eq_getElem inside]

theorem getAccessibleById_eq_some {messageId userId : Uuid} {rows : MessageTable} {message : Message}
    (unique : UniqueIds rows) :
    getAccessibleById messageId userId rows = some message ↔
      message ∈ rows ∧ message.id = messageId ∧
        (senderVisible userId message ∨ recipientVisible userId message) := by
  constructor
  · intro found
    have meets := List.find?_some found
    rw [decide_eq_true_eq] at meets
    exact ⟨List.mem_of_find?_eq_some found, meets⟩
  · rintro ⟨member, key, visible⟩
    cases found : getAccessibleById messageId userId rows with
    | none =>
      have refused := List.find?_eq_none.mp found message member
      exact absurd (decide_eq_true ⟨key, visible⟩) refused
    | some other =>
      have meets := List.find?_some found
      rw [decide_eq_true_eq] at meets
      have same : other = message :=
        unique.eq_of_id (List.mem_of_find?_eq_some found) member (meets.1.trans key.symm)
      rw [same]

theorem getAccessibleById_eq_none {messageId userId : Uuid} {rows : MessageTable} :
    getAccessibleById messageId userId rows = none ↔ ∀ message ∈ rows, message.id = messageId →
      ¬ senderVisible userId message ∧ ¬ recipientVisible userId message := by
  simp only [getAccessibleById, List.find?_eq_none, decide_eq_true_eq, not_and, not_or]

/-- Reading one message and listing all pages give the same messages. -/
theorem accessible_iff_listed {messageId userId : Uuid} {limit : Nat} (positive : 0 < limit)
    {rows : MessageTable} (unique : UniqueIds rows) (message : Message) :
    getAccessibleById messageId userId rows = some message ↔ message.id = messageId ∧
      (OnSomePage .sent userId limit message rows ∨ OnSomePage .received userId limit message rows) := by
  rw [getAccessibleById_eq_some unique, onSomePage_iff positive, onSomePage_iff positive,
    mem_listingRows, mem_listingRows, ← and_or_left]
  exact and_left_comm

/-! ## Markers are never cleared -/

/-- The later version of a row: same parties, and at least the markers it had. -/
structure MarkersGrow (first second : Message) : Prop where
  same : SameRow first second
  senderDeletedAt : second.senderDeletedAt = none → first.senderDeletedAt = none
  recipientDeletedAt : second.recipientDeletedAt = none → first.recipientDeletedAt = none
  accessRevokedAt : second.accessRevokedAt = none → first.accessRevokedAt = none
  deletedAt : second.deletedAt = none → first.deletedAt = none

theorem MarkersGrow.refl (message : Message) : MarkersGrow message message :=
  ⟨⟨rfl, rfl, rfl, rfl⟩, id, id, id, id⟩

theorem MarkersGrow.trans {first second third : Message} (grow : MarkersGrow first second)
    (grow' : MarkersGrow second third) : MarkersGrow first third := by
  constructor
  · exact grow.same.trans grow'.same
  · exact grow.senderDeletedAt ∘ grow'.senderDeletedAt
  · exact grow.recipientDeletedAt ∘ grow'.recipientDeletedAt
  · exact grow.accessRevokedAt ∘ grow'.accessRevokedAt
  · exact grow.deletedAt ∘ grow'.deletedAt

theorem MarkersGrow.senderVisible {first second : Message} {userId : Uuid}
    (grow : MarkersGrow first second) (visible : senderVisible userId second) :
    senderVisible userId first := by
  obtain ⟨party, kept, present⟩ := visible
  exact ⟨grow.same.senderUserId ▸ party, grow.senderDeletedAt kept, grow.deletedAt present⟩

theorem MarkersGrow.recipientVisible {first second : Message} {userId : Uuid}
    (grow : MarkersGrow first second) (visible : recipientVisible userId second) :
    recipientVisible userId first := by
  obtain ⟨party, kept, granted, present⟩ := visible
  exact ⟨grow.same.recipientUserId ▸ party, grow.recipientDeletedAt kept,
    grow.accessRevokedAt granted, grow.deletedAt present⟩

/-- Every row of the first table is in the second one with at least its markers. -/
def TableGrows (rows rows' : MessageTable) : Prop :=
  ∀ message ∈ rows, ∃ message' ∈ rows', MarkersGrow message message'

theorem TableGrows.refl (rows : MessageTable) : TableGrows rows rows :=
  fun message member => ⟨message, member, .refl message⟩

theorem TableGrows.trans {first second third : MessageTable} (grow : TableGrows first second)
    (grow' : TableGrows second third) : TableGrows first third := by
  intro message member
  obtain ⟨message', member', later⟩ := grow message member
  obtain ⟨message'', member'', latest⟩ := grow' message' member'
  exact ⟨message'', member'', later.trans latest⟩

theorem apply_grows {write : RowWrite} {rows rows' : MessageTable}
    (committed : write.apply rows = some rows') : TableGrows rows rows' := by
  cases write with
  | insert added =>
    simp only [RowWrite.apply] at committed
    split at committed
    · cases committed
    · cases committed
      exact fun message member => ⟨message, List.mem_append_left _ member, .refl message⟩
  | markSenderDeleted messageId now
  | markRecipientDeleted messageId now
  | revokeRecipientAccess messageId now =>
    cases committed
    apply updateRow_relates messageId _ MarkersGrow.refl
    intro message
    constructor <;> first | exact ⟨rfl, rfl, rfl, rfl⟩ | exact id | simp

theorem relayStep_grows {state state' : RelayState} {event : RelayEvent}
    (moved : relayStep state event = some state') : TableGrows state.rows state'.rows := by
  rcases relayStep_rows moved with same | ⟨write, -, applied⟩
  · rw [same]
    exact .refl _
  · exact apply_grows applied

theorem relayStep_unique {state state' : RelayState} {event : RelayEvent}
    (unique : UniqueIds state.rows) (moved : relayStep state event = some state') :
    UniqueIds state'.rows := by
  rcases relayStep_rows moved with same | ⟨write, -, applied⟩
  · rw [same]
    exact unique
  · exact RowWrite.apply_unique unique applied

theorem relay_unique {state : RelayState} (reached : Runs.Reachable relayStep RelayStarts state) :
    UniqueIds state.rows :=
  Runs.invariant_of_preserved (fun _ starts => starts.1)
    (fun _ _ _ unique _ moved => relayStep_unique unique moved) reached

/-- Over a whole run rows stay, unique, and only gain markers. -/
theorem run_grows {state later : RelayState} {events : List RelayEvent}
    (unique : UniqueIds state.rows) (ends : Runs.run relayStep state events = some later) :
    UniqueIds later.rows ∧ TableGrows state.rows later.rows := by
  induction events generalizing state with
  | nil =>
    cases ends
    exact ⟨unique, .refl _⟩
  | cons event rest ih =>
    cases moved : relayStep state event with
    | none => simp [Runs.run, moved] at ends
    | some middle =>
      rw [Runs.run_cons moved] at ends
      obtain ⟨unique', grown⟩ := ih (relayStep_unique unique moved) ends
      exact ⟨unique', (relayStep_grows moved).trans grown⟩

/-- A stored message that a user cannot read stays unreadable. -/
theorem inaccessible_stays {state later : RelayState} {events : List RelayEvent}
    {messageId userId : Uuid} (unique : UniqueIds state.rows)
    (ends : Runs.run relayStep state events = some later)
    (stored : ∃ message ∈ state.rows, message.id = messageId)
    (refused : getAccessibleById messageId userId state.rows = none) :
    getAccessibleById messageId userId later.rows = none := by
  obtain ⟨unique', grown⟩ := run_grows unique ends
  obtain ⟨message, member, key⟩ := stored
  obtain ⟨message', member', grow⟩ := grown message member
  rw [getAccessibleById_eq_none] at refused ⊢
  intro other member'' key'
  have same : other = message' :=
    unique'.eq_of_id member'' member' (key'.trans (key.symm.trans grow.same.id.symm))
  subst same
  obtain ⟨notSent, notReceived⟩ := refused message member key
  exact ⟨fun visible => notSent (grow.senderVisible visible),
    fun visible => notReceived (grow.recipientVisible visible)⟩

/-! ## Revocation -/

/-- The write of a successful revocation request. -/
theorem revokeMessageAccess_ok {currentUser messageId : Uuid} {now : UtcTimestamp}
    {rows : MessageTable} {write : RowWrite}
    (accepted : revokeMessageAccess currentUser messageId now rows = .ok write) :
    write = .revokeRecipientAccess messageId now := by
  simp only [revokeMessageAccess, bind, Except.bind] at accepted
  split at accepted
  · cases accepted
  · split at accepted
    · cases prepared : revokeRecipientAccess messageId currentUser now rows with
      | none =>
        rw [prepared] at accepted
        cases accepted
      | some write' =>
        rw [prepared] at accepted
        cases accepted
        obtain ⟨message, -, rfl⟩ := Option.map_eq_some_iff.mp prepared
        rfl
    · cases accepted

/-- After the commit the message is closed to everyone but its sender. -/
theorem revocation_refuses {state state' : RelayState} {currentUser messageId userId : Uuid}
    (revoked : RevocationCommits currentUser messageId state state')
    (notSender : ∀ message ∈ state'.rows, message.id = messageId → message.senderUserId ≠ userId) :
    getAccessibleById messageId userId state'.rows = none := by
  obtain ⟨index, now, rows, write, accepted, opened, moved⟩ := revoked
  rw [revokeMessageAccess_ok accepted] at opened
  simp only [relayStep, opened, Option.bind_eq_bind, Option.bind_some, RowWrite.apply,
    Option.pure_def, Option.some.injEq] at moved
  subst moved
  rw [getAccessibleById_eq_none]
  intro message member key
  refine ⟨fun visible => notSender message member key visible.1, fun visible => ?_⟩
  obtain ⟨original, -, rfl⟩ := List.mem_map.mp member
  have granted := visible.2.2.1
  split at granted
  · cases granted
  · next other =>
    rw [if_neg other] at key
    exact other key

/-- A user whom the row query refuses gets the message from no operation. -/
theorem refused_everywhere {messageId userId : Uuid} {rows : MessageTable} (unique : UniqueIds rows)
    (refused : getAccessibleById messageId userId rows = none) :
    (∀ listing limit offset, ∀ message ∈ listPage listing userId limit offset rows,
      message.id ≠ messageId) ∧
    (∀ directory request id createdAt,
      forwardMessage directory userId messageId request id createdAt rows =
        .error .messageNotFound) ∧
    (∀ keccak anchors id createdAt,
      createMessageAnchor keccak userId messageId rows anchors id createdAt =
        .error .anchorNotFound) := by
  refine ⟨?_, ?_, ?_⟩
  · intro listing limit offset message shown key
    have read := mem_listingRows.mp (List.mem_of_mem_drop (List.mem_of_mem_take shown))
    have visible : senderVisible userId message ∨ recipientVisible userId message := by
      cases listing with
      | received => exact Or.inr read.2
      | sent => exact Or.inl read.2
    have found := (getAccessibleById_eq_some unique).mpr ⟨read.1, key, visible⟩
    rw [refused] at found
    cases found
  · intro directory request id createdAt
    rw [forwardMessage, refused]
  · intro keccak anchors id createdAt
    rw [createMessageAnchor, requireMessageAccess, refused]
    rfl

/-- Access control over every history: reading and listing agree, refusals last, and a
revocation that took effect shuts out every user but the sender. -/
theorem access_control {state : RelayState}
    (reached : Runs.Reachable relayStep RelayStarts state) :
    (∀ messageId userId limit message, 0 < limit →
      (getAccessibleById messageId userId state.rows = some message ↔ message.id = messageId ∧
        (OnSomePage .sent userId limit message state.rows ∨
          OnSomePage .received userId limit message state.rows))) ∧
    (∀ messageId userId events later, Runs.run relayStep state events = some later →
      (∃ message ∈ state.rows, message.id = messageId) →
      getAccessibleById messageId userId state.rows = none →
        getAccessibleById messageId userId later.rows = none) ∧
    (∀ currentUser messageId userId revoked message events later,
      RevocationCommits currentUser messageId state revoked →
      message ∈ revoked.rows → message.id = messageId → userId ≠ message.senderUserId →
      Runs.run relayStep revoked events = some later →
        getAccessibleById messageId userId later.rows = none ∧
        (∀ listing limit offset, ∀ shown ∈ listPage listing userId limit offset later.rows,
          shown.id ≠ messageId) ∧
        (∀ directory request id createdAt,
          forwardMessage directory userId messageId request id createdAt later.rows =
            .error .messageNotFound) ∧
        (∀ keccak anchors id createdAt,
          createMessageAnchor keccak userId messageId later.rows anchors id createdAt =
            .error .anchorNotFound)) := by
  have unique := relay_unique reached
  refine ⟨?_, ?_, ?_⟩
  · intro messageId userId limit message positive
    exact accessible_iff_listed positive unique message
  · intro messageId userId events later ends stored refused
    exact inaccessible_stays unique ends stored refused
  · intro currentUser messageId userId revoked message events later commits member key other ends
    obtain ⟨index, now, rows, write, -, -, moved⟩ := id commits
    have unique' := relayStep_unique unique moved
    have onlyRow : ∀ row ∈ revoked.rows, row.id = messageId → row.senderUserId ≠ userId := by
      intro row member' key'
      rw [unique'.eq_of_id member' member (key'.trans key.symm)]
      exact other.symm
    have refused := inaccessible_stays unique' ends ⟨message, member, key⟩
      (revocation_refuses commits onlyRow)
    exact ⟨refused, refused_everywhere (run_grows unique' ends).1 refused⟩

/-- User 1 sends message 7 to user 2 and asks for a revocation. -/
def sendThenRevoke : List RelayEvent := [
  .prepare openDirectory (.send 1 (plainRequest 2) 7 .newYear2026),
  .commit 0,
  .prepare openDirectory (.revoke 1 7 .newYear2026)]

theorem access_control_revoked : ∃ state revoked,
    Runs.run relayStep ⟨[], []⟩ sendThenRevoke = some state ∧
    relayStep state (.commit 0) = some revoked ∧
    getAccessibleById 7 2 state.rows ≠ none ∧ getAccessibleById 7 2 revoked.rows = none := by
  let sent : Message := createMessage 1 (plainRequest 2) none 7 .newYear2026
  let state : RelayState := ⟨[sent], [.revokeRecipientAccess 7 .newYear2026]⟩
  let revoked : RelayState := ⟨[{ sent with accessRevokedAt := some .newYear2026 }], []⟩
  have ran : Runs.run relayStep ⟨[], []⟩ sendThenRevoke = some state := by rfl
  have commits : RevocationCommits 1 7 state revoked :=
    ⟨0, .newYear2026, [sent], _, by rfl, by rfl, by rfl⟩
  have starts : RelayStarts ⟨[], []⟩ := ⟨List.nodup_nil, rfl⟩
  have guarantee := access_control (Runs.reachable_of_run starts ran)
  have closed := guarantee.2.2 1 7 2 revoked { sent with accessRevokedAt := some .newYear2026 } []
    revoked commits (List.mem_singleton.mpr rfl) rfl (by decide) rfl
  exact ⟨state, revoked, ran, by rfl, by decide, closed.1⟩

end EpicKfc.Guarantees.AccessControl
