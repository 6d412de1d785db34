import EpicKfc.Lib.RowTable
import EpicKfc.Source.Blockchain.Transactions
import EpicKfc.Source.Server.BlockchainAnchors

/-!
# Messages, their evidence and the anchor workers

The statements of `services/message_service.py`,
`services/blockchain_anchor_service.py` and `workers/blockchain_worker.py`, each
request and each turn of a worker being one transaction at READ COMMITTED: a
statement reads what is committed when it begins, and a write waits for the
transaction that holds its row. Ids, timestamps, the other tables a request reads
and everything the chain answers come from outside. What was broadcast for an
anchor is kept for the statements.
-/

namespace EpicKfc.Source.Server.AnchorRelay
open EpicKfc.Lib
open EpicKfc.Lib.Keccak (Byte)
open EpicKfc.Lib.RowTable (Table row)
open EpicKfc.Source.Blockchain
open EpicKfc.Source.Blockchain.MessageFidelity (Address BlockTime)
open EpicKfc.Source.Blockchain.Transactions (Chain)
open EpicKfc.Source.Server.Messages
open EpicKfc.Source.Server.BlockchainAnchors

/-- A request, or one turn of a worker. -/
abbrev SessionId := Nat

/-- The marker a request sets on a message. -/
inductive Marker where
  | senderDeleted
  | recipientDeleted
  | accessRevoked
deriving DecidableEq, Repr

/-- The guarded select of `mark_sender_deleted` and its two siblings. -/
def Marker.select (marker : Marker) (messageId currentUser : Uuid) (now : UtcTimestamp)
    (rows : MessageTable) : Option RowWrite :=
  match marker with
  | .senderDeleted => markSenderDeleted messageId currentUser now rows
  | .recipientDeleted => markRecipientDeleted messageId currentUser now rows
  | .accessRevoked => revokeRecipientAccess messageId currentUser now rows

/-- The column that the flush of the marked row writes. -/
def Marker.set (marker : Marker) (now : UtcTimestamp) (message : Message) : Message :=
  match marker with
  | .senderDeleted => { message with senderDeletedAt := some now }
  | .recipientDeleted => { message with recipientDeletedAt := some now }
  | .accessRevoked => { message with accessRevokedAt := some now }

/-- `delete_message_for_user` up to its repository call. -/
def deleteMarker (currentUser messageId : Uuid) (rows : MessageTable) :
    Except MessageServiceError Marker := do
  let message ← presentMessage messageId rows
  if message.senderUserId = currentUser then return .senderDeleted
  else if message.recipientUserId = currentUser then return .recipientDeleted
  else .error .messageAccessDenied

/-- `revoke_message_access` up to its repository call. -/
def revokeMarker (currentUser messageId : Uuid) (rows : MessageTable) :
    Except MessageServiceError Marker := do
  let message ← presentMessage messageId rows
  if message.senderUserId = currentUser then return .accessRevoked
  else .error .messageAccessDenied

/-- What a worker is about to write to the anchor it holds. -/
structure AnchorChange where
  status : AnchorStatus
  transactionHash : Option String
  contractAddress : Option String
  merkleRoot : Option String
  anchoredAt : Option UtcTimestamp
deriving DecidableEq

def AnchorChange.apply (change : AnchorChange) : BlockchainAnchor → BlockchainAnchor :=
  updateAnchorStatus change.status change.transactionHash change.contractAddress change.merkleRoot
    change.anchoredAt

/-- `update_anchor_status(db, anchor.id, status="failed")`. -/
def failedChange : AnchorChange := ⟨.failed, none, none, none, none⟩

def confirmedChange (transactionHash contractAddress contentHash : String)
    (anchoredAt : UtcTimestamp) : AnchorChange :=
  ⟨.confirmed, some transactionHash, some contractAddress, some contentHash, some anchoredAt⟩

inductive SessionError where
  | message (error : MessageServiceError)
  | anchor (error : BlockchainAnchorError)
  | integrity
deriving DecidableEq, Repr

/-- How far the transaction of a session has come. -/
inductive SessionState where
  | idle
  | validated (message : Message)
  | anchoring (message : Message) (isNew : Bool)
  | creating (message : Message)
  | created (message : Message)
  | loaded (marker : Marker) (currentUser messageId : Uuid)
  | marking (marker : Marker) (messageId : Uuid) (now : UtcTimestamp)
  | selecting (candidates : List Uuid)
  | locked (anchorId : Uuid) (anchor : BlockchainAnchor)
  | submitting (anchorId : Uuid) (anchor : BlockchainAnchor) (recordId contentHash : String)
  | awaiting (anchorId : Uuid) (anchor : BlockchainAnchor)
      (recordId contentHash transactionHash : String)
  | updating (anchorId : Uuid) (anchor : BlockchainAnchor) (change : AnchorChange)
  | flushed
  | committed
  | returned
  | rejected (error : SessionError)
  | aborted

/-- A call broadcast for an anchor. -/
structure Submission where
  anchorId : Uuid
  recordId : String
  contentHash : String
  transactionHash : String
deriving DecidableEq

structure Backend where
  messages : Table Uuid SessionId Message
  anchors : Table Uuid SessionId BlockchainAnchor
  sessions : SessionId → SessionState
  chain : Chain
  submissions : List Submission

def Backend.goes (backend : Backend) (session : SessionId) (state : SessionState) : Backend :=
  { backend with sessions := Function.update backend.sessions session state }

@[simp] theorem Backend.goes_self (backend : Backend) (session : SessionId) (state : SessionState) :
    (backend.goes session state).sessions session = state := Function.update_self ..

theorem Backend.goes_of_ne {session other : SessionId} (different : other ≠ session)
    (backend : Backend) (state : SessionState) :
    (backend.goes session state).sessions other = backend.sessions other :=
  Function.update_of_ne different ..

/-- `db.commit()`. -/
def Backend.commits (backend : Backend) (session : SessionId) : Backend :=
  { backend with
    messages := RowTable.commit session backend.messages
    anchors := RowTable.commit session backend.anchors }.goes session .committed

/-- `db.rollback()`, or the end of a session that did not commit. -/
def Backend.rollsBack (backend : Backend) (session : SessionId) (state : SessionState) : Backend :=
  { backend with
    messages := RowTable.rollback session backend.messages
    anchors := RowTable.rollback session backend.anchors }.goes session state

def Backend.rejects (backend : Backend) (session : SessionId) (error : SessionError) : Backend :=
  backend.rollsBack session (.rejected error)

/-- What a select by primary key finds. -/
def Backend.messageRows (backend : Backend) (messageId : Uuid) : MessageTable :=
  (row messageId backend.messages).committed.toList

def Backend.anchorRows (backend : Backend) : AnchorTable :=
  RowTable.committedRows backend.anchors

/-! ## Requests -/

/-- The checks of `send_message` and `forward_message`. -/
def prepareMessage (backend : Backend) (session : SessionId)
    (checked : Except MessageServiceError RowWrite) : Option Backend :=
  match checked with
  | .ok (.insert message) => some (backend.goes session (.validated message))
  | .ok _ => none
  | .error problem => some (backend.rejects session (.message problem))

def insertMessage (backend : Backend) (session : SessionId) (message : Message) : Option Backend :=
  match RowTable.insert session message.id message backend.messages with
  | .done table => some ({ backend with messages := table }.goes session (.anchoring message true))
  | .conflict => some (backend.rejects session .integrity)
  | .waits => none

/-- `create_message_anchor` up to `create_pending_anchor_for_message`. -/
def startAnchor (backend : Backend) (session : SessionId) (currentUser messageId : Uuid) :
    Backend :=
  match requireMessageAccess currentUser messageId (backend.messageRows messageId) with
  | .error problem => backend.rejects session (.anchor problem)
  | .ok message => backend.goes session (.anchoring message false)

/-- An existing anchor ends the creation: a new message is committed all the same, a
request for an anchor returns without a commit. -/
def selectActive (backend : Backend) (session : SessionId) (message : Message) (isNew : Bool) :
    Backend :=
  match getLatestActiveForMessage message.id backend.anchorRows with
  | none => backend.goes session (.creating message)
  | some _ => if isNew then backend.goes session .flushed else backend.rollsBack session .returned

def insertAnchor (keccak : List Byte → List Byte) (backend : Backend) (session : SessionId)
    (message : Message) (id : Uuid) (createdAt : UtcTimestamp) : Option Backend :=
  match RowTable.insert session id (createAnchor keccak message id createdAt) backend.anchors with
  | .done table => some ({ backend with anchors := table }.goes session (.created message))
  | .conflict => some (backend.rejects session .integrity)
  | .waits => none

def loadMessage (backend : Backend) (session : SessionId) (currentUser messageId : Uuid)
    (checked : Except MessageServiceError Marker) : Backend :=
  match checked with
  | .ok marker => backend.goes session (.loaded marker currentUser messageId)
  | .error problem => backend.rejects session (.message problem)

def selectMarked (backend : Backend) (session : SessionId) (marker : Marker)
    (currentUser messageId : Uuid) (now : UtcTimestamp) : Backend :=
  match marker.select messageId currentUser now (backend.messageRows messageId) with
  | none => backend.rejects session (.message .messageAccessDenied)
  | some _ => backend.goes session (.marking marker messageId now)

def flushMarker (backend : Backend) (session : SessionId) (marker : Marker) (messageId : Uuid)
    (now : UtcTimestamp) : Option Backend :=
  (RowTable.update session messageId (marker.set now) backend.messages).map fun table =>
    { backend with messages := table }.goes session .flushed

/-! ## Worker turns -/

/-- The snapshot of `get_next_pending_for_update`. -/
def startWorker (backend : Backend) (session : SessionId) : Backend :=
  backend.goes session (.selecting ((pendingAnchors backend.anchorRows).map BlockchainAnchor.id))

/-- One row of the ordered `FOR UPDATE SKIP LOCKED` scan; its newest version is checked again. -/
def visitAnchor (backend : Backend) (session : SessionId) : List Uuid → Backend
  | [] => backend.rollsBack session .returned
  | anchorId :: candidates =>
    match RowTable.lockFree session anchorId backend.anchors with
    | some (anchor, table) =>
      if anchor.status = .pending then
        { backend with anchors := table }.goes session (.locked anchorId anchor)
      else backend.goes session (.selecting candidates)
    | none => backend.goes session (.selecting candidates)

def readValues (backend : Backend) (session : SessionId) (anchorId : Uuid)
    (anchor : BlockchainAnchor) : Backend :=
  match submissionValues anchor with
  | .error _ => backend.goes session (.updating anchorId anchor failedChange)
  | .ok (recordId, contentHash) =>
    backend.goes session (.submitting anchorId anchor recordId contentHash)

/-- `submit_hash` up to the broadcast; `encodeBytes32` is the ABI encoder of a `bytes32`. -/
def broadcastCall (encodeBytes32 : String → Option Bytes32) (backend : Backend)
    (session : SessionId) (anchorId : Uuid) (anchor : BlockchainAnchor)
    (recordId contentHash : String) (sender : Address) (transactionHash : String) :
    Option Backend := do
  let recordWord ← encodeBytes32 recordId
  let contentWord ← encodeBytes32 contentHash
  let chain ← Transactions.broadcast transactionHash sender recordWord contentWord backend.chain
  let submission := ⟨anchorId, recordId, contentHash, transactionHash⟩
  return { backend with
    chain := chain
    submissions := submission :: backend.submissions }.goes session
      (.awaiting anchorId anchor recordId contentHash transactionHash)

/-- A receipt of success arrives, then the block of its time stamp. -/
def receiveReceipt (backend : Backend) (session : SessionId) (anchorId : Uuid)
    (anchor : BlockchainAnchor) (contentHash transactionHash contractAddress : String)
    (anchoredAt : UtcTimestamp) : Option Backend :=
  if Transactions.receiptOf transactionHash backend.chain = some .success then
    some (backend.goes session (.updating anchorId anchor
      (confirmedChange transactionHash contractAddress contentHash anchoredAt)))
  else none

def flushUpdate (backend : Backend) (session : SessionId) (anchorId : Uuid)
    (change : AnchorChange) : Option Backend :=
  (RowTable.update session anchorId change.apply backend.anchors).map fun table =>
    { backend with anchors := table }.goes session .flushed

/-! ## Interleaving -/

/-- One statement of a session, with what it takes from outside. -/
inductive Statement where
  | send (directory : RelayDirectory) (currentUser : Uuid) (request : MessageCreateRequest)
      (id : Uuid) (createdAt : UtcTimestamp)
  | forward (directory : RelayDirectory) (currentUser messageId : Uuid)
      (request : MessageCreateRequest) (id : Uuid) (createdAt : UtcTimestamp)
  | insertMessage
  | createMessageAnchor (currentUser messageId : Uuid)
  | selectActive
  | insertAnchor (id : Uuid) (createdAt : UtcTimestamp)
  | delete (currentUser messageId : Uuid)
  | revoke (currentUser messageId : Uuid)
  | selectMarked (now : UtcTimestamp)
  | flushMarker
  | startWorker
  | visitAnchor
  | readValues
  | broadcastCall (sender : Address) (transactionHash : String)
  | receiveReceipt (contractAddress : String) (anchoredAt : UtcTimestamp)
  | submitFails
  | flushUpdate
  | commit
  | fail

/-- The session is closed. -/
def SessionState.ended : SessionState → Bool
  | .committed | .returned | .rejected _ | .aborted => true
  | _ => false

/-- A session takes its next statement; `submitFails` is an exception of `submit_hash` with
`mark_failed_on_error`, and `fail` ends a session without a commit at any point. -/
def sessionStep (keccak : List Byte → List Byte) (encodeBytes32 : String → Option Bytes32)
    (backend : Backend) (session : SessionId) (statement : Statement) : Option Backend :=
  match statement, backend.sessions session with
  | .send directory currentUser request id createdAt, .idle =>
    prepareMessage backend session (sendMessage directory currentUser request id createdAt)
  | .forward directory currentUser messageId request id createdAt, .idle =>
    prepareMessage backend session (forwardMessage directory currentUser messageId request id
      createdAt (backend.messageRows messageId))
  | .insertMessage, .validated message => insertMessage backend session message
  | .createMessageAnchor currentUser messageId, .idle =>
    some (startAnchor backend session currentUser messageId)
  | .selectActive, .anchoring message isNew => some (selectActive backend session message isNew)
  | .insertAnchor id createdAt, .creating message =>
    insertAnchor keccak backend session message id createdAt
  | .delete currentUser messageId, .idle =>
    some (loadMessage backend session currentUser messageId
      (deleteMarker currentUser messageId (backend.messageRows messageId)))
  | .revoke currentUser messageId, .idle =>
    some (loadMessage backend session currentUser messageId
      (revokeMarker currentUser messageId (backend.messageRows messageId)))
  | .selectMarked now, .loaded marker currentUser messageId =>
    some (selectMarked backend session marker currentUser messageId now)
  | .flushMarker, .marking marker messageId now => flushMarker backend session marker messageId now
  | .startWorker, .idle => some (startWorker backend session)
  | .visitAnchor, .selecting candidates => some (visitAnchor backend session candidates)
  | .readValues, .locked anchorId anchor => some (readValues backend session anchorId anchor)
  | .broadcastCall sender transactionHash, .submitting anchorId anchor recordId contentHash =>
    broadcastCall encodeBytes32 backend session anchorId anchor recordId contentHash sender
      transactionHash
  | .receiveReceipt contractAddress anchoredAt,
      .awaiting anchorId anchor _ contentHash transactionHash =>
    receiveReceipt backend session anchorId anchor contentHash transactionHash contractAddress
      anchoredAt
  | .submitFails, .submitting anchorId anchor _ _ =>
    some (backend.goes session (.updating anchorId anchor failedChange))
  | .submitFails, .awaiting anchorId anchor _ _ _ =>
    some (backend.goes session (.updating anchorId anchor failedChange))
  | .flushUpdate, .updating anchorId _ change => flushUpdate backend session anchorId change
  | .commit, .created _ => some (backend.commits session)
  | .commit, .flushed => some (backend.commits session)
  | .fail, state => if state.ended then none else some (backend.rollsBack session .aborted)
  | _, _ => none

/-- Statements of sessions, calls of the contract by others, and blocks. -/
inductive Event where
  | session (session : SessionId) (statement : Statement)
  | broadcast (transactionHash : String) (sender : Address) (recordId contentHash : Bytes32)
  | mine (transactionHash : String) (now : BlockTime) (gasSuffices : Bool)

def anchorStep (keccak : List Byte → List Byte) (encodeBytes32 : String → Option Bytes32)
    (backend : Backend) : Event → Option Backend
  | .session session statement => sessionStep keccak encodeBytes32 backend session statement
  | .broadcast transactionHash sender recordId contentHash =>
    (Transactions.broadcast transactionHash sender recordId contentHash backend.chain).map
      fun chain => { backend with chain := chain }
  | .mine transactionHash now gasSuffices =>
    (Transactions.mine transactionHash now gasSuffices backend.chain).map
      fun chain => { backend with chain := chain }

/-- No session has begun, so no row is held. -/
structure Backend.Quiet (backend : Backend) : Prop where
  idle : ∀ session, backend.sessions session = .idle
  messages : ∀ id, (row id backend.messages).held = none
  anchors : ∀ id, (row id backend.anchors).held = none
  submissions : backend.submissions = []

/-- The tables as the migrations create them, and a new contract of account 1. -/
def emptyBackend : Backend where
  messages := []
  anchors := []
  sessions _ := .idle
  chain := Transactions.deployed 1
  submissions := []

theorem quiet_empty : emptyBackend.Quiet := ⟨fun _ => rfl, fun _ => rfl, fun _ => rfl, rfl⟩

end EpicKfc.Source.Server.AnchorRelay
