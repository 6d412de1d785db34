import EpicKfc.Source.Server.BlockchainHashing

/-!
# Integrity evidence of the backend

Rows of `models/blockchain_anchor.py`, the queries of
`repositories/blockchain_anchor_repository.py` and what
`services/blockchain_anchor_service.py` derives from the rows it reads. The check
constraints on a row are fields or types of it.
-/

namespace EpicKfc.Source.Server.BlockchainAnchors
open EpicKfc.Lib.Keccak (Byte)
open EpicKfc.Source.Server.Messages
open EpicKfc.Source.Server.BlockchainHashing

/-- `status IN ('pending', 'confirmed', 'failed')`. -/
inductive AnchorStatus where
  | pending
  | confirmed
  | failed
deriving DecidableEq, Repr

/-- `chain = 'sepolia'`. -/
inductive AnchorChain where
  | sepolia
deriving DecidableEq, Repr

structure BlockchainAnchor where
  id : Uuid
  messageId : Option Uuid
  batchId : Option Uuid
  recordId : Option String
  digest : String
  merkleRoot : Option String
  transactionHash : Option String
  contractAddress : Option String
  chain : AnchorChain
  status : AnchorStatus
  createdAt : UtcTimestamp
  anchoredAt : Option UtcTimestamp
  linked : messageId ≠ none ∨ batchId ≠ none
deriving DecidableEq

/-- The `blockchain_anchors` table; `id` is its primary key. -/
abbrev AnchorTable := List BlockchainAnchor

/-- `status IN ('pending', 'confirmed')`. -/
def active (anchor : BlockchainAnchor) : Prop := anchor.status ≠ .failed

instance : DecidablePred active := fun anchor =>
  inferInstanceAs (Decidable (anchor.status ≠ .failed))

/-! ## Queries -/

/-- `order_by(created_at, id)`. -/
def oldestFirst (first second : BlockchainAnchor) : Prop :=
  first.createdAt < second.createdAt ∨
    first.createdAt = second.createdAt ∧ first.id.toNat ≤ second.id.toNat

instance : DecidableRel oldestFirst := fun first second =>
  inferInstanceAs (Decidable (first.createdAt < second.createdAt ∨ _))

/-- `order_by(desc(created_at), desc(id)).limit(1)`. -/
def latest (rows : AnchorTable) : Option BlockchainAnchor :=
  (rows.insertionSort fun first second => oldestFirst second first).head?

def getLatestForMessage (messageId : Uuid) (rows : AnchorTable) : Option BlockchainAnchor :=
  latest (rows.filter fun anchor => anchor.messageId = some messageId)

def getLatestActiveForMessage (messageId : Uuid) (rows : AnchorTable) : Option BlockchainAnchor :=
  latest (rows.filter fun anchor => anchor.messageId = some messageId ∧ active anchor)

/-- Pending anchors in the order of `get_next_pending_for_update`. -/
def pendingAnchors (rows : AnchorTable) : List BlockchainAnchor :=
  (rows.filter fun anchor => anchor.status = .pending).insertionSort oldestFirst

theorem latest_eq_none {rows : AnchorTable} : latest rows = none ↔ rows = [] := by
  rw [latest, List.head?_eq_none_iff]
  constructor
  · intro sorted
    have lengths := List.length_insertionSort (fun first second => oldestFirst second first) rows
    rw [sorted] at lengths
    exact List.length_eq_zero_iff.mp lengths.symm
  · intro empty
    rw [empty]
    rfl

theorem latest_mem {rows : AnchorTable} {anchor : BlockchainAnchor}
    (found : latest rows = some anchor) : anchor ∈ rows := by
  have member := List.mem_of_mem_head? found
  rwa [List.mem_insertionSort] at member

theorem getLatestActiveForMessage_eq_none {messageId : Uuid} {rows : AnchorTable} :
    getLatestActiveForMessage messageId rows = none ↔
      ∀ anchor ∈ rows, anchor.messageId = some messageId → ¬ active anchor := by
  rw [getLatestActiveForMessage, latest_eq_none, List.filter_eq_nil_iff]
  simp only [decide_eq_true_eq, not_and]

theorem mem_pendingAnchors {rows : AnchorTable} {anchor : BlockchainAnchor} :
    anchor ∈ pendingAnchors rows ↔ anchor ∈ rows ∧ anchor.status = .pending := by
  rw [pendingAnchors, List.mem_insertionSort, List.mem_filter, decide_eq_true_eq]

/-! ## Creation -/

/-- The row `create_anchor` adds for a message; `id` and `created_at` are column defaults. -/
def createAnchor (keccak : List Byte → List Byte) (message : Message) (id : Uuid)
    (createdAt : UtcTimestamp) : BlockchainAnchor where
  id := id
  messageId := some message.id
  batchId := none
  recordId := some (deriveMessageRecordId keccak message.id)
  digest := deriveMessageDigest keccak message
  merkleRoot := none
  transactionHash := none
  contractAddress := none
  chain := .sepolia
  status := .pending
  createdAt := createdAt
  anchoredAt := none
  linked := Or.inl (Option.some_ne_none _)

inductive BlockchainAnchorError where
  | anchorNotFound
deriving DecidableEq, Repr

def BlockchainAnchorError.text : BlockchainAnchorError → String
  | .anchorNotFound => "Anchor not found."

structure MessageAnchorResult where
  anchor : BlockchainAnchor
  created : Bool

/-- `_require_message_access`. -/
def requireMessageAccess (currentUser messageId : Uuid) (messages : MessageTable) :
    Except BlockchainAnchorError Message :=
  match getAccessibleById messageId currentUser messages with
  | none => .error .anchorNotFound
  | some message => .ok message

def createPendingAnchorForMessage (keccak : List Byte → List Byte) (message : Message)
    (anchors : AnchorTable) (id : Uuid) (createdAt : UtcTimestamp) : MessageAnchorResult :=
  match getLatestActiveForMessage message.id anchors with
  | some existing => ⟨existing, false⟩
  | none => ⟨createAnchor keccak message id createdAt, true⟩

/-- `create_message_anchor`, with the row it adds on success. -/
def createMessageAnchor (keccak : List Byte → List Byte) (currentUser messageId : Uuid)
    (messages : MessageTable) (anchors : AnchorTable) (id : Uuid) (createdAt : UtcTimestamp) :
    Except BlockchainAnchorError MessageAnchorResult := do
  let message ← requireMessageAccess currentUser messageId messages
  return createPendingAnchorForMessage keccak message anchors id createdAt

theorem requireMessageAccess_ok {currentUser messageId : Uuid} {messages : MessageTable}
    {message : Message} (granted : requireMessageAccess currentUser messageId messages = .ok message) :
    message ∈ messages ∧ message.id = messageId := by
  unfold requireMessageAccess at granted
  split at granted
  · cases granted
  · next found =>
    cases granted
    have meets := List.find?_some found
    rw [decide_eq_true_eq] at meets
    exact ⟨List.mem_of_find?_eq_some found, meets.1⟩

/-! ## Worker updates -/

/-- `update_anchor_status`: absent values leave their columns alone. -/
def updateAnchorStatus (status : AnchorStatus) (transactionHash contractAddress merkleRoot :
    Option String) (anchoredAt : Option UtcTimestamp) (anchor : BlockchainAnchor) :
    BlockchainAnchor :=
  { anchor with
    status := status
    transactionHash := transactionHash.or anchor.transactionHash
    contractAddress := contractAddress.or anchor.contractAddress
    merkleRoot := merkleRoot.or anchor.merkleRoot
    anchoredAt := anchoredAt.or anchor.anchoredAt }

/-- Python's `first or second` on an optional text, `None` and `""` being false. -/
def orText (first : Option String) (second : String) : String :=
  if first.getD "" = "" then second else first.getD ""

inductive SubmissionValueError where
  | recordIdMissing
  | hashMissing
deriving DecidableEq, Repr

def SubmissionValueError.text : SubmissionValueError → String
  | .recordIdMissing => "record_id is missing."
  | .hashMissing => "digest/merkle_root is missing."

/-- `_submission_values`. -/
def submissionValues (anchor : BlockchainAnchor) : Except SubmissionValueError (String × String) :=
  let recordId := anchor.recordId.getD ""
  let contentHash := orText anchor.merkleRoot anchor.digest
  if recordId = "" then .error .recordIdMissing
  else if contentHash = "" then .error .hashMissing
  else .ok (recordId, contentHash)

theorem submissionValues_ok {anchor : BlockchainAnchor} {recordId contentHash : String}
    (submits : submissionValues anchor = .ok (recordId, contentHash)) :
    anchor.recordId = some recordId ∧ recordId ≠ "" ∧
      contentHash = orText anchor.merkleRoot anchor.digest ∧ contentHash ≠ "" := by
  simp only [submissionValues] at submits
  split at submits
  · cases submits
  · next present =>
    split at submits
    · cases submits
    · next nonempty =>
      cases submits
      refine ⟨?_, present, rfl, nonempty⟩
      cases stored : anchor.recordId with
      | none => simp [stored] at present
      | some text => rfl

/-- The anchor of a message is never malformed. -/
theorem submissionValues_createAnchor (keccak : List Byte → List Byte) (message : Message) (id : Uuid)
    (createdAt : UtcTimestamp) : submissionValues (createAnchor keccak message id createdAt) =
      .ok (deriveMessageRecordId keccak message.id, deriveMessageDigest keccak message) := by
  have recordId : deriveMessageRecordId keccak message.id ≠ "" := keccakHex_ne_empty keccak _
  have digest : deriveMessageDigest keccak message ≠ "" := keccakHex_ne_empty keccak _
  simp [submissionValues, createAnchor, orText, recordId, digest]

end EpicKfc.Source.Server.BlockchainAnchors
