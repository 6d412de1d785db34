import EpicKfc.Source.Blockchain.Hex32
import EpicKfc.Source.Server.BlockchainAnchors

/-!
# Verifying anchor metadata

`verify_anchor_metadata` of `services/blockchain_anchor_service.py` with its
query, and the hashes `BlockchainVerifyRequest` accepts: texts of either case,
kept as they were given. The columns are compared as texts.
-/

namespace EpicKfc.Source.Server.BlockchainAnchors
open EpicKfc.Source.Blockchain

/-! ## Requests -/

def hashText (hash : Hex32) : String := String.ofList hash.chars

/-- `ETH_HASH_PATTERN` is the form of `Hex32`. -/
def validateEthHash (value : String) : Except String Hex32 :=
  match Hex32.parse value with
  | some hash => .ok hash
  | none => .error "Value must match 0x followed by 64 hex characters."

/-- What the field validators have accepted. -/
structure BlockchainVerifyRequest where
  digest : Hex32
  recordId : Option Hex32
  merkleRoot : Option Hex32
  transactionHash : Option Hex32
  chain : AnchorChain
deriving DecidableEq

structure BlockchainVerifyResponse where
  valid : Bool
  chain : AnchorChain
  status : Option AnchorStatus
  anchorId : Option Uuid
  messageId : Option Uuid
  batchId : Option Uuid
  recordId : Option String
  digest : String
  merkleRoot : Option String
  transactionHash : Option String
  contractAddress : Option String
  anchoredAt : Option UtcTimestamp
  verifiedAt : UtcTimestamp

/-! ## The query -/

/-- A filter is added for a value that is given; no column is equal to `NULL`. -/
def columnMatches (given stored : Option String) : Prop := given = none ∨ stored = given

instance (given stored : Option String) : Decidable (columnMatches given stored) :=
  inferInstanceAs (Decidable (given = none ∨ stored = given))

def matchesMetadata (digest : String) (chain : AnchorChain)
    (recordId merkleRoot transactionHash : Option String) (anchor : BlockchainAnchor) : Prop :=
  anchor.digest = digest ∧ anchor.chain = chain ∧ anchor.status = .confirmed ∧
    columnMatches recordId anchor.recordId ∧ columnMatches merkleRoot anchor.merkleRoot ∧
    columnMatches transactionHash anchor.transactionHash

instance (digest : String) (chain : AnchorChain) (recordId merkleRoot transactionHash : Option String) :
    DecidablePred (matchesMetadata digest chain recordId merkleRoot transactionHash) :=
  fun anchor => inferInstanceAs (Decidable (anchor.digest = digest ∧ _))

/-- `order_by(desc(anchored_at), desc(id))`; `NULL` comes first. -/
def lastAnchoredFirst (first second : BlockchainAnchor) : Bool :=
  match first.anchoredAt, second.anchoredAt with
  | none, none => second.id.toNat ≤ first.id.toNat
  | none, some _ => true
  | some _, none => false
  | some time, some time' => time' < time ∨ time = time' ∧ second.id.toNat ≤ first.id.toNat

def findMatchingAnchor (digest : String) (chain : AnchorChain)
    (recordId merkleRoot transactionHash : Option String) (rows : AnchorTable) :
    Option BlockchainAnchor :=
  ((rows.filter fun anchor => matchesMetadata digest chain recordId merkleRoot transactionHash
    anchor).insertionSort fun first second => lastAnchoredFirst first second).head?

/-- `verifiedAt` is the time of the answer. -/
def verifyAnchorMetadata (rows : AnchorTable) (request : BlockchainVerifyRequest)
    (verifiedAt : UtcTimestamp) : BlockchainVerifyResponse :=
  match findMatchingAnchor (hashText request.digest) request.chain (request.recordId.map hashText)
      (request.merkleRoot.map hashText) (request.transactionHash.map hashText) rows with
  | none =>
    { valid := false
      chain := request.chain
      status := none
      anchorId := none
      messageId := none
      batchId := none
      recordId := request.recordId.map hashText
      digest := hashText request.digest
      merkleRoot := request.merkleRoot.map hashText
      transactionHash := request.transactionHash.map hashText
      contractAddress := none
      anchoredAt := none
      verifiedAt := verifiedAt }
  | some anchor =>
    { valid := true
      chain := anchor.chain
      status := some anchor.status
      anchorId := some anchor.id
      messageId := anchor.messageId
      batchId := anchor.batchId
      recordId := anchor.recordId
      digest := anchor.digest
      merkleRoot := anchor.merkleRoot
      transactionHash := anchor.transactionHash
      contractAddress := anchor.contractAddress
      anchoredAt := anchor.anchoredAt
      verifiedAt := verifiedAt }

/-! ## Matches -/

/-- The row is a match for the texts of the request. -/
def Matches (request : BlockchainVerifyRequest) (anchor : BlockchainAnchor) : Prop :=
  matchesMetadata (hashText request.digest) request.chain (request.recordId.map hashText)
    (request.merkleRoot.map hashText) (request.transactionHash.map hashText) anchor

theorem findMatchingAnchor_isSome_iff {digest : String} {chain : AnchorChain}
    {recordId merkleRoot transactionHash : Option String} {rows : AnchorTable} :
    (findMatchingAnchor digest chain recordId merkleRoot transactionHash rows).isSome ↔
      ∃ anchor ∈ rows, matchesMetadata digest chain recordId merkleRoot transactionHash anchor := by
  rw [findMatchingAnchor, List.isSome_head?]
  constructor
  · intro found
    obtain ⟨anchor, member⟩ := List.exists_mem_of_ne_nil _ found
    rw [List.mem_insertionSort, List.mem_filter, decide_eq_true_eq] at member
    exact ⟨anchor, member⟩
  · rintro ⟨anchor, stored, meets⟩ empty
    have listed : anchor ∈ rows.filter fun anchor =>
        matchesMetadata digest chain recordId merkleRoot transactionHash anchor := by
      rw [List.mem_filter, decide_eq_true_eq]
      exact ⟨stored, meets⟩
    rw [← List.mem_insertionSort fun first second => lastAnchoredFirst first second, empty] at listed
    cases listed

theorem verifyAnchorMetadata_valid_iff {rows : AnchorTable} {request : BlockchainVerifyRequest}
    {verifiedAt : UtcTimestamp} : (verifyAnchorMetadata rows request verifiedAt).valid = true ↔
      ∃ anchor ∈ rows, Matches request anchor := by
  unfold Matches
  rw [← findMatchingAnchor_isSome_iff]
  unfold verifyAnchorMetadata
  split <;> simp_all

/-- A field keeps its text. -/
theorem hashText_of_validated {value : String} {hash : Hex32}
    (valid : validateEthHash value = .ok hash) : hashText hash = value := by
  unfold validateEthHash at valid
  split at valid
  · next parsed =>
    cases valid
    unfold Hex32.parse at parsed
    split at parsed
    · next digits shape =>
      split_ifs at parsed
      cases parsed
      rw [hashText, Hex32.chars, ← shape, String.ofList_toList]
    · cases parsed
  · cases valid

end EpicKfc.Source.Server.BlockchainAnchors
