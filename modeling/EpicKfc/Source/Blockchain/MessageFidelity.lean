import EpicKfc.Source.Blockchain.Bytes32
import Mathlib.Logic.Function.Basic

/-!
# The contract

`blockchain/contracts/MessageFidelity.sol`. A mapping of Solidity has a value at
every key, the zero record where nothing was stored; a record counts as present
when its time is not zero. Blocks after the first have a positive timestamp. A
revert leaves the state alone.
-/

namespace EpicKfc.Source.Blockchain.MessageFidelity
open EpicKfc.Lib.Keccak (Byte)

abbrev Address := BitVec 160

abbrev Uint256 := BitVec 256

/-- `block.timestamp`. -/
abbrev BlockTime := {time : Uint256 // time ≠ 0}

structure FidelityRecord where
  contentHash : Bytes32
  anchoredAt : Uint256
deriving DecidableEq

structure HashAnchored where
  recordId : Bytes32
  contentHash : Bytes32
  anchoredAt : Uint256
deriving DecidableEq

inductive FidelityError where
  | recordNotFound (recordId : Bytes32)
  | unauthorizedWriter (caller : Address)
  | recordAlreadyAnchored (recordId : Bytes32)
deriving DecidableEq

structure Contract where
  owner : Address
  records : Bytes32 → FidelityRecord

/-- The constructor. -/
def deploy (sender : Address) : Contract where
  owner := sender
  records _ := ⟨0, 0⟩

def storeHash (sender : Address) (now : BlockTime) (recordId contentHash : Bytes32)
    (contract : Contract) : Except FidelityError (Contract × HashAnchored) :=
  if sender ≠ contract.owner then .error (.unauthorizedWriter sender)
  else if (contract.records recordId).anchoredAt ≠ 0 then .error (.recordAlreadyAnchored recordId)
  else .ok ({ contract with records := Function.update contract.records recordId ⟨contentHash, now⟩ },
    ⟨recordId, contentHash, now⟩)

def getHash (recordId : Bytes32) (contract : Contract) : Except FidelityError (Bytes32 × Uint256) :=
  let record := contract.records recordId
  if record.anchoredAt = 0 then .error (.recordNotFound recordId)
  else .ok (record.contentHash, record.anchoredAt)

def hasRecord (recordId : Bytes32) (contract : Contract) : Bool :=
  (contract.records recordId).anchoredAt ≠ 0

/-- The loop of `verifyMerkleProof`: each pair is hashed smaller word first. -/
def foldProof (keccak256 : List Byte → Bytes32) (leaf : Bytes32) (proof : List Bytes32) : Bytes32 :=
  proof.foldl (fun computed proofElement =>
    if computed ≤ proofElement then keccak256 (computed.toBytes ++ proofElement.toBytes)
    else keccak256 (proofElement.toBytes ++ computed.toBytes)) leaf

def verifyMerkleProof (keccak256 : List Byte → Bytes32) (leaf merkleRoot : Bytes32)
    (proof : List Bytes32) : Bool :=
  foldProof keccak256 leaf proof = merkleRoot

def verifyMessageInHistory (keccak256 : List Byte → Bytes32) (recordId leaf : Bytes32)
    (proof : List Bytes32) (contract : Contract) : Except FidelityError Bool := do
  let (merkleRoot, _) ← getHash recordId contract
  return verifyMerkleProof keccak256 leaf merkleRoot proof

/-! ## Write once -/

/-- The contract holds this hash for the record. -/
def Holds (contract : Contract) (recordId contentHash : Bytes32) : Prop :=
  hasRecord recordId contract = true ∧ (contract.records recordId).contentHash = contentHash

theorem getHash_of_holds {contract : Contract} {recordId contentHash : Bytes32}
    (holds : Holds contract recordId contentHash) :
    getHash recordId contract = .ok (contentHash, (contract.records recordId).anchoredAt) := by
  obtain ⟨present, rfl⟩ := holds
  have written : (contract.records recordId).anchoredAt ≠ 0 := of_decide_eq_true present
  rw [getHash, if_neg written]

theorem storeHash_ok {sender : Address} {now : BlockTime} {recordId contentHash : Bytes32}
    {contract contract' : Contract} {event : HashAnchored}
    (stored : storeHash sender now recordId contentHash contract = .ok (contract', event)) :
    sender = contract.owner ∧ hasRecord recordId contract = false ∧
      contract' = { contract with
        records := Function.update contract.records recordId ⟨contentHash, now⟩ } := by
  unfold storeHash at stored
  split at stored
  · cases stored
  · next authorized =>
    split at stored
    · cases stored
    · next free =>
      cases stored
      refine ⟨not_not.mp authorized, ?_, rfl⟩
      rw [hasRecord, decide_eq_false_iff_not]
      exact free

theorem holds_of_storeHash {sender : Address} {now : BlockTime} {recordId contentHash : Bytes32}
    {contract contract' : Contract} {event : HashAnchored}
    (stored : storeHash sender now recordId contentHash contract = .ok (contract', event)) :
    Holds contract' recordId contentHash := by
  obtain ⟨-, -, rfl⟩ := storeHash_ok stored
  rw [Holds, hasRecord]
  simp only [Function.update_self, decide_eq_true_eq, and_true]
  exact now.property

theorem hasRecord_of_storeHash {sender : Address} {now : BlockTime}
    {recordId contentHash : Bytes32} {contract contract' : Contract} {event : HashAnchored}
    (stored : storeHash sender now recordId contentHash contract = .ok (contract', event))
    (other : Bytes32) :
    hasRecord other contract' = true ↔ hasRecord other contract = true ∨ recordId = other := by
  have written := holds_of_storeHash stored
  obtain ⟨-, -, rfl⟩ := storeHash_ok stored
  by_cases same : recordId = other
  · subst same
    exact iff_of_true written.1 (Or.inr rfl)
  · simp only [hasRecord, Function.update_of_ne (Ne.symm same), same, or_false]

/-- What the contract holds it keeps. -/
theorem Holds.storeHash {sender : Address} {now : BlockTime}
    {recordId contentHash recordId' contentHash' : Bytes32} {contract contract' : Contract}
    {event : HashAnchored} (holds : Holds contract recordId contentHash)
    (stored : storeHash sender now recordId' contentHash' contract = .ok (contract', event)) :
    Holds contract' recordId contentHash := by
  obtain ⟨-, free, rfl⟩ := storeHash_ok stored
  have other : recordId ≠ recordId' := by
    intro same
    rw [← same, holds.1] at free
    cases free
  simp only [Holds, hasRecord, Function.update_of_ne other]
  exact holds

theorem storeHash_isOk_iff {sender : Address} {now : BlockTime} {recordId contentHash : Bytes32}
    {contract : Contract} :
    (∃ result, storeHash sender now recordId contentHash contract = .ok result) ↔
      sender = contract.owner ∧ hasRecord recordId contract = false := by
  constructor
  · rintro ⟨⟨contract', event⟩, stored⟩
    obtain ⟨authorized, free, -⟩ := storeHash_ok stored
    exact ⟨authorized, free⟩
  · rintro ⟨authorized, free⟩
    rw [hasRecord, decide_eq_false_iff_not] at free
    exact ⟨_, by rw [MessageFidelity.storeHash, if_neg (not_not.mpr authorized), if_neg free]⟩

theorem storeHash_of_hasRecord {sender : Address} {now : BlockTime} {recordId contentHash : Bytes32}
    {contract : Contract} (authorized : sender = contract.owner)
    (taken : hasRecord recordId contract = true) :
    storeHash sender now recordId contentHash contract = .error (.recordAlreadyAnchored recordId) := by
  rw [hasRecord, decide_eq_true_eq] at taken
  rw [storeHash, if_neg (not_not.mpr authorized), if_pos taken]

theorem hasRecord_of_alreadyAnchored {sender : Address} {now : BlockTime}
    {recordId contentHash recordId' : Bytes32} {contract : Contract}
    (refused : storeHash sender now recordId contentHash contract =
      .error (.recordAlreadyAnchored recordId')) : hasRecord recordId contract = true := by
  unfold storeHash at refused
  split at refused
  · cases refused
  · split at refused
    · next taken =>
      rw [hasRecord, decide_eq_true_eq]
      exact taken
    · cases refused

end EpicKfc.Source.Blockchain.MessageFidelity
