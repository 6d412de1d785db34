import EpicKfc.Source.Blockchain.MessageFidelity

/-!
# Write once

Every sequence of calls to the contract, by any callers. A record that can be read
keeps its root and its time; it was stored by a call of the owner with exactly these
arguments, whatever the root or the record id are.
-/

namespace EpicKfc.Guarantees.WriteOnce
open EpicKfc.Lib.Keccak (Byte)
open EpicKfc.Source.Blockchain
open EpicKfc.Source.Blockchain.MessageFidelity

/-- The external functions with the caller and the block's time where they are read. -/
inductive Call where
  | storeHash (sender : Address) (now : BlockTime) (recordId contentHash : Bytes32)
  | getHash (recordId : Bytes32)
  | hasRecord (recordId : Bytes32)
  | verifyMerkleProof (leaf merkleRoot : Bytes32) (proof : List Bytes32)
  | verifyMessageInHistory (recordId leaf : Bytes32) (proof : List Bytes32)

inductive Returned where
  | anchored (event : HashAnchored)
  | record (contentHash : Bytes32) (anchoredAt : Uint256)
  | answer (answer : Bool)

/-- A call that reverts leaves the state alone, and so does every view. -/
def perform (keccak256 : List Byte → Bytes32) (call : Call) (contract : Contract) :
    Except FidelityError Returned × Contract :=
  match call with
  | .storeHash sender now recordId contentHash =>
    match storeHash sender now recordId contentHash contract with
    | .ok (contract', event) => (.ok (.anchored event), contract')
    | .error error => (.error error, contract)
  | .getHash recordId =>
    ((getHash recordId contract).map fun (contentHash, anchoredAt) => .record contentHash anchoredAt,
      contract)
  | .hasRecord recordId => (.ok (.answer (hasRecord recordId contract)), contract)
  | .verifyMerkleProof leaf merkleRoot proof =>
    (.ok (.answer (verifyMerkleProof keccak256 leaf merkleRoot proof)), contract)
  | .verifyMessageInHistory recordId leaf proof =>
    ((verifyMessageInHistory keccak256 recordId leaf proof contract).map .answer, contract)

def performAll (keccak256 : List Byte → Bytes32) (calls : List Call) (contract : Contract) : Contract :=
  calls.foldl (fun contract call => (perform keccak256 call contract).2) contract

/-- One of the calls stored this root for the record at this time. -/
def StoredBy (keccak256 : List Byte → Bytes32) (owner sender : Address) (calls : List Call)
    (recordId contentHash : Bytes32) (anchoredAt : Uint256) : Prop :=
  ∃ before now after, calls = before ++ .storeHash sender now recordId contentHash :: after ∧
    now.val = anchoredAt ∧ ∃ event contract', storeHash sender now recordId contentHash
      (performAll keccak256 before (deploy owner)) = .ok (contract', event)

variable {keccak256 : List Byte → Bytes32}

/-! ## One call -/

theorem perform_cases (call : Call) (contract : Contract) :
    (∃ sender now recordId contentHash event contract',
      call = .storeHash sender now recordId contentHash ∧
      storeHash sender now recordId contentHash contract = .ok (contract', event) ∧
      perform keccak256 call contract = (.ok (.anchored event), contract')) ∨
    (∀ sender now recordId contentHash, call = .storeHash sender now recordId contentHash →
      ∀ result, storeHash sender now recordId contentHash contract ≠ .ok result) ∧
      (perform keccak256 call contract).2 = contract := by
  cases call with
  | storeHash sender now recordId contentHash =>
    rw [perform]
    split
    · next contract' event stored =>
      exact Or.inl ⟨sender, now, recordId, contentHash, event, contract', rfl, stored, rfl⟩
    · next error refused =>
      refine Or.inr ⟨?_, rfl⟩
      rintro _ _ _ _ ⟨rfl, rfl, rfl, rfl⟩ result stored
      rw [refused] at stored
      cases stored
  | getHash recordId => exact Or.inr ⟨nofun, rfl⟩
  | hasRecord recordId => exact Or.inr ⟨nofun, rfl⟩
  | verifyMerkleProof leaf merkleRoot proof => exact Or.inr ⟨nofun, rfl⟩
  | verifyMessageInHistory recordId leaf proof => exact Or.inr ⟨nofun, rfl⟩

theorem unchanged_of_revert {call : Call} {contract : Contract} {error : FidelityError}
    (reverted : (perform keccak256 call contract).1 = .error error) :
    (perform keccak256 call contract).2 = contract := by
  obtain ⟨sender, now, recordId, contentHash, event, contract', -, -, performed⟩ | ⟨-, same⟩ :=
    @perform_cases keccak256 call contract
  · rw [performed] at reverted
    cases reverted
  · exact same

theorem owner_perform (call : Call) (contract : Contract) :
    (perform keccak256 call contract).2.owner = contract.owner := by
  obtain ⟨sender, now, recordId, contentHash, event, contract', -, stored, performed⟩ | ⟨-, same⟩ :=
    @perform_cases keccak256 call contract
  · rw [performed]
    obtain ⟨-, -, rfl⟩ := storeHash_ok stored
    rfl
  · rw [same]

theorem getHash_ok_iff {recordId : Bytes32} {record : Bytes32 × Uint256} {contract : Contract} :
    getHash recordId contract = .ok record ↔
      hasRecord recordId contract = true ∧ contract.records recordId = ⟨record.1, record.2⟩ := by
  rw [getHash, hasRecord, decide_eq_true_eq]
  cases held : contract.records recordId with
  | mk contentHash anchoredAt =>
    dsimp only
    split
    · next absent =>
      exact iff_of_false (fun read => by cases read) fun present => present.1 absent
    · next present =>
      rw [Except.ok.injEq, Prod.ext_iff, FidelityRecord.mk.injEq, and_iff_right present]

/-- What a record says after a call: what it said, or what the call stored. -/
theorem getHash_perform {call : Call} {contract : Contract} {recordId contentHash : Bytes32}
    {anchoredAt : Uint256} :
    getHash recordId (perform keccak256 call contract).2 = .ok (contentHash, anchoredAt) ↔
      getHash recordId contract = .ok (contentHash, anchoredAt) ∨
      ∃ now, call = .storeHash contract.owner now recordId contentHash ∧ now.val = anchoredAt ∧
        ∃ result, storeHash contract.owner now recordId contentHash contract = .ok result := by
  obtain ⟨sender, now, written, root, event, contract', rfl, stored, performed⟩ | ⟨refused, same⟩ :=
    @perform_cases keccak256 call contract
  · have result := stored
    obtain ⟨rfl, free, rfl⟩ := storeHash_ok stored
    rw [performed, getHash_ok_iff, getHash_ok_iff, hasRecord_of_storeHash stored]
    by_cases same : written = recordId
    · subst same
      simp only [free, Function.update_self, FidelityRecord.mk.injEq, Call.storeHash.injEq]
      constructor
      · rintro ⟨-, rfl, rfl⟩
        exact Or.inr ⟨now, ⟨trivial, rfl, trivial, rfl⟩, rfl, _, result⟩
      · rintro (⟨⟨⟩, -⟩ | ⟨_, ⟨-, rfl, -, rfl⟩, rfl, -⟩)
        exact ⟨Or.inr trivial, rfl, rfl⟩
    · simp only [Function.update_of_ne (Ne.symm same), Call.storeHash.injEq, same, or_false,
        false_and, and_false, exists_false]
  · rw [same]
    constructor
    · exact Or.inl
    · rintro (before | ⟨now, rfl, -, result, stored⟩)
      · exact before
      · exact absurd stored (refused _ _ _ _ rfl result)

theorem hasRecord_iff_getHash {recordId : Bytes32} {contract : Contract} :
    hasRecord recordId contract = true ↔ ∃ record, getHash recordId contract = .ok record := by
  constructor
  · intro present
    exact ⟨((contract.records recordId).contentHash, (contract.records recordId).anchoredAt),
      getHash_ok_iff.mpr ⟨present, rfl⟩⟩
  · rintro ⟨record, read⟩
    exact (getHash_ok_iff.mp read).1

/-! ## All calls -/

theorem performAll_concat (calls : List Call) (call : Call) (contract : Contract) :
    performAll keccak256 (calls ++ [call]) contract =
      (perform keccak256 call (performAll keccak256 calls contract)).2 := by
  rw [performAll, List.foldl_append]
  rfl

theorem performAll_append (calls later : List Call) (contract : Contract) :
    performAll keccak256 (calls ++ later) contract =
      performAll keccak256 later (performAll keccak256 calls contract) :=
  List.foldl_append

theorem owner_performAll (calls : List Call) (contract : Contract) :
    (performAll keccak256 calls contract).owner = contract.owner := by
  induction calls generalizing contract with
  | nil => rfl
  | cons call rest ih => exact (ih _).trans (owner_perform call contract)

theorem getHash_stable (later : List Call) {contract : Contract} {recordId : Bytes32}
    {record : Bytes32 × Uint256} (read : getHash recordId contract = .ok record) :
    getHash recordId (performAll keccak256 later contract) = .ok record := by
  induction later generalizing contract with
  | nil => exact read
  | cons call rest ih => exact ih (getHash_perform.mpr (Or.inl read))

/-- What can be read was stored by a call of the owner, and the other way round. -/
theorem getHash_performAll {owner : Address} {calls : List Call} {recordId contentHash : Bytes32}
    {anchoredAt : Uint256} :
    getHash recordId (performAll keccak256 calls (deploy owner)) = .ok (contentHash, anchoredAt) ↔
      StoredBy keccak256 owner owner calls recordId contentHash anchoredAt := by
  constructor
  · intro read
    induction calls using List.reverseRecOn with
    | nil => cases read
    | append_singleton before call ih =>
      rw [performAll_concat, getHash_perform, owner_performAll] at read
      rcases read with earlier | ⟨now, rfl, time, ⟨contract', event⟩, stored⟩
      · obtain ⟨first, now, after, rfl, stored⟩ := ih earlier
        exact ⟨first, now, after ++ [call], by simp, stored⟩
      · exact ⟨before, now, [], rfl, time, event, contract', stored⟩
  · rintro ⟨before, now, after, rfl, time, event, contract', stored⟩
    rw [performAll_append]
    apply getHash_stable after
    rw [getHash_perform, owner_performAll]
    exact Or.inr ⟨now, rfl, time, (contract', event), stored⟩

/-- A successful call is the owner's. -/
theorem StoredBy.sender_eq {owner sender : Address} {calls : List Call}
    {recordId contentHash : Bytes32} {anchoredAt : Uint256}
    (stored : StoredBy keccak256 owner sender calls recordId contentHash anchoredAt) :
    sender = owner := by
  obtain ⟨before, now, after, -, -, event, contract', accepted⟩ := stored
  exact (storeHash_ok accepted).1.trans (owner_performAll before (deploy owner))

theorem write_once (owner : Address) (calls : List Call) :
    (∀ later recordId record,
      getHash recordId (performAll keccak256 calls (deploy owner)) = .ok record →
        getHash recordId (performAll keccak256 (calls ++ later) (deploy owner)) = .ok record) ∧
    (∀ recordId contentHash anchoredAt,
      getHash recordId (performAll keccak256 calls (deploy owner)) = .ok (contentHash, anchoredAt) →
        StoredBy keccak256 owner owner calls recordId contentHash anchoredAt) ∧
    (∀ recordId, hasRecord recordId (performAll keccak256 calls (deploy owner)) = true ↔
      ∃ sender contentHash anchoredAt,
        StoredBy keccak256 owner sender calls recordId contentHash anchoredAt) ∧
    (∀ call error,
      (perform keccak256 call (performAll keccak256 calls (deploy owner))).1 = .error error →
        (perform keccak256 call (performAll keccak256 calls (deploy owner))).2 =
          performAll keccak256 calls (deploy owner)) := by
  refine ⟨?_, ?_, ?_, ?_⟩
  · intro later recordId record read
    rw [performAll_append]
    exact getHash_stable later read
  · intro recordId contentHash anchoredAt read
    exact getHash_performAll.mp read
  · intro recordId
    rw [hasRecord_iff_getHash]
    constructor
    · rintro ⟨⟨contentHash, anchoredAt⟩, read⟩
      exact ⟨owner, contentHash, anchoredAt, getHash_performAll.mp read⟩
    · rintro ⟨sender, contentHash, anchoredAt, stored⟩
      obtain rfl := stored.sender_eq
      exact ⟨(contentHash, anchoredAt), getHash_performAll.mpr stored⟩
  · intro call error
    exact unchanged_of_revert

end EpicKfc.Guarantees.WriteOnce
