import EpicKfc.Source.Blockchain.Merkle

/-!
# Merkle completeness

Every leaf of a built tree has a proof that the tree, the verifier of `merkle.ts`
and the contract accept, and the browser builds the same root and proofs. The
contract compares words where the others compare lower-case texts.
-/

namespace EpicKfc.Guarantees.MerkleCompleteness
open EpicKfc.Lib.Keccak (Byte)
open EpicKfc.Source.Blockchain
open EpicKfc.Source.Blockchain.Merkle

variable (keccak256 : List Byte → Bytes32)

/-- A proof for the leaf at an index that every implementation gives or accepts. -/
structure Proves (tree : MerkleTree) (browserTree : Browser.MerkleTree) (index : Nat) (leaf : Hex32)
    (proof : List Hex32) : Prop where
  given : tree.getProof index = .ok proof
  inBrowser : browserTree.getProof index = proof.map some
  own : tree.verifyProof keccak256 leaf proof = true
  verifier : verifyMerkleProof keccak256 tree.root leaf proof = true
  onChain : MessageFidelity.verifyMerkleProof keccak256 leaf.value tree.root.value
    (proof.map Hex32.value) = true

/-- Both implementations build the tree of a list of leaves. -/
structure Builds (leaves : List Hex32) (tree : MerkleTree) (browserTree : Browser.MerkleTree) :
    Prop where
  built : buildMerkleTree keccak256 leaves = .ok tree
  browser : Browser.buildMerkleTree keccak256 leaves = .ok browserTree
  root : browserTree.root = tree.root

variable {keccak256}

theorem merkle_complete {leaves : List Hex32} (nonempty : leaves ≠ []) :
    ∃ tree browserTree, Builds keccak256 leaves tree browserTree ∧
      ∀ index leaf, leaves[index]? = some leaf →
        ∃ proof, Proves keccak256 tree browserTree index leaf proof := by
  obtain ⟨first, rest, rfl⟩ := List.exists_cons_of_ne_nil nonempty
  refine ⟨_, _, ⟨rfl, rfl, rfl⟩, fun index leaf here => ?_⟩
  obtain ⟨proof, returned, given, accepted⟩ := @proof_of_built keccak256 _ _ rfl _ _ here
  refine ⟨proof, returned, given, accepted, accepted, ?_⟩
  exact (contract_verifyMerkleProof _ leaf proof).trans accepted

/-- Three leaves, so that the last of them is its own neighbour. -/
def sampleLeaves : List Hex32 := [Hex32.hexlify 1, Hex32.hexlify 2, Hex32.hexlify 3]

theorem merkle_complete_sample : ∃ tree browserTree,
    Builds Bytes32.keccak256 sampleLeaves tree browserTree ∧
      ∀ index leaf, sampleLeaves[index]? = some leaf →
        ∃ proof, Proves Bytes32.keccak256 tree browserTree index leaf proof :=
  merkle_complete (List.cons_ne_nil _ _)

end EpicKfc.Guarantees.MerkleCompleteness
