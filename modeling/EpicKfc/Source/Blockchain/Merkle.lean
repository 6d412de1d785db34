import EpicKfc.Lib.HashTree
import EpicKfc.Lib.Json
import EpicKfc.Source.Blockchain.Hex32
import EpicKfc.Source.Blockchain.MessageFidelity

/-!
# Merkle trees over messages

`blockchain/src/merkle.ts` and the tree of `fidelity-ui/merkle-browser.js`. Texts
have no unpaired surrogates: `toUtf8Bytes` raises for them. An array read outside
its range is absent.
-/

namespace EpicKfc.Source.Blockchain.Merkle
open EpicKfc.Lib
open EpicKfc.Lib.Keccak (Byte)
open EpicKfc.Lib.PairTree
open EpicKfc.Lib.HashTree (Encodes hashNode)

/-- What `solidityPacked` gives for a message. -/
def leafInput (keccak256 : List Byte → Bytes32) (messageId plaintext : String) : List Byte :=
  let payloadHash := Hex32.hexlify (keccak256 (Json.utf8 plaintext.toList))
  Json.utf8 messageId.toList ++ payloadHash.value.toBytes

def hashMessageLeaf (keccak256 : List Byte → Bytes32) (messageId plaintext : String) : Hex32 :=
  Hex32.hexlify (keccak256 (leafInput keccak256 messageId plaintext))

def hashPair (keccak256 : List Byte → Bytes32) (left right : Hex32) : Hex32 :=
  let a := left.toLowerCase
  let b := right.toLowerCase
  let (first, second) := if Hex32.lte a b then (a, b) else (b, a)
  Hex32.hexlify (keccak256 (first.value.toBytes ++ second.value.toBytes))

inductive MerkleError where
  | noLeaf
  | leafIndexOutOfRange (leafIndex : Int)
deriving DecidableEq, Repr

def MerkleError.message : MerkleError → String
  | .noLeaf => "Merkle tree requires at least one message leaf"
  | .leafIndexOutOfRange leafIndex => "Leaf index out of range: " ++ toString leafIndex

/-- A built tree; its root is the only node of the last layer. -/
structure MerkleTree where
  leaves : List Hex32
  layers : List (List Hex32)
  root : Hex32
  top : layers.getLast? = some [root]

def buildMerkleTree (keccak256 : List Byte → Bytes32) (leaves : List Hex32) :
    Except MerkleError MerkleTree :=
  match leaves.map Hex32.toLowerCase with
  | [] => .error .noLeaf
  | first :: rest => .ok {
      leaves := first :: rest
      layers := layers (hashPair keccak256) (first :: rest)
      root := root (hashPair keccak256) first rest
      top := getLast?_layers (hashPair keccak256) first rest }

def MerkleTree.getProof (tree : MerkleTree) (leafIndex : Int) : Except MerkleError (List Hex32) :=
  if leafIndex < 0 ∨ tree.leaves.length ≤ leafIndex then .error (.leafIndexOutOfRange leafIndex)
  else .ok ((siblings tree.layers leafIndex.toNat).filterMap id)

def verifyMerkleProof (keccak256 : List Byte → Bytes32) (root leaf : Hex32) (proof : List Hex32) :
    Bool :=
  let computed := proof.foldl
    (fun computed sibling => hashPair keccak256 computed sibling.toLowerCase) leaf.toLowerCase
  computed.toLowerCase = root.toLowerCase

/-- The same loop, against the root of the tree. -/
def MerkleTree.verifyProof (keccak256 : List Byte → Bytes32) (tree : MerkleTree) (leaf : Hex32)
    (proof : List Hex32) : Bool :=
  verifyMerkleProof keccak256 tree.root leaf proof

/-! ## In the browser -/

namespace Browser

def hashMessageLeaf (keccak256 : List Byte → Bytes32) (messageId plaintext : String) : Hex32 :=
  Merkle.hashMessageLeaf keccak256 messageId plaintext

def hashPair (keccak256 : List Byte → Bytes32) (a b : Hex32) : Hex32 := Merkle.hashPair keccak256 a b

inductive MerkleError where
  | noLeaf
deriving DecidableEq, Repr

def MerkleError.message : MerkleError → String
  | .noLeaf => "Need at least one leaf"

structure MerkleTree where
  layers : List (List Hex32)
  root : Hex32
  top : layers.getLast? = some [root]

def buildMerkleTree (keccak256 : List Byte → Bytes32) (leaves : List Hex32) :
    Except MerkleError MerkleTree :=
  match leaves.map Hex32.toLowerCase with
  | [] => .error .noLeaf
  | first :: rest => .ok {
      layers := layers (hashPair keccak256) (first :: rest)
      root := root (hashPair keccak256) first rest
      top := getLast?_layers (hashPair keccak256) first rest }

/-- The index is not checked. -/
def MerkleTree.getProof (tree : MerkleTree) (leafIndex : Nat) : List (Option Hex32) :=
  siblings tree.layers leafIndex

end Browser

/-! ## On words -/

/-- What is hashed for two nodes, the smaller first. -/
def packPair (left right : Bytes32) : List Byte :=
  if left ≤ right then left.toBytes ++ right.toBytes else right.toBytes ++ left.toBytes

/-- Leaf inputs are told from nodes by their length. -/
def LeafLength (input : List Byte) : Prop := input.length ≠ 64

theorem length_packPair (left right : Bytes32) : (packPair left right).length = 64 := by
  rw [packPair]
  split
  · rw [List.length_append, Bytes32.length_toBytes, Bytes32.length_toBytes]
  · rw [List.length_append, Bytes32.length_toBytes, Bytes32.length_toBytes]

theorem packPair_comm (left right : Bytes32) : packPair left right = packPair right left := by
  simp only [packPair, BitVec.le_def]
  rcases Nat.lt_trichotomy left.toNat right.toNat with below | same | above
  · rw [if_pos (Nat.le_of_lt below), if_neg (Nat.not_le.mpr below)]
  · rw [BitVec.eq_of_toNat_eq same]
  · rw [if_neg (Nat.not_le.mpr above), if_pos (Nat.le_of_lt above)]

theorem packPair_cases (left right : Bytes32) :
    packPair left right = left.toBytes ++ right.toBytes ∨
      packPair left right = right.toBytes ++ left.toBytes := by
  rw [packPair]
  split
  · exact Or.inl rfl
  · exact Or.inr rfl

theorem toBytes_append_inj {left right left' right' : Bytes32}
    (same : left.toBytes ++ right.toBytes = left'.toBytes ++ right'.toBytes) :
    left = left' ∧ right = right' := by
  have lengths : left.toBytes.length = left'.toBytes.length := by
    rw [Bytes32.length_toBytes, Bytes32.length_toBytes]
  obtain ⟨first, second⟩ := List.append_inj same lengths
  exact ⟨Bytes32.toBytes_inj.mp first, Bytes32.toBytes_inj.mp second⟩

theorem encodes_packPair : Encodes packPair LeafLength where
  symmetric := packPair_comm
  swaps left right left' right' same := by
    rcases packPair_cases left right with packed | packed <;>
      rcases packPair_cases left' right' with packed' | packed' <;>
      rw [packed, packed'] at same <;>
      obtain ⟨first, second⟩ := toBytes_append_inj same
    · exact Or.inl ⟨first, second⟩
    · exact Or.inr ⟨first, second⟩
    · exact Or.inr ⟨second, first⟩
    · exact Or.inl ⟨second, first⟩
  apart left right leaf := leaf (length_packPair left right)

variable {keccak256 : List Byte → Bytes32}

/-- The pair of texts is hashed as the pair of words. -/
theorem hashPair_eq (left right : Hex32) : hashPair keccak256 left right =
    Hex32.hexlify (hashNode keccak256 packPair left.value right.value) := by
  rw [hashPair, hashNode, packPair, Hex32.toLowerCase_eq, Hex32.toLowerCase_eq, Hex32.lte_hexlify]
  simp only [decide_eq_true_eq]
  split
  · simp only [Hex32.value_hexlify]
  · simp only [Hex32.value_hexlify]

theorem value_hashPair (left right : Hex32) : (hashPair keccak256 left right).value =
    hashNode keccak256 packPair left.value right.value := by
  rw [hashPair_eq, Hex32.value_hexlify]

theorem value_hashMessageLeaf (messageId plaintext : String) :
    (hashMessageLeaf keccak256 messageId plaintext).value =
      keccak256 (leafInput keccak256 messageId plaintext) := by
  rw [hashMessageLeaf, Hex32.value_hexlify]

/-- The loop of the contract climbs the tree of words. -/
theorem foldProof_eq (leaf : Bytes32) (proof : List Bytes32) :
    MessageFidelity.foldProof keccak256 leaf proof =
      climb (hashNode keccak256 packPair) leaf proof := by
  rw [MessageFidelity.foldProof, climb]
  congr 1
  funext computed proofElement
  rw [hashNode, packPair]
  split
  · rfl
  · rfl

/-- On texts the loop climbs the tree of their words. -/
theorem value_foldl_hashPair (leaf : Hex32) (proof : List Hex32) :
    (proof.foldl (fun computed sibling => hashPair keccak256 computed sibling.toLowerCase)
      leaf).value = climb (hashNode keccak256 packPair) leaf.value (proof.map Hex32.value) := by
  induction proof generalizing leaf with
  | nil => rfl
  | cons sibling rest ih =>
    rw [List.foldl_cons, ih, value_hashPair, Hex32.value_toLowerCase]
    rfl

theorem toLowerCase_inj {first second : Hex32} :
    first.toLowerCase = second.toLowerCase ↔ first.value = second.value := by
  rw [Hex32.toLowerCase_eq, Hex32.toLowerCase_eq, Hex32.hexlify_inj]

/-- A proof is accepted when it leads to the word of the root. -/
theorem verifyMerkleProof_iff {merkleRoot leaf : Hex32} {proof : List Hex32} :
    verifyMerkleProof keccak256 merkleRoot leaf proof = true ↔
      climb (hashNode keccak256 packPair) leaf.value (proof.map Hex32.value) = merkleRoot.value := by
  rw [verifyMerkleProof, decide_eq_true_eq, toLowerCase_inj, value_foldl_hashPair,
    Hex32.value_toLowerCase]

/-- The contract accepts the words of a proof exactly when the texts are accepted. -/
theorem contract_verifyMerkleProof (merkleRoot leaf : Hex32) (proof : List Hex32) :
    MessageFidelity.verifyMerkleProof keccak256 leaf.value merkleRoot.value
      (proof.map Hex32.value) = verifyMerkleProof keccak256 merkleRoot leaf proof := by
  rw [Bool.eq_iff_iff, verifyMerkleProof_iff, MessageFidelity.verifyMerkleProof,
    decide_eq_true_eq, foldProof_eq]

theorem hashPair_comm (left right : Hex32) :
    hashPair keccak256 left right = hashPair keccak256 right left := by
  rw [hashPair_eq, hashPair_eq, hashNode, hashNode, packPair_comm]

/-! ## Built trees -/

theorem buildMerkleTree_isOk {leaves : List Hex32} (nonempty : leaves ≠ []) :
    ∃ tree, buildMerkleTree keccak256 leaves = .ok tree := by
  obtain ⟨first, rest, rfl⟩ := List.exists_cons_of_ne_nil nonempty
  exact ⟨_, rfl⟩

theorem buildMerkleTree_ok {leaves : List Hex32} {tree : MerkleTree}
    (built : buildMerkleTree keccak256 leaves = .ok tree) :
    tree.leaves = leaves.map Hex32.toLowerCase ∧
      tree.layers = layers (hashPair keccak256) (leaves.map Hex32.toLowerCase) ∧
      ∃ first rest, leaves = first :: rest ∧
        tree.root = root (hashPair keccak256) first.toLowerCase (rest.map Hex32.toLowerCase) := by
  cases leaves with
  | nil => cases built
  | cons first rest =>
    cases built
    exact ⟨rfl, rfl, first, rest, rfl, rfl⟩

/-- The words of a built tree are the tree of the words. -/
theorem value_root_of_built {first : Hex32} {rest : List Hex32} {tree : MerkleTree}
    (built : buildMerkleTree keccak256 (first :: rest) = .ok tree) :
    tree.root.value = root (hashNode keccak256 packPair) first.value (rest.map Hex32.value) := by
  cases built
  rw [root_map value_hashPair, List.map_map, Hex32.value_toLowerCase]
  congr 1
  apply List.map_congr_left
  intro leaf _
  exact Hex32.value_toLowerCase leaf

/-- The root is in lower case, as the text of its word. -/
theorem root_eq_hexlify {leaves : List Hex32} {tree : MerkleTree}
    (built : buildMerkleTree keccak256 leaves = .ok tree) :
    tree.root = Hex32.hexlify tree.root.value := by
  have lowers (text : Hex32) : text.toLowerCase.toLowerCase = text.toLowerCase := by
    rw [Hex32.toLowerCase_eq text, Hex32.toLowerCase_hexlify]
  have joins (left right : Hex32) : (hashPair keccak256 left right).toLowerCase =
      hashPair keccak256 left.toLowerCase right.toLowerCase := by
    rw [hashPair_eq, hashPair_eq, Hex32.toLowerCase_hexlify, Hex32.value_toLowerCase,
      Hex32.value_toLowerCase]
  obtain ⟨-, -, first, rest, rfl, top⟩ := buildMerkleTree_ok built
  have below : (rest.map Hex32.toLowerCase).map Hex32.toLowerCase = rest.map Hex32.toLowerCase := by
    rw [List.map_map]
    apply List.map_congr_left
    intro text _
    exact lowers text
  rw [← Hex32.toLowerCase_eq, top, root_map joins, lowers, below]

/-- A built tree has a proof of each leaf, which the verifier accepts. -/
theorem proof_of_built {leaves : List Hex32} {tree : MerkleTree}
    (built : buildMerkleTree keccak256 leaves = .ok tree) {index : Nat} {leaf : Hex32}
    (here : leaves[index]? = some leaf) :
    ∃ proof, tree.getProof index = .ok proof ∧ siblings tree.layers index = proof.map some ∧
      verifyMerkleProof keccak256 tree.root leaf proof = true := by
  obtain ⟨texts, all, first, rest, rfl, top⟩ := buildMerkleTree_ok built
  have lower : ((first :: rest).map Hex32.toLowerCase)[index]? = some leaf.toLowerCase := by
    rw [List.getElem?_map, here, Option.map_some]
  obtain ⟨proof, given, climbs⟩ := climb_siblings (hashPair keccak256) hashPair_comm lower
  have inside : index < tree.leaves.length := by
    rw [texts]
    exact (List.getElem?_eq_some_iff.mp lower).1
  have range : ¬ ((index : Int) < 0 ∨ (tree.leaves.length : Int) ≤ index) := by omega
  have whole : (proof.map some).filterMap id = proof := by
    rw [List.filterMap_map]
    exact List.filterMap_some
  rw [← List.map_cons, ← all] at given
  refine ⟨proof, ?_, given, ?_⟩
  · rw [MerkleTree.getProof, if_neg range, Int.toNat_natCast, given, whole]
  · rw [verifyMerkleProof_iff, top, ← climbs, climb_map value_hashPair, Hex32.value_toLowerCase]

end EpicKfc.Source.Blockchain.Merkle
