import EpicKfc.Source.Blockchain.Conversation

/-!
# Merkle soundness

A message that any proof leads to the root of a batch is a message of the batch,
unless two of the byte strings hashed on either side collide. A UUID has 36 bytes,
so what is hashed for a message is longer than what is hashed for a pair of nodes,
whatever the length of the proof.
-/

namespace EpicKfc.Guarantees.MerkleSoundness
open EpicKfc.Lib
open EpicKfc.Lib.Keccak (Byte)
open EpicKfc.Lib.PairTree
open EpicKfc.Lib.HashTree
open EpicKfc.Source.Blockchain
open EpicKfc.Source.Blockchain.Merkle
open EpicKfc.Source.Blockchain.MessageFidelity
open EpicKfc.Source.Blockchain.Conversation
open EpicKfc.Source.Server (Uuid)

variable {keccak256 : List Byte → Bytes32} {sort : ArraySort}
  {localeCompare : String → String → Ordering}

variable (keccak256) in
/-- Every byte string hashed while a proof of the message is checked. -/
def hashedByCheck (messageId plaintext : String) (proof : List Bytes32) : List (List Byte) :=
  Json.utf8 plaintext.toList :: leafInput keccak256 messageId plaintext ::
    climbInputs keccak256 packPair (keccak256 (leafInput keccak256 messageId plaintext)) proof

/-- The proof leads from the message to the root of the ordered batch. -/
theorem inBatch_of_climb {first : AnchoredMessage} {rest : List AnchoredMessage}
    (ids : ∀ message ∈ first :: rest, IsUuid message.messageId) {messageId plaintext : String}
    (uuid : IsUuid messageId) {proof : List Bytes32}
    (accepted : climb (hashNode keccak256 packPair) (keccak256 (leafInput keccak256 messageId plaintext))
      proof = digest keccak256 packPair
        (treeOf (leafInputOf keccak256 first) (rest.map (leafInputOf keccak256)))) :
    InBatch (first :: rest) messageId plaintext ∨ Collides keccak256
      (hashedByBuild keccak256 (first :: rest) ++ hashedByCheck keccak256 messageId plaintext proof) := by
  rw [or_iff_not_imp_right]
  intro safe
  have found := mem_leaves_of_climb encodes_packPair safe (leafLength_treeOf ids)
    (fun input member => List.mem_append_left _ (mem_hashedByBuild member))
    (leafLength_of_isUuid uuid plaintext)
    (List.mem_append_right _ (List.mem_cons_of_mem _ List.mem_cons_self))
    (fun input member => List.mem_append_right _
      (List.mem_cons_of_mem _ (List.mem_cons_of_mem _ member))) accepted
  rw [mem_leaves_treeOf, ← List.map_cons] at found
  obtain ⟨message, belongs, same⟩ := List.mem_map.mp found
  obtain ⟨id, texts⟩ := leafInput_inj same
  have plain := eq_of_not_collides safe
    (List.mem_append_left _ (plaintext_mem_hashedByBuild belongs))
    (List.mem_append_right _ List.mem_cons_self) texts
  exact ⟨message, belongs, id, String.toList_inj.mp (Json.utf8_injective plain)⟩

theorem merkle_sound (conforms : Conforms sort) {messages : List AnchoredMessage}
    {conversation : ConversationTree}
    (built : buildConversationMerkleTree keccak256 sort localeCompare messages = .ok conversation)
    (ids : ∀ message ∈ messages, IsUuid message.messageId) {messageId : String}
    (uuid : IsUuid messageId) (plaintext : String) :
    (∀ proof : List Hex32, verifyMerkleProof keccak256 conversation.root
        (hashMessageLeaf keccak256 messageId plaintext) proof = true →
      InBatch messages messageId plaintext ∨ Collides keccak256
        (hashedByBuild keccak256 conversation.orderedMessages ++
          hashedByCheck keccak256 messageId plaintext (proof.map Hex32.value))) ∧
    (∀ (proof : List Bytes32) (recordId : Bytes32) (contract : Contract),
      Holds contract recordId conversation.root.value →
      verifyMessageInHistory keccak256 recordId (hashMessageLeaf keccak256 messageId plaintext).value
        proof contract = .ok true →
      InBatch messages messageId plaintext ∨ Collides keccak256
        (hashedByBuild keccak256 conversation.orderedMessages ++
          hashedByCheck keccak256 messageId plaintext proof)) := by
  obtain ⟨first, rest, shape, perm, root⟩ := buildConversation_tree conforms built
  rw [shape]
  have ids' : ∀ message ∈ first :: rest, IsUuid message.messageId :=
    fun message member => ids message (perm.mem_iff.mp member)
  have sound {proof : List Bytes32}
      (accepted : climb (hashNode keccak256 packPair)
        (hashMessageLeaf keccak256 messageId plaintext).value proof = conversation.root.value) :
      InBatch messages messageId plaintext ∨ Collides keccak256
        (hashedByBuild keccak256 (first :: rest) ++
          hashedByCheck keccak256 messageId plaintext proof) := by
    rw [value_hashMessageLeaf, root, Hex32.value_hexlify] at accepted
    refine (inBatch_of_climb ids' uuid accepted).imp_left ?_
    rintro ⟨message, member, same⟩
    exact ⟨message, perm.mem_iff.mp member, same⟩
  constructor
  · intro proof accepted
    exact sound (verifyMerkleProof_iff.mp accepted)
  · intro proof recordId contract holds accepted
    rw [verifyMessageInHistory, getHash_of_holds holds] at accepted
    have climbs : MessageFidelity.verifyMerkleProof keccak256
        (hashMessageLeaf keccak256 messageId plaintext).value conversation.root.value proof = true :=
      Except.ok.inj accepted
    rw [MessageFidelity.verifyMerkleProof, decide_eq_true_eq, foldProof_eq] at climbs
    exact sound climbs

/-- Two messages of the backend. -/
def sampleBatch : List AnchoredMessage := [
  ⟨Uuid.str 7, "hi", some "2026-01-01T00:00:00Z"⟩,
  ⟨Uuid.str 8, "bye", none⟩]

theorem isUuid_sampleBatch : ∀ message ∈ sampleBatch, IsUuid message.messageId := by
  intro message member
  simp only [sampleBatch, List.mem_cons, List.not_mem_nil, or_false] at member
  rcases member with rfl | rfl
  · exact ⟨7, rfl⟩
  · exact ⟨8, rfl⟩

/-- A text that was never sent needs a collision, in the package and on the contract. -/
theorem merkle_sound_sample : ∃ conversation contract,
    buildConversationMerkleTree Bytes32.keccak256 insertionSort (fun a b => compareOfLessAndEq a b)
      sampleBatch = .ok conversation ∧
    Holds contract 5 conversation.root.value ∧
    (∀ proof : List Hex32, verifyMerkleProof Bytes32.keccak256 conversation.root
        (hashMessageLeaf Bytes32.keccak256 (Uuid.str 7) "forged") proof = true →
      InBatch sampleBatch (Uuid.str 7) "forged" ∨ Collides Bytes32.keccak256
        (hashedByBuild Bytes32.keccak256 conversation.orderedMessages ++
          hashedByCheck Bytes32.keccak256 (Uuid.str 7) "forged" (proof.map Hex32.value))) ∧
    ∀ proof : List Bytes32, verifyMessageInHistory Bytes32.keccak256 5
        (hashMessageLeaf Bytes32.keccak256 (Uuid.str 7) "forged").value proof contract = .ok true →
      InBatch sampleBatch (Uuid.str 7) "forged" ∨ Collides Bytes32.keccak256
        (hashedByBuild Bytes32.keccak256 conversation.orderedMessages ++
          hashedByCheck Bytes32.keccak256 (Uuid.str 7) "forged" proof) := by
  obtain ⟨conversation, built⟩ := buildConversation_isOk conforms_insertionSort
    (List.cons_ne_nil _ _ : sampleBatch ≠ [])
  obtain ⟨⟨contract, event⟩, stored⟩ := (@storeHash_isOk_iff 0 ⟨1, by decide⟩ 5
    conversation.root.value (deploy 0)).mpr ⟨rfl, rfl⟩
  have holds := holds_of_storeHash stored
  obtain ⟨offChain, onChain⟩ :=
    merkle_sound conforms_insertionSort built isUuid_sampleBatch ⟨7, rfl⟩ "forged"
  exact ⟨conversation, contract, built, holds, offChain, fun proof => onChain proof 5 contract holds⟩

end EpicKfc.Guarantees.MerkleSoundness
