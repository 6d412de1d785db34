import EpicKfc.Source.Blockchain.Conversation

/-!
# What the calls on a conversation do

Anchoring stores the root of the built tree under the segment's record; verifying
rebuilds the tree and passes when it leads to what the record holds.
-/

namespace EpicKfc.Source.Blockchain.Conversation
open EpicKfc.Lib
open EpicKfc.Lib.Keccak (Byte)
open EpicKfc.Lib.HashTree
open EpicKfc.Source.Blockchain.Merkle
open EpicKfc.Source.Blockchain.MessageFidelity

variable {keccak256 : List Byte → Bytes32} {sort : ArraySort}
  {localeCompare : String → String → Ordering}

theorem bind_ok_iff {ε α β : Type} {first : Except ε α} {next : α → Except ε β} {result : β} :
    (first >>= next) = .ok result ↔ ∃ value, first = .ok value ∧ next value = .ok result := by
  cases first with
  | error problem => simp [bind, Except.bind]
  | ok value => simp [bind, Except.bind]

theorem bind_error_iff {ε α β : Type} {first : Except ε α} {next : α → Except ε β} {problem : ε} :
    (first >>= next) = .error problem ↔
      first = .error problem ∨ ∃ value, first = .ok value ∧ next value = .error problem := by
  cases first with
  | error other => simp [bind, Except.bind]
  | ok value => simp [bind, Except.bind]

theorem pure_ok_iff {ε α : Type} {value result : α} :
    (pure value : Except ε α) = .ok result ↔ value = result := by
  simp [pure, Except.pure]

/-! ## Records -/

theorem sortPair_comm (userIdA userIdB : String) : sortPair userIdA userIdB = sortPair userIdB userIdA := by
  rw [sortPair, sortPair]
  rcases CodeUnits.before_total userIdA.toList userIdB.toList with before | same | after
  · rw [if_neg before.asymm, if_pos before]
  · rw [String.toList_inj.mp same]
  · rw [if_pos after, if_neg after.asymm]

/-- The record does not depend on the order of the users. -/
theorem recordId_comm (userIdA userIdB segmentKey : String) :
    deriveConversationSegmentRecordId keccak256 userIdA userIdB segmentKey =
      deriveConversationSegmentRecordId keccak256 userIdB userIdA segmentKey := by
  rw [deriveConversationSegmentRecordId, deriveConversationSegmentRecordId, segmentText, segmentText,
    sortPair_comm]

theorem segmentKeyOf_perm {messages messages' : List AnchoredMessage}
    (perm : List.Perm messages messages') (segmentKey : Option String) :
    segmentKeyOf segmentKey messages = segmentKeyOf segmentKey messages' := by
  rw [segmentKeyOf, segmentKeyOf, perm.length_eq]

/-! ## Anchoring -/

theorem anchorMerkleRoot_ok {sender : Address} {now : BlockTime} {recordId merkleRoot : Hex32}
    {contract contract' : Contract} {anchoredAt : Uint256}
    (anchored : anchorMerkleRoot sender now recordId merkleRoot contract =
      .ok (contract', anchoredAt)) :
    ∃ event, storeHash sender now recordId.value merkleRoot.value contract = .ok (contract', event) := by
  unfold anchorMerkleRoot at anchored
  split at anchored
  · cases anchored
  · next event stored =>
    cases anchored
    exact ⟨event, stored⟩

theorem anchorConversation_ok {sender : Address} {now : BlockTime} {userIdA userIdB : String}
    {messages : List AnchoredMessage} {segmentKey : Option String} {contract contract' : Contract}
    {result : AnchorConversationResult}
    (anchored : anchorConversationOnChain keccak256 sort localeCompare sender now userIdA userIdB
      messages segmentKey contract = .ok (result, contract')) :
    ∃ conversation event,
      buildConversationMerkleTree keccak256 sort localeCompare messages = .ok conversation ∧
      storeHash sender now (deriveConversationSegmentRecordId keccak256 userIdA userIdB
        (segmentKeyOf segmentKey messages)).value conversation.root.value contract =
          .ok (contract', event) := by
  simp only [anchorConversationOnChain, bind_ok_iff, pure_ok_iff, Prod.mk.injEq] at anchored
  obtain ⟨conversation, built, ⟨contract'', anchoredAt⟩, root, -, same⟩ := anchored
  obtain ⟨event, stored⟩ := anchorMerkleRoot_ok root
  exact ⟨conversation, event, built, same ▸ stored⟩

theorem anchorConversation_of_storeHash {sender : Address} {now : BlockTime}
    {userIdA userIdB : String} {messages : List AnchoredMessage} {segmentKey : Option String}
    {contract contract' : Contract} {event : HashAnchored} {conversation : ConversationTree}
    (built : buildConversationMerkleTree keccak256 sort localeCompare messages = .ok conversation)
    (stored : storeHash sender now (deriveConversationSegmentRecordId keccak256 userIdA userIdB
      (segmentKeyOf segmentKey messages)).value conversation.root.value contract =
        .ok (contract', event)) :
    ∃ result, anchorConversationOnChain keccak256 sort localeCompare sender now userIdA userIdB
      messages segmentKey contract = .ok (result, contract') := by
  have root : anchorMerkleRoot sender now (deriveConversationSegmentRecordId keccak256 userIdA userIdB
      (segmentKeyOf segmentKey messages)) conversation.root contract =
        .ok (contract', event.anchoredAt) := by
    rw [anchorMerkleRoot, stored]
  rw [anchorConversationOnChain]
  exact ⟨_, bind_ok_iff.mpr ⟨conversation, built, bind_ok_iff.mpr ⟨_, root, rfl⟩⟩⟩

theorem anchorConversation_of_refused {sender : Address} {now : BlockTime}
    {userIdA userIdB : String} {messages : List AnchoredMessage} {segmentKey : Option String}
    {contract : Contract} {error : FidelityError} {conversation : ConversationTree}
    (built : buildConversationMerkleTree keccak256 sort localeCompare messages = .ok conversation)
    (refused : storeHash sender now (deriveConversationSegmentRecordId keccak256 userIdA userIdB
      (segmentKeyOf segmentKey messages)).value conversation.root.value contract = .error error) :
    anchorConversationOnChain keccak256 sort localeCompare sender now userIdA userIdB messages
      segmentKey contract = .error (.reverted error) := by
  rw [anchorConversationOnChain, bind_error_iff]
  refine Or.inr ⟨conversation, built, bind_error_iff.mpr (Or.inl ?_)⟩
  rw [anchorMerkleRoot, refused]

/-- The calls revert with what the contract reverts with. -/
theorem anchorConversation_reverted {sender : Address} {now : BlockTime} {userIdA userIdB : String}
    {messages : List AnchoredMessage} {segmentKey : Option String} {contract : Contract}
    {error : FidelityError}
    (reverted : anchorConversationOnChain keccak256 sort localeCompare sender now userIdA userIdB
      messages segmentKey contract = .error (.reverted error)) :
    ∃ merkleRoot, storeHash sender now (deriveConversationSegmentRecordId keccak256 userIdA userIdB
      (segmentKeyOf segmentKey messages)).value merkleRoot contract = .error error := by
  rw [anchorConversationOnChain, bind_error_iff] at reverted
  rcases reverted with unbuilt | ⟨conversation, -, later⟩
  · unfold buildConversationMerkleTree at unbuilt
    split at unbuilt
    · cases unbuilt
    · dsimp only at unbuilt
      split at unbuilt <;> cases unbuilt
  · rw [bind_error_iff] at later
    rcases later with refused | ⟨_, -, returned⟩
    · refine ⟨conversation.root.value, ?_⟩
      unfold anchorMerkleRoot at refused
      split at refused
      · next problem stored =>
        cases refused
        exact stored
      · cases refused
    · cases returned

/-! ## Verifying -/

section Verify
variable {userIdA userIdB : String} {messages : List AnchoredMessage} {segmentKey : Option String}
  {contract : Contract} {conversation : ConversationTree}

theorem verifyInHistory_of_holds {recordId : Hex32} {root : Bytes32}
    (holds : Holds contract recordId.value root) : ∃ anchoredAt, ∀ leaf proof,
      verifyInHistory keccak256 recordId leaf proof contract =
        .ok (MessageFidelity.verifyMerkleProof keccak256 leaf.value root (proof.map Hex32.value),
          Hex32.hexlify root, anchoredAt) := by
  refine ⟨(contract.records recordId.value).anchoredAt, fun leaf proof => ?_⟩
  rw [verifyInHistory, verifyMessageInHistory, getHash_of_holds holds]
  rfl

/-- The proof of a message of the batch is accepted by the tree it comes from. -/
theorem getProofForMessage_ok {message : AnchoredMessage}
    (built : buildMerkleTree keccak256 (conversation.orderedMessages.map (messageLeaf keccak256)) =
      .ok conversation.tree)
    (distinct : (conversation.orderedMessages.map AnchoredMessage.messageId).Nodup)
    (member : message ∈ conversation.orderedMessages) :
    ∃ proof, conversation.getProofForMessage message.messageId = .ok proof ∧
      Merkle.verifyMerkleProof keccak256 conversation.root (messageLeaf keccak256 message) proof =
        true := by
  cases found : conversation.orderedMessages.findIdx?
      (fun other => other.messageId = message.messageId) with
  | none =>
    rw [List.findIdx?_eq_none_iff] at found
    have missed := found message member
    simp at missed
  | some index =>
    obtain ⟨inside, meets, -⟩ := List.findIdx?_eq_some_iff_getElem.mp found
    have same : conversation.orderedMessages[index] = message :=
      List.inj_on_of_nodup_map distinct (List.getElem_mem inside) member (of_decide_eq_true meets)
    have here : (conversation.orderedMessages.map (messageLeaf keccak256))[index]? =
        some (messageLeaf keccak256 message) := by
      rw [List.getElem?_map, List.getElem?_eq_getElem inside, same, Option.map_some]
    obtain ⟨proof, given, -, accepted⟩ := proof_of_built built here
    refine ⟨proof, ?_, accepted⟩
    rw [ConversationTree.getProofForMessage, found]
    simp only [given, Except.mapError]

/-- Verification passes for every message of the batch whose root the record holds. -/
theorem verifyMessage_passes (conforms : Conforms sort)
    (built : buildConversationMerkleTree keccak256 sort localeCompare messages = .ok conversation)
    (distinct : (messages.map AnchoredMessage.messageId).Nodup)
    (holds : Holds contract (deriveConversationSegmentRecordId keccak256 userIdA userIdB
      (segmentKeyOf segmentKey messages)).value conversation.root.value)
    {message : AnchoredMessage} (member : message ∈ messages) :
    ∃ verdict, verifyMessageOnChain keccak256 sort localeCompare userIdA userIdB messages
      message.messageId segmentKey contract = .ok verdict ∧ verdict.pass = true := by
  obtain ⟨-, ordered, merkle⟩ := buildConversation_ok built
  have perm := conforms.perm (compareMessages localeCompare) messages
  rw [← ordered] at perm
  obtain ⟨proof, given, accepted⟩ := getProofForMessage_ok merkle
    ((perm.map AnchoredMessage.messageId).nodup_iff.mpr distinct) (perm.mem_iff.mpr member)
  have found : messages.find? (fun other => other.messageId = message.messageId) = some message := by
    cases first : messages.find? (fun other => other.messageId = message.messageId) with
    | none =>
      have missed := List.find?_eq_none.mp first message member
      simp at missed
    | some target =>
      have same : target = message := List.inj_on_of_nodup_map distinct
        (List.mem_of_find?_eq_some first) member (by simpa using List.find?_some first)
      rw [same]
  have onChain : MessageFidelity.verifyMerkleProof keccak256 (messageLeaf keccak256 message).value
      conversation.root.value (proof.map Hex32.value) = true :=
    (contract_verifyMerkleProof _ _ _).trans accepted
  have offChain : conversation.verifyMessage keccak256 message.messageId message.plaintext proof = true :=
    accepted
  obtain ⟨anchoredAt, answers⟩ := @verifyInHistory_of_holds keccak256 _ _ _ holds
  have answered := answers (messageLeaf keccak256 message) proof
  rw [onChain] at answered
  refine ⟨⟨true, messageLeaf keccak256 message, Hex32.hexlify conversation.root.value, anchoredAt,
    proof⟩, ?_, rfl⟩
  simp only [verifyMessageOnChain, found, bind_ok_iff, pure_ok_iff]
  refine ⟨conversation, built, proof, given, _, answered, ?_⟩
  rw [offChain, Bool.and_self]

/-- A verification that passes rebuilt the root that the record holds. -/
theorem root_of_passes {messageId : String} {verdict : VerifyMessageResult} {root : Bytes32}
    (holds : Holds contract (deriveConversationSegmentRecordId keccak256 userIdA userIdB
      (segmentKeyOf segmentKey messages)).value root)
    (verified : verifyMessageOnChain keccak256 sort localeCompare userIdA userIdB messages messageId
      segmentKey contract = .ok verdict) (passes : verdict.pass = true) :
    ∃ conversation,
      buildConversationMerkleTree keccak256 sort localeCompare messages = .ok conversation ∧
      conversation.root.value = root := by
  simp only [verifyMessageOnChain, bind_ok_iff] at verified
  obtain ⟨conversation, built, later⟩ := verified
  split at later
  · cases later
  · next target found =>
    obtain ⟨anchoredAt, answers⟩ := @verifyInHistory_of_holds keccak256 _ _ _ holds
    simp only [bind_ok_iff, pure_ok_iff, answers, Except.ok.injEq] at later
    obtain ⟨proof, given, _, rfl, rfl⟩ := later
    have here : target.messageId = messageId := by simpa using List.find?_some found
    rw [Bool.and_eq_true, ConversationTree.verifyMessage, MerkleTree.verifyProof,
      verifyMerkleProof_iff, MessageFidelity.verifyMerkleProof, decide_eq_true_eq, foldProof_eq,
      messageLeaf, here] at passes
    exact ⟨conversation, built, passes.1.symm.trans passes.2⟩

end Verify

end EpicKfc.Source.Blockchain.Conversation
