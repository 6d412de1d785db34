import EpicKfc.Source.Blockchain.Conversation

/-!
# What a root binds

Two batches have one root exactly when the trees over their ordered messages are the
same up to the order of the two nodes of each pair, the last of an odd number being
paired with itself; the one direction holds up to a collision. The messages are
bound, their order only as far as the pairs go.
-/

namespace EpicKfc.Guarantees.ConversationBinding
open EpicKfc.Lib
open EpicKfc.Lib.Keccak (Byte)
open EpicKfc.Lib.HashTree
open EpicKfc.Source.Blockchain
open EpicKfc.Source.Blockchain.Merkle
open EpicKfc.Source.Blockchain.Conversation
open EpicKfc.Source.Server (Uuid)

variable {keccak256 : List Byte → Bytes32} {sort : ArraySort}
  {localeCompare : String → String → Ordering}

/-- What the leaf of a message stands for. -/
def content (message : AnchoredMessage) : String × String := (message.messageId, message.plaintext)

/-- The trees over two ordered batches agree up to swaps of siblings. -/
def SameTrees (ordered ordered' : List AnchoredMessage) : Prop :=
  ∃ first rest first' rest', ordered = first :: rest ∧ ordered' = first' :: rest' ∧
    Tree.SameUpToSwaps (treeOf (content first) (rest.map content))
      (treeOf (content first') (rest'.map content))

/-- Trees that agree have the same messages. -/
theorem SameTrees.inBatch_iff {ordered ordered' : List AnchoredMessage}
    (same : SameTrees ordered ordered') (messageId plaintext : String) :
    InBatch ordered messageId plaintext ↔ InBatch ordered' messageId plaintext := by
  obtain ⟨first, rest, first', rest', rfl, rfl, trees⟩ := same
  have listed (first : AnchoredMessage) (rest : List AnchoredMessage) :
      InBatch (first :: rest) messageId plaintext ↔
        (messageId, plaintext) ∈ (treeOf (content first) (rest.map content)).leaves := by
    rw [mem_leaves_treeOf, ← List.map_cons, List.mem_map]
    simp only [InBatch, content, Prod.mk.injEq]
  rw [listed, listed]
  exact trees.perm.mem_iff

/-- When the trees over what is hashed agree, so do those over the messages. -/
theorem sameTrees_of_leafInputs {first first' : AnchoredMessage} {rest rest' : List AnchoredMessage}
    (safe : ¬ Collides keccak256
      (hashedByBuild keccak256 (first :: rest) ++ hashedByBuild keccak256 (first' :: rest'))) :
    Tree.SameUpToSwaps (treeOf (leafInputOf keccak256 first) (rest.map (leafInputOf keccak256)))
        (treeOf (leafInputOf keccak256 first') (rest'.map (leafInputOf keccak256))) →
      Tree.SameUpToSwaps (treeOf (content first) (rest.map content))
        (treeOf (content first') (rest'.map content)) := by
  simp only [treeOf_map]
  apply Tree.SameUpToSwaps.transfer
  intro message member message' member' same
  rw [mem_leaves_treeOf] at member member'
  obtain ⟨id, texts⟩ := leafInput_inj same
  have plain := eq_of_not_collides safe
    (List.mem_append_left _ (plaintext_mem_hashedByBuild member))
    (List.mem_append_right _ (plaintext_mem_hashedByBuild member')) texts
  rw [content, content, id, String.toList_inj.mp (Json.utf8_injective plain)]

theorem root_binds (conforms : Conforms sort) {messages messages' : List AnchoredMessage}
    {conversation conversation' : ConversationTree}
    (built : buildConversationMerkleTree keccak256 sort localeCompare messages = .ok conversation)
    (built' : buildConversationMerkleTree keccak256 sort localeCompare messages' = .ok conversation')
    (ids : ∀ message ∈ messages, IsUuid message.messageId)
    (ids' : ∀ message ∈ messages', IsUuid message.messageId) :
    (conversation.root = conversation'.root →
      (SameTrees conversation.orderedMessages conversation'.orderedMessages ∧
        ∀ messageId plaintext,
          InBatch messages messageId plaintext ↔ InBatch messages' messageId plaintext) ∨
      Collides keccak256 (hashedByBuild keccak256 conversation.orderedMessages ++
        hashedByBuild keccak256 conversation'.orderedMessages)) ∧
    (SameTrees conversation.orderedMessages conversation'.orderedMessages →
      conversation.root = conversation'.root) := by
  obtain ⟨first, rest, shape, perm, root⟩ := buildConversation_tree conforms built
  obtain ⟨first', rest', shape', perm', root'⟩ := buildConversation_tree conforms built'
  have listed : ∀ message ∈ first :: rest, IsUuid message.messageId :=
    fun message member => ids message (perm.mem_iff.mp member)
  have listed' : ∀ message ∈ first' :: rest', IsUuid message.messageId :=
    fun message member => ids' message (perm'.mem_iff.mp member)
  rw [shape, shape', root, root', Hex32.hexlify_inj]
  constructor
  · intro equal
    rw [or_iff_not_imp_right]
    intro safe
    have trees := same_of_digest_eq encodes_packPair safe (leafLength_treeOf listed)
      (leafLength_treeOf listed')
      (fun input member => List.mem_append_left _ (mem_hashedByBuild member))
      (fun input member => List.mem_append_right _ (mem_hashedByBuild member)) equal
    have same : SameTrees (first :: rest) (first' :: rest') :=
      ⟨first, rest, first', rest', rfl, rfl, sameTrees_of_leafInputs safe trees⟩
    refine ⟨same, fun messageId plaintext => ?_⟩
    rw [← inBatch_perm perm, ← inBatch_perm perm']
    exact same.inBatch_iff messageId plaintext
  · rintro ⟨first, rest, first', rest', ⟨rfl, rfl⟩, ⟨rfl, rfl⟩, trees⟩
    apply digest_eq_of_same encodes_packPair
    rw [treeOf_map, treeOf_map] at trees ⊢
    refine trees.transfer fun message _ message' _ same => ?_
    rw [leafInputOf, leafInputOf, (Prod.mk.inj same).1, (Prod.mk.inj same).2]

/-! ## Two orders of one batch -/

def hi (createdAt : String) : AnchoredMessage := ⟨Uuid.str 7, "hi", some createdAt⟩

def bye (createdAt : String) : AnchoredMessage := ⟨Uuid.str 8, "bye", some createdAt⟩

def hiFirst : List AnchoredMessage := [hi "2026-01-01T00:00:00Z", bye "2026-01-02T00:00:00Z"]

def byeFirst : List AnchoredMessage := [hi "2026-01-02T00:00:00Z", bye "2026-01-01T00:00:00Z"]

theorem isUuid_pair (createdAt createdAt' : String) :
    ∀ message ∈ [hi createdAt, bye createdAt'], IsUuid message.messageId := by
  intro message member
  simp only [List.mem_cons, List.not_mem_nil, or_false] at member
  rcases member with rfl | rfl
  · exact ⟨7, rfl⟩
  · exact ⟨8, rfl⟩

theorem ordered_hiFirst : insertionSort (compareMessages compareCodeUnits) hiFirst = hiFirst := by
  decide

theorem ordered_byeFirst :
    insertionSort (compareMessages compareCodeUnits) byeFirst = byeFirst.reverse := by
  decide

theorem sameUpToSwaps_pair {α : Type} (first second : α) :
    Tree.SameUpToSwaps (treeOf first [second]) (treeOf second [first]) := by
  simp only [treeOf, List.map_cons, List.map_nil, PairTree.root, PairTree.nextLayer, PairTree.pairs]
  exact .crossed (.leaf first) (.leaf second)

theorem digest_pair_comm (first second : List Byte) :
    digest keccak256 packPair (treeOf first [second]) =
      digest keccak256 packPair (treeOf second [first]) :=
  digest_eq_of_same encodes_packPair (sameUpToSwaps_pair first second)

/-- The trees of the two orders differ by one swap. -/
theorem sameTrees_pair : SameTrees hiFirst byeFirst.reverse :=
  ⟨_, _, _, _, rfl, rfl, sameUpToSwaps_pair (Uuid.str 7, "hi") (Uuid.str 8, "bye")⟩

theorem build_pair (messages : List AnchoredMessage) (nonempty : messages ≠ []) : ∃ conversation,
    buildConversationMerkleTree Bytes32.keccak256 insertionSort compareCodeUnits messages =
      .ok conversation ∧
    conversation.orderedMessages = insertionSort (compareMessages compareCodeUnits) messages := by
  obtain ⟨conversation, built⟩ := @buildConversation_isOk Bytes32.keccak256 insertionSort
    compareCodeUnits conforms_insertionSort messages nonempty
  exact ⟨conversation, built, (buildConversation_ok built).2.1⟩

theorem root_binds_pair : ∃ conversation conversation',
    buildConversationMerkleTree Bytes32.keccak256 insertionSort compareCodeUnits hiFirst =
      .ok conversation ∧
    buildConversationMerkleTree Bytes32.keccak256 insertionSort compareCodeUnits byeFirst =
      .ok conversation' ∧
    conversation.root = conversation'.root := by
  obtain ⟨conversation, built, ordered⟩ := build_pair hiFirst (List.cons_ne_nil _ _)
  obtain ⟨conversation', built', ordered'⟩ := build_pair byeFirst (List.cons_ne_nil _ _)
  refine ⟨conversation, conversation', built, built', ?_⟩
  apply (root_binds conforms_insertionSort built built' (isUuid_pair _ _) (isUuid_pair _ _)).2
  rw [ordered, ordered', ordered_hiFirst, ordered_byeFirst]
  exact sameTrees_pair

/-- Every byte string hashed for the two messages. -/
def pairInputs (hash : List Byte → Bytes32) : List (List Byte) := [
  Json.utf8 "hi".toList,
  Json.utf8 "bye".toList,
  leafInput hash (Uuid.str 7) "hi",
  leafInput hash (Uuid.str 8) "bye",
  packPair (hash (leafInput hash (Uuid.str 7) "hi")) (hash (leafInput hash (Uuid.str 8) "bye"))]

theorem nodup_pairInputs : ((pairInputs Bytes32.keccak256).map Bytes32.keccak256).Nodup := by
  rw [Bytes32.keccak256_eq_evaluated]
  decide +kernel

theorem hashedByBuild_pair (first second : AnchoredMessage) :
    hashedByBuild keccak256 [first, second] = [Json.utf8 first.plaintext.toList,
      Json.utf8 second.plaintext.toList, leafInputOf keccak256 first, leafInputOf keccak256 second,
      packPair (keccak256 (leafInputOf keccak256 first)) (keccak256 (leafInputOf keccak256 second))] := by
  simp [hashedByBuild, nodeInputs, PairTree.joined_cons_cons, PairTree.nextLayer, PairTree.pairs,
    PairTree.joined_single]

theorem mem_hashedByBuild_comm {first second : AnchoredMessage} {input : List Byte} :
    input ∈ hashedByBuild keccak256 [first, second] ↔ input ∈ hashedByBuild keccak256 [second, first] := by
  rw [hashedByBuild_pair, hashedByBuild_pair, packPair_comm]
  simp only [List.mem_cons]
  tauto

theorem hashedByBuild_hi_bye (createdAt createdAt' : String) :
    hashedByBuild keccak256 [hi createdAt, bye createdAt'] = pairInputs keccak256 := by
  simp only [hashedByBuild_pair, hi, bye, leafInputOf, pairInputs]

/-- No two of the byte strings hashed in the two builds collide. -/
theorem pair_safe : ¬ Collides Bytes32.keccak256
    (hashedByBuild Bytes32.keccak256 hiFirst ++ hashedByBuild Bytes32.keccak256 byeFirst.reverse) := by
  rintro ⟨first, member, second, member', different, same⟩
  have within : ∀ input ∈ hashedByBuild Bytes32.keccak256 hiFirst ++
      hashedByBuild Bytes32.keccak256 byeFirst.reverse, input ∈ pairInputs Bytes32.keccak256 := by
    intro input found
    rcases List.mem_append.mp found with early | late
    · rw [hiFirst, hashedByBuild_hi_bye] at early
      exact early
    · have swapped := mem_hashedByBuild_comm.mp late
      rw [hashedByBuild_hi_bye] at swapped
      exact swapped
  exact different (List.inj_on_of_nodup_map nodup_pairInputs (within first member)
    (within second member') same)

/-- The same two messages in the other order have the same root, without a collision. -/
theorem swapped_batch_has_same_root : ∃ conversation conversation',
    buildConversationMerkleTree Bytes32.keccak256 insertionSort compareCodeUnits hiFirst =
      .ok conversation ∧
    buildConversationMerkleTree Bytes32.keccak256 insertionSort compareCodeUnits byeFirst =
      .ok conversation' ∧
    conversation.root = conversation'.root ∧
    conversation.orderedMessages.map content ≠ conversation'.orderedMessages.map content ∧
    ¬ Collides Bytes32.keccak256 (hashedByBuild Bytes32.keccak256 conversation.orderedMessages ++
      hashedByBuild Bytes32.keccak256 conversation'.orderedMessages) := by
  obtain ⟨conversation, built, ordered⟩ := build_pair hiFirst (List.cons_ne_nil _ _)
  obtain ⟨conversation', built', ordered'⟩ := build_pair byeFirst (List.cons_ne_nil _ _)
  refine ⟨conversation, conversation', built, built', ?_, ?_, ?_⟩
  · obtain ⟨first, rest, shape, -, root⟩ := buildConversation_tree conforms_insertionSort built
    obtain ⟨first', rest', shape', -, root'⟩ := buildConversation_tree conforms_insertionSort built'
    rw [ordered, ordered_hiFirst] at shape
    rw [ordered', ordered_byeFirst] at shape'
    cases shape
    cases shape'
    rw [root, root', Hex32.hexlify_inj]
    exact digest_pair_comm _ _
  · rw [ordered, ordered', ordered_hiFirst, ordered_byeFirst]
    decide
  · rw [ordered, ordered', ordered_hiFirst, ordered_byeFirst]
    exact pair_safe

end EpicKfc.Guarantees.ConversationBinding
