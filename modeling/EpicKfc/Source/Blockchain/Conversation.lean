import EpicKfc.Source.Blockchain.Merkle
import EpicKfc.Source.Server.Identifiers
import Mathlib.Data.List.Sort

/-!
# Conversations on chain

`blockchain/src/conversation.ts`, the calls of `blockchain/src/index.ts` and the
client under them. `localeCompare` and the engine's `sort` are parameters: the
language fixes the result of a sort only where the comparator is consistent, and
only up to items that compare equal.
-/

namespace EpicKfc.Source.Blockchain.Conversation
open EpicKfc.Lib
open EpicKfc.Lib.Keccak (Byte)
open EpicKfc.Lib.HashTree
open EpicKfc.Source.Blockchain.Merkle
open EpicKfc.Source.Blockchain.MessageFidelity

structure AnchoredMessage where
  messageId : String
  plaintext : String
  createdAt : Option String
deriving DecidableEq, Repr

/-! ## Order -/

/-- The comparator; an absent or an empty `createdAt` is false. -/
def compareMessages (localeCompare : String → String → Ordering) (a b : AnchoredMessage) : Ordering :=
  let timeA := a.createdAt.getD ""
  let timeB := b.createdAt.getD ""
  if timeA ≠ "" ∧ timeB ≠ "" ∧ timeA ≠ timeB then localeCompare timeA timeB
  else localeCompare a.messageId b.messageId

/-- A consistent comparator for the items of a list, as the language defines it. -/
structure Consistent {α : Type} (compare : α → α → Ordering) (items : List α) : Prop where
  refl : ∀ a ∈ items, compare a a = .eq
  symm : ∀ a ∈ items, ∀ b ∈ items, compare a b = .eq → compare b a = .eq
  eq_trans : ∀ a ∈ items, ∀ b ∈ items, ∀ c ∈ items,
    compare a b = .eq → compare b c = .eq → compare a c = .eq
  lt_trans : ∀ a ∈ items, ∀ b ∈ items, ∀ c ∈ items,
    compare a b = .lt → compare b c = .lt → compare a c = .lt
  gt_trans : ∀ a ∈ items, ∀ b ∈ items, ∀ c ∈ items,
    compare a b = .gt → compare b c = .gt → compare a c = .gt

/-- `Array.prototype.sort` with a comparator. -/
abbrev ArraySort := (AnchoredMessage → AnchoredMessage → Ordering) → List AnchoredMessage →
  List AnchoredMessage

/-- What the language promises of `sort`. -/
structure Conforms (sort : ArraySort) : Prop where
  perm : ∀ compare items, List.Perm (sort compare items) items
  sorted : ∀ compare items, Consistent compare items →
    (sort compare items).Pairwise fun a b => compare b a ≠ .lt

theorem Consistent.gt_iff {α : Type} {compare : α → α → Ordering} {items : List α}
    (consistent : Consistent compare items) {a b : α} (here : a ∈ items) (there : b ∈ items) :
    compare a b = .gt ↔ compare b a = .lt := by
  have same := consistent.refl a here
  constructor
  · intro after
    cases back : compare b a with
    | lt => rfl
    | eq => rw [consistent.symm b there a here back] at after; cases after
    | gt => rw [consistent.gt_trans a here b there a here after back] at same; cases same
  · intro before
    cases back : compare a b with
    | lt => rw [consistent.lt_trans a here b there a here back before] at same; cases same
    | eq => rw [consistent.symm a here b there back] at before; cases before
    | gt => rfl

/-- The second item does not have to come first. -/
def inOrder {α : Type} (compare : α → α → Ordering) (a b : α) : Prop := compare b a ≠ .lt

instance {α : Type} (compare : α → α → Ordering) : DecidableRel (inOrder compare) := fun a b =>
  inferInstanceAs (Decidable (compare b a ≠ .lt))

theorem Consistent.total {α : Type} {compare : α → α → Ordering} {items : List α}
    (consistent : Consistent compare items) {a b : α} (here : a ∈ items) (there : b ∈ items) :
    inOrder compare a b ∨ inOrder compare b a := by
  by_contra neither
  simp only [inOrder, not_or, not_not] at neither
  have same := consistent.lt_trans a here b there a here neither.2 neither.1
  rw [consistent.refl a here] at same
  cases same

theorem Consistent.trans {α : Type} {compare : α → α → Ordering} {items : List α}
    (consistent : Consistent compare items) {a b c : α} (ha : a ∈ items) (hb : b ∈ items)
    (hc : c ∈ items) (first : inOrder compare a b) (second : inOrder compare b c) :
    inOrder compare a c := by
  intro before
  cases middle : compare b a with
  | lt => exact first middle
  | gt =>
    have after := (consistent.gt_iff hb ha).mp middle
    exact second (consistent.lt_trans c hc a ha b hb before after)
  | eq =>
    cases outer : compare c b with
    | lt => exact second outer
    | eq =>
      rw [consistent.eq_trans c hc b hb a ha outer middle] at before
      cases before
    | gt =>
      have after := (consistent.gt_iff hc hb).mp outer
      rw [consistent.lt_trans b hb c hc a ha after before] at middle
      cases middle

/-- A sort by insertion, as engines do on short arrays. -/
def insertionSort : ArraySort := fun compare items => items.insertionSort (inOrder compare)

theorem conforms_insertionSort : Conforms insertionSort where
  perm _ items := List.perm_insertionSort _ items
  sorted compare items consistent := by
    -- on the items of the list alone the comparator is a total preorder
    have total : Std.Total fun a b : {message // message ∈ items} => inOrder compare a.1 b.1 :=
      ⟨fun a b => consistent.total a.2 b.2⟩
    have trans : IsTrans {message // message ∈ items} fun a b => inOrder compare a.1 b.1 :=
      ⟨fun a b c => consistent.trans a.2 b.2 c.2⟩
    have mapped := List.map_insertionSort (fun a b : {message // message ∈ items} =>
      inOrder compare a.1 b.1) (inOrder compare) Subtype.val items.attach (fun _ _ _ _ => Iff.rfl)
    rw [List.attach_map_subtype_val] at mapped
    rw [insertionSort, ← mapped, List.pairwise_map]
    exact List.pairwise_insertionSort (fun a b : {message // message ∈ items} =>
      inOrder compare a.1 b.1) items.attach

/-- A strict total order, with the answers of a comparison. -/
structure StrictTotal (localeCompare : String → String → Ordering) : Prop where
  eq_iff : ∀ a b, localeCompare a b = .eq ↔ a = b
  gt_iff : ∀ a b, localeCompare a b = .gt ↔ localeCompare b a = .lt
  trans : ∀ a b c, localeCompare a b = .lt → localeCompare b c = .lt → localeCompare a c = .lt

/-- The order by code units as a comparison. -/
def compareCodeUnits (a b : String) : Ordering :=
  if CodeUnits.Before a.toList b.toList then .lt else if a = b then .eq else .gt

theorem compareCodeUnits_lt_iff {a b : String} :
    compareCodeUnits a b = .lt ↔ CodeUnits.Before a.toList b.toList := by
  rw [compareCodeUnits]
  split
  · next before => exact iff_of_true rfl before
  · next other => split <;> simp [other]

theorem compareCodeUnits_eq_iff {a b : String} : compareCodeUnits a b = .eq ↔ a = b := by
  rw [compareCodeUnits]
  split
  · next before =>
    refine iff_of_false (by decide) fun same => ?_
    subst same
    exact before.asymm before
  · split <;> simp_all

theorem strictTotal_compareCodeUnits : StrictTotal compareCodeUnits where
  eq_iff _ _ := compareCodeUnits_eq_iff
  gt_iff a b := by
    rw [compareCodeUnits_lt_iff]
    constructor
    · intro after
      rcases CodeUnits.before_total a.toList b.toList with before | same | later
      · rw [compareCodeUnits_lt_iff.mpr before] at after; cases after
      · rw [compareCodeUnits_eq_iff.mpr (String.toList_inj.mp same)] at after; cases after
      · exact later
    · intro later
      cases answer : compareCodeUnits a b with
      | lt => exact absurd (compareCodeUnits_lt_iff.mp answer) later.asymm
      | eq =>
        obtain rfl := compareCodeUnits_eq_iff.mp answer
        exact absurd later later.asymm
      | gt => rfl
  trans a b c before before' := by
    rw [compareCodeUnits_lt_iff] at before before' ⊢
    exact before.trans before'

/-- `[userIdA, userIdB].sort()`, by code units. -/
def sortPair (userIdA userIdB : String) : String × String :=
  if CodeUnits.Before userIdB.toList userIdA.toList then (userIdB, userIdA) else (userIdA, userIdB)

def segmentText (userIdA userIdB segmentKey : String) : String :=
  let sorted := sortPair userIdA userIdB
  "direct:" ++ sorted.1 ++ ":" ++ sorted.2 ++ ":segment:" ++ segmentKey

/-- `ethers.id` of the text. -/
def deriveConversationSegmentRecordId (keccak256 : List Byte → Bytes32)
    (userIdA userIdB segmentKey : String) : Hex32 :=
  Hex32.hexlify (keccak256 (Json.utf8 (segmentText userIdA userIdB segmentKey).toList))

/-! ## Trees -/

inductive ConversationError where
  | noMessage
  | merkle (error : MerkleError)
  | notInTree (messageId : String)
  | notInList (messageId : String)
  | reverted (error : FidelityError)

/-- The texts of the package's own errors. -/
def ConversationError.message : ConversationError → Option String
  | .noMessage => some "Conversation must contain at least one message"
  | .merkle error => some error.message
  | .notInTree messageId => some ("Message not in conversation tree: " ++ messageId)
  | .notInList messageId => some ("Message " ++ messageId ++ " not in conversation list")
  | .reverted _ => none

structure ConversationTree where
  orderedMessages : List AnchoredMessage
  leaves : List Hex32
  tree : MerkleTree

def ConversationTree.root (conversation : ConversationTree) : Hex32 := conversation.tree.root

def messageLeaf (keccak256 : List Byte → Bytes32) (message : AnchoredMessage) : Hex32 :=
  hashMessageLeaf keccak256 message.messageId message.plaintext

def buildConversationMerkleTree (keccak256 : List Byte → Bytes32) (sort : ArraySort)
    (localeCompare : String → String → Ordering) (messages : List AnchoredMessage) :
    Except ConversationError ConversationTree :=
  if messages = [] then .error .noMessage
  else
    let ordered := sort (compareMessages localeCompare) messages
    let leaves := ordered.map (messageLeaf keccak256)
    match buildMerkleTree keccak256 leaves with
    | .error error => .error (.merkle error)
    | .ok tree => .ok ⟨ordered, leaves, tree⟩

def ConversationTree.getProofForMessage (conversation : ConversationTree) (messageId : String) :
    Except ConversationError (List Hex32) :=
  match conversation.orderedMessages.findIdx? fun message => message.messageId = messageId with
  | none => .error (.notInTree messageId)
  | some index => (conversation.tree.getProof index).mapError .merkle

def ConversationTree.verifyMessage (keccak256 : List Byte → Bytes32) (conversation : ConversationTree)
    (messageId plaintext : String) (proof : List Hex32) : Bool :=
  conversation.tree.verifyProof keccak256 (hashMessageLeaf keccak256 messageId plaintext) proof

/-! ## On chain -/

structure AnchorConversationResult where
  recordId : Hex32
  merkleRoot : Hex32
  messageCount : Nat
  anchoredAt : Uint256

/-- The default segment key is `String(messages.length)`. -/
def segmentKeyOf (segmentKey : Option String) (messages : List AnchoredMessage) : String :=
  segmentKey.getD (toString messages.length)

/-- The transaction of `anchorMerkleRoot`, sent by the client's wallet. -/
def anchorMerkleRoot (sender : Address) (now : BlockTime) (recordId merkleRoot : Hex32)
    (contract : Contract) : Except ConversationError (Contract × Uint256) :=
  match storeHash sender now recordId.value merkleRoot.value contract with
  | .error error => .error (.reverted error)
  | .ok (contract', event) => .ok (contract', event.anchoredAt)

def anchorConversationOnChain (keccak256 : List Byte → Bytes32) (sort : ArraySort)
    (localeCompare : String → String → Ordering) (sender : Address) (now : BlockTime)
    (userIdA userIdB : String) (messages : List AnchoredMessage) (segmentKey : Option String)
    (contract : Contract) : Except ConversationError (AnchorConversationResult × Contract) := do
  let conversation ← buildConversationMerkleTree keccak256 sort localeCompare messages
  let recordId := deriveConversationSegmentRecordId keccak256 userIdA userIdB
    (segmentKeyOf segmentKey messages)
  let (contract', anchoredAt) ← anchorMerkleRoot sender now recordId conversation.root contract
  return (⟨recordId, conversation.root, messages.length, anchoredAt⟩, contract')

structure VerifyMessageResult where
  pass : Bool
  leaf : Hex32
  onChainRoot : Hex32
  anchoredAt : Uint256
  merkleProof : List Hex32

/-- The client's `verifyMessageInHistory`: the anchored root, then the contract's answer. -/
def verifyInHistory (keccak256 : List Byte → Bytes32) (recordId leaf : Hex32) (proof : List Hex32)
    (contract : Contract) : Except ConversationError (Bool × Hex32 × Uint256) := do
  let (root, anchoredAt) ← (getHash recordId.value contract).mapError .reverted
  let contractVerified ← (verifyMessageInHistory keccak256 recordId.value leaf.value
    (proof.map Hex32.value) contract).mapError .reverted
  return (contractVerified, Hex32.hexlify root, anchoredAt)

def verifyMessageOnChain (keccak256 : List Byte → Bytes32) (sort : ArraySort)
    (localeCompare : String → String → Ordering) (userIdA userIdB : String)
    (allMessagesInConversation : List AnchoredMessage) (messageIdToVerify : String)
    (segmentKey : Option String) (contract : Contract) :
    Except ConversationError VerifyMessageResult := do
  let recordId := deriveConversationSegmentRecordId keccak256 userIdA userIdB
    (segmentKeyOf segmentKey allMessagesInConversation)
  let conversation ← buildConversationMerkleTree keccak256 sort localeCompare
    allMessagesInConversation
  match allMessagesInConversation.find? fun message => message.messageId = messageIdToVerify with
  | none => throw (.notInList messageIdToVerify)
  | some target =>
    let leaf := messageLeaf keccak256 target
    let merkleProof ← conversation.getProofForMessage messageIdToVerify
    let offChainOk :=
      conversation.verifyMessage keccak256 messageIdToVerify target.plaintext merkleProof
    let (pass, onChainRoot, anchoredAt) ← verifyInHistory keccak256 recordId leaf merkleProof contract
    return ⟨offChainOk && pass, leaf, onChainRoot, anchoredAt, merkleProof⟩

/-! ## Built trees -/

/-- A message id as the backend issues them. -/
def IsUuid (text : String) : Prop := ∃ id : Server.Uuid, text = id.str

/-- The batch has a message with this id and text. -/
def InBatch (messages : List AnchoredMessage) (messageId plaintext : String) : Prop :=
  ∃ message ∈ messages, message.messageId = messageId ∧ message.plaintext = plaintext

theorem inBatch_perm {messages messages' : List AnchoredMessage}
    (perm : List.Perm messages messages') {messageId plaintext : String} :
    InBatch messages messageId plaintext ↔ InBatch messages' messageId plaintext := by
  simp only [InBatch, perm.mem_iff]

/-- What is hashed for the leaf of a message. -/
def leafInputOf (keccak256 : List Byte → Bytes32) (message : AnchoredMessage) : List Byte :=
  leafInput keccak256 message.messageId message.plaintext

/-- Every byte string hashed while the tree over the messages is built. -/
def hashedByBuild (keccak256 : List Byte → Bytes32) (messages : List AnchoredMessage) :
    List (List Byte) :=
  messages.map (fun message => Json.utf8 message.plaintext.toList) ++
    (messages.map (leafInputOf keccak256) ++
      nodeInputs keccak256 packPair (messages.map fun message => keccak256 (leafInputOf keccak256 message)))

variable {keccak256 : List Byte → Bytes32} {sort : ArraySort}
  {localeCompare : String → String → Ordering}

theorem length_utf8_of_isUuid {text : String} (uuid : IsUuid text) :
    (Json.utf8 text.toList).length = 36 := by
  obtain ⟨id, rfl⟩ := uuid
  rw [Json.length_utf8 id.ascii_str, id.length_str]

theorem length_leafInput {messageId : String} (uuid : IsUuid messageId) (plaintext : String) :
    (leafInput keccak256 messageId plaintext).length = 68 := by
  rw [leafInput, List.length_append, length_utf8_of_isUuid uuid, Bytes32.length_toBytes]

theorem leafLength_of_isUuid {messageId : String} (uuid : IsUuid messageId) (plaintext : String) :
    LeafLength (leafInput keccak256 messageId plaintext) := by
  rw [LeafLength, length_leafInput uuid]
  decide

/-- What is hashed for a message tells its id and the hash of its text. -/
theorem leafInput_inj {messageId messageId' plaintext plaintext' : String}
    (same : leafInput keccak256 messageId plaintext = leafInput keccak256 messageId' plaintext') :
    messageId = messageId' ∧
      keccak256 (Json.utf8 plaintext.toList) = keccak256 (Json.utf8 plaintext'.toList) := by
  obtain ⟨ids, texts⟩ := List.append_inj' same (by rw [Bytes32.length_toBytes, Bytes32.length_toBytes])
  rw [Bytes32.toBytes_inj, Hex32.value_hexlify, Hex32.value_hexlify] at texts
  exact ⟨String.toList_inj.mp (Json.utf8_injective ids), texts⟩

theorem value_messageLeaf (message : AnchoredMessage) :
    (messageLeaf keccak256 message).value = keccak256 (leafInputOf keccak256 message) :=
  value_hashMessageLeaf message.messageId message.plaintext

theorem buildConversation_ok {messages : List AnchoredMessage} {conversation : ConversationTree}
    (built : buildConversationMerkleTree keccak256 sort localeCompare messages = .ok conversation) :
    messages ≠ [] ∧
      conversation.orderedMessages = sort (compareMessages localeCompare) messages ∧
      buildMerkleTree keccak256 (conversation.orderedMessages.map (messageLeaf keccak256)) =
        .ok conversation.tree := by
  unfold buildConversationMerkleTree at built
  split at built
  · cases built
  · next nonempty =>
    dsimp only at built
    split at built
    · cases built
    · next tree merkle =>
      cases built
      exact ⟨nonempty, rfl, merkle⟩

/-- A batch with a message always has a tree. -/
theorem buildConversation_isOk (conforms : Conforms sort) {messages : List AnchoredMessage}
    (nonempty : messages ≠ []) : ∃ conversation,
      buildConversationMerkleTree keccak256 sort localeCompare messages = .ok conversation := by
  have perm := conforms.perm (compareMessages localeCompare) messages
  have ordered : (sort (compareMessages localeCompare) messages).map (messageLeaf keccak256) ≠ [] := by
    intro empty
    rw [List.map_eq_nil_iff] at empty
    rw [empty] at perm
    exact nonempty (List.nil_perm.mp perm)
  obtain ⟨tree, built⟩ := @buildMerkleTree_isOk keccak256 _ ordered
  have whole : buildConversationMerkleTree keccak256 sort localeCompare messages =
      .ok ⟨sort (compareMessages localeCompare) messages,
        (sort (compareMessages localeCompare) messages).map (messageLeaf keccak256), tree⟩ := by
    rw [buildConversationMerkleTree, if_neg nonempty]
    simp only [built]
  exact ⟨_, whole⟩

/-- A built tree is over the messages of the batch in some order, and its root is the digest of
the hash tree over them. -/
theorem buildConversation_tree (conforms : Conforms sort) {messages : List AnchoredMessage}
    {conversation : ConversationTree}
    (built : buildConversationMerkleTree keccak256 sort localeCompare messages = .ok conversation) :
    ∃ first rest, conversation.orderedMessages = first :: rest ∧
      List.Perm (first :: rest) messages ∧
      conversation.root = Hex32.hexlify (digest keccak256 packPair
        (treeOf (leafInputOf keccak256 first) (rest.map (leafInputOf keccak256)))) := by
  obtain ⟨nonempty, ordered, merkle⟩ := buildConversation_ok built
  have perm := conforms.perm (compareMessages localeCompare) messages
  rw [← ordered] at perm
  obtain ⟨first, rest, shape⟩ : ∃ first rest, conversation.orderedMessages = first :: rest := by
    apply List.exists_cons_of_ne_nil
    intro empty
    rw [empty] at perm
    exact nonempty (List.nil_perm.mp perm)
  have words : (rest.map (messageLeaf keccak256)).map Hex32.value =
      (rest.map (leafInputOf keccak256)).map keccak256 := by
    rw [List.map_map, List.map_map]
    apply List.map_congr_left
    intro message _
    exact value_messageLeaf message
  rw [shape] at perm
  rw [shape, List.map_cons] at merkle
  refine ⟨first, rest, shape, perm, ?_⟩
  rw [ConversationTree.root, root_eq_hexlify merkle, value_root_of_built merkle, digest_treeOf,
    value_messageLeaf, words]

/-- The hash tree over the messages hashes nothing else. -/
theorem mem_hashedByBuild {first : AnchoredMessage} {rest : List AnchoredMessage} {input : List Byte}
    (member : input ∈ inputs keccak256 packPair
      (treeOf (leafInputOf keccak256 first) (rest.map (leafInputOf keccak256)))) :
    input ∈ hashedByBuild keccak256 (first :: rest) := by
  have found := mem_inputs_treeOf member
  rw [← List.map_cons, List.map_map] at found
  rw [hashedByBuild]
  exact List.mem_append_right _ found

theorem plaintext_mem_hashedByBuild {messages : List AnchoredMessage} {message : AnchoredMessage}
    (member : message ∈ messages) :
    Json.utf8 message.plaintext.toList ∈ hashedByBuild keccak256 messages :=
  List.mem_append_left _
    (List.mem_map_of_mem (f := fun message => Json.utf8 message.plaintext.toList) member)

/-- The leaves of the hash tree over messages with UUIDs are told from its nodes. -/
theorem leafLength_treeOf {first : AnchoredMessage} {rest : List AnchoredMessage}
    (ids : ∀ message ∈ first :: rest, IsUuid message.messageId) :
    ∀ leaf ∈ (treeOf (leafInputOf keccak256 first) (rest.map (leafInputOf keccak256))).leaves,
      LeafLength leaf := by
  intro leaf member
  rw [mem_leaves_treeOf, ← List.map_cons] at member
  obtain ⟨message, belongs, rfl⟩ := List.mem_map.mp member
  exact leafLength_of_isUuid (ids message belongs) message.plaintext

end EpicKfc.Source.Blockchain.Conversation
