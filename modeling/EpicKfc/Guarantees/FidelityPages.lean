import EpicKfc.Guarantees.AnchorThenVerify
import EpicKfc.Source.Blockchain.FidelityPage

/-!
# The verdict of the fidelity page

The page compares the anchored root with the root it builds; the library checks the
proof against both. A proof that leads to one of them leads to the other exactly when
they are the same word, so page and library give one verdict, except that the page also
shows the time of the record as a date and fails where there is none. For a batch with
distinct ids the verdict says whether the contract holds the batch's root.
-/

namespace EpicKfc.Guarantees.FidelityPages
open EpicKfc.Lib.Keccak (Byte)
open EpicKfc.Source.Blockchain
open EpicKfc.Source.Blockchain.Merkle
open EpicKfc.Source.Blockchain.MessageFidelity
open EpicKfc.Source.Blockchain.Conversation
open EpicKfc.Source.Blockchain.FidelityPage

variable {keccak256 : List Byte → Bytes32} {sort : ArraySort}
  {localeCompare : String → String → Ordering} {messages : List AnchoredMessage}
  {contract : Contract}

/-- The proof of a message leads to the root of its tree, which the record holds. -/
structure Proven (keccak256 : List Byte → Bytes32) (contract : Contract) (recordId : Hex32)
    (built : ConversationTree) (target : AnchoredMessage) (words : List Hex32) : Prop where
  given : built.getProofForMessage target.messageId = .ok words
  leads : Merkle.verifyMerkleProof keccak256 built.root (messageLeaf keccak256 target) words = true
  holds : Holds contract recordId.value built.root.value

/-- The record's time is one that the page can show. -/
def Dated (contract : Contract) (recordId : Hex32) : Prop :=
  (contract.records recordId.value).anchoredAt.toNat ≤ maxTime

theorem mapError_ok_iff {ε ε' α : Type} {wrap : ε → ε'} {result : Except ε α} {value : α} :
    result.mapError wrap = .ok value ↔ result = .ok value := by
  cases result with
  | error problem => simp [Except.mapError]
  | ok value => simp [Except.mapError]

/-- A record that answers holds what it answers. -/
theorem getHash_ok_iff {recordId root : Bytes32} {anchoredAt : Uint256} :
    getHash recordId contract = .ok (root, anchoredAt) ↔
      Holds contract recordId root ∧ (contract.records recordId).anchoredAt = anchoredAt := by
  rw [getHash, Holds, hasRecord, decide_eq_true_eq]
  split
  · next absent => simp [absent]
  · next present =>
    simp only [Except.ok.injEq, Prod.mk.injEq]
    constructor
    · rintro ⟨root, time⟩
      exact ⟨⟨present, root⟩, time⟩
    · rintro ⟨⟨-, root⟩, time⟩
      exact ⟨root, time⟩

/-- What the contract answers on a proof against a record. -/
theorem verifyMessageInHistory_ok_iff {recordId leaf : Bytes32} {proof : List Bytes32}
    {answer : Bool} : verifyMessageInHistory keccak256 recordId leaf proof contract = .ok answer ↔
      ∃ root, Holds contract recordId root ∧
        MessageFidelity.verifyMerkleProof keccak256 leaf root proof = answer := by
  simp only [verifyMessageInHistory, bind_ok_iff, pure_ok_iff, Prod.exists, getHash_ok_iff]
  constructor
  · rintro ⟨root, _, ⟨holds, -⟩, answers⟩
    exact ⟨root, holds, answers⟩
  · rintro ⟨root, holds, answers⟩
    exact ⟨root, _, ⟨holds, rfl⟩, answers⟩

theorem verifyInHistory_ok_iff {recordId leaf onChainRoot : Hex32} {words : List Hex32}
    {answer : Bool} {anchoredAt : Uint256} :
    verifyInHistory keccak256 recordId leaf words contract = .ok (answer, onChainRoot, anchoredAt) ↔
      ∃ root, Holds contract recordId.value root ∧ Hex32.hexlify root = onChainRoot ∧
        (contract.records recordId.value).anchoredAt = anchoredAt ∧
        MessageFidelity.verifyMerkleProof keccak256 leaf.value root (words.map Hex32.value) =
          answer := by
  simp only [verifyInHistory, bind_ok_iff, pure_ok_iff, mapError_ok_iff, Prod.exists, getHash_ok_iff,
    verifyMessageInHistory_ok_iff, Prod.mk.injEq]
  constructor
  · rintro ⟨root, _, ⟨holds, time⟩, _, ⟨root', holds', answers⟩, rfl, shown, rfl⟩
    obtain rfl : root = root' := holds.2.symm.trans holds'.2
    exact ⟨root, holds, shown, time, answers⟩
  · rintro ⟨root, holds, shown, time, answers⟩
    exact ⟨root, anchoredAt, ⟨holds, time⟩, answer, ⟨root, holds, answers⟩, rfl, shown, rfl⟩

section Proofs
variable {merkleRoot leaf : Hex32} {root : Bytes32} {words : List Hex32}

/-- A proof that leads to both roots: they are one word. -/
theorem leads_to_both_iff : Merkle.verifyMerkleProof keccak256 merkleRoot leaf words = true ∧
      MessageFidelity.verifyMerkleProof keccak256 leaf.value root (words.map Hex32.value) = true ↔
    Merkle.verifyMerkleProof keccak256 merkleRoot leaf words = true ∧ merkleRoot.value = root := by
  rw [verifyMerkleProof_iff, MessageFidelity.verifyMerkleProof, decide_eq_true_eq, foldProof_eq]
  apply and_congr_right
  intro climbs
  rw [climbs]

/-- The page compares the texts of the roots. -/
theorem leads_and_matches_iff :
    MessageFidelity.verifyMerkleProof keccak256 leaf.value root (words.map Hex32.value) = true ∧
      merkleRoot.toLowerCase = (Hex32.hexlify root).toLowerCase ↔
    Merkle.verifyMerkleProof keccak256 merkleRoot leaf words = true ∧ merkleRoot.value = root := by
  rw [toLowerCase_inj, Hex32.value_hexlify]
  apply and_congr_left
  rintro rfl
  rw [contract_verifyMerkleProof]

end Proofs

/-! ## The library -/

/-- When the library passes a message. -/
theorem verifyMessage_passes_iff {userA userB messageId : String} {segmentKey : Option String} :
    (∃ verdict, verifyMessageOnChain keccak256 sort localeCompare userA userB messages messageId
        segmentKey contract = .ok verdict ∧ verdict.pass = true) ↔
      ∃ target, messages.find? (fun message => message.messageId = messageId) = some target ∧
        ∃ built words,
          Conversation.buildConversationMerkleTree keccak256 sort localeCompare messages =
            .ok built ∧
          Proven keccak256 contract (deriveConversationSegmentRecordId keccak256 userA userB
            (segmentKeyOf segmentKey messages)) built target words := by
  constructor
  · rintro ⟨verdict, verified, passes⟩
    simp only [verifyMessageOnChain, bind_ok_iff] at verified
    obtain ⟨built, build, later⟩ := verified
    split at later
    · cases later
    · next target found =>
      obtain rfl : target.messageId = messageId := by simpa using List.find?_some found
      simp only [bind_ok_iff, pure_ok_iff, Prod.exists] at later
      obtain ⟨words, given, onChain, _, _, checked, rfl⟩ := later
      obtain ⟨root, holds, -, -, answers⟩ := verifyInHistory_ok_iff.mp checked
      rw [Bool.and_eq_true, ← answers] at passes
      obtain ⟨leads, same⟩ := leads_to_both_iff.mp passes
      rw [← same] at holds
      exact ⟨target, found, built, words, build, given, leads, holds⟩
  · rintro ⟨target, found, built, words, build, given, leads, holds⟩
    obtain rfl : target.messageId = messageId := by simpa using List.find?_some found
    have checked := verifyInHistory_ok_iff.mpr ⟨built.root.value, holds, rfl, rfl,
      (contract_verifyMerkleProof built.root (messageLeaf keccak256 target) words).trans leads⟩
    simp only [verifyMessageOnChain, found, bind_ok_iff, pure_ok_iff]
    refine ⟨_, ⟨built, build, words, given, _, checked, rfl⟩, ?_⟩
    exact Bool.and_eq_true_iff.mpr ⟨leads, rfl⟩

/-! ## The page -/

theorem mapM_id_map_some (words : List Hex32) : (words.map some).mapM id = some words := by
  induction words with
  | nil => rfl
  | cons word rest ih => simp [ih]

/-- When the page proves a message of the list. -/
theorem verifyOnPage_passes_iff (nonempty : messages ≠ []) {contractAt : Option Contract}
    {userA userB : String} {segmentKey : Option String} {target : AnchoredMessage} :
    (∃ debug, verifyOnPage keccak256 sort localeCompare contractAt userA userB messages target
        segmentKey = .ok debug ∧ (debug.contractVerified && debug.rootMatches) = true) ↔
      ∃ contract ∈ contractAt,
        (∃ built words,
          Conversation.buildConversationMerkleTree keccak256 sort localeCompare messages =
            .ok built ∧
          Proven keccak256 contract (deriveConversationSegmentRecordId keccak256 userA userB
            (segmentKeyOf segmentKey messages)) built target words) ∧
        Dated contract (deriveConversationSegmentRecordId keccak256 userA userB
          (segmentKeyOf segmentKey messages)) := by
  constructor
  · rintro ⟨debug, verified, passes⟩
    simp only [verifyOnPage, bind_ok_iff] at verified
    obtain ⟨conversation, build, proof, given, later⟩ := verified
    obtain ⟨built, build', ordered, layers, top⟩ := (buildConversation_ok_iff nonempty).mp build
    obtain ⟨words, given', rfl⟩ := (getProofForMessage_ok_iff (buildConversation_ok build').2.2
      ordered layers).mp given
    cases contractAt with
    | none => cases later
    | some contract =>
      simp only [mapM_id_map_some, bind_ok_iff, mapError_ok_iff, Prod.exists, getHash_ok_iff,
        verifyMessageInHistory_ok_iff] at later
      obtain ⟨root, _, ⟨holds, rfl⟩, _, ⟨root', holds', answers⟩, shown⟩ := later
      obtain rfl : root = root' := holds.2.symm.trans holds'.2
      split at shown
      · cases shown
      · next text date =>
        obtain rfl := Except.ok.inj shown
        rw [Bool.and_eq_true, decide_eq_true_eq, ← answers, ← top] at passes
        obtain ⟨leads, same⟩ := leads_and_matches_iff.mp passes
        rw [← same] at holds
        exact ⟨contract, rfl, ⟨built, words, build', given', leads, holds⟩,
          toISOString_eq_some_iff.mp ⟨text, date⟩⟩
  · rintro ⟨contract, rfl, ⟨built, words, build', given', leads, holds⟩, dated⟩
    obtain ⟨conversation, build, ordered, layers, top⟩ := exists_browser nonempty build'
    have given := (getProofForMessage_ok_iff (buildConversation_ok build').2.2 ordered layers).mpr
      ⟨words, given', rfl⟩
    have both := leads_and_matches_iff.mpr ⟨leads, (rfl : built.root.value = built.root.value)⟩
    have answers := verifyMessageInHistory_ok_iff.mpr ⟨built.root.value, holds, both.1⟩
    rw [messageLeaf] at answers
    obtain ⟨text, date⟩ := toISOString_eq_some_iff.mpr dated
    simp only [verifyOnPage, build, given, getHash_of_holds holds, mapM_id_map_some, bind, Except.bind,
      Except.mapError, Browser.hashMessageLeaf, answers, date, pure_ok_iff, ← top]
    exact ⟨_, rfl, Bool.and_eq_true_iff.mpr ⟨rfl, decide_eq_true both.2⟩⟩

/-! ## Verdicts -/

/-- The record that the fields name for the messages. -/
def recordIdOf (keccak256 : List Byte → Bytes32) (fields : PageFields)
    (messages : List AnchoredMessage) : Hex32 :=
  deriveConversationSegmentRecordId keccak256 (trim fields.userA) (trim fields.userB)
    (segmentKeyOf (segmentKeyField fields.segmentKey) messages)

/-- The library passes the message that the fields name. -/
def LibraryPasses (keccak256 : List Byte → Bytes32) (sort : ArraySort)
    (localeCompare : String → String → Ordering) (fields : PageFields)
    (messages : List AnchoredMessage) (contract : Contract) : Prop :=
  ∃ verdict, verifyMessageOnChain keccak256 sort localeCompare (trim fields.userA)
    (trim fields.userB) messages (trim fields.verifyMessageId) (segmentKeyField fields.segmentKey)
    contract = .ok verdict ∧ verdict.pass = true

/-- The contract holds the root of the messages, and the message is one of them. -/
def RootAnchored (keccak256 : List Byte → Bytes32) (sort : ArraySort)
    (localeCompare : String → String → Ordering) (fields : PageFields)
    (messages : List AnchoredMessage) (contract : Contract) : Prop :=
  (∃ message ∈ messages, message.messageId = trim fields.verifyMessageId) ∧
    ∃ built, Conversation.buildConversationMerkleTree keccak256 sort localeCompare messages =
        .ok built ∧
      Holds contract (recordIdOf keccak256 fields messages).value built.root.value

/-- The page passes what it was filled in for. -/
def PagePasses (keccak256 : List Byte → Bytes32) (sort : ArraySort)
    (localeCompare : String → String → Ordering)
    (parseMessages : String → Option (List AnchoredMessage))
    (provider : String → String → Option Contract) (fields : PageFields) : Prop :=
  (verifyMerkleFidelity keccak256 sort localeCompare parseMessages provider fields).pass = true

section
variable {parseMessages : String → Option (List AnchoredMessage)}
  {provider : String → String → Option Contract} {fields : PageFields}

/-- The page passes what the library passes of a record with a date. -/
theorem pagePasses_iff :
    PagePasses keccak256 sort localeCompare parseMessages provider fields ↔
      fields.Filled ∧ ∃ messages ∈ parseMessages fields.messagesJson,
        ∃ contract ∈ provider (trim fields.rpcUrl) (trim fields.contractAddress),
          LibraryPasses keccak256 sort localeCompare fields messages contract ∧
            Dated contract (recordIdOf keccak256 fields messages) := by
  simp only [PagePasses, LibraryPasses, verifyMessage_passes_iff, recordIdOf]
  unfold verifyMerkleFidelity
  cases parsed : parseMessages fields.messagesJson with
  | none => simp [PageResult.pass]
  | some messages =>
    by_cases empty : messages = []
    · subst empty
      simp [PageResult.pass]
    by_cases filled : fields.Filled
    · cases found : messages.find? (fun message => message.messageId = trim fields.verifyMessageId) with
      | none => simp [found, empty, filled, PageResult.pass]
      | some target =>
        have proven := @verifyOnPage_passes_iff keccak256 sort localeCompare messages empty
          (provider (trim fields.rpcUrl) (trim fields.contractAddress)) (trim fields.userA)
          (trim fields.userB) (segmentKeyField fields.segmentKey) target
        simp only [empty, filled, not_true_eq_false, if_false, found, true_and, Option.mem_def,
          Option.some.injEq, exists_eq_left'] at proven ⊢
        rw [← proven]
        cases verifyOnPage keccak256 sort localeCompare
          (provider (trim fields.rpcUrl) (trim fields.contractAddress)) (trim fields.userA)
          (trim fields.userB) messages target (segmentKeyField fields.segmentKey) with
        | error error => simp [PageResult.pass]
        | ok debug => simp [PageResult.pass]
    · simp [empty, filled, PageResult.pass]

/-- For distinct ids the library passes what is anchored. -/
theorem libraryPasses_iff (conforms : Conforms sort)
    (distinct : (messages.map AnchoredMessage.messageId).Nodup) :
    LibraryPasses keccak256 sort localeCompare fields messages contract ↔
      RootAnchored keccak256 sort localeCompare fields messages contract := by
  constructor
  · intro passes
    obtain ⟨target, found, built, words, build, proven⟩ := verifyMessage_passes_iff.mp passes
    exact ⟨⟨target, List.mem_of_find?_eq_some found, by simpa using List.find?_some found⟩,
      built, build, proven.holds⟩
  · rintro ⟨⟨message, member, named⟩, built, build, holds⟩
    rw [LibraryPasses, ← named]
    exact verifyMessage_passes conforms build distinct holds member

/-- Of a record with a date the page gives the library's verdict, and no other record passes; for a
batch with distinct ids it passes a message of the batch exactly when the contract holds the batch's
root since such a time. -/
theorem page_verdict (conforms : Conforms sort) :
    (PagePasses keccak256 sort localeCompare parseMessages provider fields ↔
      fields.Filled ∧ ∃ messages ∈ parseMessages fields.messagesJson,
        ∃ contract ∈ provider (trim fields.rpcUrl) (trim fields.contractAddress),
          LibraryPasses keccak256 sort localeCompare fields messages contract ∧
            Dated contract (recordIdOf keccak256 fields messages)) ∧
    ∀ messages ∈ parseMessages fields.messagesJson,
      (messages.map AnchoredMessage.messageId).Nodup →
        (PagePasses keccak256 sort localeCompare parseMessages provider fields ↔
          fields.Filled ∧ ∃ contract ∈ provider (trim fields.rpcUrl) (trim fields.contractAddress),
            RootAnchored keccak256 sort localeCompare fields messages contract ∧
              Dated contract (recordIdOf keccak256 fields messages)) := by
  refine ⟨pagePasses_iff, fun messages parsed distinct => ?_⟩
  rw [Option.mem_def] at parsed
  simp only [pagePasses_iff, parsed, Option.mem_def, Option.some.injEq, exists_eq_left',
    libraryPasses_iff conforms distinct]

end

/-! ## A page that is filled in -/

def sampleFields : PageFields where
  rpcUrl := "http://localhost:8545 "
  contractAddress := "0x01"
  userA := " alice"
  userB := "bob"
  verifyMessageId := AnchorThenVerify.hello.messageId
  segmentKey := " "
  messagesJson := ""

/-- The second after the last date. -/
def secondAfterDates : BlockTime := ⟨BitVec.ofNat 256 (maxTime + 1), by decide⟩

theorem anchoredAt_of_storeHash {sender : Address} {now : BlockTime} {recordId contentHash : Bytes32}
    {contract' : Contract} {event : HashAnchored}
    (stored : storeHash sender now recordId contentHash contract = .ok (contract', event)) :
    (contract'.records recordId).anchoredAt = now := by
  obtain ⟨-, -, rfl⟩ := storeHash_ok stored
  simp

/-- Anchored at this time, the batch is what the fields name. -/
theorem anchored_mixed (now : BlockTime) : ∃ result contract,
    anchorConversationOnChain Bytes32.keccak256 insertionSort compareCodeUnits 0 now "alice" "bob"
      AnchorThenVerify.mixed none (deploy 0) = .ok (result, contract) ∧
    RootAnchored Bytes32.keccak256 insertionSort compareCodeUnits sampleFields AnchorThenVerify.mixed
      contract ∧
    (Dated contract (recordIdOf Bytes32.keccak256 sampleFields AnchorThenVerify.mixed) ↔
      now.val.toNat ≤ maxTime) := by
  obtain ⟨conversation, built⟩ := @buildConversation_isOk Bytes32.keccak256 insertionSort
    compareCodeUnits conforms_insertionSort AnchorThenVerify.mixed (List.cons_ne_nil _ _)
  obtain ⟨⟨contract, event⟩, stored⟩ := (@storeHash_isOk_iff 0 now
    (deriveConversationSegmentRecordId Bytes32.keccak256 "alice" "bob"
      (segmentKeyOf none AnchorThenVerify.mixed)).value conversation.root.value (deploy 0)).mpr
        ⟨rfl, rfl⟩
  obtain ⟨result, anchored⟩ := anchorConversation_of_storeHash built stored
  have blank : segmentKeyField sampleFields.segmentKey = none := by decide
  have users : trim sampleFields.userA = "alice" ∧ trim sampleFields.userB = "bob" := by decide
  have record : recordIdOf Bytes32.keccak256 sampleFields AnchorThenVerify.mixed =
      deriveConversationSegmentRecordId Bytes32.keccak256 "alice" "bob"
        (segmentKeyOf none AnchorThenVerify.mixed) := by
    rw [recordIdOf, blank, users.1, users.2]
  refine ⟨result, contract, anchored,
    ⟨⟨AnchorThenVerify.hello, by decide, by decide⟩, conversation, built, ?_⟩, ?_⟩
  · rw [record]
    exact holds_of_storeHash stored
  · rw [Dated, record, anchoredAt_of_storeHash stored]

/-- One second later the library still passes what the page cannot show. -/
theorem page_verdict_mixed :
    (∃ result contract, anchorConversationOnChain Bytes32.keccak256 insertionSort compareCodeUnits 0
        AnchorThenVerify.firstSecond "alice" "bob" AnchorThenVerify.mixed none (deploy 0) =
          .ok (result, contract) ∧
      PagePasses Bytes32.keccak256 insertionSort compareCodeUnits
        (fun _ => some AnchorThenVerify.mixed) (fun _ _ => some contract) sampleFields) ∧
    ∃ result contract, anchorConversationOnChain Bytes32.keccak256 insertionSort compareCodeUnits 0
        secondAfterDates "alice" "bob" AnchorThenVerify.mixed none (deploy 0) =
          .ok (result, contract) ∧
      LibraryPasses Bytes32.keccak256 insertionSort compareCodeUnits sampleFields
        AnchorThenVerify.mixed contract ∧
      ¬ PagePasses Bytes32.keccak256 insertionSort compareCodeUnits
        (fun _ => some AnchorThenVerify.mixed) (fun _ _ => some contract) sampleFields := by
  constructor
  · obtain ⟨result, contract, anchored, root, dated⟩ := anchored_mixed AnchorThenVerify.firstSecond
    refine ⟨result, contract, anchored, ?_⟩
    exact ((page_verdict conforms_insertionSort).2 _ rfl AnchorThenVerify.distinct_mixed).mpr
      ⟨by decide, contract, rfl, root, dated.mpr (by decide)⟩
  · obtain ⟨result, contract, anchored, root, dated⟩ := anchored_mixed secondAfterDates
    refine ⟨result, contract, anchored,
      (libraryPasses_iff conforms_insertionSort AnchorThenVerify.distinct_mixed).mpr root, ?_⟩
    rw [(page_verdict conforms_insertionSort).1]
    rintro ⟨-, messages, parsed, contract', found, -, early⟩
    obtain rfl := Option.some.inj parsed
    obtain rfl := Option.some.inj found
    exact absurd (dated.mp early) (by decide)

end EpicKfc.Guarantees.FidelityPages
