import EpicKfc.Source.Blockchain.ConversationCalls

/-!
# Which segments are free

Without an explicit segment key a batch is anchored under its users and the number of
its messages. Over any run of such calls the record of a call is taken exactly when a
batch of as many messages was anchored before for the same two users.
-/

namespace EpicKfc.Guarantees.SegmentFreshness
open EpicKfc.Lib
open EpicKfc.Lib.Keccak (Byte)
open EpicKfc.Lib.HashTree
open EpicKfc.Source.Blockchain
open EpicKfc.Source.Blockchain.MessageFidelity
open EpicKfc.Source.Blockchain.Conversation
open EpicKfc.Source.Server (Uuid)

/-- A call of `anchorConversationOnChain` without options, and the block it lands in. -/
structure AnchorCall where
  sender : Address
  now : BlockTime
  userIdA : Uuid
  userIdB : Uuid
  messages : List AnchoredMessage

section Calls
variable (keccak256 : List Byte → Bytes32) (sort : ArraySort)
  (localeCompare : String → String → Ordering)

def AnchorCall.run (call : AnchorCall) (contract : Contract) :
    Except ConversationError (AnchorConversationResult × Contract) :=
  anchorConversationOnChain keccak256 sort localeCompare call.sender call.now call.userIdA.str
    call.userIdB.str call.messages none contract

/-- The contract after the calls in their order, and the calls that succeeded; a failed call
changes nothing. -/
def runAll : List AnchorCall → Contract → Contract × List AnchorCall
  | [], contract => (contract, [])
  | call :: rest, contract =>
    match call.run keccak256 sort localeCompare contract with
    | .ok (_, contract') =>
      let (final, anchored) := runAll rest contract'
      (final, call :: anchored)
    | .error _ => runAll rest contract

end Calls

/-- What is hashed for the record id. -/
def AnchorCall.recordText (call : AnchorCall) : List Byte :=
  Json.utf8 (segmentText call.userIdA.str call.userIdB.str (segmentKeyOf none call.messages)).toList

/-- The same two users, in either order, and as many messages. -/
def SameSegment (call call' : AnchorCall) : Prop :=
  (call.userIdA = call'.userIdA ∧ call.userIdB = call'.userIdB ∨
    call.userIdA = call'.userIdB ∧ call.userIdB = call'.userIdA) ∧
  call.messages.length = call'.messages.length

/-! ## Record ids -/

theorem natToString_inj {count count' : Nat} (same : toString count = toString count') :
    count = count' := by
  simp only [Nat.toString_eq_repr, Nat.repr_eq_ofList_toDigits] at same
  have values := congrArg (fun digits => Nat.ofDigitChars 10 digits 0) (String.ofList_injective same)
  simp only [Nat.ofDigitChars_toDigits (by decide : 1 < 10) (Nat.le_refl 10)] at values
  exact values

theorem sortPair_cases (userIdA userIdB : String) :
    sortPair userIdA userIdB = (userIdA, userIdB) ∨ sortPair userIdA userIdB = (userIdB, userIdA) := by
  rw [sortPair]
  split
  · exact Or.inr rfl
  · exact Or.inl rfl

/-- UUIDs are of one length, so the separators fix the parts. -/
theorem segmentText_inj {userIdA userIdB userIdA' userIdB' : Uuid} {key key' : String}
    (same : segmentText userIdA.str userIdB.str key = segmentText userIdA'.str userIdB'.str key') :
    sortPair userIdA.str userIdB.str = sortPair userIdA'.str userIdB'.str ∧ key = key' := by
  have sized (a b : Uuid) : (sortPair a.str b.str).1.toList.length = 36 ∧
      (sortPair a.str b.str).2.toList.length = 36 := by
    rcases sortPair_cases a.str b.str with order | order <;> rw [order] <;>
      exact ⟨Uuid.length_str _, Uuid.length_str _⟩
  have chars := congrArg String.toList same
  simp only [segmentText, String.toList_append, List.append_assoc] at chars
  obtain ⟨first, chars⟩ := List.append_inj (List.append_cancel_left chars)
    ((sized _ _).1.trans (sized _ _).1.symm)
  obtain ⟨second, chars⟩ := List.append_inj (List.append_cancel_left chars)
    ((sized _ _).2.trans (sized _ _).2.symm)
  have keys := List.append_cancel_left chars
  exact ⟨Prod.ext (String.toList_inj.mp first) (String.toList_inj.mp second),
    String.toList_inj.mp keys⟩

theorem sortPair_eq_iff {a b a' b' : Uuid} : sortPair a.str b.str = sortPair a'.str b'.str ↔
    a = a' ∧ b = b' ∨ a = b' ∧ b = a' := by
  constructor
  · intro same
    rcases sortPair_cases a.str b.str with order | order <;>
      rcases sortPair_cases a'.str b'.str with order' | order' <;>
      rw [order, order', Prod.mk.injEq, Uuid.str_inj, Uuid.str_inj] at same
    · exact Or.inl same
    · exact Or.inr same
    · exact Or.inr ⟨same.2, same.1⟩
    · exact Or.inl ⟨same.2, same.1⟩
  · rintro (⟨rfl, rfl⟩ | ⟨rfl, rfl⟩)
    · rfl
    · exact sortPair_comm a.str b.str

theorem recordText_eq_iff {call call' : AnchorCall} :
    call.recordText = call'.recordText ↔ SameSegment call call' := by
  constructor
  · intro same
    obtain ⟨pair, key⟩ := segmentText_inj (String.toList_inj.mp (Json.utf8_injective same))
    exact ⟨sortPair_eq_iff.mp pair, natToString_inj key⟩
  · rintro ⟨users, count⟩
    rw [AnchorCall.recordText, AnchorCall.recordText, segmentText, segmentText,
      sortPair_eq_iff.mpr users, segmentKeyOf, segmentKeyOf, count]

/-! ## Runs -/

section Runs
variable {keccak256 : List Byte → Bytes32} {sort : ArraySort}
  {localeCompare : String → String → Ordering}

/-- The record a call writes. -/
def AnchorCall.record (keccak256 : List Byte → Bytes32) (call : AnchorCall) : Bytes32 :=
  keccak256 call.recordText

theorem value_recordId (call : AnchorCall) : (deriveConversationSegmentRecordId keccak256
    call.userIdA.str call.userIdB.str (segmentKeyOf none call.messages)).value =
      call.record keccak256 := by
  rw [deriveConversationSegmentRecordId, Hex32.value_hexlify]
  rfl

theorem stored_of_run {call : AnchorCall} {contract contract' : Contract}
    {result : AnchorConversationResult}
    (done : call.run keccak256 sort localeCompare contract = .ok (result, contract')) :
    ∃ merkleRoot event, storeHash call.sender call.now (call.record keccak256) merkleRoot contract =
      .ok (contract', event) := by
  obtain ⟨conversation, event, -, stored⟩ := anchorConversation_ok done
  rw [value_recordId] at stored
  exact ⟨conversation.root.value, event, stored⟩

/-- The records of a run are those that its successful calls wrote. -/
theorem hasRecord_runAll (calls : List AnchorCall) (contract : Contract) (recordId : Bytes32) :
    hasRecord recordId (runAll keccak256 sort localeCompare calls contract).1 = true ↔
      hasRecord recordId contract = true ∨
        ∃ earlier ∈ (runAll keccak256 sort localeCompare calls contract).2,
          earlier.record keccak256 = recordId := by
  induction calls generalizing contract with
  | nil => simp [runAll]
  | cons call rest ih =>
    rw [runAll]
    split
    · next result contract' done =>
      obtain ⟨merkleRoot, event, stored⟩ := stored_of_run done
      dsimp only
      rw [ih, hasRecord_of_storeHash stored, List.exists_mem_cons_iff, or_assoc]
    · exact ih contract

theorem mem_of_runAll {calls : List AnchorCall} {contract : Contract} {earlier : AnchorCall}
    (anchored : earlier ∈ (runAll keccak256 sort localeCompare calls contract).2) :
    earlier ∈ calls := by
  induction calls generalizing contract with
  | nil => cases anchored
  | cons call rest ih =>
    rw [runAll] at anchored
    split at anchored
    · rcases List.mem_cons.mp anchored with rfl | later
      · exact List.mem_cons_self
      · exact List.mem_cons_of_mem _ (ih later)
    · exact List.mem_cons_of_mem _ (ih anchored)

/-- Two calls write one record exactly when they are for one segment, up to a collision. -/
theorem record_eq_iff {calls : List AnchorCall} {call earlier : AnchorCall}
    (safe : ¬ Collides keccak256 ((call :: calls).map AnchorCall.recordText))
    (member : earlier ∈ calls) :
    earlier.record keccak256 = call.record keccak256 ↔ SameSegment earlier call := by
  rw [← recordText_eq_iff]
  constructor
  · apply eq_of_not_collides safe
    · exact List.mem_map_of_mem (List.mem_cons_of_mem _ member)
    · exact List.mem_map_of_mem List.mem_cons_self
  · exact congrArg keccak256

/-- After a run the record of a call is taken exactly when a batch of as many messages was anchored
for its users; a free record is no reason to refuse the call, and a taken one refuses it. -/
theorem record_taken_iff (owner : Address) (calls : List AnchorCall) (call : AnchorCall) :
    Collides keccak256 ((call :: calls).map AnchorCall.recordText) ∨
    ((hasRecord (call.record keccak256)
        (runAll keccak256 sort localeCompare calls (deploy owner)).1 = true ↔
      ∃ earlier ∈ (runAll keccak256 sort localeCompare calls (deploy owner)).2,
        SameSegment earlier call) ∧
    ((¬ ∃ earlier ∈ (runAll keccak256 sort localeCompare calls (deploy owner)).2,
        SameSegment earlier call) → ∀ recordId, call.run keccak256 sort localeCompare
          (runAll keccak256 sort localeCompare calls (deploy owner)).1 ≠
            .error (.reverted (.recordAlreadyAnchored recordId))) ∧
    ((∃ earlier ∈ (runAll keccak256 sort localeCompare calls (deploy owner)).2,
        SameSegment earlier call) → ∀ result, call.run keccak256 sort localeCompare
          (runAll keccak256 sort localeCompare calls (deploy owner)).1 ≠ .ok result)) := by
  rw [or_iff_not_imp_left]
  intro safe
  have taken : hasRecord (call.record keccak256)
      (runAll keccak256 sort localeCompare calls (deploy owner)).1 = true ↔
      ∃ earlier ∈ (runAll keccak256 sort localeCompare calls (deploy owner)).2,
        SameSegment earlier call := by
    rw [hasRecord_runAll, or_iff_right (by simp [hasRecord, deploy])]
    constructor
    · rintro ⟨earlier, anchored, same⟩
      exact ⟨earlier, anchored, (record_eq_iff safe (mem_of_runAll anchored)).mp same⟩
    · rintro ⟨earlier, anchored, same⟩
      exact ⟨earlier, anchored, (record_eq_iff safe (mem_of_runAll anchored)).mpr same⟩
  refine ⟨taken, ?_, ?_⟩
  · intro fresh recordId rejected
    obtain ⟨merkleRoot, refused⟩ := anchorConversation_reverted rejected
    rw [value_recordId] at refused
    exact fresh (taken.mp (hasRecord_of_alreadyAnchored refused))
  · rintro before ⟨result, contract'⟩ done
    obtain ⟨merkleRoot, event, stored⟩ := stored_of_run done
    have free := (storeHash_ok stored).2.1
    rw [taken.mpr before] at free
    cases free

end Runs

/-! ## Two batches of one size -/

theorem firstTime_ne : (1 : Uint256) ≠ 0 := by decide

theorem secondTime_ne : (2 : Uint256) ≠ 0 := by decide

def greeting : AnchorCall :=
  ⟨0, ⟨1, firstTime_ne⟩, 1, 2, [⟨Uuid.str 7, "hi", some "2026-01-01T00:00:00Z"⟩]⟩

def farewell : AnchorCall :=
  ⟨0, ⟨2, secondTime_ne⟩, 1, 2, [⟨Uuid.str 8, "bye", some "2026-01-02T00:00:00Z"⟩]⟩

theorem build_call (call : AnchorCall) (nonempty : call.messages ≠ []) : ∃ conversation,
    buildConversationMerkleTree Bytes32.keccak256 insertionSort compareCodeUnits call.messages =
      .ok conversation :=
  buildConversation_isOk conforms_insertionSort nonempty

/-- The first batch of one message is anchored, the next one of another message is refused, though
both calls hash the same string for the record. -/
theorem second_batch_is_refused :
    (∃ result contract', greeting.run Bytes32.keccak256 insertionSort compareCodeUnits (deploy 0) =
        .ok (result, contract') ∧
      ∃ recordId, farewell.run Bytes32.keccak256 insertionSort compareCodeUnits contract' =
        .error (.reverted (.recordAlreadyAnchored recordId))) ∧
    (∀ message ∈ greeting.messages, message ∉ farewell.messages) ∧
    ¬ Collides Bytes32.keccak256 ([farewell, greeting].map AnchorCall.recordText) := by
  have texts : greeting.recordText = farewell.recordText :=
    recordText_eq_iff.mpr ⟨Or.inl ⟨rfl, rfl⟩, rfl⟩
  refine ⟨?_, by decide, ?_⟩
  · obtain ⟨conversation, built⟩ := build_call greeting (List.cons_ne_nil _ _)
    obtain ⟨conversation', built'⟩ := build_call farewell (List.cons_ne_nil _ _)
    obtain ⟨⟨contract', event⟩, stored⟩ := (@storeHash_isOk_iff 0 greeting.now
      (deriveConversationSegmentRecordId Bytes32.keccak256 greeting.userIdA.str greeting.userIdB.str
        (segmentKeyOf none greeting.messages)).value conversation.root.value (deploy 0)).mpr
          ⟨rfl, rfl⟩
    obtain ⟨result, anchored⟩ := anchorConversation_of_storeHash built stored
    have taken := (holds_of_storeHash stored).1
    have owner : contract'.owner = 0 := by
      obtain ⟨-, -, rfl⟩ := storeHash_ok stored
      rfl
    have same : greeting.record Bytes32.keccak256 = farewell.record Bytes32.keccak256 :=
      congrArg Bytes32.keccak256 texts
    rw [value_recordId, same, ← value_recordId] at taken
    have refused := @storeHash_of_hasRecord farewell.sender farewell.now _
      conversation'.root.value contract' owner.symm taken
    exact ⟨result, contract', anchored, _, anchorConversation_of_refused built' refused⟩
  · rintro ⟨first, member, second, member', different, -⟩
    simp only [List.map_cons, List.map_nil, texts, List.mem_cons, List.not_mem_nil, or_false,
      or_self] at member member'
    exact different (member.trans member'.symm)

end EpicKfc.Guarantees.SegmentFreshness
