import EpicKfc.Source.Blockchain.Blocks
import EpicKfc.Source.Server.AnchorRelay

/-!
# One worker over its queue

`MessageFidelitySubmitter` and `BlockchainAnchorWorker` of
`workers/blockchain_worker.py` for a worker that nobody disturbs in the database.
What the nodes answer for an anchor, and the calls that blocks take before the
next turn, come from outside. The anchors a turn took up are kept for the
statements.
-/

namespace EpicKfc.Source.Server.AnchorWorker
open EpicKfc.Source.Blockchain
open EpicKfc.Source.Blockchain.MessageFidelity
open EpicKfc.Source.Blockchain.Blocks
open EpicKfc.Source.Server.Messages
open EpicKfc.Source.Server.BlockchainAnchors
open EpicKfc.Source.Server.AnchorRelay (AnchorChange failedChange confirmedChange)

structure AnchorSubmission where
  transactionHash : String
  contractAddress : String
  anchoredAt : UtcTimestamp
deriving DecidableEq

/-- `client` is whatever the web3 library raises. -/
inductive SubmissionError where
  | client
  | blockchainSubmission (text : String)
deriving DecidableEq, Repr

/-- The worker with its submitter. -/
structure BlockchainAnchorWorker where
  account : Address
  contractAddress : String
  batchSize : Nat
  markFailedOnError : Bool

/-- What happens to a transaction: no block takes it while the worker waits, or one does and
the receipt and its block are read, or not. -/
inductive Delivery where
  | lost
  | mined (transactionHash : String) (now : BlockTime) (gasSuffices : Bool)
      (answer : Option UtcTimestamp)

structure SubmissionOutcome where
  delivery : Delivery
  meanwhile : List Call

/-- `_to_0x_hex` of the text that `hex()` gives. -/
def to0xHex (hexValue : String) : String :=
  if "0x".toList.isPrefixOf hexValue.toList then hexValue else "0x" ++ hexValue

/-- `submit_hash`; `encodeBytes32` is the ABI encoder of a `bytes32`. -/
def submitHash (encodeBytes32 : String → Option Bytes32) (worker : BlockchainAnchorWorker)
    (delivery : Delivery) (recordId contentHash : String) (contract : Contract) :
    Except SubmissionError AnchorSubmission × Contract :=
  match encodeBytes32 recordId, encodeBytes32 contentHash, delivery with
  | some recordWord, some contentWord, .mined transactionHash now gasSuffices answer =>
    match execute ⟨worker.account, recordWord, contentWord, now, gasSuffices⟩ contract, answer with
    | (_, contract'), none => (.error .client, contract')
    | (.failure, contract'), some _ =>
      (.error (.blockchainSubmission
        ("MessageFidelity.storeHash reverted: " ++ transactionHash)), contract')
    | (.success, contract'), some anchoredAt =>
      (.ok ⟨to0xHex transactionHash, worker.contractAddress, anchoredAt⟩, contract')
  | _, _, _ => (.error .client, contract)

structure WorkerState where
  anchors : AnchorTable
  contract : Contract
  attempted : List Uuid

/-- `update_anchor_status` and the commit after it. -/
def updateAnchor (anchorId : Uuid) (change : AnchorChange) (anchors : AnchorTable) : AnchorTable :=
  anchors.map fun anchor => if anchor.id = anchorId then change.apply anchor else anchor

/-- `process_next_pending_anchor`. -/
def processNextPendingAnchor (encodeBytes32 : String → Option Bytes32)
    (worker : BlockchainAnchorWorker) (outcomes : Uuid → SubmissionOutcome) (state : WorkerState) :
    Except SubmissionError Bool × WorkerState :=
  match (pendingAnchors state.anchors).head? with
  | none => (.ok false, state)
  | some anchor =>
    let outcome := outcomes anchor.id
    let attempted := state.attempted ++ [anchor.id]
    match submissionValues anchor with
    | .error _ =>
      (.ok true, ⟨updateAnchor anchor.id failedChange state.anchors,
        executeAll outcome.meanwhile state.contract, attempted⟩)
    | .ok (recordId, contentHash) =>
      match submitHash encodeBytes32 worker outcome.delivery recordId contentHash state.contract with
      | (.error problem, contract) =>
        if worker.markFailedOnError then
          (.ok true, ⟨updateAnchor anchor.id failedChange state.anchors,
            executeAll outcome.meanwhile contract, attempted⟩)
        else
          (.error problem, ⟨state.anchors, executeAll outcome.meanwhile contract, attempted⟩)
      | (.ok submission, contract) =>
        (.ok true, ⟨updateAnchor anchor.id (confirmedChange submission.transactionHash
          submission.contractAddress contentHash submission.anchoredAt) state.anchors,
            executeAll outcome.meanwhile contract, attempted⟩)

/-- The loop of `process_pending_batch`, with its count. -/
def processTurns (encodeBytes32 : String → Option Bytes32) (worker : BlockchainAnchorWorker)
    (outcomes : Uuid → SubmissionOutcome) :
    Nat → WorkerState → Except SubmissionError Nat × WorkerState
  | 0, state => (.ok 0, state)
  | turns + 1, state =>
    match processNextPendingAnchor encodeBytes32 worker outcomes state with
    | (.error problem, state') => (.error problem, state')
    | (.ok false, state') => (.ok 0, state')
    | (.ok true, state') =>
      let (processed, final) := processTurns encodeBytes32 worker outcomes turns state'
      (processed.map (· + 1), final)

/-- `process_pending_batch`. -/
def processPendingBatch (encodeBytes32 : String → Option Bytes32) (worker : BlockchainAnchorWorker)
    (outcomes : Uuid → SubmissionOutcome) (anchors : AnchorTable) (contract : Contract) :
    Except SubmissionError Nat × WorkerState :=
  processTurns encodeBytes32 worker outcomes worker.batchSize ⟨anchors, contract, []⟩

/-! ## The queue -/

/-- The primary key. -/
def UniqueIds (anchors : AnchorTable) : Prop := (anchors.map BlockchainAnchor.id).Nodup

theorem UniqueIds.eq {anchors : AnchorTable} (unique : UniqueIds anchors)
    {first second : BlockchainAnchor} (member : first ∈ anchors) (member' : second ∈ anchors)
    (same : first.id = second.id) : first = second :=
  List.inj_on_of_nodup_map unique member member' same

theorem map_id_updateAnchor (anchorId : Uuid) (change : AnchorChange) (anchors : AnchorTable) :
    (updateAnchor anchorId change anchors).map BlockchainAnchor.id =
      anchors.map BlockchainAnchor.id := by
  rw [updateAnchor, List.map_map]
  apply List.map_congr_left
  intro anchor _
  rw [Function.comp_apply]
  split
  · rfl
  · rfl

theorem UniqueIds.update {anchors : AnchorTable} (unique : UniqueIds anchors) (anchorId : Uuid)
    (change : AnchorChange) : UniqueIds (updateAnchor anchorId change anchors) := by
  rwa [UniqueIds, map_id_updateAnchor]

theorem mem_updateAnchor {anchorId : Uuid} {change : AnchorChange} {anchors : AnchorTable}
    {anchor : BlockchainAnchor} : anchor ∈ updateAnchor anchorId change anchors ↔
      (anchor ∈ anchors ∧ anchor.id ≠ anchorId) ∨
        ∃ before ∈ anchors, before.id = anchorId ∧ change.apply before = anchor := by
  rw [updateAnchor, List.mem_map]
  constructor
  · rintro ⟨before, member, rfl⟩
    split
    · next here => exact Or.inr ⟨before, member, here, rfl⟩
    · next elsewhere => exact Or.inl ⟨member, elsewhere⟩
  · rintro (⟨member, elsewhere⟩ | ⟨before, member, here, rfl⟩)
    · exact ⟨anchor, member, if_neg elsewhere⟩
    · exact ⟨before, member, if_pos here⟩

instance : Std.Total oldestFirst where
  total first second := by
    unfold oldestFirst
    rcases lt_trichotomy first.createdAt second.createdAt with earlier | same | later
    · exact Or.inl (Or.inl earlier)
    · rcases le_total first.id.toNat second.id.toNat with below | above
      · exact Or.inl (Or.inr ⟨same, below⟩)
      · exact Or.inr (Or.inr ⟨same.symm, above⟩)
    · exact Or.inr (Or.inl later)

instance : IsTrans BlockchainAnchor oldestFirst where
  trans first second third := by
    unfold oldestFirst
    rintro (older | ⟨same, below⟩) (older' | ⟨same', below'⟩)
    · exact Or.inl (lt_trans older older')
    · exact Or.inl (same' ▸ older)
    · exact Or.inl (same ▸ older')
    · exact Or.inr ⟨same.trans same', le_trans below below'⟩

theorem oldestFirst_antisymm {first second : BlockchainAnchor} (ordered : oldestFirst first second)
    (ordered' : oldestFirst second first) : first.id = second.id := by
  apply BitVec.eq_of_toNat_eq
  rcases ordered with earlier | ⟨same, below⟩
  · rcases ordered' with later | ⟨same, -⟩
    · exact absurd later (lt_asymm earlier)
    · exact absurd earlier (same ▸ lt_irrefl _)
  · rcases ordered' with later | ⟨-, above⟩
    · exact absurd later (same ▸ lt_irrefl _)
    · exact le_antisymm below above

theorem UniqueIds.pending {anchors : AnchorTable} (unique : UniqueIds anchors) :
    UniqueIds (pendingAnchors anchors) := by
  have filtered : UniqueIds (anchors.filter fun anchor => anchor.status = .pending) :=
    unique.sublist (List.Sublist.map _ List.filter_sublist)
  have sorted := (List.perm_insertionSort oldestFirst
    (anchors.filter fun anchor => anchor.status = .pending)).map BlockchainAnchor.id
  exact sorted.nodup_iff.mpr filtered

/-- Settling the oldest anchor leaves the others waiting in their order. -/
theorem pendingAnchors_update {anchors : AnchorTable} (unique : UniqueIds anchors)
    {anchor : BlockchainAnchor} {rest : List BlockchainAnchor}
    (queue : pendingAnchors anchors = anchor :: rest) {change : AnchorChange}
    (settles : change.status ≠ .pending) :
    pendingAnchors (updateAnchor anchor.id change anchors) = rest := by
  have ids := unique.pending
  rw [queue, UniqueIds, List.map_cons, List.nodup_cons] at ids
  have sorted : (anchor :: rest).Pairwise oldestFirst :=
    queue ▸ List.pairwise_insertionSort oldestFirst _
  have member (other : BlockchainAnchor) :
      other ∈ pendingAnchors (updateAnchor anchor.id change anchors) ↔ other ∈ rest := by
    have listed : other ∈ anchor :: rest ↔ other ∈ anchors ∧ other.status = .pending := by
      rw [← queue, mem_pendingAnchors]
    rw [mem_pendingAnchors, mem_updateAnchor]
    constructor
    · rintro ⟨⟨belongs, elsewhere⟩ | ⟨before, -, -, rfl⟩, pending⟩
      · rcases List.mem_cons.mp (listed.mpr ⟨belongs, pending⟩) with rfl | found
        · exact absurd rfl elsewhere
        · exact found
      · exact absurd pending settles
    · intro found
      obtain ⟨belongs, pending⟩ := listed.mp (List.mem_cons_of_mem _ found)
      refine ⟨Or.inl ⟨belongs, fun same => ids.1 ?_⟩, pending⟩
      rw [← same]
      exact List.mem_map_of_mem found
  have updated := (unique.update anchor.id change).pending
  apply List.Perm.eq_of_pairwise _ (List.pairwise_insertionSort oldestFirst _)
    (List.pairwise_cons.mp sorted).2
  · exact (List.perm_ext_iff_of_nodup (List.Nodup.of_map _ updated) (List.Nodup.of_map _ ids.2)).mpr
      member
  · intro first second here there ordered ordered'
    apply updated.eq here ((member second).mpr there)
    exact oldestFirst_antisymm ordered ordered'

/-! ## What a turn does -/

section Turns
variable (encodeBytes32 : String → Option Bytes32) (worker : BlockchainAnchorWorker)
  (outcomes : Uuid → SubmissionOutcome)

/-- The record and the hash the contract is asked to store for the anchor. -/
def submissionWords (anchor : BlockchainAnchor) : Option (Bytes32 × Bytes32) :=
  match submissionValues anchor with
  | .error _ => none
  | .ok (recordId, contentHash) => do
    let recordWord ← encodeBytes32 recordId
    let contentWord ← encodeBytes32 contentHash
    return (recordWord, contentWord)

def Delivery.call (account : Address) (words : Bytes32 × Bytes32) : Delivery → Option Call
  | .lost => none
  | .mined _ now gasSuffices _ => some ⟨account, words.1, words.2, now, gasSuffices⟩

/-- The receipt and the block of the transaction are read. -/
def Delivery.answered : Delivery → Bool
  | .lost => false
  | .mined _ _ _ answer => answer.isSome

/-- The anchor's call, if a block takes it. -/
def ownCall (anchor : BlockchainAnchor) : Option Call :=
  (submissionWords encodeBytes32 anchor).bind fun words =>
    (outcomes anchor.id).delivery.call worker.account words

/-- The calls blocks take from the anchor's turn to the next. -/
def turnCalls (anchor : BlockchainAnchor) : List Call :=
  (ownCall encodeBytes32 worker outcomes anchor).toList ++ (outcomes anchor.id).meanwhile

/-- The submission returns. -/
def Accepted (contract : Contract) (anchor : BlockchainAnchor) : Prop :=
  ∃ call, ownCall encodeBytes32 worker outcomes anchor = some call ∧
    (execute call contract).1 = .success ∧ (outcomes anchor.id).delivery.answered = true

/-- The turn raises out of the batch. -/
def Raises (contract : Contract) (anchor : BlockchainAnchor) : Prop :=
  worker.markFailedOnError = false ∧ (∃ values, submissionValues anchor = .ok values) ∧
    ¬ Accepted encodeBytes32 worker outcomes contract anchor

variable {encodeBytes32 worker outcomes}

theorem submitHash_spec {anchor : BlockchainAnchor} {recordId contentHash : String}
    (values : submissionValues anchor = .ok (recordId, contentHash)) (contract : Contract) :
    (submitHash encodeBytes32 worker (outcomes anchor.id).delivery recordId contentHash contract).2 =
      executeAll (ownCall encodeBytes32 worker outcomes anchor).toList contract ∧
    ((∃ submission, (submitHash encodeBytes32 worker (outcomes anchor.id).delivery recordId
        contentHash contract).1 = .ok submission) ↔
      Accepted encodeBytes32 worker outcomes contract anchor) := by
  rw [Accepted, ownCall, submissionWords, values]
  cases record : encodeBytes32 recordId with
  | none => simp [submitHash, executeAll, record]
  | some recordWord =>
    cases content : encodeBytes32 contentHash with
    | none => simp [submitHash, executeAll, record, content]
    | some contentWord =>
      cases (outcomes anchor.id).delivery with
      | lost => simp [submitHash, executeAll, Delivery.call, record, content]
      | mined transactionHash now gasSuffices answer =>
        have called := execute_cases ⟨worker.account, recordWord, contentWord, now, gasSuffices⟩
          contract
        cases answer with
        | none => simp [submitHash, executeAll, Delivery.call, Delivery.answered, record, content]
        | some anchoredAt =>
          obtain ⟨-, -, executed⟩ | ⟨-, executed⟩ := called
          · simp [submitHash, executeAll, Delivery.call, Delivery.answered, record, content, executed]
          · simp [submitHash, executeAll, Delivery.call, Delivery.answered, record, content, executed]

theorem turn_idle {state : WorkerState} (queue : pendingAnchors state.anchors = []) :
    processNextPendingAnchor encodeBytes32 worker outcomes state = (.ok false, state) := by
  rw [processNextPendingAnchor, queue]
  rfl

/-- A turn settles the oldest anchor, as confirmed when its submission returns, or raises. -/
theorem turn_cases {state : WorkerState} {anchor : BlockchainAnchor} {rest : List BlockchainAnchor}
    (queue : pendingAnchors state.anchors = anchor :: rest) :
    ∃ result state', processNextPendingAnchor encodeBytes32 worker outcomes state =
        (result, state') ∧
      state'.contract = executeAll (turnCalls encodeBytes32 worker outcomes anchor) state.contract ∧
      state'.attempted = state.attempted ++ [anchor.id] ∧
      ((∃ change, result = .ok true ∧ change.status ≠ .pending ∧
          state'.anchors = updateAnchor anchor.id change state.anchors ∧
          (change.status = .confirmed ↔
            Accepted encodeBytes32 worker outcomes state.contract anchor) ∧
          ¬ Raises encodeBytes32 worker outcomes state.contract anchor) ∨
        ((∃ problem, result = .error problem) ∧ state'.anchors = state.anchors ∧
          Raises encodeBytes32 worker outcomes state.contract anchor)) := by
  have first : (pendingAnchors state.anchors).head? = some anchor := by rw [queue, List.head?_cons]
  rw [processNextPendingAnchor, first, turnCalls, executeAll_append]
  cases values : submissionValues anchor with
  | error problem =>
    have silent : ownCall encodeBytes32 worker outcomes anchor = none := by
      rw [ownCall, submissionWords, values, Option.bind_none]
    have unsent : ¬ Accepted encodeBytes32 worker outcomes state.contract anchor := by
      rintro ⟨call, own, -⟩
      rw [silent] at own
      cases own
    have quiet : ¬ Raises encodeBytes32 worker outcomes state.contract anchor := by
      rintro ⟨-, ⟨pair, present⟩, -⟩
      rw [values] at present
      cases present
    simp only [values, silent]
    exact ⟨_, _, rfl, rfl, rfl, Or.inl ⟨failedChange, rfl, by decide, rfl,
      iff_of_false (by decide) unsent, quiet⟩⟩
  | ok pair =>
    obtain ⟨recordId, contentHash⟩ := pair
    obtain ⟨left, returns⟩ :=
      @submitHash_spec encodeBytes32 worker outcomes _ _ _ values state.contract
    rw [← left]
    cases submitted : submitHash encodeBytes32 worker (outcomes anchor.id).delivery recordId
      contentHash state.contract with
    | mk result contract =>
      rw [submitted] at returns
      cases result with
      | ok submission =>
        have accepted := returns.mp ⟨submission, rfl⟩
        simp only [values, submitted]
        exact ⟨_, _, rfl, rfl, rfl, Or.inl ⟨confirmedChange submission.transactionHash
          submission.contractAddress contentHash submission.anchoredAt, rfl, by simp [confirmedChange],
          rfl, iff_of_true rfl accepted, fun raises => raises.2.2 accepted⟩⟩
      | error problem =>
        have refused : ¬ Accepted encodeBytes32 worker outcomes state.contract anchor := by
          intro accepted
          obtain ⟨submission, impossible⟩ := returns.mpr accepted
          cases impossible
        simp only [values, submitted]
        split
        · next marks =>
          refine ⟨_, _, rfl, rfl, rfl, Or.inl ⟨failedChange, rfl, by decide, rfl,
            iff_of_false (by decide) refused, fun raises => ?_⟩⟩
          rw [Raises, marks] at raises
          cases raises.1
        · next leaves =>
          exact ⟨_, _, rfl, rfl, rfl, Or.inr ⟨⟨problem, rfl⟩, rfl,
            Bool.eq_false_iff.mpr leaves, ⟨_, values⟩, refused⟩⟩

end Turns

/-! ## What a batch does -/

/-- Every anchor of the queue, with those before and after it. -/
def EachTurn (queue : List BlockchainAnchor)
    (meets : List BlockchainAnchor → BlockchainAnchor → List BlockchainAnchor → Prop) : Prop :=
  ∀ earlier anchor later, queue = earlier ++ anchor :: later → meets earlier anchor later

section Batches
variable {encodeBytes32 : String → Option Bytes32} {worker : BlockchainAnchorWorker}
  {outcomes : Uuid → SubmissionOutcome} {anchor : BlockchainAnchor}
  {rest queue : List BlockchainAnchor}
  {meets : List BlockchainAnchor → BlockchainAnchor → List BlockchainAnchor → Prop}

theorem eachTurn_nil : EachTurn [] meets := by
  intro earlier anchor later split
  cases earlier with
  | nil => cases split
  | cons first others => cases split

theorem eachTurn_cons : EachTurn (anchor :: rest) meets ↔ meets [] anchor rest ∧
    EachTurn rest fun earlier other later => meets (anchor :: earlier) other later := by
  constructor
  · intro each
    refine ⟨each [] anchor rest rfl, fun earlier other later split => ?_⟩
    exact each (anchor :: earlier) other later (by rw [split, List.cons_append])
  · rintro ⟨here, each⟩ earlier other later split
    cases earlier with
    | nil =>
      cases split
      exact here
    | cons first others =>
      cases split
      exact each others other later rfl

variable (encodeBytes32 worker outcomes) in
/-- The calls blocks take over some turns. -/
def callsOf (queue : List BlockchainAnchor) : List Call :=
  queue.flatMap (turnCalls encodeBytes32 worker outcomes)

variable (encodeBytes32 worker outcomes) in
/-- No turn but the last raises. -/
def NoAbort (contract : Contract) (queue : List BlockchainAnchor) : Prop :=
  EachTurn queue fun earlier anchor later => later ≠ [] →
    ¬ Raises encodeBytes32 worker outcomes
      (executeAll (callsOf encodeBytes32 worker outcomes earlier) contract) anchor

/-- The table has the anchor as confirmed. -/
def Confirmed (anchorId : Uuid) (anchors : AnchorTable) : Prop :=
  ∃ anchor ∈ anchors, anchor.id = anchorId ∧ anchor.status = .confirmed

theorem executeAll_callsOf_cons (contract : Contract) :
    executeAll (callsOf encodeBytes32 worker outcomes (anchor :: rest)) contract =
      executeAll (callsOf encodeBytes32 worker outcomes rest)
        (executeAll (turnCalls encodeBytes32 worker outcomes anchor) contract) := by
  rw [callsOf, List.flatMap_cons, executeAll_append, callsOf]

theorem noAbort_cons {contract : Contract} :
    NoAbort encodeBytes32 worker outcomes contract (anchor :: rest) ↔
      (rest ≠ [] → ¬ Raises encodeBytes32 worker outcomes contract anchor) ∧
        NoAbort encodeBytes32 worker outcomes
          (executeAll (turnCalls encodeBytes32 worker outcomes anchor) contract) rest := by
  simp only [NoAbort, eachTurn_cons, executeAll_callsOf_cons]
  rfl

theorem confirmed_update_of_ne {anchors : AnchorTable} {anchorId other : Uuid}
    {change : AnchorChange} (different : other ≠ anchorId) :
    Confirmed other (updateAnchor anchorId change anchors) ↔ Confirmed other anchors := by
  constructor
  · rintro ⟨found, member, rfl, confirmed⟩
    rcases mem_updateAnchor.mp member with ⟨kept, -⟩ | ⟨before, -, here, rfl⟩
    · exact ⟨found, kept, rfl, confirmed⟩
    · exact absurd here different
  · rintro ⟨found, member, rfl, confirmed⟩
    exact ⟨found, mem_updateAnchor.mpr (Or.inl ⟨member, different⟩), rfl, confirmed⟩

theorem confirmed_update {anchors : AnchorTable} {change : AnchorChange} (member : anchor ∈ anchors) :
    Confirmed anchor.id (updateAnchor anchor.id change anchors) ↔ change.status = .confirmed := by
  constructor
  · rintro ⟨found, belongs, same, confirmed⟩
    rcases mem_updateAnchor.mp belongs with ⟨-, elsewhere⟩ | ⟨before, -, -, rfl⟩
    · exact absurd same elsewhere
    · exact confirmed
  · intro confirmed
    exact ⟨change.apply anchor, mem_updateAnchor.mpr (Or.inr ⟨anchor, member, rfl, rfl⟩), rfl,
      confirmed⟩

/-- What a batch leaves behind when it takes up the whole queue. -/
structure Finishes (encodeBytes32 : String → Option Bytes32) (worker : BlockchainAnchorWorker)
    (outcomes : Uuid → SubmissionOutcome) (queue : List BlockchainAnchor)
    (state final : WorkerState) : Prop where
  attempted : final.attempted = state.attempted ++ queue.map BlockchainAnchor.id
  contract : final.contract = executeAll (callsOf encodeBytes32 worker outcomes queue) state.contract
  others : ∀ anchorId ∉ queue.map BlockchainAnchor.id,
    (Confirmed anchorId final.anchors ↔ Confirmed anchorId state.anchors)
  confirmed : EachTurn queue fun earlier anchor _ => (Confirmed anchor.id final.anchors ↔
    Accepted encodeBytes32 worker outcomes
      (executeAll (callsOf encodeBytes32 worker outcomes earlier) state.contract) anchor)

theorem finishes_nil (state : WorkerState) : Finishes encodeBytes32 worker outcomes [] state state :=
  ⟨(List.append_nil _).symm, rfl, fun _ _ => Iff.rfl, eachTurn_nil⟩

/-- A turn and the turns after it. -/
theorem Finishes.cons {state middle final : WorkerState}
    (distinct : anchor.id ∉ rest.map BlockchainAnchor.id)
    (moved : middle.contract = executeAll (turnCalls encodeBytes32 worker outcomes anchor)
      state.contract)
    (attempts : middle.attempted = state.attempted ++ [anchor.id])
    (here : Confirmed anchor.id middle.anchors ↔
      Accepted encodeBytes32 worker outcomes state.contract anchor)
    (elsewhere : ∀ other ≠ anchor.id, (Confirmed other middle.anchors ↔ Confirmed other state.anchors))
    (later : Finishes encodeBytes32 worker outcomes rest middle final) :
    Finishes encodeBytes32 worker outcomes (anchor :: rest) state final := by
  constructor
  · rw [later.attempted, attempts, List.map_cons, List.append_assoc, List.singleton_append]
  · rw [later.contract, moved, executeAll_callsOf_cons]
  · intro other outside
    rw [List.map_cons, List.mem_cons, not_or] at outside
    exact (later.others other outside.2).trans (elsewhere other outside.1)
  · refine eachTurn_cons.mpr ⟨(later.others anchor.id distinct).trans here, ?_⟩
    intro earlier other after split
    rw [executeAll_callsOf_cons, ← moved]
    exact later.confirmed earlier other after split

theorem processTurns_nil {state : WorkerState} (queue : pendingAnchors state.anchors = []) (turns : Nat) :
    (processTurns encodeBytes32 worker outcomes turns state).2 = state := by
  cases turns with
  | zero => rfl
  | succ turns => rw [processTurns, turn_idle queue]

/-- A batch that is long enough and does not raise early takes up the whole queue. -/
theorem processTurns_finishes {state : WorkerState} (turns : Nat) (unique : UniqueIds state.anchors)
    (waiting : pendingAnchors state.anchors = queue) (enough : queue.length ≤ turns)
    (smooth : NoAbort encodeBytes32 worker outcomes state.contract queue) :
    Finishes encodeBytes32 worker outcomes queue state
      (processTurns encodeBytes32 worker outcomes turns state).2 := by
  induction queue generalizing turns state with
  | nil =>
    rw [processTurns_nil waiting]
    exact finishes_nil state
  | cons anchor rest ih =>
    cases turns with
    | zero => simp at enough
    | succ turns =>
      have ids := unique.pending
      rw [waiting, UniqueIds, List.map_cons, List.nodup_cons] at ids
      have member : anchor ∈ state.anchors := by
        apply (mem_pendingAnchors.mp _).1
        rw [waiting]
        exact List.mem_cons_self
      obtain ⟨quiet, later⟩ := noAbort_cons.mp smooth
      obtain ⟨result, middle, taken, moved, attempts, settled | raised⟩ := turn_cases waiting
      · obtain ⟨change, rfl, settles, updated, accepted, -⟩ := settled
        rw [processTurns, taken]
        apply Finishes.cons ids.1 moved attempts
        · rw [updated, confirmed_update member]
          exact accepted
        · intro other different
          rw [updated, confirmed_update_of_ne different]
        · apply ih turns
          · rw [updated]
            exact unique.update anchor.id change
          · rw [updated]
            exact pendingAnchors_update unique waiting settles
          · rw [List.length_cons] at enough
            omega
          · rwa [moved]
      · obtain ⟨⟨problem, rfl⟩, kept, raises⟩ := raised
        have last : rest = [] := by
          by_contra more
          exact quiet more raises
        subst last
        rw [processTurns, taken]
        refine Finishes.cons ids.1 moved attempts ?_ ?_ (finishes_nil middle)
        · rw [kept]
          refine iff_of_false ?_ raises.2.2
          rintro ⟨found, belongs, same, confirmed⟩
          have pending : anchor.status = .pending := by
            apply (mem_pendingAnchors.mp _).2
            · exact state.anchors
            · rw [waiting]
              exact List.mem_cons_self
          rw [unique.eq belongs member same, pending] at confirmed
          cases confirmed
        · intro other _
          rw [kept]

/-- A batch that raises early leaves an anchor without an attempt. -/
theorem processTurns_aborts {state : WorkerState} (turns : Nat) (unique : UniqueIds state.anchors)
    (waiting : pendingAnchors state.anchors = queue) (enough : queue.length ≤ turns)
    (fresh : ∀ anchor ∈ queue, anchor.id ∉ state.attempted)
    (aborts : ¬ NoAbort encodeBytes32 worker outcomes state.contract queue) :
    ∃ anchor ∈ queue,
      anchor.id ∉ (processTurns encodeBytes32 worker outcomes turns state).2.attempted := by
  induction queue generalizing turns state with
  | nil => exact absurd eachTurn_nil aborts
  | cons anchor rest ih =>
    cases turns with
    | zero => simp at enough
    | succ turns =>
      have ids := unique.pending
      rw [waiting, UniqueIds, List.map_cons, List.nodup_cons] at ids
      have untouched : ∀ other ∈ rest, other.id ∉ state.attempted ++ [anchor.id] := by
        intro other member attempted
        rcases List.mem_append.mp attempted with before | now
        · exact fresh other (List.mem_cons_of_mem _ member) before
        · rw [List.mem_singleton] at now
          exact ids.1 (now ▸ List.mem_map_of_mem member)
      obtain ⟨result, middle, taken, moved, attempts, settled | raised⟩ := turn_cases waiting
      · obtain ⟨change, rfl, settles, updated, -, quiet⟩ := settled
        have later : ¬ NoAbort encodeBytes32 worker outcomes middle.contract rest := by
          rw [moved]
          intro smooth
          exact aborts (noAbort_cons.mpr ⟨fun _ => quiet, smooth⟩)
        rw [processTurns, taken]
        obtain ⟨other, member, missed⟩ := ih turns (by rw [updated]; exact unique.update _ change)
          (by rw [updated]; exact pendingAnchors_update unique waiting settles)
          (by rw [List.length_cons] at enough; omega) (by rwa [attempts]) later
        exact ⟨other, List.mem_cons_of_mem _ member, missed⟩
      · obtain ⟨⟨problem, rfl⟩, -, raises⟩ := raised
        rw [processTurns, taken]
        cases rest with
        | nil =>
          refine absurd (noAbort_cons.mpr ⟨fun more => absurd rfl more, eachTurn_nil⟩) aborts
        | cons next others =>
          refine ⟨next, List.mem_cons_of_mem _ List.mem_cons_self, ?_⟩
          rw [attempts]
          exact untouched next List.mem_cons_self

end Batches

end EpicKfc.Source.Server.AnchorWorker
