import EpicKfc.Source.Blockchain.Hex32
import EpicKfc.Source.Server.AnchorWorker

/-!
# Progress of the anchor queue

A batch that is large enough takes up every pending anchor and confirms each one
whose record has its hash on chain, exactly when no submission before the last
anchor raises out of the batch and no anchor is on chain without a receipt of its
own: `storeHash` refuses what it has stored, and the worker never asks the contract
what it holds.
-/

namespace EpicKfc.Guarantees.AnchorProgress
open EpicKfc.Source.Blockchain
open EpicKfc.Source.Blockchain.MessageFidelity
open EpicKfc.Source.Blockchain.Blocks
open EpicKfc.Source.Server
open EpicKfc.Source.Server.BlockchainAnchors
open EpicKfc.Source.Server.AnchorWorker

section Positions
variable (encodeBytes32 : String → Option Bytes32) (worker : BlockchainAnchorWorker)
  (outcomes : Uuid → SubmissionOutcome)

/-- The contract can still execute the anchor's call after the turns before it. -/
def Executes (contract : Contract) (earlier : List BlockchainAnchor) (anchor : BlockchainAnchor) :
    Prop :=
  ∃ call, ownCall encodeBytes32 worker outcomes anchor = some call ∧
    call.effective contract.owner = true ∧ hasRecord call.recordId contract = false ∧
    writer call.recordId contract.owner (callsOf encodeBytes32 worker outcomes earlier) = none

/-- The anchor's record gets its hash on chain, and no submission of the batch returns for it. -/
inductive Lost (contract : Contract) (earlier : List BlockchainAnchor) (anchor : BlockchainAnchor)
    (later : List BlockchainAnchor) : Prop
  | before {recordId contentHash : Bytes32}
      (words : submissionWords encodeBytes32 anchor = some (recordId, contentHash))
      (stored : Holds contract recordId contentHash)
  | unanswered (executes : Executes encodeBytes32 worker outcomes contract earlier anchor)
      (silent : (outcomes anchor.id).delivery.answered = false)
  | byAnother {recordId contentHash : Bytes32}
      (words : submissionWords encodeBytes32 anchor = some (recordId, contentHash))
      (stopped : ¬ Executes encodeBytes32 worker outcomes contract earlier anchor)
      (free : hasRecord recordId contract = false)
      (stored : (writer recordId contract.owner (callsOf encodeBytes32 worker outcomes
        (earlier ++ anchor :: later))).map Call.contentHash = some contentHash)

/-- No submission before the last raises, and no anchor is lost. -/
structure Smooth (contract : Contract) (queue : List BlockchainAnchor) : Prop where
  noAbort : worker.markFailedOnError = true ∨ EachTurn queue fun earlier anchor later =>
    later ≠ [] → (∃ problem, submissionValues anchor = .error problem) ∨
      Executes encodeBytes32 worker outcomes contract earlier anchor ∧
        (outcomes anchor.id).delivery.answered = true
  noneLost : EachTurn queue fun earlier anchor later =>
    ¬ Lost encodeBytes32 worker outcomes contract earlier anchor later

/-- Every anchor of the queue had one attempt, and is confirmed when its record has its hash on
chain or could still get it there. -/
structure Progress (queue : List BlockchainAnchor) (final : WorkerState) : Prop where
  attempted : ∀ anchor ∈ queue, final.attempted.count anchor.id = 1
  confirmed : ∀ anchor ∈ queue, ∀ recordId contentHash,
    submissionWords encodeBytes32 anchor = some (recordId, contentHash) →
    Holds final.contract recordId contentHash ∨
      Accepted encodeBytes32 worker outcomes final.contract anchor →
    Confirmed anchor.id final.anchors

end Positions

variable {encodeBytes32 : String → Option Bytes32} {worker : BlockchainAnchorWorker}
  {outcomes : Uuid → SubmissionOutcome} {contract : Contract} {anchor : BlockchainAnchor}
  {earlier later queue : List BlockchainAnchor}

theorem accepted_iff : Accepted encodeBytes32 worker outcomes
      (executeAll (callsOf encodeBytes32 worker outcomes earlier) contract) anchor ↔
    Executes encodeBytes32 worker outcomes contract earlier anchor ∧
      (outcomes anchor.id).delivery.answered = true := by
  simp only [Accepted, Executes, execute_success_iff, hasRecord_executeAll, owner_executeAll]
  constructor
  · rintro ⟨call, own, ⟨effective, free, first⟩, answered⟩
    exact ⟨⟨call, own, effective, free, first⟩, answered⟩
  · rintro ⟨⟨call, own, effective, free, first⟩, answered⟩
    exact ⟨call, own, ⟨effective, free, first⟩, answered⟩

/-- The words of a call are those of its anchor. -/
theorem ownCall_words {call : Call} (own : ownCall encodeBytes32 worker outcomes anchor = some call) :
    submissionWords encodeBytes32 anchor = some (call.recordId, call.contentHash) ∧
      call.sender = worker.account := by
  obtain ⟨words, submits, called⟩ := Option.bind_eq_some_iff.mp own
  cases delivery : (outcomes anchor.id).delivery with
  | lost =>
    rw [delivery] at called
    cases called
  | mined transactionHash now gasSuffices answer =>
    rw [delivery] at called
    cases called
    exact ⟨submits, rfl⟩

theorem noAbort_iff : NoAbort encodeBytes32 worker outcomes contract queue ↔
    worker.markFailedOnError = true ∨ EachTurn queue fun earlier anchor later =>
      later ≠ [] → (∃ problem, submissionValues anchor = .error problem) ∨
        Executes encodeBytes32 worker outcomes contract earlier anchor ∧
          (outcomes anchor.id).delivery.answered = true := by
  have quiet (earlier : List BlockchainAnchor) (anchor : BlockchainAnchor)
      (leaves : worker.markFailedOnError = false) :
      ¬ Raises encodeBytes32 worker outcomes
          (executeAll (callsOf encodeBytes32 worker outcomes earlier) contract) anchor ↔
        (∃ problem, submissionValues anchor = .error problem) ∨
          Executes encodeBytes32 worker outcomes contract earlier anchor ∧
            (outcomes anchor.id).delivery.answered = true := by
    rw [Raises, accepted_iff]
    cases values : submissionValues anchor with
    | error problem => simp
    | ok pair => simp [leaves]
  cases marks : worker.markFailedOnError with
  | true =>
    refine iff_of_true ?_ (Or.inl rfl)
    intro earlier anchor later _ _ raises
    rw [Raises, marks] at raises
    cases raises.1
  | false =>
    constructor
    · intro smooth
      refine Or.inr fun earlier anchor later split more => ?_
      exact (quiet earlier anchor marks).mp (smooth earlier anchor later split more)
    · rintro (impossible | each) earlier anchor later split more
      · cases impossible
      · exact (quiet earlier anchor marks).mpr (each earlier anchor later split more)

/-- An executed call is the one that writes its record. -/
theorem Executes.writes (executes : Executes encodeBytes32 worker outcomes contract earlier anchor)
    {recordId contentHash : Bytes32}
    (words : submissionWords encodeBytes32 anchor = some (recordId, contentHash)) :
    hasRecord recordId contract = false ∧ ∀ later, (writer recordId contract.owner (callsOf
      encodeBytes32 worker outcomes (earlier ++ anchor :: later))).map Call.contentHash =
        some contentHash := by
  obtain ⟨call, own, effective, free, first⟩ := executes
  obtain ⟨asked, -⟩ := ownCall_words own
  rw [words] at asked
  cases asked
  refine ⟨free, fun later => ?_⟩
  rw [callsOf, List.flatMap_append, List.flatMap_cons, writer_append, ← callsOf, first, turnCalls, own]
  simp [writer_cons, effective]

/-- When a submission does not return, its anchor is on chain at the end exactly if it is lost. -/
theorem lost_iff (missed : ¬ (Executes encodeBytes32 worker outcomes contract earlier anchor ∧
      (outcomes anchor.id).delivery.answered = true)) :
    Lost encodeBytes32 worker outcomes contract earlier anchor later ↔
      ∃ recordId contentHash, submissionWords encodeBytes32 anchor = some (recordId, contentHash) ∧
        Holds (executeAll (callsOf encodeBytes32 worker outcomes (earlier ++ anchor :: later))
          contract) recordId contentHash := by
  simp only [holds_executeAll]
  constructor
  · intro lost
    cases lost with
    | before words stored => exact ⟨_, _, words, Or.inl stored⟩
    | unanswered executes silent =>
      obtain ⟨call, own, -⟩ := id executes
      obtain ⟨words, -⟩ := ownCall_words own
      obtain ⟨free, written⟩ := executes.writes words
      exact ⟨_, _, words, Or.inr ⟨free, written later⟩⟩
    | byAnother words stopped free stored => exact ⟨_, _, words, Or.inr ⟨free, stored⟩⟩
  · rintro ⟨recordId, contentHash, words, stored | ⟨free, stored⟩⟩
    · exact .before words stored
    · by_cases executes : Executes encodeBytes32 worker outcomes contract earlier anchor
      · exact .unanswered executes (Bool.eq_false_iff.mpr fun answered => missed ⟨executes, answered⟩)
      · exact .byAnother words executes free stored

/-- No submission returns for a lost anchor. -/
theorem Lost.missed (lost : Lost encodeBytes32 worker outcomes contract earlier anchor later) :
    ¬ (Executes encodeBytes32 worker outcomes contract earlier anchor ∧
      (outcomes anchor.id).delivery.answered = true) := by
  rintro ⟨executes, answered⟩
  cases lost with
  | before words stored =>
    have free := (executes.writes words).1
    rw [stored.1] at free
    cases free
  | unanswered _ silent =>
    rw [answered] at silent
    cases silent
  | byAnother _ stopped _ _ => exact stopped executes

/-- What a contract would still take at the end of a batch was not asked of it. -/
theorem not_accepted_after {final : WorkerState} (member : anchor ∈ queue)
    (ends : final.contract = executeAll (callsOf encodeBytes32 worker outcomes queue) contract) :
    ¬ Accepted encodeBytes32 worker outcomes final.contract anchor := by
  rintro ⟨call, own, success, -⟩
  rw [execute_success_iff, ends, owner_executeAll, hasRecord_executeAll] at success
  obtain ⟨effective, -, unwritten⟩ := success
  have asked : call ∈ callsOf encodeBytes32 worker outcomes queue := by
    apply List.mem_flatMap.mpr
    refine ⟨anchor, member, ?_⟩
    rw [turnCalls, own]
    exact List.mem_append_left _ List.mem_cons_self
  have silent := List.find?_eq_none.mp unwritten call asked
  simp [effective] at silent

/-- A batch that takes up the whole queue makes progress exactly when it loses no anchor. -/
theorem progress_of_finishes {anchors : AnchorTable} {final : WorkerState} (unique : UniqueIds queue)
    (finishes : Finishes encodeBytes32 worker outcomes queue ⟨anchors, contract, []⟩ final) :
    Progress encodeBytes32 worker outcomes queue final ↔ EachTurn queue fun earlier anchor later =>
      ¬ Lost encodeBytes32 worker outcomes contract earlier anchor later := by
  constructor
  · intro progress earlier anchor later split lost
    have member : anchor ∈ queue := by rw [split]; simp
    obtain ⟨recordId, contentHash, words, stored⟩ := (lost_iff lost.missed).mp lost
    rw [← split, ← finishes.contract] at stored
    have confirmed := progress.confirmed anchor member recordId contentHash words (Or.inl stored)
    exact lost.missed (accepted_iff.mp ((finishes.confirmed earlier anchor later split).mp confirmed))
  · intro noneLost
    constructor
    · intro anchor member
      rw [finishes.attempted, List.nil_append]
      exact List.count_eq_one_of_mem unique (List.mem_map_of_mem member)
    · rintro anchor member recordId contentHash words (stored | storable)
      · obtain ⟨earlier, later, split⟩ := List.append_of_mem member
        apply (finishes.confirmed earlier anchor later split).mpr
        apply accepted_iff.mpr
        by_contra missed
        apply noneLost earlier anchor later split
        rw [finishes.contract, split] at stored
        exact (lost_iff missed).mpr ⟨recordId, contentHash, words, stored⟩
      · exact absurd storable (not_accepted_after member finishes.contract)

theorem batch_progress {anchors : AnchorTable} (unique : UniqueIds anchors)
    (enough : (pendingAnchors anchors).length ≤ worker.batchSize) :
    Progress encodeBytes32 worker outcomes (pendingAnchors anchors)
      (processPendingBatch encodeBytes32 worker outcomes anchors contract).2 ↔
    Smooth encodeBytes32 worker outcomes contract (pendingAnchors anchors) := by
  by_cases smooth : NoAbort encodeBytes32 worker outcomes contract (pendingAnchors anchors)
  · have finishes := @processTurns_finishes encodeBytes32 worker outcomes _
      ⟨anchors, contract, []⟩ worker.batchSize unique rfl enough smooth
    rw [processPendingBatch, progress_of_finishes unique.pending finishes]
    exact ⟨fun noneLost => ⟨noAbort_iff.mp smooth, noneLost⟩, Smooth.noneLost⟩
  · have aborts := @processTurns_aborts encodeBytes32 worker outcomes _
      ⟨anchors, contract, []⟩ worker.batchSize unique rfl enough (by simp) smooth
    obtain ⟨anchor, member, missed⟩ := aborts
    constructor
    · intro progress
      have once := progress.attempted anchor member
      rw [processPendingBatch, List.count_eq_zero_of_not_mem missed] at once
      cases once
    · intro meets
      exact absurd (noAbort_iff.mpr meets.noAbort) smooth

theorem linked_batch : (none : Option Uuid) ≠ none ∨ (some 5 : Option Uuid) ≠ none :=
  Or.inr (Option.some_ne_none 5)

/-- A pending anchor of a batch, with its record. -/
def batchAnchor (id : Uuid) (recordId : String) : BlockchainAnchor where
  id := id
  messageId := none
  batchId := some 5
  recordId := some recordId
  digest := "0x00000000000000000000000000000000000000000000000000000000000000b2"
  merkleRoot := none
  transactionHash := none
  contractAddress := none
  chain := .sepolia
  status := .pending
  createdAt := .newYear2026
  anchoredAt := none
  linked := linked_batch

def sampleTable : AnchorTable := [
  batchAnchor 100 "0x00000000000000000000000000000000000000000000000000000000000000a1",
  batchAnchor 101 "0x00000000000000000000000000000000000000000000000000000000000000a2"]

/-- The defaults of `config.py`, for the account of the contract's owner. -/
def sampleWorker : BlockchainAnchorWorker where
  account := 1
  contractAddress := "0x01"
  batchSize := 10
  markFailedOnError := false

theorem sampleTime_ne : (1 : Uint256) ≠ 0 := by decide

def sampleTime : BlockTime := ⟨1, sampleTime_ne⟩

/-- Every transaction is mined and answered. -/
def sampleOutcomes : Uuid → SubmissionOutcome := fun _ =>
  ⟨.mined "0xaa" sampleTime true (some .newYear2026), []⟩

/-- A worker died after the transaction of anchor 100 was mined. -/
def crashedContract : Contract := executeAll [⟨1, 0xa1, 0xb2, sampleTime, true⟩] (deploy 1)

/-- The next batch raises at anchor 100, as will every later one, and never comes to anchor 101. -/
theorem crash_starves : UniqueIds sampleTable ∧
    (pendingAnchors sampleTable).length ≤ sampleWorker.batchSize ∧
    Holds crashedContract 0xa1 0xb2 ∧
    ¬ Progress encodeHex sampleWorker sampleOutcomes (pendingAnchors sampleTable)
      (processPendingBatch encodeHex sampleWorker sampleOutcomes sampleTable crashedContract).2 := by
  have missed : (processPendingBatch encodeHex sampleWorker sampleOutcomes sampleTable
      crashedContract).2.attempted = [100] := by
    decide +kernel
  have waiting : batchAnchor 101
      "0x00000000000000000000000000000000000000000000000000000000000000a2" ∈
        pendingAnchors sampleTable := by
    decide
  have unique : (sampleTable.map BlockchainAnchor.id).Nodup := by decide
  refine ⟨unique, by decide, ⟨by decide, by decide⟩, ?_⟩
  intro progress
  have once := progress.attempted _ waiting
  rw [missed] at once
  exact absurd once (by decide)

/-! ## A batch that goes on -/

/-- Between two good anchors, one without a record id, and one whose call is never mined. -/
def mixedTable : AnchorTable := [
  batchAnchor 100 "0x00000000000000000000000000000000000000000000000000000000000000a1",
  batchAnchor 101 "",
  batchAnchor 102 "0x00000000000000000000000000000000000000000000000000000000000000a3",
  batchAnchor 103 "0x00000000000000000000000000000000000000000000000000000000000000a4"]

def markingWorker : BlockchainAnchorWorker := { sampleWorker with markFailedOnError := true }

/-- In the meantime account 2, which is not the owner's, calls the contract with the last record. -/
def mixedOutcomes : Uuid → SubmissionOutcome := fun id =>
  if id = 102 then ⟨.lost, [⟨2, 0xa4, 0xb2, sampleTime, true⟩]⟩ else sampleOutcomes id

theorem not_lost_of_unreadable
    (unreadable : submissionWords encodeBytes32 anchor = none) :
    ¬ Lost encodeBytes32 worker outcomes contract earlier anchor later := by
  intro lost
  cases lost with
  | before words _ => cases unreadable.symm.trans words
  | unanswered executes _ =>
    obtain ⟨call, own, _⟩ := executes
    cases unreadable.symm.trans (ownCall_words own).1
  | byAnother words _ _ _ => cases unreadable.symm.trans words

/-- Nobody writes the record of a call that is never mined. -/
theorem not_lost_of_unwritten {recordId contentHash : Bytes32}
    (words : submissionWords encodeBytes32 anchor = some (recordId, contentHash))
    (uncalled : ownCall encodeBytes32 worker outcomes anchor = none)
    (free : hasRecord recordId contract = false)
    (unwritten : writer recordId contract.owner
      (callsOf encodeBytes32 worker outcomes (earlier ++ anchor :: later)) = none) :
    ¬ Lost encodeBytes32 worker outcomes contract earlier anchor later := by
  intro lost
  cases lost with
  | before others stored =>
    cases words.symm.trans others
    cases free.symm.trans stored.1
  | unanswered executes _ =>
    obtain ⟨call, own, _⟩ := executes
    cases uncalled.symm.trans own
  | byAnother others _ _ stored =>
    cases words.symm.trans others
    rw [unwritten] at stored
    cases stored

theorem smooth_mixed :
    Smooth encodeHex markingWorker mixedOutcomes (deploy 1) (pendingAnchors mixedTable) := by
  have queue : pendingAnchors mixedTable = mixedTable := by decide
  have first : Executes encodeHex markingWorker mixedOutcomes (deploy 1) []
      (batchAnchor 100 "0x00000000000000000000000000000000000000000000000000000000000000a1") :=
    ⟨⟨1, 0xa1, 0xb2, sampleTime, true⟩, by decide, by decide, by decide, by decide⟩
  have last : Executes encodeHex markingWorker mixedOutcomes (deploy 1) (mixedTable.take 3)
      (batchAnchor 103 "0x00000000000000000000000000000000000000000000000000000000000000a4") :=
    ⟨⟨1, 0xa4, 0xb2, sampleTime, true⟩, by decide, by decide, by decide, by decide⟩
  rw [queue]
  refine ⟨Or.inl rfl, eachTurn_cons.mpr ⟨fun lost => lost.missed ⟨first, rfl⟩, ?_⟩⟩
  refine eachTurn_cons.mpr ⟨not_lost_of_unreadable (by decide), ?_⟩
  refine eachTurn_cons.mpr ⟨?_, ?_⟩
  · exact @not_lost_of_unwritten _ _ _ _ _ _ _ 0xa3 0xb2 (by decide) (by decide) (by decide)
      (by decide)
  · exact eachTurn_cons.mpr ⟨fun lost => lost.missed ⟨last, rfl⟩, eachTurn_nil⟩

/-- All four are attempted, and the two that can be stored are confirmed. -/
theorem batch_progress_mixed :
    Progress encodeHex markingWorker mixedOutcomes (pendingAnchors mixedTable)
      (processPendingBatch encodeHex markingWorker mixedOutcomes mixedTable (deploy 1)).2 ∧
    (processPendingBatch encodeHex markingWorker mixedOutcomes mixedTable (deploy 1)).2.anchors.map
      BlockchainAnchor.status = [.confirmed, .failed, .failed, .confirmed] := by
  have unique : UniqueIds mixedTable := show (mixedTable.map BlockchainAnchor.id).Nodup by decide
  exact ⟨(batch_progress unique (by decide)).mpr smooth_mixed, by decide +kernel⟩

end EpicKfc.Guarantees.AnchorProgress
