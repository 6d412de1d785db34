import EpicKfc.Source.Blockchain.Hex32
import EpicKfc.Source.Server.AnchorRelaySteps

/-!
# A confirmed anchor is on the chain

A worker confirms an anchor it has held since it read the values it submitted, and
only after a receipt of success. The contract keeps what it stored, and a row that
is not pending is never held again, so what a confirmed row says stays true and
stays as it is.
-/

namespace EpicKfc.Guarantees.AnchorConfirmation
open EpicKfc.Lib
open EpicKfc.Lib.Keccak (Byte)
open EpicKfc.Lib.RowTable (Row row)
open EpicKfc.Source.Blockchain
open EpicKfc.Source.Blockchain.MessageFidelity (Holds)
open EpicKfc.Source.Blockchain.Transactions (Extends)
open EpicKfc.Source.Server
open EpicKfc.Source.Server.Messages
open EpicKfc.Source.Server.BlockchainAnchors
open EpicKfc.Source.Server.AnchorRelay

/-- Any set of pending and failed anchors, any chain, and no worker under way. -/
def Starts (backend : Backend) : Prop :=
  backend.Quiet ∧ ∀ id anchor, (row id backend.anchors).committed = some anchor →
    anchor.status ≠ .confirmed

/-- The value is in the table, committed or held. -/
def Stored (backend : Backend) (id : Uuid) (anchor : BlockchainAnchor) : Prop :=
  (row id backend.anchors).committed = some anchor ∨
    ∃ holder, (row id backend.anchors).held = some (holder, anchor)

section
variable (encodeBytes32 : String → Option Bytes32)

/-- These values were broadcast for the anchor, and the contract holds them. -/
def Accepted (backend : Backend) (id : Uuid) (recordId contentHash transactionHash : String) : Prop :=
  ⟨id, recordId, contentHash, transactionHash⟩ ∈ backend.submissions ∧
    ∃ recordWord contentWord, encodeBytes32 recordId = some recordWord ∧
      encodeBytes32 contentHash = some contentWord ∧
      Holds backend.chain.contract recordWord contentWord

/-- The contract holds what the anchor says was submitted for it. -/
def OnChain (backend : Backend) (id : Uuid) (anchor : BlockchainAnchor) : Prop :=
  ∃ recordId root transactionHash, anchor.recordId = some recordId ∧
    anchor.merkleRoot = some root ∧ anchor.transactionHash = some transactionHash ∧
    Accepted encodeBytes32 backend id recordId root transactionHash

/-- The call of these values is known to the chain. -/
def Broadcast (backend : Backend) (id : Uuid) (recordId contentHash transactionHash : String) : Prop :=
  ⟨id, recordId, contentHash, transactionHash⟩ ∈ backend.submissions ∧
    ∃ recordWord contentWord sender receipt, encodeBytes32 recordId = some recordWord ∧
      encodeBytes32 contentHash = some contentWord ∧
      backend.chain.transactions transactionHash = some ⟨sender, recordWord, contentWord, receipt⟩

def PhaseHolds (backend : Backend) : SessionState → Prop
  | .submitting _ anchor recordId contentHash =>
    submissionValues anchor = .ok (recordId, contentHash)
  | .awaiting id anchor recordId contentHash transactionHash =>
    submissionValues anchor = .ok (recordId, contentHash) ∧
      Broadcast encodeBytes32 backend id recordId contentHash transactionHash
  | .updating id anchor change => change = failedChange ∨
    ∃ recordId contentHash transactionHash contractAddress anchoredAt,
      change = confirmedChange transactionHash contractAddress contentHash anchoredAt ∧
      submissionValues anchor = .ok (recordId, contentHash) ∧
      Accepted encodeBytes32 backend id recordId contentHash transactionHash
  | _ => True

/-- A value of the table agrees with the chain and with everything submitted for it. -/
structure Sound (backend : Backend) (id : Uuid) (anchor : BlockchainAnchor) : Prop where
  onChain : anchor.status = .confirmed → OnChain encodeBytes32 backend id anchor
  submitted : ∀ submission ∈ backend.submissions, submission.anchorId = id →
    submissionValues anchor = .ok (submission.recordId, submission.contentHash)

structure Confirmation (backend : Backend) : Prop where
  sound : ∀ id anchor, Stored backend id anchor → Sound encodeBytes32 backend id anchor
  present : ∀ submission ∈ backend.submissions,
    ∃ anchor, (row submission.anchorId backend.anchors).committed = some anchor
  phases : ∀ session, PhaseHolds encodeBytes32 backend (backend.sessions session)

end

variable {keccak : List Byte → List Byte} {encodeBytes32 : String → Option Bytes32}
variable {backend backend' : Backend} {session : SessionId} {statement : Statement}

/-! ## What the chain and the record of submissions keep -/

/-- Submissions are recorded for good and the chain extends. -/
structure Grows (backend backend' : Backend) : Prop where
  submissions : backend.submissions ⊆ backend'.submissions
  chain : Extends backend.chain backend'.chain

theorem Grows.same (submissions : backend'.submissions = backend.submissions)
    (chain : backend'.chain = backend.chain) : Grows backend backend' :=
  ⟨submissions ▸ List.Subset.refl _, chain ▸ .refl _⟩

theorem Accepted.grow {id : Uuid} {recordId contentHash transactionHash : String}
    (accepted : Accepted encodeBytes32 backend id recordId contentHash transactionHash)
    (grows : Grows backend backend') :
    Accepted encodeBytes32 backend' id recordId contentHash transactionHash := by
  obtain ⟨submitted, recordWord, contentWord, encoded, encoded', holds⟩ := accepted
  exact ⟨grows.submissions submitted, recordWord, contentWord, encoded, encoded',
    grows.chain.holds _ _ holds⟩

theorem OnChain.grow {id : Uuid} {anchor : BlockchainAnchor}
    (onChain : OnChain encodeBytes32 backend id anchor) (grows : Grows backend backend') :
    OnChain encodeBytes32 backend' id anchor := by
  obtain ⟨recordId, root, transactionHash, record, merkle, transaction, accepted⟩ := onChain
  exact ⟨recordId, root, transactionHash, record, merkle, transaction, accepted.grow grows⟩

theorem PhaseHolds.grow {state : SessionState} (holds : PhaseHolds encodeBytes32 backend state)
    (grows : Grows backend backend') : PhaseHolds encodeBytes32 backend' state := by
  unfold PhaseHolds at holds ⊢
  split
  · exact holds
  · obtain ⟨values, submitted, recordWord, contentWord, sender, receipt, encoded, encoded', known⟩ :=
      holds
    obtain ⟨receipt', known'⟩ := grows.chain.known _ _ known
    exact ⟨values, grows.submissions submitted, recordWord, contentWord, sender, receipt', encoded,
      encoded', known'⟩
  · obtain failed | ⟨recordId, contentHash, transactionHash, contractAddress, anchoredAt, confirms,
      values, accepted⟩ := holds
    · exact Or.inl failed
    · exact Or.inr ⟨recordId, contentHash, transactionHash, contractAddress, anchoredAt, confirms,
        values, accepted.grow grows⟩
  · trivial

/-! ## Values that updates leave alone -/

/-- A confirmed anchor would submit the same values again. -/
theorem submissionValues_confirmed {anchor : BlockchainAnchor} {recordId contentHash : String}
    (values : submissionValues anchor = .ok (recordId, contentHash))
    (transactionHash contractAddress : String) (anchoredAt : UtcTimestamp) :
    submissionValues ((confirmedChange transactionHash contractAddress contentHash anchoredAt).apply
      anchor) = .ok (recordId, contentHash) := by
  obtain ⟨record, present, written, nonempty⟩ := submissionValues_ok values
  simp [submissionValues, AnchorChange.apply, confirmedChange, updateAnchorStatus, orText, record,
    present, nonempty]

/-! ## One statement -/

/-- What a step without a broadcast has to show; the other sessions are framed. -/
theorem Confirmation.next {state : SessionState} (before : Confirmation encodeBytes32 backend)
    (sessions : backend'.sessions = Function.update backend.sessions session state)
    (submissions : backend'.submissions = backend.submissions)
    (chain : backend'.chain = backend.chain)
    (kept : ∀ id anchor, (row id backend.anchors).committed = some anchor →
      ∃ anchor', (row id backend'.anchors).committed = some anchor')
    (stored : ∀ id anchor, Stored backend' id anchor →
      Stored backend id anchor ∨ Sound encodeBytes32 backend id anchor)
    (phase : PhaseHolds encodeBytes32 backend state) : Confirmation encodeBytes32 backend' := by
  have grows : Grows backend backend' := .same submissions chain
  constructor
  · intro id anchor member
    have sound : Sound encodeBytes32 backend id anchor := by
      obtain old | new := stored id anchor member
      · exact before.sound id anchor old
      · exact new
    exact ⟨fun confirmed => (sound.onChain confirmed).grow grows, submissions ▸ sound.submitted⟩
  · rw [submissions]
    intro submission member
    obtain ⟨anchor, present⟩ := before.present submission member
    exact kept _ anchor present
  · intro other
    rw [sessions]
    by_cases same : other = session
    · rw [same, Function.update_self]
      exact phase.grow grows
    · rw [Function.update_of_ne same]
      exact (before.phases other).grow grows

/-- Statements that leave the anchors alone and broadcast nothing. -/
theorem Confirmation.elsewhere {state : SessionState} (before : Confirmation encodeBytes32 backend)
    (sessions : backend'.sessions = Function.update backend.sessions session state)
    (submissions : backend'.submissions = backend.submissions)
    (chain : backend'.chain = backend.chain) (anchors : backend'.anchors = backend.anchors)
    (phase : PhaseHolds encodeBytes32 backend state) : Confirmation encodeBytes32 backend' := by
  refine before.next sessions submissions chain ?_ ?_ phase
  · rw [anchors]
    exact fun id anchor present => ⟨anchor, present⟩
  · intro id anchor member
    rw [Stored, anchors] at member
    exact Or.inl member

/-- One anchor row that the session takes or rewrites. -/
theorem Confirmation.put {state : SessionState} {id : Uuid} {committed : Option BlockchainAnchor}
    {held : BlockchainAnchor} (before : Confirmation encodeBytes32 backend)
    (sessions : backend'.sessions = Function.update backend.sessions session state)
    (submissions : backend'.submissions = backend.submissions)
    (chain : backend'.chain = backend.chain)
    (anchors : backend'.anchors = RowTable.put id ⟨committed, some (session, held)⟩ backend.anchors)
    (same : (row id backend.anchors).committed = committed)
    (sound : Sound encodeBytes32 backend id held)
    (phase : PhaseHolds encodeBytes32 backend state) : Confirmation encodeBytes32 backend' := by
  refine before.next sessions submissions chain ?_ ?_ phase
  · intro other anchor present
    rw [anchors, RowTable.row_put]
    split
    · next here =>
      subst here
      exact ⟨anchor, by rw [← same, present]⟩
    · exact ⟨anchor, present⟩
  · intro other anchor member
    rw [Stored, anchors, RowTable.row_put] at member
    split at member
    · next here =>
      subst here
      obtain present | ⟨holder, mine⟩ := member
      · exact Or.inl (Or.inl (same.trans present))
      · cases mine
        exact Or.inr sound
    · exact Or.inl member

/-- The anchor a request inserts is pending, and nothing was submitted under its id. -/
theorem Confirmation.insert {message : Message} {id : Uuid} {createdAt : UtcTimestamp}
    (before : Confirmation encodeBytes32 backend) (free : row id backend.anchors = ⟨none, none⟩) :
    Confirmation encodeBytes32 ((backend.withAnchor id
      ⟨none, some (session, createAnchor keccak message id createdAt)⟩).goes session
        (.created message)) := by
  refine before.put rfl rfl rfl rfl (by rw [free]) ⟨fun confirmed => ?_, ?_⟩ trivial
  · cases confirmed
  · intro submission member here
    obtain ⟨anchor, present⟩ := before.present submission member
    rw [here, free] at present
    cases present

/-- The worker writes to the anchor it holds. -/
theorem Confirmation.update {id : Uuid} {anchor : BlockchainAnchor} {change : AnchorChange}
    {table : RowTable.Table Uuid SessionId BlockchainAnchor}
    (before : Confirmation encodeBytes32 backend) (locks : LockDiscipline keccak backend)
    (updating : backend.sessions session = .updating id anchor change)
    (updated : RowTable.update session id change.apply backend.anchors = some table) :
    Confirmation encodeBytes32 ({ backend with anchors := table }.goes session .flushed) := by
  obtain ⟨held, pending⟩ := locks.working session id anchor (by rw [updating]; rfl)
  have sound := before.sound id anchor (Or.inl (by rw [held]))
  have phase := before.phases session
  rw [updating] at phase
  rw [RowTable.update_of_held held] at updated
  cases updated
  refine before.put rfl rfl rfl rfl (by rw [held]) ?_ trivial
  obtain rfl | ⟨recordId, contentHash, transactionHash, contractAddress, anchoredAt, rfl, values,
    accepted⟩ := phase
  · refine ⟨fun confirmed => ?_, sound.submitted⟩
    cases confirmed
  · constructor
    · intro _
      exact ⟨recordId, contentHash, transactionHash, (submissionValues_ok values).1, rfl, rfl,
        accepted⟩
    · intro submission member here
      have earlier := sound.submitted submission member here
      rw [values] at earlier
      rw [submissionValues_confirmed values, earlier]

/-- A call is broadcast for the anchor the session holds. -/
theorem Confirmation.broadcast {id : Uuid} {anchor : BlockchainAnchor}
    {recordId contentHash transactionHash : String} {recordWord contentWord : Bytes32}
    {sender : MessageFidelity.Address} {chain : Transactions.Chain}
    (before : Confirmation encodeBytes32 backend) (locks : LockDiscipline keccak backend)
    (submitting : backend.sessions session = .submitting id anchor recordId contentHash)
    (encoded : encodeBytes32 recordId = some recordWord)
    (encoded' : encodeBytes32 contentHash = some contentWord) (extends' : Extends backend.chain chain)
    (known : chain.transactions transactionHash = some ⟨sender, recordWord, contentWord, none⟩) :
    Confirmation encodeBytes32 ({ backend with
      chain := chain
      submissions := ⟨id, recordId, contentHash, transactionHash⟩ :: backend.submissions }.goes
        session (.awaiting id anchor recordId contentHash transactionHash)) := by
  obtain ⟨held, -⟩ := locks.working session id anchor (by rw [submitting]; rfl)
  have values := before.phases session
  rw [submitting] at values
  have grows : Grows backend ({ backend with
      chain := chain
      submissions := ⟨id, recordId, contentHash, transactionHash⟩ :: backend.submissions }.goes
        session (.awaiting id anchor recordId contentHash transactionHash)) :=
    ⟨List.subset_cons_self _ _, extends'⟩
  constructor
  · intro other value member
    have sound := before.sound other value member
    refine ⟨fun confirmed => (sound.onChain confirmed).grow grows, ?_⟩
    intro submission submitted here
    obtain rfl | earlier := List.mem_cons.mp submitted
    · -- Both versions of a row a worker has not written to are the one it locked.
      cases here
      have same : value = anchor := by
        obtain present | ⟨holder, mine⟩ := member
        · change (row id backend.anchors).committed = _ at present
          rw [held] at present
          cases present
          rfl
        · change (row id backend.anchors).held = _ at mine
          rw [held] at mine
          cases mine
          rfl
      rw [same]
      exact values
    · exact sound.submitted submission earlier here
  · intro submission submitted
    obtain rfl | earlier := List.mem_cons.mp submitted
    · exact ⟨anchor, congrArg Row.committed held⟩
    · exact before.present submission earlier
  · intro other
    by_cases same : other = session
    · subst same
      rw [Backend.goes_self]
      exact ⟨values, List.mem_cons_self, recordWord, contentWord, sender, none, encoded, encoded',
        known⟩
    · rw [Backend.goes_of_ne same]
      exact (before.phases other).grow grows

/-- A commit makes held values the committed ones. -/
theorem Confirmation.commit (before : Confirmation encodeBytes32 backend) :
    Confirmation encodeBytes32 (backend.commits session) := by
  refine before.next rfl rfl rfl ?_ ?_ trivial
  · intro id anchor present
    change ∃ anchor', (row id (RowTable.commit session backend.anchors)).committed = some anchor'
    obtain ⟨value, -, now⟩ | ⟨-, same⟩ := RowTable.row_commit_cases session id backend.anchors
    · exact ⟨value, by rw [now]⟩
    · exact ⟨anchor, by rw [same, present]⟩
  · intro id anchor member
    change (row id (RowTable.commit session backend.anchors)).committed = _ ∨
      ∃ holder, (row id (RowTable.commit session backend.anchors)).held = _ at member
    obtain ⟨value, held, now⟩ | ⟨-, same⟩ := RowTable.row_commit_cases session id backend.anchors
    · rw [now] at member
      obtain present | ⟨holder, mine⟩ := member
      · cases present
        exact Or.inl (Or.inr ⟨session, held⟩)
      · cases mine
    · rw [same] at member
      exact Or.inl member

theorem Confirmation.rollback {state : SessionState} (before : Confirmation encodeBytes32 backend)
    (ended : state.ended = true) :
    Confirmation encodeBytes32 (backend.rollsBack session state) := by
  have work := RowTable.rollback_uncommitted session backend.anchors
  refine before.next rfl rfl rfl ?_ ?_ ?_
  · exact fun id anchor present => ⟨anchor, (work.committed id).trans present⟩
  · rintro id anchor (present | ⟨holder, held⟩)
    · exact Or.inl (Or.inl ((work.committed id).symm.trans present))
    · by_cases mine : holder = session
      · exact absurd (mine ▸ held) (RowTable.rollback_releases session id anchor _)
      · exact Or.inl (Or.inr ⟨holder, (work.others id holder anchor mine).mp held⟩)
  · cases state <;> simp [SessionState.ended] at ended <;> trivial

theorem phaseHolds_plain {state : SessionState} (plain : state.plain = true) :
    PhaseHolds encodeBytes32 backend state := by
  cases state <;> simp [SessionState.plain] at plain <;> trivial

/-- One statement keeps confirmed anchors on the chain. -/
theorem confirmation_takes (before : Confirmation encodeBytes32 backend)
    (locks : LockDiscipline keccak backend)
    (taken : Takes keccak encodeBytes32 backend session statement backend') :
    Confirmation encodeBytes32 backend' := by
  cases taken with
  | reads state _ plain => exact before.elsewhere rfl rfl rfl rfl (phaseHolds_plain plain)
  | insertsMessage message _ _ => exact before.elsewhere rfl rfl rfl rfl trivial
  | requires message _ _ => exact before.elsewhere rfl rfl rfl rfl trivial
  | findsNone message isNew _ _ _ => exact before.elsewhere rfl rfl rfl rfl trivial
  | findsActive message id found _ _ _ => exact before.elsewhere rfl rfl rfl rfl trivial
  | insertsAnchor message id createdAt _ free => exact before.insert free
  | marks marker messageId now table _ _ => exact before.elsewhere rfl rfl rfl rfl trivial
  | locks anchorId anchor candidates _ free _ =>
    exact before.put rfl rfl rfl rfl (by rw [free])
      (before.sound anchorId anchor (Or.inl (by rw [free]))) trivial
  | submits anchorId anchor recordId contentHash _ values =>
    exact before.elsewhere rfl rfl rfl rfl values
  | broadcasts anchorId anchor recordId contentHash recordWord contentWord sender transactionHash
      chain submitting encoded encoded' extends' known =>
    exact before.broadcast locks submitting encoded encoded' extends' known
  | receives anchorId anchor recordId contentHash transactionHash contractAddress anchoredAt
      awaiting success =>
    have phase := before.phases session
    rw [awaiting] at phase
    obtain ⟨values, submitted, recordWord, contentWord, sender, receipt, encoded, encoded', known⟩ :=
      phase
    have holds := Transactions.holds_of_receipt known success
    exact before.elsewhere rfl rfl rfl rfl (Or.inr ⟨recordId, contentHash, transactionHash,
      contractAddress, anchoredAt, rfl, values, submitted, recordWord, contentWord, encoded,
      encoded', holds⟩)
  | givesUp anchorId anchor _ => exact before.elsewhere rfl rfl rfl rfl (Or.inl rfl)
  | updates anchorId anchor change table updating updated =>
    exact before.update locks updating updated
  | commits _ => exact before.commit
  | ends state _ ended => exact before.rollback ended

/-! ## Runs -/

theorem confirmation_step {event : Event} (before : Confirmation encodeBytes32 backend)
    (locks : LockDiscipline keccak backend)
    (moved : anchorStep keccak encodeBytes32 backend event = some backend') :
    Confirmation encodeBytes32 backend' := by
  obtain ⟨session, statement, -, taken⟩ | ⟨chain, extends', rfl⟩ := anchorStep_cases moved
  · exact confirmation_takes before locks taken
  · have grows : Grows backend { backend with chain := chain } :=
      ⟨List.Subset.refl _, extends'⟩
    refine ⟨?_, before.present, fun other => (before.phases other).grow grows⟩
    intro id anchor member
    have sound := before.sound id anchor member
    exact ⟨fun confirmed => (sound.onChain confirmed).grow grows, sound.submitted⟩

theorem confirmation_reachable
    (reached : Runs.Reachable (anchorStep keccak encodeBytes32) Starts backend) :
    LockDiscipline keccak backend ∧ Confirmation encodeBytes32 backend := by
  refine @Runs.invariant_of_preserved _ _ _ _ _
    (fun backend => LockDiscipline keccak backend ∧ Confirmation encodeBytes32 backend) ?_ ?_ _
    reached
  · rintro start ⟨quiet, unconfirmed⟩
    refine ⟨lockDiscipline_quiet quiet, ?_, ?_, ?_⟩
    · rintro id anchor (present | ⟨holder, held⟩)
      · refine ⟨fun confirmed => absurd confirmed (unconfirmed id anchor present), ?_⟩
        rw [quiet.submissions]
        exact fun submission member => absurd member List.not_mem_nil
      · rw [quiet.anchors id] at held
        cases held
    · rw [quiet.submissions]
      exact fun submission member => absurd member List.not_mem_nil
    · intro session
      rw [quiet.idle session]
      trivial
  · rintro middle event next ⟨locks, before⟩ - moved
    exact ⟨lockDiscipline_step locks moved, confirmation_step before locks moved⟩

/-- Every committed anchor that is not pending is as it was. -/
def SettledStay (backend backend' : Backend) : Prop :=
  ∀ id anchor, (row id backend.anchors).committed = some anchor → anchor.status ≠ .pending →
    (row id backend'.anchors).committed = some anchor

theorem settledStay_commit (locks : LockDiscipline keccak backend) :
    SettledStay backend (backend.commits session) := by
  intro id anchor present settled
  change (row id (RowTable.commit session backend.anchors)).committed = some anchor
  obtain ⟨value, held, -⟩ | ⟨-, same⟩ := RowTable.row_commit_cases session id backend.anchors
  · have here : row id backend.anchors = ⟨some anchor, some (session, value)⟩ := by
      cases here : row id backend.anchors
      simp_all
    exact absurd (locks.pending id session anchor value here).1 settled
  · rw [same, present]

theorem settledStay_step {event : Event} (locks : LockDiscipline keccak backend)
    (moved : anchorStep keccak encodeBytes32 backend event = some backend') :
    SettledStay backend backend' := by
  obtain ⟨session, statement, -, taken⟩ | ⟨chain, -, rfl⟩ := anchorStep_cases moved
  · obtain same | rfl := takes_anchors taken
    · exact fun id anchor present _ => (same id).trans present
    · exact settledStay_commit locks
  · exact fun id anchor present _ => present

theorem settledStay_run {events : List Event} (locks : LockDiscipline keccak backend)
    (ends : Runs.run (anchorStep keccak encodeBytes32) backend events = some backend') :
    SettledStay backend backend' := by
  refine @Runs.related_of_run _ _ (anchorStep keccak encodeBytes32) (fun _ _ => True)
    (LockDiscipline keccak) SettledStay ?_ ?_ ?_ events _ _ locks
    (Runs.everyStep_of_forall (fun _ _ _ => trivial) backend) ends
  · exact fun _ _ _ present _ => present
  · exact fun first second third stay stay' id anchor present settled =>
      stay' id anchor (stay id anchor present settled) settled
  · exact fun first event second locks _ moved =>
      ⟨lockDiscipline_step locks moved, settledStay_step locks moved⟩

/-- A confirmed anchor has the one hash that was submitted for it as its root, the contract
holds that hash under its record id, and the row never changes again. -/
theorem confirmed_on_chain
    (reached : Runs.Reachable (anchorStep keccak encodeBytes32) Starts backend) {id : Uuid}
    {anchor : BlockchainAnchor} (present : (row id backend.anchors).committed = some anchor)
    (confirmed : anchor.status = .confirmed) :
    OnChain encodeBytes32 backend id anchor ∧
    (∀ submission ∈ backend.submissions, submission.anchorId = id →
      anchor.recordId = some submission.recordId ∧
        anchor.merkleRoot = some submission.contentHash) ∧
    ∀ events later, Runs.run (anchorStep keccak encodeBytes32) backend events = some later →
      (row id later.anchors).committed = some anchor ∧ OnChain encodeBytes32 later id anchor := by
  obtain ⟨locks, confirmation⟩ := confirmation_reachable reached
  have sound := confirmation.sound id anchor (Or.inl present)
  refine ⟨sound.onChain confirmed, ?_, ?_⟩
  · intro submission member here
    obtain ⟨recordId, root, transactionHash, record, merkle, -, submitted, -⟩ :=
      sound.onChain confirmed
    have values := sound.submitted _ submitted rfl
    rw [sound.submitted submission member here] at values
    cases values
    exact ⟨record, merkle⟩
  · intro events later ends
    have settled : anchor.status ≠ .pending := by
      intro pending
      rw [confirmed] at pending
      cases pending
    have stays := settledStay_run locks ends id anchor present settled
    have reached' := Runs.reachableBy_of_run events reached
      (Runs.everyStep_of_forall (fun _ _ _ => trivial) backend) ends
    have sound' := (confirmation_reachable reached').2.sound id anchor (Or.inl stays)
    exact ⟨stays, sound'.onChain confirmed⟩

/-- A pending anchor of a batch. -/
def sampleAnchor : BlockchainAnchor where
  id := 100
  messageId := none
  batchId := some 5
  recordId := some "0x00000000000000000000000000000000000000000000000000000000000000a1"
  digest := "0x00000000000000000000000000000000000000000000000000000000000000b2"
  merkleRoot := none
  transactionHash := none
  contractAddress := none
  chain := .sepolia
  status := .pending
  createdAt := .newYear2026
  anchoredAt := none
  linked := Or.inr (Option.some_ne_none 5)

def sampleQueue : Backend :=
  { emptyBackend with anchors := RowTable.put 100 ⟨some sampleAnchor, none⟩ [] }

theorem minedAt_ne : (1 : Source.Blockchain.MessageFidelity.Uint256) ≠ 0 := by decide

/-- One turn of a worker. -/
def sampleTurn : List Event := [
  .session 0 .startWorker,
  .session 0 .visitAnchor,
  .session 0 .readValues,
  .session 0 (.broadcastCall 1 "0xaa"),
  .mine "0xaa" ⟨1, minedAt_ne⟩ true,
  .session 0 (.receiveReceipt "0x01" .newYear2026),
  .session 0 .flushUpdate,
  .session 0 .commit]

def statusOf (backend : Backend) (id : Uuid) : Option AnchorStatus :=
  (row id backend.anchors).committed.map BlockchainAnchor.status

theorem starts_sampleQueue : Starts sampleQueue := by
  have only (id : Uuid) : row id sampleQueue.anchors = ⟨none, none⟩ ∨
      row id sampleQueue.anchors = ⟨some sampleAnchor, none⟩ := by
    rw [sampleQueue, RowTable.row_put]
    split
    · exact Or.inr rfl
    · exact Or.inl rfl
  refine ⟨⟨fun _ => rfl, fun _ => rfl, ?_, rfl⟩, ?_⟩
  · intro id
    obtain free | pending := only id
    · rw [free]
    · rw [pending]
  · intro id anchor present confirmed
    obtain free | pending := only id
    · rw [free] at present
      cases present
    · rw [pending] at present
      cases present
      cases confirmed

theorem confirmed_on_chain_sample : ∃ backend anchor,
    (row 100 backend.anchors).committed = some anchor ∧ anchor.status = .confirmed ∧
    OnChain encodeHex backend 100 anchor := by
  have ends : (Runs.run (anchorStep Keccak.keccak256 encodeHex) sampleQueue sampleTurn).map
      (statusOf · 100) = some (some .confirmed) := by
    decide
  obtain ⟨backend, ran, status⟩ := Option.map_eq_some_iff.mp ends
  obtain ⟨anchor, present, confirmed⟩ := Option.map_eq_some_iff.mp status
  have reached := Runs.reachable_of_run starts_sampleQueue ran
  exact ⟨backend, anchor, present, confirmed, (confirmed_on_chain reached present confirmed).1⟩

end EpicKfc.Guarantees.AnchorConfirmation
