import EpicKfc.Lib.Runs
import EpicKfc.Source.Server.AnchorRelay

/-!
# What one statement does to messages, anchors and the chain

`Takes` lists every effect a statement can have, with the guards it passed.
`LockDiscipline` is what the locks of the workers and the inserts of the requests
give in every reachable state: a held anchor is a pending one with its evidence, or
an insert that its session has not committed.
-/

namespace EpicKfc.Source.Server.AnchorRelay
open EpicKfc.Lib
open EpicKfc.Lib.Keccak (Byte)
open EpicKfc.Lib.RowTable (Table Row row)
open EpicKfc.Source.Blockchain
open EpicKfc.Source.Blockchain.MessageFidelity (Address Holds)
open EpicKfc.Source.Blockchain.Transactions (Chain Extends)
open EpicKfc.Source.Server.Messages
open EpicKfc.Source.Server.BlockchainAnchors

/-- The session reads and writes nothing that a later statement depends on. -/
def SessionState.plain : SessionState → Bool
  | .idle | .validated _ | .loaded .. | .marking .. | .selecting _ => true
  | _ => false

/-- The anchor a worker's turn holds, as it was when the turn locked it. -/
def SessionState.working : SessionState → Option (Uuid × BlockchainAnchor)
  | .locked anchorId anchor => some (anchorId, anchor)
  | .submitting anchorId anchor _ _ => some (anchorId, anchor)
  | .awaiting anchorId anchor _ _ _ => some (anchorId, anchor)
  | .updating anchorId anchor _ => some (anchorId, anchor)
  | _ => none

/-- The message whose evidence the session is about to create or has created. -/
def SessionState.subject : SessionState → Option Message
  | .anchoring message _ => some message
  | .creating message => some message
  | .created message => some message
  | _ => none

def Backend.withMessage (backend : Backend) (id : Uuid) (value : Row SessionId Message) : Backend :=
  { backend with messages := RowTable.put id value backend.messages }

def Backend.withAnchor (backend : Backend) (id : Uuid) (value : Row SessionId BlockchainAnchor) :
    Backend :=
  { backend with anchors := RowTable.put id value backend.anchors }

/-- The message has an anchor that is pending or confirmed. -/
def HasActive (backend : Backend) (messageId : Uuid) : Prop :=
  ∃ id anchor, (row id backend.anchors).committed = some anchor ∧
    anchor.messageId = some messageId ∧ active anchor

theorem not_hasActive_of_none {backend : Backend} {messageId : Uuid}
    (none : getLatestActiveForMessage messageId backend.anchorRows = none) :
    ¬ HasActive backend messageId := by
  rintro ⟨id, anchor, stored, linked, isActive⟩
  have read : anchor ∈ backend.anchorRows := RowTable.mem_committedRows.mpr ⟨id, stored⟩
  exact getLatestActiveForMessage_eq_none.mp none anchor read linked isActive

section
variable (keccak : List Byte → List Byte) (encodeBytes32 : String → Option Bytes32)

/-- The effects that `statement` of `session` can have. -/
inductive Takes (backend : Backend) (session : SessionId) (statement : Statement) : Backend → Prop where
  | reads (state : SessionState) :
      (backend.sessions session).plain = true → state.plain = true →
      Takes backend session statement (backend.goes session state)
  | insertsMessage (message : Message) :
      backend.sessions session = .validated message →
      row message.id backend.messages = ⟨none, none⟩ →
      Takes backend session statement ((backend.withMessage message.id
        ⟨none, some (session, message)⟩).goes session (.anchoring message true))
  | requires (message : Message) :
      backend.sessions session = .idle →
      (row message.id backend.messages).committed = some message →
      Takes backend session statement (backend.goes session (.anchoring message false))
  | findsNone (message : Message) (isNew : Bool) :
      statement = .selectActive → backend.sessions session = .anchoring message isNew →
      getLatestActiveForMessage message.id backend.anchorRows = none →
      Takes backend session statement (backend.goes session (.creating message))
  | findsActive (message : Message) (id : Uuid) (found : BlockchainAnchor) :
      backend.sessions session = .anchoring message true →
      (row id backend.anchors).committed = some found → found.messageId = some message.id →
      Takes backend session statement (backend.goes session .flushed)
  | insertsAnchor (message : Message) (id : Uuid) (createdAt : UtcTimestamp) :
      backend.sessions session = .creating message →
      row id backend.anchors = ⟨none, none⟩ →
      Takes backend session statement ((backend.withAnchor id
        ⟨none, some (session, createAnchor keccak message id createdAt)⟩).goes session
          (.created message))
  | marks (marker : Marker) (messageId : Uuid) (now : UtcTimestamp)
      (table : Table Uuid SessionId Message) :
      backend.sessions session = .marking marker messageId now →
      RowTable.update session messageId (marker.set now) backend.messages = some table →
      Takes backend session statement ({ backend with messages := table }.goes session .flushed)
  | locks (anchorId : Uuid) (anchor : BlockchainAnchor) (candidates : List Uuid) :
      backend.sessions session = .selecting candidates →
      row anchorId backend.anchors = ⟨some anchor, none⟩ → anchor.status = .pending →
      Takes backend session statement ((backend.withAnchor anchorId
        ⟨some anchor, some (session, anchor)⟩).goes session (.locked anchorId anchor))
  | submits (anchorId : Uuid) (anchor : BlockchainAnchor) (recordId contentHash : String) :
      backend.sessions session = .locked anchorId anchor →
      submissionValues anchor = .ok (recordId, contentHash) →
      Takes backend session statement
        (backend.goes session (.submitting anchorId anchor recordId contentHash))
  | broadcasts (anchorId : Uuid) (anchor : BlockchainAnchor) (recordId contentHash : String)
      (recordWord contentWord : Bytes32) (sender : Address) (transactionHash : String)
      (chain : Chain) :
      backend.sessions session = .submitting anchorId anchor recordId contentHash →
      encodeBytes32 recordId = some recordWord → encodeBytes32 contentHash = some contentWord →
      Extends backend.chain chain →
      chain.transactions transactionHash = some ⟨sender, recordWord, contentWord, none⟩ →
      Takes backend session statement ({ backend with
        chain := chain
        submissions := ⟨anchorId, recordId, contentHash, transactionHash⟩ :: backend.submissions }.goes
          session (.awaiting anchorId anchor recordId contentHash transactionHash))
  | receives (anchorId : Uuid) (anchor : BlockchainAnchor)
      (recordId contentHash transactionHash contractAddress : String) (anchoredAt : UtcTimestamp) :
      backend.sessions session = .awaiting anchorId anchor recordId contentHash transactionHash →
      Transactions.receiptOf transactionHash backend.chain = some .success →
      Takes backend session statement (backend.goes session (.updating anchorId anchor
        (confirmedChange transactionHash contractAddress contentHash anchoredAt)))
  | givesUp (anchorId : Uuid) (anchor : BlockchainAnchor) :
      (backend.sessions session).working = some (anchorId, anchor) →
      Takes backend session statement
        (backend.goes session (.updating anchorId anchor failedChange))
  | updates (anchorId : Uuid) (anchor : BlockchainAnchor) (change : AnchorChange)
      (table : Table Uuid SessionId BlockchainAnchor) :
      backend.sessions session = .updating anchorId anchor change →
      RowTable.update session anchorId change.apply backend.anchors = some table →
      Takes backend session statement ({ backend with anchors := table }.goes session .flushed)
  | commits :
      (backend.sessions session = .flushed ∨
        ∃ message, backend.sessions session = .created message) →
      Takes backend session statement (backend.commits session)
  | ends (state : SessionState) :
      (backend.sessions session).ended = false → state.ended = true →
      Takes backend session statement (backend.rollsBack session state)

variable {keccak encodeBytes32}
variable {backend backend' : Backend} {session : SessionId} {statement : Statement}

theorem takes_prepareMessage {checked : Except MessageServiceError RowWrite}
    (idle : backend.sessions session = .idle)
    (moved : prepareMessage backend session checked = some backend') :
    Takes keccak encodeBytes32 backend session statement backend' := by
  unfold prepareMessage at moved
  split at moved
  · cases moved
    exact .reads _ (by rw [idle]; rfl) rfl
  · cases moved
  · cases moved
    exact .ends _ (by rw [idle]; rfl) rfl

theorem takes_insertMessage {message : Message}
    (validated : backend.sessions session = .validated message)
    (moved : insertMessage backend session message = some backend') :
    Takes keccak encodeBytes32 backend session statement backend' := by
  unfold insertMessage at moved
  split at moved
  · next table inserted =>
    cases moved
    obtain ⟨free, rfl⟩ := RowTable.insert_done inserted
    exact .insertsMessage message validated free
  · cases moved
    exact .ends _ (by rw [validated]; rfl) rfl
  · cases moved

theorem takes_startAnchor (currentUser messageId : Uuid)
    (idle : backend.sessions session = .idle) :
    Takes keccak encodeBytes32 backend session statement
      (startAnchor backend session currentUser messageId) := by
  unfold startAnchor
  split
  · exact .ends _ (by rw [idle]; rfl) rfl
  · next message granted =>
    obtain ⟨stored, key⟩ := requireMessageAccess_ok granted
    rw [Backend.messageRows, Option.mem_toList] at stored
    exact .requires message idle (key ▸ stored)

theorem takes_selectActive {message : Message} {isNew : Bool} (selects : statement = .selectActive)
    (anchoring : backend.sessions session = .anchoring message isNew) :
    Takes keccak encodeBytes32 backend session statement
      (selectActive backend session message isNew) := by
  unfold selectActive
  split
  · next none => exact .findsNone message isNew selects anchoring none
  · next found existing =>
    split
    · next fresh =>
      have member := List.mem_filter.mp (latest_mem existing)
      rw [decide_eq_true_eq] at member
      obtain ⟨id, stored⟩ := RowTable.mem_committedRows.mp member.1
      exact .findsActive message id found (fresh ▸ anchoring) stored member.2.1
    · exact .ends _ (by rw [anchoring]; rfl) rfl

theorem takes_insertAnchor {message : Message} {id : Uuid} {createdAt : UtcTimestamp}
    (creating : backend.sessions session = .creating message)
    (moved : insertAnchor keccak backend session message id createdAt = some backend') :
    Takes keccak encodeBytes32 backend session statement backend' := by
  unfold insertAnchor at moved
  split at moved
  · next table inserted =>
    cases moved
    obtain ⟨free, rfl⟩ := RowTable.insert_done inserted
    exact .insertsAnchor message id createdAt creating free
  · cases moved
    exact .ends _ (by rw [creating]; rfl) rfl
  · cases moved

theorem takes_loadMessage {currentUser messageId : Uuid} (checked : Except MessageServiceError Marker)
    (idle : backend.sessions session = .idle) :
    Takes keccak encodeBytes32 backend session statement
      (loadMessage backend session currentUser messageId checked) := by
  unfold loadMessage
  split
  · exact .reads _ (by rw [idle]; rfl) rfl
  · exact .ends _ (by rw [idle]; rfl) rfl

theorem takes_selectMarked {marker : Marker} {currentUser messageId : Uuid} (now : UtcTimestamp)
    (loaded : backend.sessions session = .loaded marker currentUser messageId) :
    Takes keccak encodeBytes32 backend session statement
      (selectMarked backend session marker currentUser messageId now) := by
  unfold selectMarked
  split
  · exact .ends _ (by rw [loaded]; rfl) rfl
  · exact .reads _ (by rw [loaded]; rfl) rfl

theorem takes_visitAnchor {candidates : List Uuid}
    (selecting : backend.sessions session = .selecting candidates) :
    Takes keccak encodeBytes32 backend session statement (visitAnchor backend session candidates) := by
  cases candidates with
  | nil => exact .ends _ (by rw [selecting]; rfl) rfl
  | cons anchorId candidates =>
    simp only [visitAnchor]
    split
    · next anchor table locked =>
      obtain ⟨free, rfl⟩ := RowTable.lockFree_some locked
      split
      · next pending => exact .locks anchorId anchor _ selecting free pending
      · exact .reads _ (by rw [selecting]; rfl) rfl
    · exact .reads _ (by rw [selecting]; rfl) rfl

theorem takes_readValues {anchorId : Uuid} {anchor : BlockchainAnchor}
    (locked : backend.sessions session = .locked anchorId anchor) :
    Takes keccak encodeBytes32 backend session statement
      (readValues backend session anchorId anchor) := by
  unfold readValues
  split
  · exact .givesUp anchorId anchor (by rw [locked]; rfl)
  · next recordId contentHash values =>
    exact .submits anchorId anchor recordId contentHash locked values

theorem takes_broadcastCall {anchorId : Uuid} {anchor : BlockchainAnchor}
    {recordId contentHash transactionHash : String} {sender : Address}
    (submitting : backend.sessions session = .submitting anchorId anchor recordId contentHash)
    (moved : broadcastCall encodeBytes32 backend session anchorId anchor recordId contentHash sender
      transactionHash = some backend') :
    Takes keccak encodeBytes32 backend session statement backend' := by
  simp only [broadcastCall, Option.bind_eq_bind, Option.bind_eq_some_iff, Option.pure_def,
    Option.some.injEq] at moved
  obtain ⟨recordWord, encoded, contentWord, encoded', chain, sent, rfl⟩ := moved
  obtain ⟨extended, known⟩ := Transactions.broadcast_extends sent
  exact .broadcasts anchorId anchor recordId contentHash recordWord contentWord sender
    transactionHash chain submitting encoded encoded' extended known

/-- Every statement that can happen has one of the listed effects. -/
theorem takes_of_step
    (moved : sessionStep keccak encodeBytes32 backend session statement = some backend') :
    Takes keccak encodeBytes32 backend session statement backend' := by
  simp only [sessionStep] at moved
  split at moved
  · next state => exact takes_prepareMessage state moved
  · next state => exact takes_prepareMessage state moved
  · next state => exact takes_insertMessage state moved
  · next state => cases moved; exact takes_startAnchor _ _ state
  · next state => cases moved; exact takes_selectActive rfl state
  · next state => exact takes_insertAnchor state moved
  · next state => cases moved; exact takes_loadMessage _ state
  · next state => cases moved; exact takes_loadMessage _ state
  · next state => cases moved; exact takes_selectMarked _ state
  · next state =>
    obtain ⟨table, updated, rfl⟩ := Option.map_eq_some_iff.mp moved
    exact .marks _ _ _ table state updated
  · next state => cases moved; exact .reads _ (by rw [state]; rfl) rfl
  · next state => cases moved; exact takes_visitAnchor state
  · next state => cases moved; exact takes_readValues state
  · next state => exact takes_broadcastCall state moved
  · next state =>
    unfold receiveReceipt at moved
    split at moved
    · next success => cases moved; exact .receives _ _ _ _ _ _ _ state success
    · cases moved
  · next state => cases moved; exact .givesUp _ _ (by rw [state]; rfl)
  · next state => cases moved; exact .givesUp _ _ (by rw [state]; rfl)
  · next state =>
    obtain ⟨table, updated, rfl⟩ := Option.map_eq_some_iff.mp moved
    exact .updates _ _ _ table state updated
  · next state => cases moved; exact .commits (Or.inr ⟨_, state⟩)
  · next state => cases moved; exact .commits (Or.inl state)
  · split at moved
    · cases moved
    · next going =>
      cases moved
      exact .ends _ (by simpa using going) rfl
  · cases moved

theorem takes_sessions (taken : Takes keccak encodeBytes32 backend session statement backend') :
    ∃ state, backend'.sessions = Function.update backend.sessions session state := by
  cases taken <;> exact ⟨_, rfl⟩

/-- Only a commit changes committed anchors. -/
theorem takes_anchors (taken : Takes keccak encodeBytes32 backend session statement backend') :
    (∀ id, (row id backend'.anchors).committed = (row id backend.anchors).committed) ∨
      backend' = backend.commits session := by
  cases taken with
  | insertsAnchor message id createdAt _ free
  | locks id anchor candidates _ free _ =>
    exact Or.inl (RowTable.Uncommitted.put (by rw [free]) (by simp [free])).committed
  | updates anchorId anchor change table _ updated =>
    exact Or.inl (RowTable.update_uncommitted updated).committed
  | commits _ => exact Or.inr rfl
  | ends state _ _ => exact Or.inl (RowTable.rollback_uncommitted session backend.anchors).committed
  | _ => exact Or.inl fun _ => rfl

/-! ## Locks and uncommitted inserts -/

/-- The columns that link an anchor to its evidence. -/
structure SameEvidence (first second : BlockchainAnchor) : Prop where
  messageId : second.messageId = first.messageId
  recordId : second.recordId = first.recordId
  digest : second.digest = first.digest

variable (keccak) in
structure LockDiscipline (backend : Backend) : Prop where
  pending : ∀ id holder anchor held, row id backend.anchors = ⟨some anchor, some (holder, held)⟩ →
    anchor.status = .pending ∧ SameEvidence anchor held
  inserted : ∀ id holder held, row id backend.anchors = ⟨none, some (holder, held)⟩ →
    ∃ message createdAt, backend.sessions holder = .created message ∧
      held = createAnchor keccak message id createdAt
  insertedOnce : ∀ id id' holder held held', row id backend.anchors = ⟨none, some (holder, held)⟩ →
    row id' backend.anchors = ⟨none, some (holder, held')⟩ → id = id'
  working : ∀ holder id anchor, (backend.sessions holder).working = some (id, anchor) →
    row id backend.anchors = ⟨some anchor, some (holder, anchor)⟩ ∧ anchor.status = .pending
  created : ∀ holder message, backend.sessions holder = .created message →
    ∃ id createdAt, row id backend.anchors =
      ⟨none, some (holder, createAnchor keccak message id createdAt)⟩

/-- What a step has to show about its own session; the other sessions are framed. -/
theorem LockDiscipline.next {state : SessionState} (before : LockDiscipline keccak backend)
    (sessions : backend'.sessions = Function.update backend.sessions session state)
    (work : RowTable.OwnWork session backend.anchors backend'.anchors)
    (pending : ∀ id anchor held, row id backend'.anchors = ⟨some anchor, some (session, held)⟩ →
      anchor.status = .pending ∧ SameEvidence anchor held)
    (inserted : ∀ id held, row id backend'.anchors = ⟨none, some (session, held)⟩ →
      ∃ message createdAt, state = .created message ∧
        held = createAnchor keccak message id createdAt)
    (insertedOnce : ∀ id id' held held', row id backend'.anchors = ⟨none, some (session, held)⟩ →
      row id' backend'.anchors = ⟨none, some (session, held')⟩ → id = id')
    (working : ∀ id anchor, state.working = some (id, anchor) →
      row id backend'.anchors = ⟨some anchor, some (session, anchor)⟩ ∧ anchor.status = .pending)
    (created : ∀ message, state = .created message → ∃ id createdAt,
      row id backend'.anchors = ⟨none, some (session, createAnchor keccak message id createdAt)⟩) :
    LockDiscipline keccak backend' := by
  have mine : backend'.sessions session = state := by rw [sessions, Function.update_self]
  have theirs {other : SessionId} (different : other ≠ session) :
      backend'.sessions other = backend.sessions other := by
    rw [sessions, Function.update_of_ne different]
  have rowBefore {id : Uuid} {other : SessionId} {committed : Option BlockchainAnchor}
      {held : BlockchainAnchor} (different : other ≠ session)
      (here : row id backend'.anchors = ⟨committed, some (other, held)⟩) :
      row id backend.anchors = ⟨committed, some (other, held)⟩ := by
    rw [← work.after id other held different (by rw [here]), here]
  have rowAfter {id : Uuid} {other : SessionId} {committed : Option BlockchainAnchor}
      {held : BlockchainAnchor} (different : other ≠ session)
      (here : row id backend.anchors = ⟨committed, some (other, held)⟩) :
      row id backend'.anchors = ⟨committed, some (other, held)⟩ := by
    rw [work.before id other held different (by rw [here]), here]
  constructor
  · intro id holder anchor held here
    by_cases same : holder = session
    · subst same
      exact pending id anchor held here
    · exact before.pending id holder anchor held (rowBefore same here)
  · intro id holder held here
    by_cases same : holder = session
    · subst same
      rw [mine]
      exact inserted id held here
    · rw [theirs same]
      exact before.inserted id holder held (rowBefore same here)
  · intro id id' holder held held' here here'
    by_cases same : holder = session
    · subst same
      exact insertedOnce id id' held held' here here'
    · exact before.insertedOnce id id' holder held held' (rowBefore same here) (rowBefore same here')
  · intro holder id anchor works
    by_cases same : holder = session
    · subst same
      rw [mine] at works
      exact working id anchor works
    · rw [theirs same] at works
      obtain ⟨held, isPending⟩ := before.working holder id anchor works
      exact ⟨rowAfter same held, isPending⟩
  · intro holder message creates
    by_cases same : holder = session
    · subst same
      rw [mine] at creates
      exact created message creates
    · rw [theirs same] at creates
      obtain ⟨id, createdAt, held⟩ := before.created holder message creates
      exact ⟨id, createdAt, rowAfter same held⟩

/-- Statements that leave the anchors alone. -/
theorem LockDiscipline.elsewhere {state : SessionState} (before : LockDiscipline keccak backend)
    (sessions : backend'.sessions = Function.update backend.sessions session state)
    (anchors : backend'.anchors = backend.anchors)
    (notCreated : ∀ message, backend.sessions session ≠ .created message)
    (notCreating : ∀ message, state ≠ .created message)
    (working : ∀ entry, state.working = some entry →
      (backend.sessions session).working = some entry) : LockDiscipline keccak backend' := by
  refine before.next sessions (anchors ▸ .refl session _) ?_ ?_ ?_ ?_ ?_
  · rw [anchors]
    exact fun id anchor held => before.pending id session anchor held
  · rw [anchors]
    intro id held here
    obtain ⟨message, -, creates, -⟩ := before.inserted id session held here
    exact absurd creates (notCreated message)
  · rw [anchors]
    exact fun id id' held held' => before.insertedOnce id id' session held held'
  · rw [anchors]
    exact fun id anchor works => before.working session id anchor (working _ works)
  · exact fun message creates => absurd creates (notCreating message)

/-- After its session ended without a commit, or with one, a session holds no anchor. -/
theorem LockDiscipline.release {state : SessionState} (before : LockDiscipline keccak backend)
    (sessions : backend'.sessions = Function.update backend.sessions session state)
    (work : RowTable.OwnWork session backend.anchors backend'.anchors)
    (released : ∀ id held, (row id backend'.anchors).held ≠ some (session, held))
    (ended : state.ended = true) : LockDiscipline keccak backend' := by
  have free {id : Uuid} {committed : Option BlockchainAnchor} {held : BlockchainAnchor}
      (here : row id backend'.anchors = ⟨committed, some (session, held)⟩) : False :=
    released id held (by rw [here])
  refine before.next sessions work (fun _ _ _ here => (free here).elim)
    (fun _ _ here => (free here).elim) (fun _ _ _ _ here => (free here).elim) ?_ ?_
  · intro id anchor works
    cases state <;> simp [SessionState.ended] at ended <;> simp [SessionState.working] at works
  · intro message creates
    rw [creates] at ended
    cases ended

/-- One anchor row that `session` takes or rewrites. -/
theorem LockDiscipline.put {state : SessionState} {id : Uuid} {anchor held : BlockchainAnchor}
    (before : LockDiscipline keccak backend)
    (sessions : backend'.sessions = Function.update backend.sessions session state)
    (anchors : backend'.anchors = RowTable.put id ⟨some anchor, some (session, held)⟩ backend.anchors)
    (stored : (row id backend.anchors).committed = some anchor)
    (free : ∀ holder value, (row id backend.anchors).held = some (holder, value) → holder = session)
    (notCreated : ∀ message, backend.sessions session ≠ .created message)
    (notCreating : ∀ message, state ≠ .created message)
    (pending : anchor.status = .pending) (evidence : SameEvidence anchor held)
    (working : ∀ entry, state.working = some entry → entry = (id, anchor) ∧ held = anchor) :
    LockDiscipline keccak backend' := by
  have work : RowTable.OwnWork session backend.anchors backend'.anchors :=
    anchors ▸ (RowTable.Uncommitted.put stored free).ownWork
  have noInsert {id' : Uuid} {value : BlockchainAnchor}
      (here : row id' backend'.anchors = ⟨none, some (session, value)⟩) : False := by
    rw [anchors, RowTable.row_put] at here
    split at here
    · cases here
    · obtain ⟨message, -, creates, -⟩ := before.inserted id' session value here
      exact notCreated message creates
  refine before.next sessions work ?_ (fun _ _ here => (noInsert here).elim)
    (fun _ _ _ _ here => (noInsert here).elim) ?_
    (fun message creates => absurd creates (notCreating message))
  · intro id' anchor' held' here
    rw [anchors, RowTable.row_put] at here
    split at here
    · cases here
      exact ⟨pending, evidence⟩
    · exact before.pending id' session anchor' held' here
  · intro id' anchor' works
    obtain ⟨same, unchanged⟩ := working _ works
    cases same
    rw [anchors, RowTable.row_put, if_pos rfl, unchanged]
    exact ⟨rfl, pending⟩

theorem plain_not_created {state : SessionState} (plain : state.plain = true) (message : Message) :
    state ≠ .created message := by
  intro creates
  rw [creates] at plain
  cases plain

theorem plain_not_working {state : SessionState} (plain : state.plain = true)
    (entry : Uuid × BlockchainAnchor) : state.working ≠ some entry := by
  intro works
  cases state <;> simp [SessionState.plain] at plain <;> simp [SessionState.working] at works

theorem working_not_created {state : SessionState} {entry : Uuid × BlockchainAnchor}
    (works : state.working = some entry) (message : Message) : state ≠ .created message := by
  intro creates
  rw [creates] at works
  cases works

/-- The anchor a request has just inserted. -/
theorem LockDiscipline.insert {message : Message} {id : Uuid} {createdAt : UtcTimestamp}
    (before : LockDiscipline keccak backend) (creating : backend.sessions session = .creating message)
    (free : row id backend.anchors = ⟨none, none⟩) :
    LockDiscipline keccak ((backend.withAnchor id
      ⟨none, some (session, createAnchor keccak message id createdAt)⟩).goes session
        (.created message)) := by
  let added := createAnchor keccak message id createdAt
  let table := RowTable.put id ⟨none, some (session, added)⟩ backend.anchors
  have only {id' : Uuid} {held : BlockchainAnchor}
      (here : row id' table = ⟨none, some (session, held)⟩) : id = id' ∧ held = added := by
    rw [RowTable.row_put] at here
    split at here
    · next same =>
      cases here
      exact ⟨same, rfl⟩
    · obtain ⟨other, -, creates, -⟩ := before.inserted id' session held here
      rw [creating] at creates
      cases creates
  have work : RowTable.OwnWork session backend.anchors table :=
    (RowTable.Uncommitted.put (by rw [free]) (by simp [free])).ownWork
  refine before.next rfl work ?_ ?_ ?_ ?_ ?_
  · intro id' anchor held here
    change row id' table = _ at here
    rw [RowTable.row_put] at here
    split at here
    · cases here
    · exact before.pending id' session anchor held here
  · intro id' held here
    obtain ⟨rfl, rfl⟩ := only here
    exact ⟨message, createdAt, rfl, rfl⟩
  · intro id' id'' held held' here here'
    rw [← (only here).1, ← (only here').1]
  · intro id' anchor works
    cases works
  · intro message' creates
    cases creates
    exact ⟨id, createdAt, by rw [Backend.goes, Backend.withAnchor, RowTable.row_put, if_pos rfl]⟩

/-- One statement keeps the discipline. -/
theorem lockDiscipline_takes (before : LockDiscipline keccak backend)
    (taken : Takes keccak encodeBytes32 backend session statement backend') :
    LockDiscipline keccak backend' := by
  cases taken with
  | reads state plain plain' =>
    exact before.elsewhere rfl rfl (plain_not_created plain) (plain_not_created plain')
      fun entry works => absurd works (plain_not_working plain' entry)
  | insertsMessage message validated _ =>
    exact before.elsewhere rfl rfl (by simp [validated]) (by simp) (by simp [SessionState.working])
  | requires message idle _ =>
    exact before.elsewhere rfl rfl (by simp [idle]) (by simp) (by simp [SessionState.working])
  | findsNone message isNew _ anchoring _ =>
    exact before.elsewhere rfl rfl (by simp [anchoring]) (by simp) (by simp [SessionState.working])
  | findsActive message id found anchoring _ _ =>
    exact before.elsewhere rfl rfl (by simp [anchoring]) (by simp) (by simp [SessionState.working])
  | insertsAnchor message id createdAt creating free => exact before.insert creating free
  | marks marker messageId now table marking _ =>
    exact before.elsewhere rfl rfl (by simp [marking]) (by simp) (by simp [SessionState.working])
  | locks anchorId anchor candidates selecting free isPending =>
    refine before.put rfl rfl (by rw [free]) (by simp [free]) (by simp [selecting]) (by simp)
      isPending ⟨rfl, rfl, rfl⟩ ?_
    intro entry works
    cases works
    exact ⟨rfl, rfl⟩
  | submits anchorId anchor recordId contentHash locked _ =>
    exact before.elsewhere rfl rfl (by simp [locked]) (by simp)
      (by simp [locked, SessionState.working])
  | broadcasts anchorId anchor recordId contentHash recordWord contentWord sender transactionHash
      chain submitting _ _ _ _ =>
    exact before.elsewhere rfl rfl (by simp [submitting]) (by simp)
      (by simp [submitting, SessionState.working])
  | receives anchorId anchor recordId contentHash transactionHash contractAddress anchoredAt
      awaiting _ =>
    exact before.elsewhere rfl rfl (by simp [awaiting]) (by simp)
      (by simp [awaiting, SessionState.working])
  | givesUp anchorId anchor works =>
    refine before.elsewhere rfl rfl (working_not_created works) (by simp) ?_
    intro entry same
    rwa [works]
  | updates anchorId anchor change table updating updated =>
    obtain ⟨held, isPending⟩ := before.working session anchorId anchor (by rw [updating]; rfl)
    rw [RowTable.update_of_held held] at updated
    cases updated
    exact before.put rfl rfl (by rw [held]) (by simp [held]) (by simp [updating]) (by simp)
      isPending ⟨rfl, rfl, rfl⟩ (by simp [SessionState.working])
  | commits ready =>
    refine before.release rfl (RowTable.commit_ownWork session _) ?_ rfl
    intro id held here
    obtain ⟨value, -, now⟩ | ⟨free, same⟩ := RowTable.row_commit_cases session id backend.anchors
    · simp only [Backend.commits, Backend.goes, now] at here
      cases here
    · simp only [Backend.commits, Backend.goes, same] at here
      exact free held here
  | ends state _ ended =>
    exact before.release rfl (RowTable.rollback_uncommitted session _).ownWork
      (fun id held => RowTable.rollback_releases session id held _) ended

theorem lockDiscipline_quiet (quiet : backend.Quiet) : LockDiscipline keccak backend := by
  have free {id : Uuid} {entry : SessionId × BlockchainAnchor}
      (here : (row id backend.anchors).held = some entry) : False := by
    rw [quiet.anchors id] at here
    cases here
  constructor
  · exact fun id holder anchor held here => (free (by rw [here])).elim
  · exact fun id holder held here => (free (by rw [here])).elim
  · exact fun id id' holder held held' here => (free (by rw [here])).elim
  · intro holder id anchor works
    rw [quiet.idle holder] at works
    cases works
  · intro holder message creates
    rw [quiet.idle holder] at creates
    cases creates

/-- An event is a statement, or only the chain moves. -/
theorem anchorStep_cases {event : Event}
    (moved : anchorStep keccak encodeBytes32 backend event = some backend') :
    (∃ session statement, event = .session session statement ∧
      Takes keccak encodeBytes32 backend session statement backend') ∨
    ∃ chain, Extends backend.chain chain ∧ backend' = { backend with chain := chain } := by
  cases event with
  | session session statement => exact Or.inl ⟨session, statement, rfl, takes_of_step moved⟩
  | broadcast transactionHash sender recordId contentHash =>
    obtain ⟨chain, sent, rfl⟩ := Option.map_eq_some_iff.mp moved
    exact Or.inr ⟨chain, (Transactions.broadcast_extends sent).1, rfl⟩
  | mine transactionHash now gasSuffices =>
    obtain ⟨chain, mined, rfl⟩ := Option.map_eq_some_iff.mp moved
    exact Or.inr ⟨chain, Transactions.mine_extends mined, rfl⟩

theorem lockDiscipline_step {event : Event} (before : LockDiscipline keccak backend)
    (moved : anchorStep keccak encodeBytes32 backend event = some backend') :
    LockDiscipline keccak backend' := by
  obtain ⟨session, statement, -, taken⟩ | ⟨chain, -, rfl⟩ := anchorStep_cases moved
  · exact lockDiscipline_takes before taken
  · exact ⟨before.pending, before.inserted, before.insertedOnce, before.working, before.created⟩

end

end EpicKfc.Source.Server.AnchorRelay
