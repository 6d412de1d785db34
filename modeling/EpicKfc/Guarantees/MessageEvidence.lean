import EpicKfc.Source.Blockchain.Hex32
import EpicKfc.Source.Server.AnchorRelaySteps

/-!
# The evidence of a message matches the message

A message and its first anchor are held by one session and become visible in one
commit. Record id and digest are computed from columns that no statement writes
after the insert, so every anchor of a message fits the row as it is at any later
time.
-/

namespace EpicKfc.Guarantees.MessageEvidence
open EpicKfc.Lib
open EpicKfc.Lib.Keccak (Byte)
open EpicKfc.Lib.RowTable (Row row)
open EpicKfc.Source.Blockchain
open EpicKfc.Source.Server
open EpicKfc.Source.Server.Messages
open EpicKfc.Source.Server.BlockchainHashing
open EpicKfc.Source.Server.BlockchainAnchors
open EpicKfc.Source.Server.AnchorRelay

/-- The two rows give the same record id and the same digest. -/
structure SameRecord (first second : Message) : Prop where
  id : second.id = first.id
  bytes : canonicalMessageBytes second = canonicalMessageBytes first

theorem SameRecord.refl (message : Message) : SameRecord message message := ⟨rfl, rfl⟩

theorem SameRecord.trans {first second third : Message} (same : SameRecord first second)
    (same' : SameRecord second third) : SameRecord first third :=
  ⟨same'.id.trans same.id, same'.bytes.trans same.bytes⟩

/-- No marker is a hashed column. -/
theorem SameRecord.set (marker : Marker) (now : UtcTimestamp) (message : Message) :
    SameRecord message (marker.set now message) := by
  cases marker <;> exact ⟨rfl, rfl⟩

section
variable (keccak : List Byte → List Byte)

/-- The anchor has the record id and the digest of the row. -/
structure Evidences (message : Message) (anchor : BlockchainAnchor) : Prop where
  recordId : anchor.recordId = some (deriveMessageRecordId keccak message.id)
  digest : anchor.digest = deriveMessageDigest keccak message

/-- Every message has an anchor, and the anchors of a message fit its row. -/
def Evident (backend : Backend) : Prop :=
  ∀ id message, (row id backend.messages).committed = some message →
    (∃ anchorId anchor, (row anchorId backend.anchors).committed = some anchor ∧
      anchor.messageId = some id) ∧
    ∀ anchorId anchor, (row anchorId backend.anchors).committed = some anchor →
      anchor.messageId = some id → Evidences keccak message anchor

/-- The foreign key of the anchors. -/
def Linked (backend : Backend) : Prop :=
  ∀ anchorId anchor id, (row anchorId backend.anchors).committed = some anchor →
    anchor.messageId = some id → ∃ message, (row id backend.messages).committed = some message

def Starts (backend : Backend) : Prop :=
  backend.Quiet ∧ Linked backend ∧ Evident keccak backend

end

/-- The session sees this version of the message: it is committed or its own. -/
def Version (backend : Backend) (session : SessionId) (id : Uuid) (message : Message) : Prop :=
  (row id backend.messages).committed = some message ∨
    (row id backend.messages).held = some (session, message)

variable {keccak : List Byte → List Byte} {encodeBytes32 : String → Option Bytes32}
variable {backend backend' : Backend} {session : SessionId} {statement : Statement}

theorem Evidences.same {message message' : Message} {anchor : BlockchainAnchor}
    (fits : Evidences keccak message anchor) (same : SameRecord message message') :
    Evidences keccak message' anchor := by
  constructor
  · rw [same.id]
    exact fits.recordId
  · rw [fits.digest, deriveMessageDigest, deriveMessageDigest, same.bytes]

theorem Evidences.update {message : Message} {anchor anchor' : BlockchainAnchor}
    (fits : Evidences keccak message anchor) (same : SameEvidence anchor anchor') :
    Evidences keccak message anchor' :=
  ⟨same.recordId.trans fits.recordId, same.digest.trans fits.digest⟩

theorem evidences_createAnchor (message : Message) (id : Uuid) (createdAt : UtcTimestamp) :
    Evidences keccak message (createAnchor keccak message id createdAt) := ⟨rfl, rfl⟩

variable (keccak) in
structure EvidenceKept (backend : Backend) : Prop where
  held : ∀ id holder original value,
    row id backend.messages = ⟨some original, some (holder, value)⟩ → SameRecord original value
  inserted : ∀ id holder value, row id backend.messages = ⟨none, some (holder, value)⟩ →
    ∃ message, (backend.sessions holder).subject = some message ∧ message.id = id
  subject : ∀ holder message, (backend.sessions holder).subject = some message →
    ∃ version, Version backend holder message.id version ∧ SameRecord message version
  isNew : ∀ holder message, backend.sessions holder = .anchoring message true →
    (row message.id backend.messages).committed = none
  committed : ∀ anchorId anchor id, (row anchorId backend.anchors).committed = some anchor →
    anchor.messageId = some id → ∃ message, (row id backend.messages).committed = some message ∧
      Evidences keccak message anchor
  covered : ∀ id message, (row id backend.messages).committed = some message →
    ∃ anchorId anchor, (row anchorId backend.anchors).committed = some anchor ∧
      anchor.messageId = some id

theorem EvidenceKept.evident (kept : EvidenceKept keccak backend) : Evident keccak backend := by
  intro id message stored
  refine ⟨kept.covered id message stored, ?_⟩
  intro anchorId anchor present linked
  obtain ⟨message', stored', fits⟩ := kept.committed anchorId anchor id present linked
  rw [stored] at stored'
  cases stored'
  exact fits

/-- Statements that commit nothing: what the session shows about itself. -/
theorem EvidenceKept.uncommitted {state : SessionState} (before : EvidenceKept keccak backend)
    (sessions : backend'.sessions = Function.update backend.sessions session state)
    (work : RowTable.Uncommitted session backend.messages backend'.messages)
    (anchors : ∀ id, (row id backend'.anchors).committed = (row id backend.anchors).committed)
    (held : ∀ id original value,
      row id backend'.messages = ⟨some original, some (session, value)⟩ → SameRecord original value)
    (inserted : ∀ id value, row id backend'.messages = ⟨none, some (session, value)⟩ →
      ∃ message, state.subject = some message ∧ message.id = id)
    (subject : ∀ message, state.subject = some message →
      ∃ version, Version backend' session message.id version ∧ SameRecord message version)
    (isNew : ∀ message, state = .anchoring message true →
      (row message.id backend'.messages).committed = none) : EvidenceKept keccak backend' := by
  have mine : backend'.sessions session = state := by rw [sessions, Function.update_self]
  have theirs {other : SessionId} (different : other ≠ session) :
      backend'.sessions other = backend.sessions other := by
    rw [sessions, Function.update_of_ne different]
  constructor
  · intro id holder original value here
    by_cases same : holder = session
    · subst same
      exact held id original value here
    · rw [work.row_eq same (by rw [here])] at here
      exact before.held id holder original value here
  · intro id holder value here
    by_cases same : holder = session
    · subst same
      rw [mine]
      exact inserted id value here
    · rw [work.row_eq same (by rw [here])] at here
      rw [theirs same]
      exact before.inserted id holder value here
  · intro holder message creates
    by_cases same : holder = session
    · subst same
      rw [mine] at creates
      exact subject message creates
    · rw [theirs same] at creates
      obtain ⟨version, stored | owned, record⟩ := before.subject holder message creates
      · exact ⟨version, Or.inl (by rw [work.committed, stored]), record⟩
      · exact ⟨version, Or.inr ((work.others _ holder version same).mpr owned), record⟩
  · intro holder message creates
    by_cases same : holder = session
    · subst same
      rw [mine] at creates
      exact isNew message creates
    · rw [theirs same] at creates
      rw [work.committed]
      exact before.isNew holder message creates
  · intro anchorId anchor id present linked
    rw [anchors] at present
    rw [work.committed]
    exact before.committed anchorId anchor id present linked
  · intro id message stored
    rw [work.committed] at stored
    obtain ⟨anchorId, anchor, present, linked⟩ := before.covered id message stored
    exact ⟨anchorId, anchor, by rw [anchors, present], linked⟩

/-- Statements that leave the messages alone and commit no anchor. -/
theorem EvidenceKept.elsewhere {state : SessionState} (before : EvidenceKept keccak backend)
    (sessions : backend'.sessions = Function.update backend.sessions session state)
    (messages : backend'.messages = backend.messages)
    (anchors : ∀ id, (row id backend'.anchors).committed = (row id backend.anchors).committed)
    (subject : state.subject = (backend.sessions session).subject)
    (isNew : ∀ message, state ≠ .anchoring message true) : EvidenceKept keccak backend' := by
  refine before.uncommitted sessions (messages ▸ .refl session _) anchors ?_ ?_ ?_
    (fun message creates => absurd creates (isNew message))
  · rw [messages]
    exact fun id original value => before.held id session original value
  · rw [messages, subject]
    exact fun id value => before.inserted id session value
  · intro message creates
    rw [subject] at creates
    obtain ⟨version, sees, record⟩ := before.subject session message creates
    exact ⟨version, by rw [Version, messages]; exact sees, record⟩

/-- The session of a message that is not committed has created it and its anchor. -/
theorem EvidenceKept.new_message (before : EvidenceKept keccak backend)
    (locks : LockDiscipline keccak backend)
    (ready : backend.sessions session = .flushed ∨
      ∃ message, backend.sessions session = .created message) {id : Uuid} {value : Message}
    (insert : row id backend.messages = ⟨none, some (session, value)⟩) :
    ∃ anchorId anchor, row anchorId backend.anchors = ⟨none, some (session, anchor)⟩ ∧
      anchor.messageId = some id := by
  obtain ⟨message, creates, key⟩ := before.inserted id session value insert
  obtain flushed | ⟨message', created⟩ := ready
  · rw [flushed] at creates
    cases creates
  · rw [created] at creates
    cases creates
    obtain ⟨anchorId, createdAt, held⟩ := locks.created session message created
    exact ⟨anchorId, _, held, congrArg some key⟩

/-- An anchor the session holds fits a version of its message that the session sees. -/
theorem EvidenceKept.held_anchor (before : EvidenceKept keccak backend)
    (locks : LockDiscipline keccak backend) {anchorId id : Uuid} {anchor : BlockchainAnchor}
    (held : (row anchorId backend.anchors).held = some (session, anchor))
    (linked : anchor.messageId = some id) :
    ∃ message, Version backend session id message ∧ Evidences keccak message anchor := by
  cases here : row anchorId backend.anchors with
  | mk committed holder =>
    rw [here] at held
    cases held
    cases committed with
    | some earlier =>
      obtain ⟨-, evidence⟩ := locks.pending anchorId session earlier anchor here
      obtain ⟨message, stored, fits⟩ := before.committed anchorId earlier id (by rw [here])
        (evidence.messageId ▸ linked)
      exact ⟨message, Or.inl stored, fits.update evidence⟩
    | none =>
      obtain ⟨message, createdAt, created, rfl⟩ := locks.inserted anchorId session anchor here
      obtain ⟨version, sees, record⟩ := before.subject session message (by rw [created]; rfl)
      cases linked
      exact ⟨version, sees, (evidences_createAnchor message anchorId createdAt).same record⟩

/-- What the session sees is committed with it. -/
theorem EvidenceKept.version_committed (before : EvidenceKept keccak backend) {id : Uuid}
    {message : Message} (sees : Version backend session id message) :
    ∃ message', (row id (RowTable.commit session backend.messages)).committed = some message' ∧
      SameRecord message message' := by
  obtain ⟨value, held, now⟩ | ⟨free, same⟩ :=
    RowTable.row_commit_cases session id backend.messages
  · refine ⟨value, by rw [now], ?_⟩
    obtain stored | owned := sees
    · apply before.held id session message value
      cases here : row id backend.messages
      simp_all
    · rw [held] at owned
      cases owned
      exact .refl _
  · obtain stored | owned := sees
    · exact ⟨message, by rw [same, stored], .refl _⟩
    · exact absurd owned (free message)

/-- An anchor that is committed now fits its message as it is committed now. -/
theorem EvidenceKept.committed_after (before : EvidenceKept keccak backend)
    (locks : LockDiscipline keccak backend) {anchorId id : Uuid} {anchor : BlockchainAnchor}
    (present : (row anchorId (RowTable.commit session backend.anchors)).committed = some anchor)
    (linked : anchor.messageId = some id) :
    ∃ message, (row id (RowTable.commit session backend.messages)).committed = some message ∧
      Evidences keccak message anchor := by
  obtain ⟨value, held, now⟩ | ⟨-, same⟩ := RowTable.row_commit_cases session anchorId backend.anchors
  · rw [now] at present
    cases present
    obtain ⟨message, sees, fits⟩ := before.held_anchor locks held linked
    obtain ⟨message', stored, record⟩ := before.version_committed sees
    exact ⟨message', stored, fits.same record⟩
  · rw [same] at present
    obtain ⟨message, stored, fits⟩ := before.committed anchorId anchor id present linked
    obtain ⟨message', stored', record⟩ :=
      @EvidenceKept.version_committed _ _ session before _ _ (Or.inl stored)
    exact ⟨message', stored', fits.same record⟩

/-- A message that was committed before still has a committed anchor. -/
theorem EvidenceKept.anchor_after (before : EvidenceKept keccak backend)
    (locks : LockDiscipline keccak backend) {id : Uuid} {original : Message}
    (was : (row id backend.messages).committed = some original) :
    ∃ anchorId anchor, (row anchorId (RowTable.commit session backend.anchors)).committed =
      some anchor ∧ anchor.messageId = some id := by
  obtain ⟨anchorId, anchor, present, linked⟩ := before.covered id original was
  obtain ⟨value, held, now⟩ | ⟨-, same⟩ := RowTable.row_commit_cases session anchorId backend.anchors
  · have here : row anchorId backend.anchors = ⟨some anchor, some (session, value)⟩ := by
      cases here : row anchorId backend.anchors
      simp_all
    obtain ⟨-, evidence⟩ := locks.pending anchorId session anchor value here
    exact ⟨anchorId, value, by rw [now], evidence.messageId.trans linked⟩
  · exact ⟨anchorId, anchor, by rw [same, present], linked⟩

/-- A message that is committed now has an anchor that is. -/
theorem EvidenceKept.covered_after (before : EvidenceKept keccak backend)
    (locks : LockDiscipline keccak backend)
    (ready : backend.sessions session = .flushed ∨
      ∃ message, backend.sessions session = .created message) {id : Uuid} {message : Message}
    (stored : (row id (RowTable.commit session backend.messages)).committed = some message) :
    ∃ anchorId anchor, (row anchorId (RowTable.commit session backend.anchors)).committed =
      some anchor ∧ anchor.messageId = some id := by
  obtain ⟨value, held, now⟩ | ⟨-, same⟩ := RowTable.row_commit_cases session id backend.messages
  · cases was : (row id backend.messages).committed with
    | some original => exact before.anchor_after locks was
    | none =>
      have insert : row id backend.messages = ⟨none, some (session, value)⟩ := by
        cases here : row id backend.messages
        simp_all
      obtain ⟨anchorId, anchor, heldAnchor, linked⟩ := before.new_message locks ready insert
      refine ⟨anchorId, anchor, ?_, linked⟩
      rw [RowTable.row_commit, heldAnchor]
      exact congrArg Row.committed (if_pos rfl)
  · exact before.anchor_after locks (same ▸ stored)

/-- The end of a session that commits what it holds. -/
theorem EvidenceKept.commit (before : EvidenceKept keccak backend)
    (locks : LockDiscipline keccak backend)
    (ready : backend.sessions session = .flushed ∨
      ∃ message, backend.sessions session = .created message) :
    EvidenceKept keccak (backend.commits session) := by
  let messages := RowTable.commit session backend.messages
  have work := RowTable.commit_ownWork session backend.messages
  have released {id : Uuid} {value : Message} : (row id messages).held ≠ some (session, value) := by
    intro here
    obtain ⟨own, -, now⟩ | ⟨free, same⟩ := RowTable.row_commit_cases session id backend.messages
    · rw [now] at here
      cases here
    · rw [same] at here
      exact free value here
  have theirs {other : SessionId} (different : other ≠ session) :
      (backend.commits session).sessions other = backend.sessions other :=
    Function.update_of_ne different _ _
  have mine : (backend.commits session).sessions session = .committed := Function.update_self _ _ _
  constructor
  · intro id holder original value here
    change row id messages = _ at here
    have other : holder ≠ session := fun same => released (by rw [here, same])
    rw [work.after id holder value other (by rw [here])] at here
    exact before.held id holder original value here
  · intro id holder value here
    change row id messages = _ at here
    have other : holder ≠ session := fun same => released (by rw [here, same])
    rw [work.after id holder value other (by rw [here])] at here
    rw [theirs other]
    exact before.inserted id holder value here
  · intro holder message creates
    by_cases same : holder = session
    · rw [same, mine] at creates
      cases creates
    · rw [theirs same] at creates
      obtain ⟨version, stored | owned, record⟩ := before.subject holder message creates
      · obtain ⟨version', stored', record'⟩ :=
          @EvidenceKept.version_committed _ _ session before _ _ (Or.inl stored)
        exact ⟨version', Or.inl stored', record.trans record'⟩
      · refine ⟨version, Or.inr ?_, record⟩
        change (row message.id messages).held = _
        rw [work.before _ holder version same owned, owned]
  · intro holder message creates
    by_cases same : holder = session
    · rw [same, mine] at creates
      cases creates
    · rw [theirs same] at creates
      have isNew := before.isNew holder message creates
      obtain ⟨version, stored | owned, -⟩ := before.subject holder message (by rw [creates]; rfl)
      · rw [isNew] at stored
        cases stored
      · change (row message.id messages).committed = none
        rw [work.before _ holder version same owned, isNew]
  · exact fun anchorId anchor id present linked => before.committed_after locks present linked
  · exact fun id message stored => before.covered_after locks ready stored

/-- The end of a session without a commit. -/
theorem EvidenceKept.ends {state : SessionState} (before : EvidenceKept keccak backend)
    (ended : state.ended = true) : EvidenceKept keccak (backend.rollsBack session state) := by
  have free {id : Uuid} {committed : Option Message} {value : Message}
      (here : row id (RowTable.rollback session backend.messages) =
        ⟨committed, some (session, value)⟩) : False :=
    RowTable.rollback_releases session id value backend.messages (by rw [here])
  refine before.uncommitted rfl (RowTable.rollback_uncommitted session _)
    (fun id => (RowTable.rollback_uncommitted session backend.anchors).committed id)
    (fun _ _ _ here => (free here).elim) (fun _ _ here => (free here).elim) ?_ ?_
  · intro message creates
    cases state <;> simp [SessionState.ended] at ended <;> cases creates
  · intro message creates
    rw [creates] at ended
    cases ended

/-- A request that is about to create the anchor of its new message. -/
theorem EvidenceKept.insertMessage {message : Message} (before : EvidenceKept keccak backend)
    (validated : backend.sessions session = .validated message)
    (free : row message.id backend.messages = ⟨none, none⟩) :
    EvidenceKept keccak ((backend.withMessage message.id ⟨none, some (session, message)⟩).goes
      session (.anchoring message true)) := by
  let table := RowTable.put message.id ⟨none, some (session, message)⟩ backend.messages
  have added : row message.id table = ⟨none, some (session, message)⟩ := by
    rw [RowTable.row_put, if_pos rfl]
  refine before.uncommitted rfl (.put (by rw [free]) (by simp [free])) (fun _ => rfl) ?_ ?_ ?_ ?_
  · intro id original value here
    change row id table = _ at here
    rw [RowTable.row_put] at here
    split at here
    · cases here
    · exact before.held id session original value here
  · intro id value here
    change row id table = _ at here
    rw [RowTable.row_put] at here
    split at here
    · next key => exact ⟨message, rfl, key⟩
    · obtain ⟨other, creates, -⟩ := before.inserted id session value here
      rw [validated] at creates
      cases creates
  · intro subject creates
    cases creates
    exact ⟨message, Or.inr (by rw [Backend.goes, Backend.withMessage, added]), .refl message⟩
  · intro subject creates
    cases creates
    rw [Backend.goes, Backend.withMessage, added]

/-- A request that found the message it has to anchor. -/
theorem EvidenceKept.requires {message : Message} (before : EvidenceKept keccak backend)
    (idle : backend.sessions session = .idle)
    (stored : (row message.id backend.messages).committed = some message) :
    EvidenceKept keccak (backend.goes session (.anchoring message false)) := by
  refine before.uncommitted rfl (.refl session _) (fun _ => rfl)
    (fun id original value => before.held id session original value) ?_ ?_ (by simp)
  · intro id value here
    obtain ⟨other, creates, -⟩ := before.inserted id session value here
    rw [idle] at creates
    cases creates
  · intro subject creates
    cases creates
    exact ⟨message, Or.inl stored, .refl message⟩

/-- A marker set on a row that no one else holds. -/
theorem EvidenceKept.mark {marker : Marker} {messageId : Uuid} {now : UtcTimestamp}
    {table : RowTable.Table Uuid SessionId Message} (before : EvidenceKept keccak backend)
    (marking : backend.sessions session = .marking marker messageId now)
    (updated : RowTable.update session messageId (marker.set now) backend.messages = some table) :
    EvidenceKept keccak ({ backend with messages := table }.goes session .flushed) := by
  have noInsert {id : Uuid} {value : Message}
      (here : row id backend.messages = ⟨none, some (session, value)⟩) : False := by
    obtain ⟨other, creates, -⟩ := before.inserted id session value here
    rw [marking] at creates
    cases creates
  obtain ⟨value, was, rfl⟩ := RowTable.update_some updated
  refine before.uncommitted rfl (RowTable.update_uncommitted updated) (fun _ => rfl) ?_ ?_
    (fun _ creates => by cases creates) (fun _ creates => by cases creates)
  · intro id original value' here
    simp only [Backend.goes, RowTable.row_put] at here
    split at here
    · next key =>
      cases present : row messageId backend.messages with
      | mk committed holder =>
        rw [present] at was here
        cases here
        obtain held | ⟨-, stored⟩ := was
        · cases held
          exact (before.held messageId session original value present).trans (.set marker now value)
        · cases stored
          exact .set marker now value
    · exact before.held id session original value' here
  · intro id value' here
    simp only [Backend.goes, RowTable.row_put] at here
    split at here
    · cases present : row messageId backend.messages with
      | mk committed holder =>
        rw [present] at was here
        cases here
        obtain held | ⟨-, stored⟩ := was
        · cases held
          exact (noInsert present).elim
        · cases stored
    · exact (noInsert here).elim

theorem plain_subject {state : SessionState} (plain : state.plain = true) : state.subject = none := by
  cases state <;> simp [SessionState.plain] at plain <;> rfl

theorem working_subject {state : SessionState} {entry : Uuid × BlockchainAnchor}
    (works : state.working = some entry) : state.subject = none := by
  cases state <;> simp [SessionState.working] at works <;> rfl

/-- One statement keeps the evidence of every message. -/
theorem evidenceKept_takes (before : EvidenceKept keccak backend)
    (locks : LockDiscipline keccak backend)
    (taken : Takes keccak encodeBytes32 backend session statement backend') :
    EvidenceKept keccak backend' := by
  cases taken with
  | reads state plain plain' =>
    refine before.elsewhere rfl rfl (fun _ => rfl) ?_ ?_
    · rw [plain_subject plain, plain_subject plain']
    · intro message creates
      rw [creates] at plain'
      cases plain'
  | insertsMessage message validated free => exact before.insertMessage validated free
  | requires message idle stored => exact before.requires idle stored
  | findsNone message isNew _ anchoring _ =>
    exact before.elsewhere rfl rfl (fun _ => rfl) (by rw [anchoring]; rfl) (by simp)
  | findsActive message id found anchoring present linked =>
    -- A new message has no anchor: the key of the anchors refers to committed messages.
    obtain ⟨message', stored, -⟩ := before.committed id found message.id present linked
    rw [before.isNew session message anchoring] at stored
    cases stored
  | insertsAnchor message id createdAt creating free =>
    refine before.elsewhere rfl rfl ?_ (by rw [creating]; rfl) (by simp)
    exact fun id' => (RowTable.Uncommitted.put (by rw [free]) (by simp [free])).committed id'
  | marks marker messageId now table marking updated => exact before.mark marking updated
  | locks anchorId anchor candidates selecting free _ =>
    refine before.elsewhere rfl rfl ?_ (by rw [selecting]; rfl) (by simp)
    exact fun id => (RowTable.Uncommitted.put (by rw [free]) (by simp [free])).committed id
  | submits anchorId anchor recordId contentHash locked _ =>
    exact before.elsewhere rfl rfl (fun _ => rfl) (by rw [locked]; rfl) (by simp)
  | broadcasts anchorId anchor recordId contentHash recordWord contentWord sender transactionHash
      chain submitting _ _ _ _ =>
    exact before.elsewhere rfl rfl (fun _ => rfl) (by rw [submitting]; rfl) (by simp)
  | receives anchorId anchor recordId contentHash transactionHash contractAddress anchoredAt
      awaiting _ =>
    exact before.elsewhere rfl rfl (fun _ => rfl) (by rw [awaiting]; rfl) (by simp)
  | givesUp anchorId anchor works =>
    exact before.elsewhere rfl rfl (fun _ => rfl) (by rw [working_subject works]; rfl) (by simp)
  | updates anchorId anchor change table updating updated =>
    refine before.elsewhere rfl rfl ?_ (by rw [updating]; rfl) (by simp)
    exact fun id => (RowTable.update_uncommitted updated).committed id
  | commits ready => exact before.commit locks ready
  | ends state _ ended => exact before.ends ended

theorem evidenceKept_reachable
    (reached : Runs.Reachable (anchorStep keccak encodeBytes32) (Starts keccak) backend) :
    LockDiscipline keccak backend ∧ EvidenceKept keccak backend := by
  refine @Runs.invariant_of_preserved _ _ _ _ _
    (fun backend => LockDiscipline keccak backend ∧ EvidenceKept keccak backend) ?_ ?_ _ reached
  · rintro start ⟨quiet, linked, evident⟩
    refine ⟨lockDiscipline_quiet quiet, ?_, ?_, ?_, ?_, ?_, ?_⟩
    · intro id holder original value here
      have unheld := quiet.messages id
      rw [here] at unheld
      cases unheld
    · intro id holder value here
      have unheld := quiet.messages id
      rw [here] at unheld
      cases unheld
    · intro holder message creates
      rw [quiet.idle holder] at creates
      cases creates
    · intro holder message creates
      rw [quiet.idle holder] at creates
      cases creates
    · intro anchorId anchor id present link
      obtain ⟨message, stored⟩ := linked anchorId anchor id present link
      exact ⟨message, stored, (evident id message stored).2 anchorId anchor present link⟩
    · exact fun id message stored => (evident id message stored).1
  · rintro middle event next ⟨locks, before⟩ - moved
    refine ⟨lockDiscipline_step locks moved, ?_⟩
    obtain ⟨session, statement, -, taken⟩ | ⟨chain, -, rfl⟩ := anchorStep_cases moved
    · exact evidenceKept_takes before locks taken
    · exact ⟨before.held, before.inserted, before.subject, before.isNew, before.committed,
        before.covered⟩

/-- In every reachable database each message has an anchor, and all its anchors have the
record id and the digest of the row as it is. -/
theorem evidence_matches_message
    (reached : Runs.Reachable (anchorStep keccak encodeBytes32) (Starts keccak) backend) :
    Evident keccak backend :=
  (evidenceKept_reachable reached).2.evident

theorem starts_empty : Starts keccak emptyBackend := by
  refine ⟨quiet_empty, ?_, ?_⟩
  · intro anchorId anchor id present
    cases present
  · intro id message stored
    cases stored

/-- A message is sent and its recipient's access revoked, while user 2 asks for an anchor in
between. -/
def sampleHistory : List Event := [
  .session 0 (.send openDirectory 1 (plainRequest 2) 7 .newYear2026),
  .session 0 .insertMessage,
  .session 0 .selectActive,
  .session 0 (.insertAnchor 100 .newYear2026),
  .session 0 .commit,
  .session 1 (.revoke 1 7),
  .session 2 (.createMessageAnchor 2 7),
  .session 1 (.selectMarked .newYear2026),
  .session 1 .flushMarker,
  .session 2 .selectActive,
  .session 1 .commit]

/-- The recipient's marker of a committed message. -/
def revokedAt (backend : Backend) (id : Uuid) : Option (Option UtcTimestamp) :=
  (row id backend.messages).committed.map Message.accessRevokedAt

theorem evidence_matches_message_revoked : ∃ backend,
    revokedAt backend 7 = some (some .newYear2026) ∧ Evident Keccak.keccak256 backend := by
  have ends : (Runs.run (anchorStep Keccak.keccak256 encodeHex) emptyBackend sampleHistory).map
      (revokedAt · 7) = some (some (some .newYear2026)) := by
    decide
  obtain ⟨backend, ran, revoked⟩ := Option.map_eq_some_iff.mp ends
  exact ⟨backend, revoked, evidence_matches_message (Runs.reachable_of_run starts_empty ran)⟩

end EpicKfc.Guarantees.MessageEvidence
