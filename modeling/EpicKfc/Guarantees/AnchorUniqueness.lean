import EpicKfc.Source.Blockchain.Hex32
import EpicKfc.Source.Server.AnchorRelaySteps

/-!
# One active anchor for a message

`create_pending_anchor_for_message` checks and then inserts. Neither a lock nor a
constraint of the table stands between the two, so two requests for one message
whose anchor has failed both find none and both commit a pending anchor. As long
as no check finds none while another session is between such a check and its end,
a message never has two.
-/

namespace EpicKfc.Guarantees.AnchorUniqueness
open EpicKfc.Lib
open EpicKfc.Lib.Keccak (Byte)
open EpicKfc.Lib.RowTable (row)
open EpicKfc.Source.Blockchain
open EpicKfc.Source.Server
open EpicKfc.Source.Server.Messages
open EpicKfc.Source.Server.BlockchainAnchors
open EpicKfc.Source.Server.AnchorRelay

/-- At most one committed anchor of a message is pending or confirmed. -/
def OneActive (backend : Backend) : Prop :=
  ∀ messageId id id' anchor anchor',
    (row id backend.anchors).committed = some anchor →
    (row id' backend.anchors).committed = some anchor' →
    anchor.messageId = some messageId → anchor'.messageId = some messageId →
    active anchor → active anchor' → id = id'

def Starts (backend : Backend) : Prop := backend.Quiet ∧ OneActive backend

/-- The message a session found without an active anchor, until the session ends. -/
def openCreation : SessionState → Option Uuid
  | .creating message => some message.id
  | .created message => some message.id
  | _ => none

/-- No check finds a message without an active anchor while another session has done so
and not ended. -/
def NoRace (backend : Backend) (event : Event) : Prop :=
  ∀ session message isNew, event = .session session .selectActive →
    backend.sessions session = .anchoring message isNew →
    getLatestActiveForMessage message.id backend.anchorRows = none →
    ∀ other, other ≠ session → openCreation (backend.sessions other) ≠ some message.id

structure Uniqueness (backend : Backend) : Prop where
  one : OneActive backend
  alone : ∀ session session' messageId, openCreation (backend.sessions session) = some messageId →
    openCreation (backend.sessions session') = some messageId → session = session'
  absent : ∀ session messageId, openCreation (backend.sessions session) = some messageId →
    ¬ HasActive backend messageId

variable {keccak : List Byte → List Byte} {encodeBytes32 : String → Option Bytes32}
variable {backend backend' : Backend} {session : SessionId} {statement : Statement}

/-- Statements that commit no anchor: only what the session itself opens is new. -/
theorem Uniqueness.frame {state : SessionState} (before : Uniqueness backend)
    (sessions : backend'.sessions = Function.update backend.sessions session state)
    (committed : ∀ id, (row id backend'.anchors).committed = (row id backend.anchors).committed)
    (opens : ∀ messageId, openCreation state = some messageId →
      openCreation (backend.sessions session) = some messageId ∨
      ¬ HasActive backend messageId ∧
        ∀ other, other ≠ session → openCreation (backend.sessions other) ≠ some messageId) :
    Uniqueness backend' := by
  have still {messageId : Uuid} (has : HasActive backend' messageId) : HasActive backend messageId := by
    obtain ⟨id, anchor, stored, linked⟩ := has
    exact ⟨id, anchor, committed id ▸ stored, linked⟩
  have mine : backend'.sessions session = state := by rw [sessions, Function.update_self]
  have theirs {other : SessionId} (different : other ≠ session) :
      backend'.sessions other = backend.sessions other := by
    rw [sessions, Function.update_of_ne different]
  have onlyOne {other : SessionId} {messageId : Uuid} (different : other ≠ session)
      (opened : openCreation state = some messageId)
      (opened' : openCreation (backend.sessions other) = some messageId) : False := by
    obtain already | ⟨-, nobody⟩ := opens messageId opened
    · exact different (before.alone other session messageId opened' already)
    · exact nobody other different opened'
  constructor
  · intro messageId id id' anchor anchor' stored stored'
    rw [committed] at stored stored'
    exact before.one messageId id id' anchor anchor' stored stored'
  · intro first second messageId opened opened'
    by_cases same : first = session <;> by_cases same' : second = session
    · rw [same, same']
    · rw [same, mine] at opened
      rw [theirs same'] at opened'
      exact (onlyOne same' opened opened').elim
    · rw [theirs same] at opened
      rw [same', mine] at opened'
      exact (onlyOne same opened' opened).elim
    · rw [theirs same] at opened
      rw [theirs same'] at opened'
      exact before.alone first second messageId opened opened'
  · intro other messageId opened has
    by_cases same : other = session
    · rw [same, mine] at opened
      obtain already | ⟨absent, -⟩ := opens messageId opened
      · exact before.absent session messageId already (still has)
      · exact absent (still has)
    · rw [theirs same] at opened
      exact before.absent other messageId opened (still has)

/-- An active anchor after a commit was active before it, or is the insert of the session. -/
theorem commit_origin (locks : LockDiscipline keccak backend) {messageId id : Uuid}
    {anchor : BlockchainAnchor}
    (stored : (row id (backend.commits session).anchors).committed = some anchor)
    (linked : anchor.messageId = some messageId) (isActive : active anchor) :
    (∃ earlier, (row id backend.anchors).committed = some earlier ∧
      earlier.messageId = some messageId ∧ active earlier) ∨
    row id backend.anchors = ⟨none, some (session, anchor)⟩ ∧
      openCreation (backend.sessions session) = some messageId := by
  change (row id (RowTable.commit session backend.anchors)).committed = some anchor at stored
  obtain ⟨value, held, now⟩ | ⟨-, same⟩ := RowTable.row_commit_cases session id backend.anchors
  · rw [now] at stored
    cases stored
    cases here : row id backend.anchors with
    | mk committed holder =>
      rw [here] at held
      cases held
      cases committed with
      | none =>
        obtain ⟨message, createdAt, creates, rfl⟩ := locks.inserted id session anchor here
        refine Or.inr ⟨rfl, ?_⟩
        rw [creates]
        exact linked
      | some earlier =>
        obtain ⟨pending, evidence⟩ := locks.pending id session earlier anchor here
        refine Or.inl ⟨earlier, rfl, evidence.messageId ▸ linked, ?_⟩
        simp [active, pending]
  · rw [same] at stored
    exact Or.inl ⟨anchor, stored, linked, isActive⟩

/-- The end of a session that commits what it holds. -/
theorem Uniqueness.commit (before : Uniqueness backend) (locks : LockDiscipline keccak backend) :
    Uniqueness (backend.commits session) := by
  have theirs {other : SessionId} {messageId : Uuid}
      (opened : openCreation ((backend.commits session).sessions other) = some messageId) :
      other ≠ session ∧ openCreation (backend.sessions other) = some messageId := by
    change openCreation (Function.update backend.sessions session .committed other) = _ at opened
    by_cases same : other = session
    · rw [same, Function.update_self] at opened
      cases opened
    · rw [Function.update_of_ne same] at opened
      exact ⟨same, opened⟩
  constructor
  · intro messageId id id' anchor anchor' stored stored' linked linked' isActive isActive'
    obtain ⟨earlier, present, link, act⟩ | ⟨insert, opened⟩ :=
      commit_origin locks stored linked isActive
    · obtain ⟨earlier', present', link', act'⟩ | ⟨-, opened'⟩ :=
        commit_origin locks stored' linked' isActive'
      · exact before.one messageId id id' earlier earlier' present present' link link' act act'
      · exact absurd ⟨id, earlier, present, link, act⟩ (before.absent session messageId opened')
    · obtain ⟨earlier', present', link', act'⟩ | ⟨insert', -⟩ :=
        commit_origin locks stored' linked' isActive'
      · exact absurd ⟨id', earlier', present', link', act'⟩
          (before.absent session messageId opened)
      · exact locks.insertedOnce id id' session anchor anchor' insert insert'
  · intro first second messageId opened opened'
    exact before.alone first second messageId (theirs opened).2 (theirs opened').2
  · rintro other messageId opened ⟨id, anchor, stored, linked, isActive⟩
    obtain ⟨different, opened⟩ := theirs opened
    obtain ⟨earlier, present, link, act⟩ | ⟨-, opened'⟩ := commit_origin locks stored linked isActive
    · exact before.absent other messageId opened ⟨id, earlier, present, link, act⟩
    · exact different (before.alone other session messageId opened opened')

theorem openCreation_plain {state : SessionState} (plain : state.plain = true) :
    openCreation state = none := by
  cases state <;> simp [SessionState.plain] at plain <;> rfl

theorem openCreation_ended {state : SessionState} (ended : state.ended = true) :
    openCreation state = none := by
  cases state <;> simp [SessionState.ended] at ended <;> rfl

/-- One statement keeps the anchors unique when its check does not race. -/
theorem uniqueness_takes (before : Uniqueness backend) (locks : LockDiscipline keccak backend)
    (noRace : NoRace backend (.session session statement))
    (taken : Takes keccak encodeBytes32 backend session statement backend') :
    Uniqueness backend' := by
  cases taken with
  | reads state _ plain =>
    exact before.frame rfl (fun _ => rfl) (by simp [openCreation_plain plain])
  | insertsMessage message _ _ => exact before.frame rfl (fun _ => rfl) (by simp [openCreation])
  | requires message _ _ => exact before.frame rfl (fun _ => rfl) (by simp [openCreation])
  | findsNone message isNew selects anchoring none =>
    refine before.frame rfl (fun _ => rfl) ?_
    intro messageId opened
    cases opened
    exact Or.inr ⟨not_hasActive_of_none none,
      noRace session message isNew (by rw [selects]) anchoring none⟩
  | findsActive message id found _ _ _ => exact before.frame rfl (fun _ => rfl) (by simp [openCreation])
  | insertsAnchor message id createdAt creating free =>
    refine before.frame rfl ?_ ?_
    · intro id'
      exact (RowTable.Uncommitted.put (by rw [free]) (by simp [free])).committed id'
    · intro messageId opened
      rw [creating]
      exact Or.inl opened
  | marks marker messageId now table _ _ =>
    exact before.frame rfl (fun _ => rfl) (by simp [openCreation])
  | locks anchorId anchor candidates _ free _ =>
    refine before.frame rfl ?_ (by simp [openCreation])
    exact fun id => (RowTable.Uncommitted.put (by rw [free]) (by simp [free])).committed id
  | submits anchorId anchor recordId contentHash _ _ =>
    exact before.frame rfl (fun _ => rfl) (by simp [openCreation])
  | broadcasts anchorId anchor recordId contentHash recordWord contentWord sender transactionHash
      chain _ _ _ _ _ =>
    exact before.frame rfl (fun _ => rfl) (by simp [openCreation])
  | receives anchorId anchor recordId contentHash transactionHash contractAddress anchoredAt _ _ =>
    exact before.frame rfl (fun _ => rfl) (by simp [openCreation])
  | givesUp anchorId anchor _ => exact before.frame rfl (fun _ => rfl) (by simp [openCreation])
  | updates anchorId anchor change table _ updated =>
    refine before.frame rfl ?_ (by simp [openCreation])
    exact fun id => (RowTable.update_uncommitted updated).committed id
  | commits _ => exact before.commit locks
  | ends state _ ended =>
    refine before.frame rfl ?_ (by simp [openCreation_ended ended])
    exact fun id => (RowTable.rollback_uncommitted session backend.anchors).committed id

theorem uniqueness_reachable
    (reached : Runs.ReachableBy (anchorStep keccak encodeBytes32) Starts NoRace backend) :
    LockDiscipline keccak backend ∧ Uniqueness backend := by
  refine @Runs.invariant_of_preserved _ _ _ _ _
    (fun backend => LockDiscipline keccak backend ∧ Uniqueness backend) ?_ ?_ _ reached
  · rintro start ⟨quiet, one⟩
    refine ⟨lockDiscipline_quiet quiet, one, ?_, ?_⟩
    · intro session session' messageId opened
      rw [quiet.idle session] at opened
      cases opened
    · intro session messageId opened
      rw [quiet.idle session] at opened
      cases opened
  · rintro middle event next ⟨locks, before⟩ noRace moved
    refine ⟨lockDiscipline_step locks moved, ?_⟩
    obtain ⟨session, statement, rfl, taken⟩ | ⟨chain, -, rfl⟩ := anchorStep_cases moved
    · exact uniqueness_takes before locks noRace taken
    · exact ⟨before.one, before.alone, before.absent⟩

/-- Without a race of checks every reachable database has one active anchor a message. -/
theorem one_active_anchor
    (reached : Runs.ReachableBy (anchorStep keccak encodeBytes32) Starts NoRace backend) :
    OneActive backend :=
  (uniqueness_reachable reached).2.one

/-! ## A race for the anchor of one message -/

/-- User 1 sends message 7 to user 2; its anchor is 100. -/
def sampleSend : List Event := [
  .session 0 (.send openDirectory 1 (plainRequest 2) 7 .newYear2026),
  .session 0 .insertMessage,
  .session 0 .selectActive,
  .session 0 (.insertAnchor 100 .newYear2026),
  .session 0 .commit]

theorem starts_empty : Starts emptyBackend := by
  refine ⟨quiet_empty, ?_⟩
  intro messageId id id' anchor anchor' stored
  cases stored

def sampleLock : List Event := [.session 1 .startWorker, .session 1 .visitAnchor]

/-- The worker's submission of anchor 100 fails, then two requests for an anchor of message 7
run statement by statement. -/
def sampleRace : List Event := [
  .session 1 .submitFails,
  .session 1 .flushUpdate,
  .session 1 .commit,
  .session 2 (.createMessageAnchor 1 7),
  .session 3 (.createMessageAnchor 2 7),
  .session 2 .selectActive,
  .session 3 .selectActive,
  .session 2 (.insertAnchor 101 .newYear2026),
  .session 3 (.insertAnchor 102 .newYear2026),
  .session 2 .commit,
  .session 3 .commit]

theorem readValues_created {anchorId : Uuid} {message : Message} {id : Uuid} {createdAt : UtcTimestamp}
    (locked : backend.sessions session =
      .locked anchorId (createAnchor keccak message id createdAt)) :
    anchorStep keccak encodeBytes32 backend (.session session .readValues) =
      some (backend.goes session (.submitting anchorId (createAnchor keccak message id createdAt)
        (BlockchainHashing.deriveMessageRecordId keccak message.id)
        (BlockchainHashing.deriveMessageDigest keccak message))) := by
  simp only [anchorStep, sessionStep, locked, readValues, submissionValues_createAnchor]

def sampleMessage : Message := createMessage 1 (plainRequest 2) none 7 .newYear2026

def sampleAnchor (keccak : List Byte → List Byte) (id : Uuid) : BlockchainAnchor :=
  createAnchor keccak sampleMessage id .newYear2026

/-- A session goes through states. -/
def through (session : SessionId) (states : List SessionState) (sessions : SessionId → SessionState) :
    SessionId → SessionState :=
  states.foldl (fun sessions state => Function.update sessions session state) sessions

/-- Message 7 is sent, and the worker holds its anchor. -/
def lockedBackend (keccak : List Byte → List Byte) : Backend where
  messages := [(7, ⟨some sampleMessage, none⟩)]
  anchors := [(100, ⟨some (sampleAnchor keccak 100), some (1, sampleAnchor keccak 100)⟩)]
  sessions :=
    through 1 [.selecting [100], .locked 100 (sampleAnchor keccak 100)]
      (through 0 [.validated sampleMessage, .anchoring sampleMessage true, .creating sampleMessage,
        .created sampleMessage, .committed] emptyBackend.sessions)
  chain := emptyBackend.chain
  submissions := []

/-- The worker has read the values of anchor 100. -/
def submittingBackend (keccak : List Byte → List Byte) : Backend :=
  (lockedBackend keccak).goes 1 (.submitting 100 (sampleAnchor keccak 100)
    (BlockchainHashing.deriveMessageRecordId keccak 7)
    (BlockchainHashing.deriveMessageDigest keccak sampleMessage))

/-- The message and the status of a committed anchor. -/
def linkOf (backend : Backend) (id : Uuid) : Option (Option Uuid × AnchorStatus) :=
  (row id backend.anchors).committed.map fun anchor => (anchor.messageId, anchor.status)

theorem submitting_run : Runs.run (anchorStep Keccak.keccak256 encodeHex) emptyBackend
    ((sampleSend ++ sampleLock) ++ [.session 1 .readValues]) =
      some (submittingBackend Keccak.keccak256) := by
  have locked : Runs.run (anchorStep Keccak.keccak256 encodeHex) emptyBackend
      (sampleSend ++ sampleLock) = some (lockedBackend Keccak.keccak256) := rfl
  rw [Runs.run_append, locked, Option.bind_some, Runs.run_cons (readValues_created rfl)]
  rfl

theorem sampleRace_ends : ∃ backend,
    Runs.run (anchorStep Keccak.keccak256 encodeHex) emptyBackend
      (((sampleSend ++ sampleLock) ++ [.session 1 .readValues]) ++ sampleRace) = some backend ∧
    linkOf backend 101 = some (some 7, .pending) ∧ linkOf backend 102 = some (some 7, .pending) := by
  have links : (Runs.run (anchorStep Keccak.keccak256 encodeHex)
      (submittingBackend Keccak.keccak256) sampleRace).map
        (fun backend => (linkOf backend 101, linkOf backend 102)) =
      some (some (some 7, .pending), some (some 7, .pending)) := by decide
  obtain ⟨backend, ends, both⟩ := Option.map_eq_some_iff.mp links
  refine ⟨backend, ?_, congrArg Prod.fst both, congrArg Prod.snd both⟩
  rw [Runs.run_append, submitting_run, Option.bind_some, ends]

/-- Two requests find only a failed anchor and leave two pending ones. -/
theorem race_leaves_two_active : ∃ backend,
    Runs.Reachable (anchorStep Keccak.keccak256 encodeHex) Starts backend ∧ ¬ OneActive backend := by
  obtain ⟨backend, ends, link, link'⟩ := sampleRace_ends
  obtain ⟨anchor, stored, facts⟩ := Option.map_eq_some_iff.mp link
  obtain ⟨anchor', stored', facts'⟩ := Option.map_eq_some_iff.mp link'
  refine ⟨backend, Runs.reachable_of_run starts_empty ends, fun one => ?_⟩
  have isActive {found : BlockchainAnchor} (pending : found.status = .pending) : active found := by
    simp [active, pending]
  have same : (101 : Uuid) = 102 :=
    one 7 101 102 anchor anchor' stored stored' (congrArg Prod.fst facts) (congrArg Prod.fst facts')
      (isActive (congrArg Prod.snd facts)) (isActive (congrArg Prod.snd facts'))
  exact absurd same (by decide)

/-! ## Checks one after another -/

/-- A check that is made while no other of the sessions has found its message without an anchor. -/
def checkNoRace (sessions : List SessionId) (backend : Backend) (event : Event) : Bool :=
  match event with
  | .session session .selectActive => sessions.contains session &&
    match backend.sessions session with
    | .anchoring message _ => sessions.all fun other =>
      other == session || openCreation (backend.sessions other) != some message.id
    | _ => true
  | .session session _ => sessions.contains session
  | _ => false

/-- Only the given sessions have begun. -/
def Only (sessions : List SessionId) (backend : Backend) : Prop :=
  ∀ other, other ∉ sessions → backend.sessions other = .idle

theorem session_of_check {sessions : List SessionId} {backend : Backend} {session : SessionId}
    {statement : Statement} (checked : checkNoRace sessions backend (.session session statement) = true) :
    session ∈ sessions := by
  cases statement with
  | selectActive => exact List.contains_iff_mem.mp (Bool.and_eq_true_iff.mp checked).1
  | _ => exact List.contains_iff_mem.mp checked

theorem everyStep_of_checkNoRace {keccak : List Byte → List Byte}
    {encodeBytes32 : String → Option Bytes32} (sessions : List SessionId) {backend : Backend}
    (only : Only sessions backend) (events : List Event)
    (checked : Runs.checkRun (anchorStep keccak encodeBytes32) (checkNoRace sessions) backend events =
      true) : Runs.EveryStep (anchorStep keccak encodeBytes32) NoRace backend events := by
  have alone : Runs.EveryStep (anchorStep keccak encodeBytes32) (fun backend event =>
      NoRace backend event ∧ checkNoRace sessions backend event = true) backend events := by
    refine Runs.everyStep_of_check ?_ ?_ events only checked
    · intro backend event only checked
      refine ⟨?_, checked⟩
      rintro session message isNew rfl anchoring - other different opened
      by_cases begun : other ∈ sessions
      · have clear := (Bool.and_eq_true_iff.mp checked).2
        simp only [anchoring, List.all_eq_true, Bool.or_eq_true, beq_iff_eq, bne_iff_ne] at clear
        exact ((clear other begun).resolve_left different) opened
      · rw [only other begun] at opened
        cases opened
    · rintro backend event backend' only ⟨-, checked⟩ moved other different
      obtain ⟨session, statement, rfl, taken⟩ | ⟨chain, -, rfl⟩ := anchorStep_cases moved
      · obtain ⟨state, updated⟩ := takes_sessions taken
        have other' : other ≠ session := fun same => different (same ▸ session_of_check checked)
        rw [updated, Function.update_of_ne other']
        exact only other different
      · exact only other different
  exact alone.mono fun _ _ both => both.1

/-- The submission fails; both parties of message 7 ask for a new anchor, the second one's check
comes after the first one's commit, and message 8 is sent in between. -/
def sampleTurns : List Event := [
  .session 1 .submitFails,
  .session 1 .flushUpdate,
  .session 1 .commit,
  .session 2 (.createMessageAnchor 1 7),
  .session 3 (.createMessageAnchor 2 7),
  .session 4 (.send openDirectory 2 (plainRequest 1) 8 .newYear2026),
  .session 4 .insertMessage,
  .session 4 .selectActive,
  .session 2 .selectActive,
  .session 2 (.insertAnchor 101 .newYear2026),
  .session 4 (.insertAnchor 102 .newYear2026),
  .session 2 .commit,
  .session 3 .selectActive,
  .session 4 .commit]

theorem one_active_anchor_after_failure : ∃ backend,
    Runs.run (anchorStep Keccak.keccak256 encodeHex) emptyBackend
      (((sampleSend ++ sampleLock) ++ [.session 1 .readValues]) ++ sampleTurns) = some backend ∧
    [100, 101, 102].map (linkOf backend) =
      [some (some 7, .failed), some (some 7, .pending), some (some 8, .pending)] ∧
    OneActive backend := by
  have links : (Runs.run (anchorStep Keccak.keccak256 encodeHex)
      (submittingBackend Keccak.keccak256) sampleTurns).map
        (fun backend => [100, 101, 102].map (linkOf backend)) =
      some [some (some 7, .failed), some (some 7, .pending), some (some 8, .pending)] := by decide
  obtain ⟨backend, ends, facts⟩ := Option.map_eq_some_iff.mp links
  have whole : Runs.run (anchorStep Keccak.keccak256 encodeHex) emptyBackend
      (((sampleSend ++ sampleLock) ++ [.session 1 .readValues]) ++ sampleTurns) = some backend := by
    rw [Runs.run_append, submitting_run, Option.bind_some, ends]
  have alone : Runs.EveryStep (anchorStep Keccak.keccak256 encodeHex) NoRace emptyBackend
      (((sampleSend ++ sampleLock) ++ [.session 1 .readValues]) ++ sampleTurns) := by
    refine (Runs.everyStep_append submitting_run).mpr ⟨?_, ?_⟩
    · exact everyStep_of_checkNoRace [0, 1] (fun _ _ => rfl) _ (by decide)
    · refine everyStep_of_checkNoRace [0, 1, 2, 3, 4] (fun other different => ?_) _ (by decide)
      simp only [List.mem_cons, List.not_mem_nil, or_false, not_or] at different
      simp [submittingBackend, lockedBackend, Backend.goes, through, emptyBackend, different]
  exact ⟨backend, whole, facts,
    one_active_anchor (Runs.reachableBy_of_run _ (.start starts_empty) alone whole)⟩

end EpicKfc.Guarantees.AnchorUniqueness
