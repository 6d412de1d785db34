import EpicKfc.Guarantees.AnchorConfirmation
import EpicKfc.Guarantees.FidelityReports
import EpicKfc.Guarantees.MessageEvidence
import EpicKfc.Source.AnchorChecks

/-!
# A verification sees what the chain holds

Both requests of a verification reach the backend while requests and workers go
on. The anchor that is served first is either unfinished, and the client says so,
or confirmed. A confirmed row stays as it is, so the second request finds it, with
the digest of the message as its root, and the contract holds that digest.
-/

namespace EpicKfc.Guarantees.PublicVerification
open EpicKfc.Lib
open EpicKfc.Lib.Keccak (Byte)
open EpicKfc.Lib.RowTable (Row row)
open EpicKfc.Source
open EpicKfc.Source.AnchorChecks
open EpicKfc.Source.Blockchain
open EpicKfc.Source.Blockchain.MessageFidelity (Holds)
open EpicKfc.Source.Server
open EpicKfc.Source.Server.Messages
open EpicKfc.Source.Server.BlockchainHashing
open EpicKfc.Source.Server.BlockchainAnchors
open EpicKfc.Source.Server.AnchorRelay
open EpicKfc.Guarantees.AnchorConfirmation (Stored Confirmation)

variable {keccak : List Byte → List Byte} {encodeBytes32 : String → Option Bytes32}
variable {backend backend' : Backend} {session : SessionId} {statement : Statement}

/-! ## Roots -/

/-- No message and no anchor yet, and no session under way; any chain. -/
structure Fresh (backend : Backend) : Prop where
  quiet : backend.Quiet
  messages : ∀ id, (row id backend.messages).committed = none
  anchors : ∀ id, (row id backend.anchors).committed = none

theorem Fresh.starts (fresh : Fresh backend) : AnchorConfirmation.Starts backend := by
  refine ⟨fresh.quiet, fun id anchor present => ?_⟩
  rw [fresh.anchors] at present
  cases present

theorem Fresh.startsEvident (fresh : Fresh backend) : MessageEvidence.Starts keccak backend := by
  refine ⟨fresh.quiet, fun anchorId anchor id present => ?_, fun id message stored => ?_⟩
  · rw [fresh.anchors] at present
    cases present
  · rw [fresh.messages] at stored
    cases stored

/-- What a statement stores of anchors: a new one, or the update of one it holds. -/
theorem takes_stored (locks : LockDiscipline keccak backend)
    (taken : Takes keccak encodeBytes32 backend session statement backend') {id : Uuid}
    {anchor : BlockchainAnchor} (stored : Stored backend' id anchor) :
    Stored backend id anchor ∨
    (∃ message createdAt, anchor = createAnchor keccak message id createdAt) ∨
    ∃ old change, backend.sessions session = .updating id old change ∧ Stored backend id old ∧
      anchor = change.apply old := by
  have put {key : Uuid} {committed : Option BlockchainAnchor} {held : BlockchainAnchor}
      (same : (row key backend.anchors).committed = committed)
      (here : Stored { backend with
        anchors := RowTable.put key ⟨committed, some (session, held)⟩ backend.anchors } id anchor) :
      Stored backend id anchor ∨ id = key ∧ anchor = held := by
    rw [Stored, RowTable.row_put] at here
    split at here
    · next key' =>
      subst key'
      obtain present | ⟨holder, mine⟩ := here
      · exact Or.inl (Or.inl (same.trans present))
      · cases mine
        exact Or.inr ⟨rfl, rfl⟩
    · exact Or.inl here
  cases taken with
  | insertsAnchor message key createdAt _ free =>
    obtain before | ⟨rfl, rfl⟩ := put (by rw [free]) stored
    · exact Or.inl before
    · exact Or.inr (Or.inl ⟨message, createdAt, rfl⟩)
  | locks key locked candidates _ free _ =>
    obtain before | ⟨rfl, rfl⟩ := put (by rw [free]) stored
    · exact Or.inl before
    · exact Or.inl (Or.inl (by rw [free]))
  | updates key old change table updating updated =>
    obtain ⟨held, -⟩ := locks.working session key old (by rw [updating]; rfl)
    rw [RowTable.update_of_held held] at updated
    cases updated
    obtain before | ⟨rfl, rfl⟩ := put (by rw [held]) stored
    · exact Or.inl before
    · exact Or.inr (Or.inr ⟨old, change, updating, Or.inl (by rw [held]), rfl⟩)
  | commits _ =>
    change (row id (RowTable.commit session backend.anchors)).committed = _ ∨
      ∃ holder, (row id (RowTable.commit session backend.anchors)).held = _ at stored
    obtain ⟨value, held, now⟩ | ⟨-, same⟩ := RowTable.row_commit_cases session id backend.anchors
    · rw [now] at stored
      obtain present | ⟨holder, mine⟩ := stored
      · cases present
        exact Or.inl (Or.inr ⟨session, held⟩)
      · cases mine
    · rw [same] at stored
      exact Or.inl stored
  | ends state _ _ =>
    have work := RowTable.rollback_uncommitted session backend.anchors
    obtain present | ⟨holder, held⟩ := stored
    · exact Or.inl (Or.inl ((work.committed id).symm.trans present))
    · by_cases mine : holder = session
      · exact absurd (mine ▸ held) (RowTable.rollback_releases session id anchor _)
      · exact Or.inl (Or.inr ⟨holder, (work.others id holder anchor mine).mp held⟩)
  | _ => exact Or.inl stored

/-- An anchor has no root, or its digest as root. -/
def DigestRoots (backend : Backend) : Prop :=
  ∀ id anchor, Stored backend id anchor →
    anchor.merkleRoot = none ∨ anchor.merkleRoot = some anchor.digest

theorem orText_digest {anchor : BlockchainAnchor}
    (root : anchor.merkleRoot = none ∨ anchor.merkleRoot = some anchor.digest) :
    orText anchor.merkleRoot anchor.digest = anchor.digest := by
  obtain none | some := root
  · simp [orText, none]
  · rw [orText, some, Option.getD_some]
    split
    · rfl
    · rfl

theorem digestRoots_takes (before : DigestRoots backend) (locks : LockDiscipline keccak backend)
    (confirmation : Confirmation encodeBytes32 backend)
    (taken : Takes keccak encodeBytes32 backend session statement backend') :
    DigestRoots backend' := by
  intro id anchor stored
  obtain old | ⟨message, createdAt, rfl⟩ | ⟨old, change, updating, present, rfl⟩ :=
    takes_stored locks taken stored
  · exact before id anchor old
  · exact Or.inl rfl
  · have root := before id old present
    have phase := confirmation.phases session
    rw [updating] at phase
    obtain rfl | ⟨recordId, contentHash, transactionHash, contractAddress, anchoredAt, rfl, values,
      -⟩ := phase
    · exact root
    · have hash := (submissionValues_ok values).2.2.1
      rw [orText_digest root] at hash
      exact Or.inr (by rw [hash]; rfl)

/-- What holds of a backend that started fresh. -/
structure Anchored (keccak : List Byte → List Byte) (encodeBytes32 : String → Option Bytes32)
    (backend : Backend) : Prop where
  locks : LockDiscipline keccak backend
  confirmation : Confirmation encodeBytes32 backend
  evidence : MessageEvidence.EvidenceKept keccak backend
  roots : DigestRoots backend

theorem anchored_starts (fresh : Fresh backend) : Anchored keccak encodeBytes32 backend := by
  obtain ⟨locks, confirmation⟩ :=
    @AnchorConfirmation.confirmation_reachable keccak encodeBytes32 _ (.start fresh.starts)
  have evidence :=
    @MessageEvidence.evidenceKept_reachable keccak encodeBytes32 _ (.start fresh.startsEvident)
  refine ⟨locks, confirmation, evidence.2, ?_⟩
  rintro id anchor (present | ⟨holder, held⟩)
  · rw [fresh.anchors] at present
    cases present
  · rw [fresh.quiet.anchors] at held
    cases held

theorem anchored_step {event : Event} (before : Anchored keccak encodeBytes32 backend)
    (moved : anchorStep keccak encodeBytes32 backend event = some backend') :
    Anchored keccak encodeBytes32 backend' := by
  have locks := lockDiscipline_step before.locks moved
  have confirmation := AnchorConfirmation.confirmation_step before.confirmation before.locks moved
  obtain ⟨session, statement, -, taken⟩ | ⟨chain, -, rfl⟩ := anchorStep_cases moved
  · exact ⟨locks, confirmation, MessageEvidence.evidenceKept_takes before.evidence before.locks taken,
      digestRoots_takes before.roots before.locks before.confirmation taken⟩
  · have evidence := before.evidence
    exact ⟨locks, confirmation, ⟨evidence.held, evidence.inserted, evidence.subject, evidence.isNew,
      evidence.committed, evidence.covered⟩, before.roots⟩

theorem anchored_reachable
    (reached : Runs.Reachable (anchorStep keccak encodeBytes32) Fresh backend) :
    Anchored keccak encodeBytes32 backend :=
  Runs.invariant_of_preserved (fun _ => anchored_starts)
    (fun _ _ _ before _ moved => anchored_step before moved) reached

/-! ## The two answers -/

theorem parse_hashText (hash : Hex32) : Hex32.parse (hashText hash) = some hash := by
  have read : (hash.digits.all fun digit => (hexValue digit).isSome) = true := by
    rw [List.all_eq_true]
    exact fun digit member => Option.isSome_iff_exists.mpr (hash.hex digit member)
  unfold Hex32.parse hashText
  simp only [String.toList_ofList, Hex32.chars, hash.length_eq, read, dite_true]

theorem isValidEthereumTransactionHash_hashText (word : Bytes32) :
    Client.MessageService.isValidEthereumTransactionHash (hashText (Hex32.hexlify word)) = true := by
  have hex : ∀ value < 16, Client.MessageService.isHexDigit (Nat.digitChar value) = true := by decide
  have digits : ∀ digit ∈ (Hex32.hexlify word).digits,
      Client.MessageService.isHexDigit digit = true := by
    intro digit member
    rw [Hex32.digits_hexlify] at member
    obtain ⟨value, belongs, rfl⟩ := List.mem_map.mp member
    exact hex value (Digits.digits_lt (by decide) _ _ value belongs)
  have sized := (Hex32.hexlify word).length_eq
  have whole : (Hex32.hexlify word).digits.take 64 = (Hex32.hexlify word).digits :=
    List.take_of_length_le (by omega)
  have nothing : (Hex32.hexlify word).digits.drop 64 = [] := List.drop_of_length_le (by omega)
  unfold Client.MessageService.isValidEthereumTransactionHash hashText
  simp only [String.toList_ofList, Hex32.chars, whole, nothing, sized, List.all_eq_true.mpr digits]
  rfl

/-- The answer about a match names the chain, the status and the transaction that were asked
about. -/
theorem verificationArrived_match {serializer : MessageApi.DateTimeSerializer} {rows : AnchorTable}
    {request : BlockchainVerifyRequest} {transaction : Hex32} (time : UtcTimestamp)
    (asked : request.transactionHash = some transaction)
    (found : ∃ anchor ∈ rows, Matches request anchor) :
    Client.MessageService.verificationArrived (.ok (RequestModels.verifyResponse serializer
      (verifyAnchorMetadata rows request time))) =
        .reported (.anchorVerifiedWithTransaction "sepolia" "confirmed" (hashText transaction)) := by
  obtain ⟨anchor, located⟩ := Option.isSome_iff_exists.mp (findMatchingAnchor_isSome_iff.mpr found)
  have member := List.mem_of_mem_head? located
  rw [List.mem_insertionSort, List.mem_filter, decide_eq_true_eq] at member
  obtain ⟨-, -, -, confirmed, -, -, transactionMatches⟩ := member
  have named : anchor.transactionHash = some (hashText transaction) := by
    rw [asked] at transactionMatches
    exact transactionMatches.resolve_left (by simp)
  have chain : anchor.chain = .sepolia := by cases anchor.chain; rfl
  have given : (hashText transaction).isEmpty = false := by
    rw [← Bool.not_eq_true, String.isEmpty_iff, hashText, ← String.toList_inj]
    simp [Hex32.chars]
  simp only [verifyAnchorMetadata, located, Client.MessageService.verificationArrived,
    Client.MessageGateway.verificationFromJson, RequestModels.verifyResponse, Client.value,
    Json.lookup_cons, String.reduceEq, if_true, if_false, Client.QJsonValue.toBool, Bool.not_true,
    Client.QJsonValue.toString, confirmed, named, chain, Option.map_some,
    MessageRoutes.optionalText, MessageRoutes.anchorStatusText, MessageRoutes.anchorChainText]
  have lower : Client.MessageService.toLower "confirmed" = "confirmed" := by decide
  simp [lower, given]

theorem hashText_of_parse {value : String} {hash : Hex32} (read : Hex32.parse value = some hash) :
    hashText hash = value :=
  hashText_of_validated (by rw [validateEthHash, read])

/-! ## The whole verification -/

/-- The routes read the committed anchors, and let the requests through. -/
structure Serves (server : Answering) (backend : Backend) : Prop where
  anchors : server.database.anchors = backend.anchorRows
  admitted : server.context.rateLimit = .ok ()

/-- The node names transactions by 32-byte hashes. -/
def NamedByHashes (backend : Backend) : Prop :=
  ∀ submission ∈ backend.submissions,
    ∃ word, submission.transactionHash = hashText (Hex32.hexlify word)

/-- The contract holds the digest of the message under its record id. -/
def DigestOnChain (keccak : List Byte → List Byte) (backend : Backend) (message : Message) : Prop :=
  ∃ recordWord digestWord, encodeHex (deriveMessageRecordId keccak message.id) = some recordWord ∧
    encodeHex (deriveMessageDigest keccak message) = some digestWord ∧
    Holds backend.chain.contract recordWord digestWord

/-- What a client has to report of a message whose latest anchor has this status. -/
def Reports (keccak : List Byte → List Byte) (later : Backend) (message : Message)
    (anchor : BlockchainAnchor) (verdict : Client.MessageService.Verdict) : AnchorStatus → Prop
  | .pending => verdict = .reported (.anchorPending "pending" "sepolia")
  | .failed => verdict = .reported (.anchorFailed "sepolia")
  | .confirmed => (∃ transactionHash, anchor.transactionHash = some transactionHash ∧
      verdict = .reported (.anchorVerifiedWithTransaction "sepolia" "confirmed" transactionHash)) ∧
      DigestOnChain keccak later message

/-- What the client judges of a served anchor. -/
theorem judgeAnchor_decoded {serializer : MessageApi.DateTimeSerializer} {anchor : BlockchainAnchor} :
    Client.MessageService.judgeAnchor (decodedAnchor serializer anchor) =
      if anchor.status = .failed then .reported (.anchorFailed "sepolia")
      else if anchor.status = .confirmed ∧ Client.MessageService.isValidEthereumTransactionHash
        (anchor.transactionHash.getD "") = true then .asks (decodedAnchor serializer anchor)
      else .reported (.anchorPending "pending" "sepolia") := by
  have failed : Client.MessageService.toLower "failed" = "failed" := by decide
  have pending : Client.MessageService.toLower "pending" = "pending" := by decide
  have confirmed : Client.MessageService.toLower "confirmed" = "confirmed" := by decide
  rw [decodedAnchor_eq]
  cases status : anchor.status with
  | pending => simp [Client.MessageService.judgeAnchor, MessageRoutes.anchorStatusText, pending,
      MessageRoutes.anchorChainText]
  | confirmed => simp [Client.MessageService.judgeAnchor, MessageRoutes.anchorStatusText, confirmed,
      MessageRoutes.anchorChainText]
  | failed => simp [Client.MessageService.judgeAnchor, MessageRoutes.anchorStatusText, failed,
      MessageRoutes.anchorChainText]

variable {first later : Backend} {server server' : Answering} {id key : Uuid}
variable {message : Message} {anchor : BlockchainAnchor}

/-- The hashes of a confirmed anchor of a message, read as the schema and the ABI read them. -/
theorem confirmed_hashes (anchored : Anchored keccak encodeHex backend)
    (present : (row key backend.anchors).committed = some anchor)
    (confirmed : anchor.status = .confirmed) :
    ∃ recordId transactionHash record digest, anchor.recordId = some recordId ∧
      anchor.merkleRoot = some anchor.digest ∧ anchor.transactionHash = some transactionHash ∧
      Hex32.parse recordId = some record ∧ Hex32.parse anchor.digest = some digest ∧
      (⟨key, recordId, anchor.digest, transactionHash⟩ : Submission) ∈ backend.submissions ∧
      Holds backend.chain.contract record.value digest.value := by
  obtain ⟨recordId, root, transactionHash, recordGiven, rootGiven, transactionGiven, submitted,
    recordWord, rootWord, recordEncoded, rootEncoded, holds⟩ :=
      (anchored.confirmation.sound key anchor (Or.inl present)).onChain confirmed
  have same : root = anchor.digest := by
    obtain none | some := anchored.roots key anchor (Or.inl present)
    · rw [rootGiven] at none
      cases none
    · exact Option.some.inj (rootGiven.symm.trans some)
  subst same
  obtain ⟨record, recordRead, rfl⟩ := Option.map_eq_some_iff.mp recordEncoded
  obtain ⟨digest, digestRead, rfl⟩ := Option.map_eq_some_iff.mp rootEncoded
  exact ⟨recordId, transactionHash, record, digest, recordGiven, rootGiven, transactionGiven,
    recordRead, digestRead, submitted, holds⟩

/-- What a confirmed anchor of a message says is on the chain. -/
theorem digestOnChain_of_confirmed (anchored : Anchored keccak encodeHex backend)
    (fits : MessageEvidence.Evidences keccak message anchor)
    (present : (row key backend.anchors).committed = some anchor)
    (confirmed : anchor.status = .confirmed) : DigestOnChain keccak backend message := by
  obtain ⟨recordId, _, record, digest, recordGiven, -, -, recordRead, digestRead, -, holds⟩ :=
    confirmed_hashes anchored present confirmed
  rw [fits.recordId] at recordGiven
  cases recordGiven
  refine ⟨record.value, digest.value, ?_, ?_, holds⟩
  · rw [encodeHex, recordRead, Option.map_some]
  · rw [← fits.digest, encodeHex, digestRead, Option.map_some]

/-- The second answer about a confirmed anchor that is still there. -/
theorem verifyAnchor_confirmed {serializer : MessageApi.DateTimeSerializer}
    (anchored : Anchored keccak encodeHex first) (named : NamedByHashes first)
    (serves : Serves server later) (present : (row key first.anchors).committed = some anchor)
    (stays : (row key later.anchors).committed = some anchor)
    (confirmed : anchor.status = .confirmed) :
    ∃ transactionHash, anchor.transactionHash = some transactionHash ∧
      Client.MessageService.isValidEthereumTransactionHash transactionHash = true ∧
      Client.MessageService.verificationArrived (server.verifyAnchor
        (Client.MessageGateway.verifyAnchorBody (decodedAnchor serializer anchor))) =
          .reported (.anchorVerifiedWithTransaction "sepolia" "confirmed" transactionHash) := by
  obtain ⟨recordId, transactionHash, record, digest, recordGiven, rootGiven, transactionGiven,
    recordRead, digestRead, submitted, -⟩ := confirmed_hashes anchored present confirmed
  obtain ⟨word, rfl⟩ := named _ submitted
  refine ⟨_, transactionGiven, isValidEthereumTransactionHash_hashText word, ?_⟩
  have body := @blockchainVerifyRequest_decoded serializer _ _ _ _ _ _ _ _ recordGiven rootGiven
    transactionGiven digestRead recordRead digestRead (parse_hashText _)
  have found : ∃ row ∈ server.database.anchors,
      Matches ⟨digest, some record, some digest, some (Hex32.hexlify word), anchor.chain⟩ row := by
    rw [serves.anchors]
    refine ⟨anchor, RowTable.mem_committedRows.mpr ⟨key, stays⟩, ?_⟩
    simp only [Matches, matchesMetadata, columnMatches, Option.map_some, hashText_of_parse digestRead,
      hashText_of_parse recordRead]
    exact ⟨trivial, trivial, confirmed, Or.inr recordGiven, Or.inr rootGiven, Or.inr transactionGiven⟩
  have answer : server.verifyAnchor (Client.MessageGateway.verifyAnchorBody
      (decodedAnchor serializer anchor)) = .ok (RequestModels.verifyResponse
        server.backend.serializer (verifyAnchorMetadata server.database.anchors
          ⟨digest, some record, some digest, some (Hex32.hexlify word), anchor.chain⟩
            server.context.now)) := by
    simp only [Answering.verifyAnchor, RequestModels.verifyBlockchainAnchor, body,
      MessageRoutes.enforceRateLimit, serves.admitted]
    rfl
  rw [answer]
  exact verificationArrived_match _ rfl found

/-- The latest anchor of a message is stored, and refers to it. -/
theorem committed_of_latest (latest : getLatestForMessage id backend.anchorRows = some anchor) :
    ∃ key, (row key backend.anchors).committed = some anchor ∧ anchor.messageId = some id := by
  have member := List.mem_filter.mp (latest_mem latest)
  rw [decide_eq_true_eq] at member
  obtain ⟨key, present⟩ := RowTable.mem_committedRows.mp member.1
  exact ⟨key, present, member.2⟩

theorem latest_of_stored (anchored : Anchored keccak encodeHex backend)
    (stored : (row id backend.messages).committed = some message) :
    ∃ anchor, getLatestForMessage id backend.anchorRows = some anchor := by
  obtain ⟨_, some, present, link⟩ := anchored.evidence.covered id message stored
  rw [← Option.isSome_iff_exists, Option.isSome_iff_ne_none, getLatestForMessage, ne_eq,
    latest_eq_none, List.filter_eq_nil_iff]
  intro none
  exact none some (RowTable.mem_committedRows.mpr ⟨_, present⟩) (by simp [link])

theorem latest_of_missing (anchored : Anchored keccak encodeHex backend)
    (missing : (row id backend.messages).committed = none) :
    getLatestForMessage id backend.anchorRows = none := by
  rw [getLatestForMessage, latest_eq_none, List.filter_eq_nil_iff]
  intro anchor member link
  obtain ⟨key, present⟩ := RowTable.mem_committedRows.mp member
  obtain ⟨message, stored, -⟩ :=
    anchored.evidence.committed key anchor id present (by simpa using link)
  rw [missing] at stored
  cases stored

variable (library : Client.StoreDocuments.StorageLibrary) (store : Client.JsonLocalStore)
variable (io : Client.StoreIo) (files : Client.Files)

/-- What the client makes of an anchor that the route served. -/
theorem verify_served (admitted : server.context.rateLimit = .ok ())
    (latest : getLatestForMessage id server.database.anchors = some anchor)
    (verifyReply : Json.Members → Client.Result Json.Members) :
    (Client.MessageService.verify library store id.str (server.fetchMessageAnchor id) verifyReply io
      files).1 =
      if anchor.status = .failed then .reported (.anchorFailed "sepolia")
      else if anchor.status = .confirmed ∧ Client.MessageService.isValidEthereumTransactionHash
        (anchor.transactionHash.getD "") = true then
          Client.MessageService.verificationArrived (verifyReply
            (Client.MessageGateway.verifyAnchorBody (decodedAnchor server.backend.serializer anchor)))
      else .reported (.anchorPending "pending" "sepolia") := by
  have judged := @judgeAnchor_decoded server.backend.serializer anchor
  rw [decodedAnchor] at judged
  rw [fetchMessageAnchor_some admitted latest]
  simp only [Client.MessageService.verify, Client.MessageService.anchorArrived, judged]
  split_ifs <;> rfl

/-- The client's report about a message agrees with its latest anchor and, where that is
confirmed, with the contract at any later time; without an anchor it reports none. -/
theorem verification_sees_chain {events : List Event}
    (reached : Runs.Reachable (anchorStep keccak encodeHex) Fresh first)
    (ends : Runs.run (anchorStep keccak encodeHex) first events = some later)
    (named : NamedByHashes first) (serves : Serves server first) (serves' : Serves server' later) :
    (∀ message, (row id first.messages).committed = some message →
      ∃ anchor, getLatestForMessage id first.anchorRows = some anchor ∧
        Reports keccak later message anchor (Client.MessageService.verify library store id.str
          (server.fetchMessageAnchor id) server'.verifyAnchor io files).1 anchor.status) ∧
    ((row id first.messages).committed = none → (Client.MessageService.verify library store id.str
      (server.fetchMessageAnchor id) server'.verifyAnchor io files).1 =
        .reported .anchorUnavailable) := by
  have anchored := anchored_reachable reached
  constructor
  · intro message stored
    obtain ⟨anchor, latest⟩ := latest_of_stored anchored stored
    obtain ⟨key, present, link⟩ := committed_of_latest latest
    refine ⟨anchor, latest, ?_⟩
    rw [verify_served library store io files serves.admitted (serves.anchors ▸ latest)]
    cases status : anchor.status with
    | pending => simp [Reports]
    | failed => simp [Reports]
    | confirmed =>
      have settled : anchor.status ≠ .pending := by simp [status]
      have stays := AnchorConfirmation.settledStay_run anchored.locks ends key anchor present settled
      obtain ⟨transactionHash, given, valid, arrived⟩ := @verifyAnchor_confirmed _ first later server' key
        anchor server.backend.serializer anchored named serves' present stays status
      have anchoredLater := anchored_reachable (Runs.reachableBy_of_run events reached
        (Runs.everyStep_of_forall (fun _ _ _ => trivial) first) ends)
      obtain ⟨message', stored', fits⟩ := anchored.evidence.committed key anchor id present link
      rw [stored] at stored'
      cases stored'
      refine ⟨⟨transactionHash, given, ?_⟩, digestOnChain_of_confirmed anchoredLater fits stays status⟩
      simp [given, valid, arrived]
  · intro missing
    have none : getLatestForMessage id server.database.anchors = none :=
      serves.anchors ▸ latest_of_missing anchored missing
    obtain ⟨error, answer, notFound⟩ := fetchMessageAnchor_none serves.admitted none
    rw [answer]
    simp [Client.MessageService.verify, Client.MessageService.anchorArrived,
      Client.MessageService.anchorMissing, notFound]

/-- A hash of 32 bytes; which one does not matter here. -/
def sampleHash (_ : List Byte) : List Byte := List.replicate 32 0xab

def sampleTransaction : String := hashText (Hex32.hexlify 0xaa)

/-- User 1 sends message 7, and a worker has its anchor stored by the contract. -/
def sendThenConfirm : List Event := [
  .session 0 (.send openDirectory 1 (plainRequest 2) 7 .newYear2026),
  .session 0 .insertMessage,
  .session 0 .selectActive,
  .session 0 (.insertAnchor 100 .newYear2026),
  .session 0 .commit,
  .session 1 .startWorker,
  .session 1 .visitAnchor,
  .session 1 .readValues,
  .session 1 (.broadcastCall 1 sampleTransaction),
  .mine sampleTransaction ⟨1, AnchorConfirmation.minedAt_ne⟩ true,
  .session 1 (.receiveReceipt "0x01" .newYear2026),
  .session 1 .flushUpdate,
  .session 1 .commit]

def sampleContext : MessageRoutes.RequestContext where
  directory := openDirectory
  currentUser := 2
  rateLimit := .ok ()
  ipAddress := none
  userAgent := none
  now := .newYear2026
  messageId := 8
  anchorId := 101
  auditLogId := 102

def answering (backend : Backend) : Answering where
  backend := ⟨sampleHash, MessageApi.zuluSerializer⟩
  context := sampleContext
  database := ⟨[], backend.anchorRows, []⟩
  errorString := ""

theorem fresh_empty : Fresh emptyBackend := ⟨quiet_empty, fun _ => rfl, fun _ => rfl⟩

/-- What the run leaves: the message, its latest anchor's status and the submitted hashes. -/
def outcome (backend : Backend) : Bool × Option AnchorStatus × List String :=
  ((row 7 backend.messages).committed.isSome,
    (getLatestForMessage 7 backend.anchorRows).map BlockchainAnchor.status,
    backend.submissions.map Submission.transactionHash)

set_option maxRecDepth 4000 in
theorem sendThenConfirm_outcome :
    (Runs.run (anchorStep sampleHash encodeHex) emptyBackend sendThenConfirm).map outcome =
      some (true, some .confirmed, [sampleTransaction]) := by
  decide

theorem verification_sees_chain_confirmed : ∃ backend message anchor,
    (row 7 backend.messages).committed = some message ∧ anchor.status = .confirmed ∧
    Reports sampleHash backend message anchor (Client.MessageService.verify
      Client.StoreDocuments.refusingLibrary FidelityReports.cachingStore (Uuid.str 7)
      ((answering backend).fetchMessageAnchor 7) (answering backend).verifyAnchor {}
        fun _ => none).1 .confirmed := by
  obtain ⟨backend, ran, result⟩ := Option.map_eq_some_iff.mp sendThenConfirm_outcome
  simp only [outcome, Prod.mk.injEq] at result
  obtain ⟨sent, status, submitted⟩ := result
  obtain ⟨message, stored⟩ := Option.isSome_iff_exists.mp sent
  have named : NamedByHashes backend := by
    intro submission member
    have name := List.mem_map_of_mem (f := Submission.transactionHash) member
    rw [submitted, List.mem_singleton] at name
    exact ⟨0xaa, name⟩
  have reached := Runs.reachable_of_run fresh_empty ran
  have serves : Serves (answering backend) backend := ⟨rfl, rfl⟩
  have stays : Runs.run (anchorStep sampleHash encodeHex) backend [] = some backend := rfl
  have report := @verification_sees_chain sampleHash backend backend (answering backend)
    (answering backend) 7 Client.StoreDocuments.refusingLibrary FidelityReports.cachingStore {}
    (fun _ => none) [] reached stays named serves serves
  obtain ⟨anchor, latest, reports⟩ := report.1 message stored
  rw [latest, Option.map_some, Option.some.injEq] at status
  rw [status] at reports
  exact ⟨backend, message, anchor, stored, status, reports⟩

end EpicKfc.Guarantees.PublicVerification
