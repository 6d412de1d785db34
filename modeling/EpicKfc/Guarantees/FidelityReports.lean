import EpicKfc.Source.Client.EthereumHash
import EpicKfc.Source.Client.MessageVerification

/-!
# Reports of verified fidelity

A message is reported as verified when the backend confirms an anchor. Which anchor
that is, the backend says as well: nothing ties it to the cached message.
-/

namespace EpicKfc.Guarantees.FidelityReports
open EpicKfc.Lib
open EpicKfc.Source.Client
open EpicKfc.Source.Client.StoreDocuments (StorageLibrary refusingLibrary)
open EpicKfc.Source.Client.MessageService
open EpicKfc.Source.Client.MessageGateway (anchorFromJson verificationFromJson verifyAnchorBody)

variable (library : StorageLibrary)

/-- The anchor endpoint answered with a confirmed anchor that names a transaction. -/
def ServesConfirmed (reply : Result Json.Members) (anchor : BlockchainAnchor) : Prop :=
  ∃ object, reply = .ok object ∧ anchor = anchorFromJson object ∧
    toLower anchor.status = "confirmed" ∧
    isValidEthereumTransactionHash anchor.transactionHash = true

/-- The anchor endpoint failed otherwise than by not finding an anchor, and the message
has one from before. -/
def FallsBack (store : JsonLocalStore) (messageId : String) (reply : Result Json.Members)
    (anchor : BlockchainAnchor) : Prop :=
  ∃ error cached, reply = .error error ∧ error.code ≠ .notFound ∧
    LocalMessages.findMessage messageId store.memory.messages = some cached ∧
    cached.cachedAnchor.digest ≠ "" ∧ anchor = cached.cachedAnchor

/-- The verify endpoint answered that it found a valid, confirmed anchor. -/
def Confirms (reply : Result Json.Members) : Prop :=
  ∃ object, reply = .ok object ∧ (verificationFromJson object).valid = true ∧
    toLower (verificationFromJson object).status = "confirmed"

def ReportsVerified (verdict : Verdict) : Prop :=
  ∃ status, verdict = .reported status ∧ status.isVerified = true

/-! ## The two callbacks -/

theorem judgeAnchor_eq_asks {anchor asked : BlockchainAnchor} :
    judgeAnchor anchor = .asks asked ↔ asked = anchor ∧ toLower anchor.status = "confirmed" ∧
      isValidEthereumTransactionHash anchor.transactionHash = true := by
  simp only [judgeAnchor]
  by_cases confirmed : toLower anchor.status = "confirmed"
  · by_cases named : isValidEthereumTransactionHash anchor.transactionHash = true
    · simp [confirmed, named, eq_comm]
    · simp [confirmed, named]
  · by_cases failed : toLower anchor.status = "failed" <;> simp [confirmed, failed]

theorem not_verified_judgeAnchor (anchor : BlockchainAnchor) :
    ¬ ReportsVerified (judgeAnchor anchor) := by
  rintro ⟨status, reported, verified⟩
  simp only [judgeAnchor] at reported
  split at reported
  · cases reported; cases verified
  · split at reported
    · cases reported; cases verified
    · split at reported
      · cases reported
      · cases reported; cases verified

theorem anchorMissing_eq_asks {store : JsonLocalStore} {messageId : String} {error : ClientError}
    {asked : BlockchainAnchor} : anchorMissing store messageId error = .asks asked ↔
      error.code ≠ .notFound ∧ ∃ cached,
        LocalMessages.findMessage messageId store.memory.messages = some cached ∧
        cached.cachedAnchor.digest ≠ "" ∧ asked = cached.cachedAnchor := by
  unfold anchorMissing
  by_cases missing : error.code = .notFound
  · simp [missing]
  · rw [if_neg missing]
    cases found : LocalMessages.findMessage messageId store.memory.messages with
    | none => simp
    | some cached =>
      simp only [Option.some.injEq, exists_eq_left', ne_eq, missing, not_false_eq_true, true_and]
      by_cases empty : cached.cachedAnchor.digest = ""
      · simp [empty]
      · have given : (!cached.cachedAnchor.digest.isEmpty) = true := by
          rw [Bool.not_eq_true', ← Bool.not_eq_true, String.isEmpty_iff]
          exact empty
        rw [if_pos given, Verdict.asks.injEq, eq_comm]
        exact (and_iff_right empty).symm

theorem not_verified_anchorMissing (store : JsonLocalStore) (messageId : String)
    (error : ClientError) : ¬ ReportsVerified (anchorMissing store messageId error) := by
  rintro ⟨status, reported, verified⟩
  unfold anchorMissing at reported
  split at reported
  · cases reported; cases verified
  · split at reported
    · split at reported <;> cases reported
    · cases reported

theorem verificationArrived_verified (reply : Result Json.Members) :
    ReportsVerified (verificationArrived reply) ↔ Confirms reply := by
  cases reply with
  | error error => simp [ReportsVerified, verificationArrived, Confirms]
  | ok object =>
    simp only [ReportsVerified, verificationArrived, Confirms, Except.ok.injEq, exists_eq_left']
    by_cases valid : (verificationFromJson object).valid = true
    · by_cases confirmed : toLower (verificationFromJson object).status = "confirmed"
      · by_cases named : (verificationFromJson object).transactionHash = "" <;>
          simp [valid, confirmed, named, FidelityStatus.isVerified]
      · simp [valid, confirmed, FidelityStatus.isVerified]
    · simp [valid, FidelityStatus.isVerified]

/-! ## The whole verification -/

/-- The anchor that the second request asks about. -/
def AsksAbout (store : JsonLocalStore) (messageId : String) (reply : Result Json.Members)
    (anchor : BlockchainAnchor) : Prop :=
  ServesConfirmed reply anchor ∨ FallsBack store messageId reply anchor

theorem anchorArrived_eq_asks (store : JsonLocalStore) (messageId : String)
    (reply : Result Json.Members) (io : StoreIo) (files : Files) (anchor : BlockchainAnchor) :
    (anchorArrived library store messageId reply io files).1 = .asks anchor ↔
      AsksAbout store messageId reply anchor := by
  cases reply with
  | error error =>
    simp only [anchorArrived, anchorMissing_eq_asks, AsksAbout, ServesConfirmed, FallsBack]
    simp
  | ok object =>
    simp only [anchorArrived, judgeAnchor_eq_asks, AsksAbout, ServesConfirmed, FallsBack]
    constructor
    · rintro ⟨rfl, confirmed, named⟩
      exact Or.inl ⟨object, rfl, rfl, confirmed, named⟩
    · rintro (⟨_, same, rfl, confirmed, named⟩ | ⟨_, _, failed, _⟩)
      · cases same
        exact ⟨rfl, confirmed, named⟩
      · cases failed

theorem not_verified_anchorArrived (store : JsonLocalStore) (messageId : String)
    (reply : Result Json.Members) (io : StoreIo) (files : Files) :
    ¬ ReportsVerified (anchorArrived library store messageId reply io files).1 := by
  cases reply with
  | error error => exact not_verified_anchorMissing store messageId error
  | ok object => exact not_verified_judgeAnchor (anchorFromJson object)

/-- A message is reported as verified exactly when the backend serves a confirmed anchor
with a transaction, or fails while an anchor is cached, and then confirms that anchor. -/
theorem reports_verified_iff (store : JsonLocalStore) (messageId : String)
    (anchorReply : Result Json.Members) (verifyReply : Json.Members → Result Json.Members)
    (io : StoreIo) (files : Files) :
    ReportsVerified (verify library store messageId anchorReply verifyReply io files).1 ↔
      ∃ anchor, AsksAbout store messageId anchorReply anchor ∧
        Confirms (verifyReply (verifyAnchorBody anchor)) := by
  simp only [← anchorArrived_eq_asks library store messageId anchorReply io files]
  have unverified := not_verified_anchorArrived library store messageId anchorReply io files
  unfold verify
  generalize anchorArrived library store messageId anchorReply io files = arrived at unverified ⊢
  obtain ⟨verdict, store', files'⟩ := arrived
  cases verdict with
  | asks anchor => simp [verificationArrived_verified]
  | reported status => simpa using unverified
  | failed error => simpa using unverified

/-! ## An anchor of another message -/

def cachedMessage : LocalMessage where
  id := "1"
  senderUserId := "bob"
  senderDeviceId := 1
  recipientUserId := "alice"
  recipientDeviceId := 1
  wirePayloadJson := "ciphertext"
  consumedOneTimePreKeyId := none
  createdAt := some 0
  direction := .received

def cachingStore : JsonLocalStore where
  memory := { messages := [cachedMessage] }
  indexPath := "index"
  path := "state"
  secretProtectionRequired := false

def foreignAnchor : Json.Members := [
  ("digest", .string "digest of message 2"),
  ("message_id", .string "2"),
  ("record_id", .string "record of message 2"),
  ("status", .string "confirmed"),
  ("transaction_hash",
    .string "0x2222222222222222222222222222222222222222222222222222222222222222")]

def confirmation : Json.Members := [("status", .string "confirmed"), ("valid", .bool true)]

theorem keccakHex_ne_of_head (keccak256 : EthereumHash.HashFunction) (bytes : List Keccak.Byte)
    {text : String} (head : text.toList.head? ≠ some '0') :
    EthereumHash.keccakHex keccak256 bytes ≠ text := by
  rintro rfl
  exact head (by rw [EthereumHash.keccakHex, String.toList_ofList]; rfl)

/-- The anchor's message, record and digest are another's, under every hash function. -/
theorem foreign_anchor_reported_verified :
    ReportsVerified (verify refusingLibrary cachingStore "1" (.ok foreignAnchor)
      (fun _ => .ok confirmation) {} fun _ => none).1 ∧
    (anchorFromJson foreignAnchor).messageId ≠ cachedMessage.id ∧
    ∀ (keccak256 : EthereumHash.HashFunction) (toISODateWithMs : Int → String),
      EthereumHash.recordIdForMessage keccak256 cachedMessage.id ≠
        (anchorFromJson foreignAnchor).recordId ∧
      EthereumHash.digestForMessage keccak256 toISODateWithMs cachedMessage ≠
        .ok (anchorFromJson foreignAnchor).digest := by
  refine ⟨?_, by decide, fun keccak256 toISODateWithMs =>
    ⟨keccakHex_ne_of_head keccak256 _ (by decide), ?_⟩⟩
  · rw [reports_verified_iff]
    refine ⟨anchorFromJson foreignAnchor, Or.inl ⟨foreignAnchor, rfl, rfl, ?_, ?_⟩, ?_⟩
    · decide
    · decide
    · exact ⟨confirmation, rfl, rfl, by decide⟩
  · intro same
    exact keccakHex_ne_of_head keccak256 _ (by decide) (Except.ok.inj same)

end EpicKfc.Guarantees.FidelityReports
