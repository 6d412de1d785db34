import EpicKfc.Source.Client.JsonLocalStore

/-!
# Verifying a message

`MessageService::verify` and `verifyPublicAnchor` of `client/src/services/Services.cpp`
with the anchor endpoints of `client/src/gateways/HttpGateways.cpp`. A verification is
one request for the message's anchor and, for an anchor that passes, one request
that asks the backend about it.
-/

namespace EpicKfc.Source.Client
open EpicKfc.Lib
open EpicKfc.Source.Client.StoreDocuments

structure BlockchainVerification where
  valid : Bool := false
  chain : String := ""
  status : String := ""
  anchorId : String := ""
  messageId : String := ""
  recordId : String := ""
  digest : String := ""
  transactionHash : String := ""
  contractAddress : String := ""
  verifiedAt : String := ""
deriving DecidableEq

namespace MessageGateway

/-- `HttpMessageGateway::anchorFromJson`. -/
def anchorFromJson (object : Json.Members) : BlockchainAnchor where
  id := (value object "id").toString
  messageId := (value object "message_id").toString
  recordId := (value object "record_id").toString
  digest := (value object "digest").toString
  merkleRoot := (value object "merkle_root").toString
  transactionHash := (value object "transaction_hash").toString
  contractAddress := (value object "contract_address").toString
  chain := (value object "chain").toString
  status := (value object "status").toString
  anchoredAt := (value object "anchored_at").toString

def verificationFromJson (object : Json.Members) : BlockchainVerification where
  valid := (value object "valid").toBool false
  chain := (value object "chain").toString
  status := (value object "status").toString
  anchorId := (value object "anchor_id").toString
  messageId := (value object "message_id").toString
  recordId := (value object "record_id").toString
  digest := (value object "digest").toString
  transactionHash := (value object "transaction_hash").toString
  contractAddress := (value object "contract_address").toString
  verifiedAt := (value object "verified_at").toString

/-- The body that `verifyAnchor` posts. -/
def verifyAnchorBody (anchor : BlockchainAnchor) : Json.Members := Json.ofMembers [
  ("digest", .string anchor.digest),
  ("record_id", .string anchor.recordId),
  ("merkle_root", if anchor.merkleRoot.isEmpty then .null else .string anchor.merkleRoot),
  ("transaction_hash",
    if anchor.transactionHash.isEmpty then .null else .string anchor.transactionHash),
  ("chain", .string anchor.chain)]

end MessageGateway

namespace MessageService

def isHexDigit (char : Char) : Bool :=
  char.isDigit || ('a' ≤ char && char ≤ 'f') || ('A' ≤ char && char ≤ 'F')

/-- `^0x[0-9a-fA-F]{64}$`; the last sign also matches before a final line break. -/
def isValidEthereumTransactionHash (text : String) : Bool :=
  match text.toList with
  | '0' :: 'x' :: digits =>
    (digits.take 64).length == 64 && (digits.take 64).all isHexDigit &&
      (digits.drop 64 == [] || digits.drop 64 == ['\n'])
  | _ => false

/-- `QString::toLower`, on the letters that the compared words have. -/
def toLower (text : String) : String := String.ofList (text.toList.map Char.toLower)

/-- What `fidelityStatusUpdated` reports about a message. -/
inductive FidelityStatus where
  | anchorUnavailable
  | anchorFailed (chain : String)
  | anchorPending (status chain : String)
  | anchorMismatch
  | anchorVerified (chain status : String)
  | anchorVerifiedWithTransaction (chain status transactionHash : String)
deriving DecidableEq

def FidelityStatus.text (messageId : String) : FidelityStatus → String
  | .anchorUnavailable => "No blockchain anchor is available for " ++ messageId ++ " yet."
  | .anchorFailed chain => "Blockchain anchor for " ++ messageId ++ " failed on " ++ chain ++
      ". Fidelity cannot be verified yet."
  | .anchorPending status chain => "Blockchain anchor for " ++ messageId ++ " is " ++ status ++
      " on " ++ chain ++ ". Verification will be available once it is confirmed."
  | .anchorMismatch => "Blockchain anchor check failed for " ++ messageId ++
      ". Fidelity could not be verified."
  | .anchorVerified chain status => "Blockchain anchor verified for " ++ messageId ++ " on " ++
      chain ++ ". Status: " ++ status ++ "."
  | .anchorVerifiedWithTransaction chain status transactionHash =>
      "Blockchain anchor verified for " ++ messageId ++ " on " ++ chain ++ ". Status: " ++ status ++
      ". Transaction: " ++ transactionHash

/-- The statuses that report the message's fidelity as verified. -/
def FidelityStatus.isVerified : FidelityStatus → Bool
  | .anchorVerified _ _ | .anchorVerifiedWithTransaction _ _ _ => true
  | _ => false

/-- Where a callback of the verification ends. -/
inductive Verdict where
  | reported (status : FidelityStatus)
  | failed (error : ClientError)
  /-- `verifyPublicAnchor` asks the backend about this anchor. -/
  | asks (anchor : BlockchainAnchor)
deriving DecidableEq

variable (library : StorageLibrary)

/-- `verify`, the anchor lookup failed: only a missing anchor is final. -/
def anchorMissing (store : JsonLocalStore) (messageId : String) (error : ClientError) : Verdict :=
  if error.code = .notFound then .reported .anchorUnavailable
  else
    match LocalMessages.findMessage messageId store.memory.messages with
    | some cached =>
      if !cached.cachedAnchor.digest.isEmpty then .asks cached.cachedAnchor else .failed error
    | none => .failed error

/-- What `verify` makes of an anchor that has arrived. -/
def judgeAnchor (anchor : BlockchainAnchor) : Verdict :=
  let status := toLower anchor.status
  if status = "failed" then .reported (.anchorFailed anchor.chain)
  else if status ≠ "confirmed" then .reported (.anchorPending anchor.status anchor.chain)
  else if isValidEthereumTransactionHash anchor.transactionHash then .asks anchor
  else .reported (.anchorPending "pending" anchor.chain)

/-- The anchor of a cached message is stored, whatever it says; a failed save is ignored. -/
def cacheAnchor (store : JsonLocalStore) (messageId : String) (anchor : BlockchainAnchor)
    (io : StoreIo) (files : Files) : JsonLocalStore × Files :=
  match LocalMessages.findMessage messageId store.memory.messages with
  | some cached =>
    (JsonLocalStore.mutate library store (.saveMessage { cached with cachedAnchor := anchor }) io
      files).2
  | none => (store, files)

/-- The callback of `fetchMessageAnchor`. -/
def anchorArrived (store : JsonLocalStore) (messageId : String) (reply : Result Json.Members)
    (io : StoreIo) (files : Files) : Verdict × JsonLocalStore × Files :=
  match reply with
  | .error error => (anchorMissing store messageId error, store, files)
  | .ok object =>
    let anchor := MessageGateway.anchorFromJson object
    (judgeAnchor anchor, cacheAnchor library store messageId anchor io files)

/-- The callback of `verifyAnchor`. -/
def verificationArrived (reply : Result Json.Members) : Verdict :=
  match reply with
  | .error error => .failed error
  | .ok object =>
    let verification := MessageGateway.verificationFromJson object
    if !verification.valid then .reported .anchorMismatch
    else if toLower verification.status ≠ "confirmed" then
      .reported (.anchorPending verification.status verification.chain)
    else if !verification.transactionHash.isEmpty then
      .reported (.anchorVerifiedWithTransaction verification.chain verification.status
        verification.transactionHash)
    else .reported (.anchorVerified verification.chain verification.status)

/-- A whole verification: the backend answers the second request, when there is one,
knowing what it was asked. -/
def verify (store : JsonLocalStore) (messageId : String) (anchorReply : Result Json.Members)
    (verifyReply : Json.Members → Result Json.Members) (io : StoreIo) (files : Files) :
    Verdict × JsonLocalStore × Files :=
  match anchorArrived library store messageId anchorReply io files with
  | (.asks anchor, store, files) =>
    (verificationArrived (verifyReply (MessageGateway.verifyAnchorBody anchor)), store, files)
  | ended => ended

end MessageService

end EpicKfc.Source.Client
