import EpicKfc.Source.Client.HttpClient
import EpicKfc.Source.Client.MessageVerification
import EpicKfc.Source.Server.RequestModels

/-!
# Anchor checks between client and backend

The two requests of `MessageService::verify` answered by the routes of the
backend: `fetchMessageAnchor` and `verifyAnchor` of
`client/src/gateways/HttpGateways.cpp` with what `HttpClient` makes of a response.
-/

namespace EpicKfc.Source.AnchorChecks
open EpicKfc.Lib
open EpicKfc.Lib.StrictModels
open EpicKfc.Source.Blockchain
open EpicKfc.Source.Client (Result value QJsonValue.toString)
open EpicKfc.Source.Client.MessageGateway (anchorFromJson verificationFromJson verifyAnchorBody)
open EpicKfc.Source.Server
open EpicKfc.Source.Server.BlockchainAnchors
open EpicKfc.Source.Server.MessageApi
open EpicKfc.Source.Server.MessageRoutes
open EpicKfc.Source.Server.RequestModels

/-- What a caller gets of a response that is not retried; `errorString` is Qt's text. -/
def resultOf (errorString : String) (response : HttpResponse) : Result Json.Members :=
  match response.body with
  | .json members =>
    if response.status < 400 then .ok members
    else .error (Client.Http.errorForReply ⟨.other, response.status, errorString, members⟩)
  | .text _ => .error (Client.Http.errorForReply ⟨.other, response.status, errorString, []⟩)

/-- A backend that answers, as the routes find it. -/
structure Answering where
  backend : MessageRoutes.Backend
  context : RequestContext
  database : Database
  errorString : String

def Answering.fetchMessageAnchor (server : Answering) (messageId : Uuid) : Result Json.Members :=
  resultOf server.errorString (respond server.backend server.context false server.database
    (.anchor messageId)).1

def Answering.verifyAnchor (server : Answering) (body : Json.Members) : Result Json.Members :=
  resultOf server.errorString (verifyBlockchainAnchor server.backend server.context (.object body)
    (OrmSession.Session.start server.database)).1

/-! ## The anchor that is served -/

/-- The client's record of an anchor row. -/
def decodedAnchor (serializer : DateTimeSerializer) (anchor : BlockchainAnchor) :
    Client.BlockchainAnchor := anchorFromJson (anchorResponse serializer anchor)

theorem decodedAnchor_eq (serializer : DateTimeSerializer) (anchor : BlockchainAnchor) :
    decodedAnchor serializer anchor =
      { id := anchor.id.str
        messageId := (anchor.messageId.map Uuid.str).getD ""
        recordId := anchor.recordId.getD ""
        digest := anchor.digest
        merkleRoot := anchor.merkleRoot.getD ""
        transactionHash := anchor.transactionHash.getD ""
        contractAddress := anchor.contractAddress.getD ""
        chain := anchorChainText anchor.chain
        status := anchorStatusText anchor.status
        anchoredAt := (anchor.anchoredAt.map serializer.text).getD "" } := by
  have string (text : String) : QJsonValue.toString (some (.string text)) = text := rfl
  have text (column : Option String) : QJsonValue.toString (some (optionalText column)) =
      column.getD "" := by
    cases column <;> rfl
  have uuid (column : Option Uuid) : QJsonValue.toString (some (optionalUuid column)) =
      (column.map Uuid.str).getD "" := by
    cases column <;> rfl
  have time (column : Option UtcTimestamp) :
      QJsonValue.toString (some (optionalDateTime serializer column)) =
        (column.map serializer.text).getD "" := by
    cases column <;> rfl
  simp only [decodedAnchor, anchorFromJson, value, anchorResponse, Json.lookup_cons, String.reduceEq,
    if_true, if_false, string, text, uuid, time]

variable {server : Answering} {messageId : Uuid}

/-- The route serves the latest anchor of the message. -/
theorem fetchMessageAnchor_some {anchor : BlockchainAnchor}
    (admitted : server.context.rateLimit = .ok ())
    (latest : getLatestForMessage messageId server.database.anchors = some anchor) :
    server.fetchMessageAnchor messageId = .ok (anchorResponse server.backend.serializer anchor) := by
  unfold Answering.fetchMessageAnchor respond getMessageAnchor enforceRateLimit
  simp only [admitted, Workflow.getLatestMessageAnchorPublic, OrmSession.Session.working_start,
    latest]
  have served (event : AuditEvent) (session : RequestSession) : (recordAuditEventBestEffort
      server.context false event (session.load (.anchor anchor.id) anchor)).attributes
        (.anchor anchor.id) = some anchor := by
    have different : Identity.anchor anchor.id ≠
        .auditLog (recordAuditEvent server.context event).id := by simp
    simp only [recordAuditEventBestEffort, Bool.false_eq_true, if_false,
      OrmSession.Session.attributes_commit]
    rw [OrmSession.Session.attributes_load_of_ne _ _ different, OrmSession.Session.attributes_write,
      OrmSession.Session.attributes_load]
  simp only [modelValidate, served]
  rfl

theorem fetchMessageAnchor_none (admitted : server.context.rateLimit = .ok ())
    (none : getLatestForMessage messageId server.database.anchors = none) :
    ∃ error, server.fetchMessageAnchor messageId = .error error ∧ error.code = .notFound := by
  unfold Answering.fetchMessageAnchor respond getMessageAnchor enforceRateLimit
  simp only [admitted, Workflow.getLatestMessageAnchorPublic, OrmSession.Session.working_start,
    none, denied]
  exact ⟨_, rfl, rfl⟩

/-! ## The anchor that is asked about -/

/-- The body the client posts for a served anchor passes the schema, hash by hash. -/
theorem blockchainVerifyRequest_decoded {serializer : DateTimeSerializer} {anchor : BlockchainAnchor}
    {recordId merkleRoot transactionHash : String} {digest record root transaction : Hex32}
    (recordGiven : anchor.recordId = some recordId) (rootGiven : anchor.merkleRoot = some merkleRoot)
    (transactionGiven : anchor.transactionHash = some transactionHash)
    (digestRead : Hex32.parse anchor.digest = some digest)
    (recordRead : Hex32.parse recordId = some record)
    (rootRead : Hex32.parse merkleRoot = some root)
    (transactionRead : Hex32.parse transactionHash = some transaction) :
    blockchainVerifyRequest (.object (verifyAnchorBody (decodedAnchor serializer anchor))) =
      .ok ⟨digest, some record, some root, some transaction, anchor.chain⟩ := by
  have nonempty {text : String} {hash : Hex32} (read : Hex32.parse text = some hash) :
      text.isEmpty = false := by
    rw [← Bool.not_eq_true, String.isEmpty_iff]
    rintro rfl
    cases read
  have chain : readChain (.string (anchorChainText anchor.chain)) = .ok anchor.chain := by
    cases anchor.chain
    rfl
  have names : ∀ member ∈ verifyAnchorBody (decodedAnchor serializer anchor),
      member.1 ∈ ["digest", "record_id", "merkle_root", "transaction_hash", "chain"] :=
    fun member listed => Json.name_mem_of_ofMembers listed
  rw [blockchainVerifyRequest, strictModel_eq_ok]
  refine ⟨?_, names⟩
  have look (key : String) := Json.lookup_ofMembers
    [("digest", .string anchor.digest), ("record_id", .string recordId),
      ("merkle_root", .string merkleRoot), ("transaction_hash", .string transactionHash),
      ("chain", .string (anchorChainText anchor.chain))] (by simp) key
  have body : verifyAnchorBody (decodedAnchor serializer anchor) = Json.ofMembers
      [("digest", .string anchor.digest), ("record_id", .string recordId),
        ("merkle_root", .string merkleRoot), ("transaction_hash", .string transactionHash),
        ("chain", .string (anchorChainText anchor.chain))] := by
    simp [verifyAnchorBody, decodedAnchor_eq, recordGiven, rootGiven, transactionGiven,
      nonempty rootRead, nonempty transactionRead]
  simp only [body, required, defaulted, look, Json.lookup_cons, String.reduceEq, if_true, if_false,
    readEthHash_eq_ok.mpr digestRead, orNull_readEthHash recordRead, orNull_readEthHash rootRead,
    orNull_readEthHash transactionRead, chain]
  rfl

end EpicKfc.Source.AnchorChecks
