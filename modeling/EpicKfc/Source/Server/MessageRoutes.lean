import EpicKfc.Lib.OrmSession
import EpicKfc.Source.Server.BlockchainAnchors
import EpicKfc.Source.Server.MessageApi
import EpicKfc.Source.Server.RateLimits

/-!
# Message routes and their audit events

The routes of `server/backend/app/api/v1/messages.py` that record an audit event,
with `services/audit_service.py` and the workflows of
`services/message_service.py` on the session of the request. The session does not
expire instances on commit. Reading an attribute of an expired instance raises,
and nothing catches what it raises.
-/

namespace EpicKfc.Source.Server.MessageRoutes
open EpicKfc.Lib
open EpicKfc.Lib.OrmSession
open EpicKfc.Lib.Keccak (Byte)
open EpicKfc.Source.Server.Messages
open EpicKfc.Source.Server.MessageApi
open EpicKfc.Source.Server.BlockchainAnchors
open EpicKfc.Source.Server.RateLimits (CheckError)

/-! ## Rows and the session -/

structure AuditLog where
  id : Uuid
  actorUserId : Option Uuid
  eventType : String
  resourceType : Option String
  resourceId : Option Uuid
  success : Bool
  ipAddress : Option String
  userAgent : Option String
  details : Option Json.Members
  createdAt : UtcTimestamp

structure Database where
  messages : MessageTable
  anchors : AnchorTable
  auditLogs : List AuditLog

/-- Instances the session of a message route holds. -/
inductive Identity where
  | message (id : Uuid)
  | anchor (id : Uuid)
  | auditLog (id : Uuid)
deriving DecidableEq

abbrev Identity.Row : Identity → Type
  | message _ => Message
  | anchor _ => BlockchainAnchor
  | auditLog _ => AuditLog

abbrev RequestSession := Session Database Identity Identity.Row

/-! ## Requests and responses -/

/-- The request around a route: what it reads of the client, of other tables, of the clock,
and the column defaults of the rows it adds. -/
structure RequestContext where
  directory : RelayDirectory
  currentUser : Uuid
  rateLimit : Except CheckError Unit
  ipAddress : Option String
  userAgent : Option String
  now : UtcTimestamp
  messageId : Uuid
  anchorId : Uuid
  auditLogId : Uuid

/-- What all requests share. -/
structure Backend where
  keccak : List Byte → List Byte
  serializer : DateTimeSerializer

inductive ResponseBody where
  | json (members : Json.Members)
  | text (content : String)

structure HttpResponse where
  status : Nat
  body : ResponseBody
  retryAfter : Option Int

def jsonResponse (status : Nat) (members : Json.Members) : HttpResponse :=
  ⟨status, .json members, none⟩

/-- The response to an `HTTPException`. -/
def errorResponse (status : Nat) (detail : String) : HttpResponse :=
  jsonResponse status [("detail", .string detail)]

/-- The response to any other exception. -/
def internalServerError : HttpResponse := ⟨500, .text "Internal Server Error", none⟩

def notFoundError : HttpResponse := errorResponse 404 "Message not found"

def badRequestError : HttpResponse := errorResponse 400 "Message could not be processed"

def successResponse (message : String) : HttpResponse :=
  jsonResponse 200 [("success", .bool true), ("message", .string message)]

def optionalText : Option String → Json
  | none => .null
  | some text => .string text

def anchorStatusText : AnchorStatus → String
  | .pending => "pending"
  | .confirmed => "confirmed"
  | .failed => "failed"

def anchorChainText : AnchorChain → String
  | .sepolia => "sepolia"

/-- `BlockchainAnchorResponse`. -/
def anchorResponse (serializer : DateTimeSerializer) (anchor : BlockchainAnchor) : Json.Members := [
  ("id", .string anchor.id.str),
  ("message_id", optionalUuid anchor.messageId),
  ("batch_id", optionalUuid anchor.batchId),
  ("record_id", optionalText anchor.recordId),
  ("digest", .string anchor.digest),
  ("merkle_root", optionalText anchor.merkleRoot),
  ("transaction_hash", optionalText anchor.transactionHash),
  ("contract_address", optionalText anchor.contractAddress),
  ("chain", .string (anchorChainText anchor.chain)),
  ("status", .string (anchorStatusText anchor.status)),
  ("created_at", .string (serializer.text anchor.createdAt)),
  ("anchored_at", optionalDateTime serializer anchor.anchoredAt)]

/-- `model_validate` of an instance, which reads its attributes, and the route's answer. -/
def modelValidate (k : Identity) (status : Nat) (fields : k.Row → Json.Members)
    (session : RequestSession) : HttpResponse :=
  match session.attributes k with
  | none => internalServerError
  | some row => jsonResponse status (fields row)

/-! ## Audit events -/

def maxUserAgentLength : Nat := 512

def maxDetailStringLength : Nat := 200

def safeDetailKeys : List String :=
  ["device_id", "prekey_count", "target_device_id", "one_time_prekey_included", "reason",
    "forwarded_from_message_id"]

/-- Values of a details dict; `other` is any value with its `str`. -/
inductive DetailValue where
  | bool (value : Bool)
  | int (value : Int)
  | text (value : String)
  | uuid (value : Uuid)
  | other (printed : String)

/-- Python's `text[:count]`. -/
def clip (count : Nat) (text : String) : String := String.ofList (text.toList.take count)

def truncateUserAgent (userAgent : Option String) : Option String :=
  userAgent.map (clip maxUserAgentLength)

def sanitizeDetailValue : DetailValue → Json
  | .bool value => .bool value
  | .int value => .number value
  | .text value => .string (clip maxDetailStringLength value)
  | .uuid value => .string value.str
  | .other printed => .string (clip maxDetailStringLength printed)

def sanitizeDetails (details : List (String × DetailValue)) : Option Json.Members :=
  let sanitized := (details.filter fun detail => safeDetailKeys.contains detail.1).map fun detail =>
    (detail.1, sanitizeDetailValue detail.2)
  if sanitized = [] then none else some sanitized

/-- The arguments a route gives of its event. -/
structure AuditEvent where
  actorUserId : Option Uuid
  eventType : String
  success : Bool
  resourceType : String
  resourceId : Uuid
  details : List (String × DetailValue)

/-- The row `record_audit_event` adds; `id` and `created_at` are column defaults. -/
def recordAuditEvent (context : RequestContext) (event : AuditEvent) : AuditLog where
  id := context.auditLogId
  actorUserId := event.actorUserId
  eventType := event.eventType
  resourceType := some event.resourceType
  resourceId := some event.resourceId
  success := event.success
  ipAddress := context.ipAddress
  userAgent := truncateUserAgent context.userAgent
  details := sanitizeDetails event.details
  createdAt := context.now

/-- `record_audit_event_best_effort`, where `insertFails` says that the database refuses the row. -/
def recordAuditEventBestEffort (context : RequestContext) (insertFails : Bool) (event : AuditEvent)
    (session : RequestSession) : RequestSession :=
  if insertFails then session.rollback
  else
    let log := recordAuditEvent context event
    ((session.write fun database =>
      { database with auditLogs := database.auditLogs ++ [log] }).load (.auditLog log.id) log).commit

/-! ## Workflows on the session -/

/-- What a workflow raises; `database` is an `IntegrityError` or a row that is gone. -/
inductive Raised where
  | service (error : MessageServiceError)
  | anchorNotFound
  | database

def performWrite (write : RowWrite) (session : RequestSession) : Option RequestSession :=
  (write.apply session.working.messages).map fun rows =>
    session.write fun database => { database with messages := rows }

/-- `refresh` of a message. -/
def refreshMessage (messageId : Uuid) (session : RequestSession) : Option RequestSession :=
  (getById messageId session.working.messages).map fun message =>
    session.load (.message messageId) message

/-- The anchor of a message added in the same transaction. -/
def insertPendingAnchor (backend : Backend) (context : RequestContext) (messageId : Uuid)
    (session : RequestSession) : Option RequestSession :=
  match getById messageId session.working.messages with
  | none => none
  | some message =>
    let anchors := session.working.anchors
    let result := createPendingAnchorForMessage backend.keccak message anchors context.anchorId
      context.now
    if result.created = false then some (session.load (.anchor result.anchor.id) result.anchor)
    else if ∃ existing ∈ anchors, existing.id = result.anchor.id then none
    else some ((session.write fun database =>
      { database with anchors := anchors ++ [result.anchor] }).load
        (.anchor result.anchor.id) result.anchor)

/-- What the writing workflows share: their write and what comes with it, a commit and a
refresh of the message they return; any exception rolls back. -/
def transact (context : RequestContext) (request : RelayRequest) (messageId : Uuid)
    (andThen : RequestSession → Option RequestSession) (session : RequestSession) :
    Except Raised Uuid × RequestSession :=
  match request.prepare context.directory session.working.messages with
  | .error error => (.error (.service error), session.rollback)
  | .ok write =>
    match (performWrite write session).bind andThen with
    | none => (.error .database, session.rollback)
    | some written =>
      match refreshMessage messageId written.commit with
      | none => (.error .database, written.commit.rollback)
      | some refreshed => (.ok messageId, refreshed)

namespace Workflow

def sendMessage (backend : Backend) (context : RequestContext) (request : MessageCreateRequest) :
    RequestSession → Except Raised Uuid × RequestSession :=
  transact context (.send context.currentUser request context.messageId context.now)
    context.messageId (insertPendingAnchor backend context context.messageId)

def forwardMessage (backend : Backend) (context : RequestContext) (messageId : Uuid)
    (request : MessageCreateRequest) : RequestSession → Except Raised Uuid × RequestSession :=
  transact context (.forward context.currentUser messageId request context.messageId context.now)
    context.messageId (insertPendingAnchor backend context context.messageId)

def deleteMessageForUser (context : RequestContext) (messageId : Uuid) :
    RequestSession → Except Raised Uuid × RequestSession :=
  transact context (.delete context.currentUser messageId context.now) messageId some

def revokeMessageAccess (context : RequestContext) (messageId : Uuid) :
    RequestSession → Except Raised Uuid × RequestSession :=
  transact context (.revoke context.currentUser messageId context.now) messageId some

def getMessageForUser (context : RequestContext) (messageId : Uuid) (session : RequestSession) :
    Except Raised Uuid × RequestSession :=
  match getAccessibleById messageId context.currentUser session.working.messages with
  | none => (.error (.service .messageNotFound), session)
  | some message => (.ok message.id, session.load (.message message.id) message)

def getLatestMessageAnchorPublic (messageId : Uuid) (session : RequestSession) :
    Except Raised Uuid × RequestSession :=
  match getLatestForMessage messageId session.working.anchors with
  | none => (.error .anchorNotFound, session)
  | some anchor => (.ok anchor.id, session.load (.anchor anchor.id) anchor)

end Workflow

/-! ## Routes -/

/-- `_enforce_rate_limit` before the body of a route. -/
def enforceRateLimit (context : RequestContext)
    (body : RequestSession → HttpResponse × RequestSession) (session : RequestSession) :
    HttpResponse × RequestSession :=
  match context.rateLimit with
  | .ok () => body session
  | .error (.exceeded retryAfter) =>
    ({ errorResponse 429 "Too many requests" with retryAfter := some retryAfter }, session)
  | .error _ => (internalServerError, session)

/-- An event about the message a route was asked for, before its error response. -/
def denied (context : RequestContext) (insertFails : Bool) (actorUserId : Option Uuid)
    (eventType : String) (messageId : Uuid) (reason : String) (response : HttpResponse)
    (session : RequestSession) : HttpResponse × RequestSession :=
  (response, recordAuditEventBestEffort context insertFails
    ⟨actorUserId, eventType, false, "message", messageId, [("reason", .text reason)]⟩ session)

/-- An event about a message, before the response that is built from it. -/
def served (backend : Backend) (context : RequestContext) (insertFails : Bool) (eventType : String)
    (messageId : Uuid) (details : List (String × DetailValue)) (status : Nat)
    (session : RequestSession) : HttpResponse × RequestSession :=
  let audited := recordAuditEventBestEffort context insertFails
    ⟨some context.currentUser, eventType, true, "message", messageId, details⟩ session
  (modelValidate (.message messageId) status (messageResponse backend.serializer) audited, audited)

def sendMessage (backend : Backend) (context : RequestContext) (insertFails : Bool)
    (request : MessageCreateRequest) : RequestSession → HttpResponse × RequestSession :=
  enforceRateLimit context fun session =>
    match Workflow.sendMessage backend context request session with
    | (.error (.service .recipientNotFound), raised) => (notFoundError, raised)
    | (.error (.service .invalidSenderDevice), raised)
    | (.error (.service .invalidRecipientDevice), raised)
    | (.error (.service .invalidConsumedPreKey), raised) => (badRequestError, raised)
    | (.error _, raised) => (internalServerError, raised)
    | (.ok messageId, stored) =>
      served backend context insertFails "message.sent" messageId [] 201 stored

def getMessage (backend : Backend) (context : RequestContext) (insertFails : Bool)
    (messageId : Uuid) : RequestSession → HttpResponse × RequestSession :=
  enforceRateLimit context fun session =>
    match Workflow.getMessageForUser context messageId session with
    | (.error (.service .messageNotFound), raised) =>
      denied context insertFails (some context.currentUser) "message.fetch_denied" messageId
        "not_found_or_inaccessible" notFoundError raised
    | (.error _, raised) => (internalServerError, raised)
    | (.ok found, loaded) =>
      served backend context insertFails "message.fetched" found [] 200 loaded

def getMessageAnchor (backend : Backend) (context : RequestContext) (insertFails : Bool)
    (messageId : Uuid) : RequestSession → HttpResponse × RequestSession :=
  enforceRateLimit context fun session =>
    match Workflow.getLatestMessageAnchorPublic messageId session with
    | (.error .anchorNotFound, raised) =>
      denied context insertFails none "message.anchor_fetch_denied" messageId "not_found"
        (errorResponse 404 "Anchor not found") raised
    | (.error _, raised) => (internalServerError, raised)
    | (.ok anchorId, loaded) =>
      let audited := recordAuditEventBestEffort context insertFails
        ⟨none, "message.anchor_fetched", true, "blockchain_anchor", anchorId, []⟩ loaded
      (modelValidate (.anchor anchorId) 200 (anchorResponse backend.serializer) audited, audited)

def forwardMessage (backend : Backend) (context : RequestContext) (insertFails : Bool)
    (messageId : Uuid) (request : MessageCreateRequest) :
    RequestSession → HttpResponse × RequestSession :=
  let refused := denied context insertFails (some context.currentUser) "message.forward_denied"
    messageId
  enforceRateLimit context fun session =>
    match Workflow.forwardMessage backend context messageId request session with
    | (.error (.service .messageNotFound), raised)
    | (.error (.service .messageAccessDenied), raised) =>
      refused "not_found_or_inaccessible" notFoundError raised
    | (.error (.service .recipientNotFound), raised) =>
      refused "invalid_recipient" notFoundError raised
    | (.error (.service .invalidSenderDevice), raised)
    | (.error (.service .invalidRecipientDevice), raised) =>
      refused "invalid_device" badRequestError raised
    | (.error (.service .invalidConsumedPreKey), raised) =>
      refused "invalid_prekey" badRequestError raised
    | (.error _, raised) => (internalServerError, raised)
    | (.ok forwarded, stored) =>
      served backend context insertFails "message.forwarded" forwarded
        [("forwarded_from_message_id", .uuid messageId)] 201 stored

def revokeMessage (backend : Backend) (context : RequestContext) (insertFails : Bool)
    (messageId : Uuid) : RequestSession → HttpResponse × RequestSession :=
  enforceRateLimit context fun session =>
    match Workflow.revokeMessageAccess context messageId session with
    | (.error (.service .messageNotFound), raised)
    | (.error (.service .messageAccessDenied), raised) =>
      denied context insertFails (some context.currentUser) "message.revoke_denied" messageId
        "not_found_or_inaccessible" notFoundError raised
    | (.error _, raised) => (internalServerError, raised)
    | (.ok revoked, stored) =>
      served backend context insertFails "message.revoked" revoked [] 200 stored

/-- Unlike the other routes it builds nothing from the message it audits. -/
def deleteMessage (context : RequestContext) (insertFails : Bool) (messageId : Uuid) :
    RequestSession → HttpResponse × RequestSession :=
  enforceRateLimit context fun session =>
    match Workflow.deleteMessageForUser context messageId session with
    | (.error (.service .messageNotFound), raised)
    | (.error (.service .messageAccessDenied), raised) =>
      denied context insertFails (some context.currentUser) "message.delete_denied" messageId
        "not_found_or_inaccessible" notFoundError raised
    | (.error _, raised) => (internalServerError, raised)
    | (.ok deleted, stored) =>
      (successResponse "Message deleted", recordAuditEventBestEffort context insertFails
        ⟨some context.currentUser, "message.deleted", true, "message", deleted, []⟩ stored)

/-- The routes that record an audit event. -/
inductive MessageRoute where
  | send (request : MessageCreateRequest)
  | get (messageId : Uuid)
  | anchor (messageId : Uuid)
  | forward (messageId : Uuid) (request : MessageCreateRequest)
  | revoke (messageId : Uuid)
  | delete (messageId : Uuid)

/-- A request is handled on a session of its own. -/
def respond (backend : Backend) (context : RequestContext) (insertFails : Bool)
    (database : Database) (route : MessageRoute) : HttpResponse × RequestSession :=
  let session := Session.start database
  match route with
  | .send request => sendMessage backend context insertFails request session
  | .get messageId => getMessage backend context insertFails messageId session
  | .anchor messageId => getMessageAnchor backend context insertFails messageId session
  | .forward messageId request => forwardMessage backend context insertFails messageId request session
  | .revoke messageId => revokeMessage backend context insertFails messageId session
  | .delete messageId => deleteMessage context insertFails messageId session

end EpicKfc.Source.Server.MessageRoutes
