import EpicKfc.Source.Server.MessageRoutes

/-!
# Audit failures and the responses of message routes

The audit event of a route is written on the session of the request. When its
insert fails the rollback expires the row that the response is built from, so the
client is told of an internal error although the operation has been committed.
Only responses that are built from no row are the same either way.
-/

namespace EpicKfc.Guarantees.AuditTransparency
open EpicKfc.Lib
open EpicKfc.Lib.OrmSession
open EpicKfc.Source.Server
open EpicKfc.Source.Server.Messages hiding sendMessage forwardMessage
open EpicKfc.Source.Server.BlockchainAnchors
open EpicKfc.Source.Server.MessageApi
open EpicKfc.Source.Server.MessageRoutes

/-- The ids drawn for a new message and its anchor are not taken. -/
structure IdsFree (context : RequestContext) (database : Database) : Prop where
  message : ∀ existing ∈ database.messages, existing.id ≠ context.messageId
  anchor : getLatestActiveForMessage context.messageId database.anchors = none →
    ∀ existing ∈ database.anchors, existing.id ≠ context.anchorId

/-- The route would answer with a row it has stored or read. -/
def AnswersWithRow (context : RequestContext) (database : Database) : MessageRoute → Prop
  | .send request =>
    validateSendInputs context.directory context.currentUser request = .ok () ∧
      IdsFree context database
  | .get messageId => getAccessibleById messageId context.currentUser database.messages ≠ none
  | .anchor messageId => getLatestForMessage messageId database.anchors ≠ none
  | .forward messageId request =>
    getAccessibleById messageId context.currentUser database.messages ≠ none ∧
      validateSendInputs context.directory context.currentUser request = .ok () ∧
        IdsFree context database
  | .revoke messageId =>
    ∃ message, getById messageId database.messages = some message ∧ message.deletedAt = none ∧
      message.senderUserId = context.currentUser
  | .delete _ => False

/-! ## Rows of the workflows -/

theorem getById_append {messageId : Uuid} {rows : MessageTable} {message : Message}
    (key : message.id = messageId) (free : ∀ existing ∈ rows, existing.id ≠ messageId) :
    getById messageId (rows ++ [message]) = some message := by
  have absent : rows.find? (fun existing => existing.id = messageId) = none := by
    rw [List.find?_eq_none]
    intro existing member
    simpa using free existing member
  rw [getById, List.find?_append, absent]
  simp [key]

theorem getById_updateRow {messageId : Uuid} {change : Message → Message} {rows : MessageTable}
    (kept : ∀ message, (change message).id = message.id) :
    getById messageId (updateRow messageId change rows) = (getById messageId rows).map change := by
  induction rows with
  | nil => rfl
  | cons message rest ih =>
    by_cases same : message.id = messageId
    · simp [getById, updateRow, same, kept]
    · have later := ih
      simp only [getById, updateRow] at later
      simp [getById, updateRow, same, later]

/-- The anchor of a message that is there is reused, or its id must be free. -/
theorem insertPendingAnchor_isSome (backend : Backend) {context : RequestContext}
    {message : Message} {session : RequestSession}
    (stored : getById context.messageId session.working.messages = some message)
    (key : message.id = context.messageId) :
    (insertPendingAnchor backend context context.messageId session).isSome ↔
      (getLatestActiveForMessage context.messageId session.working.anchors = none →
        ∀ existing ∈ session.working.anchors, existing.id ≠ context.anchorId) := by
  simp only [insertPendingAnchor, stored, createPendingAnchorForMessage, key]
  cases active : getLatestActiveForMessage context.messageId session.working.anchors with
  | some existing => simp
  | none =>
    by_cases taken : ∃ existing ∈ session.working.anchors, existing.id = context.anchorId
    · simp [createAnchor, taken]
    · have free : ∀ existing ∈ session.working.anchors, existing.id ≠ context.anchorId :=
        fun existing member same => taken ⟨existing, member, same⟩
      simpa [createAnchor, taken] using free

theorem insertPendingAnchor_messages {backend : Backend} {context : RequestContext}
    {messageId : Uuid} {session anchored : RequestSession}
    (inserted : insertPendingAnchor backend context messageId session = some anchored) :
    anchored.working.messages = session.working.messages := by
  simp only [insertPendingAnchor] at inserted
  split at inserted
  · cases inserted
  · split at inserted
    · cases inserted
      rfl
    · split at inserted
      · cases inserted
      · cases inserted
        rfl

section

variable {context : RequestContext} {session : RequestSession} {request : RelayRequest}
  {messageId : Uuid} {andThen : RequestSession → Option RequestSession}

theorem transact_refused {error : MessageServiceError}
    (refused : request.prepare context.directory session.working.messages = .error error) :
    transact context request messageId andThen session = (.error (.service error), session.rollback) := by
  simp only [transact, refused]

/-- A write that goes through leaves the row it is about loaded. -/
theorem transact_written {write : RowWrite} {written : RequestSession} {message : Message}
    (prepared : request.prepare context.directory session.working.messages = .ok write)
    (performed : (performWrite write session).bind andThen = some written)
    (stored : getById messageId written.working.messages = some message) :
    ∃ refreshed, transact context request messageId andThen session = (.ok messageId, refreshed) ∧
      refreshed.attributes (.message messageId) = some message := by
  simp only [transact, prepared, performed, refreshMessage, Session.working_commit, stored,
    Option.map_some]
  exact ⟨_, rfl, by simp⟩

theorem transact_failed {write : RowWrite}
    (prepared : request.prepare context.directory session.working.messages = .ok write)
    (failed : (performWrite write session).bind andThen = none) :
    transact context request messageId andThen session = (.error .database, session.rollback) := by
  simp only [transact, prepared, failed]

end

/-- A workflow that adds a message: it is stored with its anchor, or an id is taken. -/
theorem transact_insert (backend : Backend) {context : RequestContext} {session : RequestSession}
    {request : RelayRequest} {message : Message} (key : message.id = context.messageId)
    (prepared : request.prepare context.directory session.working.messages = .ok (.insert message)) :
    (IdsFree context session.working → ∃ refreshed row,
      transact context request context.messageId
        (insertPendingAnchor backend context context.messageId) session =
          (.ok context.messageId, refreshed) ∧
        refreshed.attributes (.message context.messageId) = some row) ∧
    (¬ IdsFree context session.working →
      transact context request context.messageId
        (insertPendingAnchor backend context context.messageId) session =
          (.error .database, session.rollback)) := by
  by_cases taken : ∃ existing ∈ session.working.messages, existing.id = message.id
  · have notFree : ¬ IdsFree context session.working := by
      intro free
      obtain ⟨existing, member, same⟩ := taken
      exact free.message existing member (same.trans key)
    refine ⟨fun free => absurd free notFree, fun _ => ?_⟩
    apply transact_failed prepared
    simp [performWrite, RowWrite.apply, taken]
  · have fresh : ∀ existing ∈ session.working.messages, existing.id ≠ context.messageId :=
      fun existing member same => taken ⟨existing, member, same.trans key.symm⟩
    let added := session.write fun database =>
      { database with messages := session.working.messages ++ [message] }
    have performed : performWrite (.insert message) session = some added := by
      simp [performWrite, RowWrite.apply, taken, added]
    have stored : getById context.messageId added.working.messages = some message :=
      getById_append key fresh
    have anchoring := insertPendingAnchor_isSome backend stored key
    have both : (performWrite (.insert message) session).bind
        (insertPendingAnchor backend context context.messageId) =
          insertPendingAnchor backend context context.messageId added := by
      rw [performed, Option.bind_some]
    cases inserted : insertPendingAnchor backend context context.messageId added with
    | some anchored =>
      rw [inserted] at anchoring both
      have free : IdsFree context session.working := ⟨fresh, anchoring.mp rfl⟩
      refine ⟨fun _ => ?_, fun notFree => absurd free notFree⟩
      have kept := insertPendingAnchor_messages inserted
      obtain ⟨refreshed, done, held⟩ := transact_written prepared both (kept ▸ stored)
      exact ⟨refreshed, message, done, held⟩
    | none =>
      rw [inserted] at anchoring both
      refine ⟨fun free => ?_, fun _ => transact_failed prepared both⟩
      have some := anchoring.mpr free.anchor
      cases some

section

variable {context : RequestContext} {messages : MessageTable} {messageId : Uuid} {message : Message}

theorem prepare_revoke (found : getById messageId messages = some message)
    (present : message.deletedAt = none) (own : message.senderUserId = context.currentUser) :
    (RelayRequest.revoke context.currentUser messageId context.now).prepare context.directory
      messages = .ok (.revokeRecipientAccess messageId context.now) := by
  have key : message.id = messageId := by
    have meets := List.find?_some found
    simpa using meets
  have listed : ((messages.find? fun message => message.id = messageId ∧
      message.senderUserId = context.currentUser ∧ message.deletedAt = none).isSome) = true := by
    rw [List.find?_isSome]
    exact ⟨message, List.mem_of_find?_eq_some found, by simp [key, own, present]⟩
  have write : Messages.revokeRecipientAccess messageId context.currentUser context.now messages =
      some (.revokeRecipientAccess messageId context.now) := by
    obtain ⟨row, first⟩ := Option.isSome_iff_exists.mp listed
    rw [Messages.revokeRecipientAccess, first]
    rfl
  simp [RelayRequest.prepare, Messages.revokeMessageAccess, presentMessage, found, present, own,
    write, orAccessDenied, bind, Except.bind]

theorem prepare_revoke_refused (refused : ¬ ∃ message, getById messageId messages = some message ∧
      message.deletedAt = none ∧ message.senderUserId = context.currentUser) :
    ∃ error, (RelayRequest.revoke context.currentUser messageId context.now).prepare
      context.directory messages = .error error := by
  simp only [RelayRequest.prepare, Messages.revokeMessageAccess, presentMessage]
  cases found : getById messageId messages with
  | none => exact ⟨_, rfl⟩
  | some message =>
    by_cases present : message.deletedAt = none
    · have other : message.senderUserId ≠ context.currentUser :=
        fun own => refused ⟨message, found, present, own⟩
      exact ⟨.messageAccessDenied, by simp [present, other, bind, Except.bind]⟩
    · exact ⟨.messageNotFound, by simp [present, bind, Except.bind]⟩

end

/-- A revocation is stored when the message is there, not deleted and the user's own. -/
theorem transact_revoke (context : RequestContext) (session : RequestSession) (messageId : Uuid) :
    ((∃ message, getById messageId session.working.messages = some message ∧
        message.deletedAt = none ∧ message.senderUserId = context.currentUser) →
      ∃ refreshed row, Workflow.revokeMessageAccess context messageId session =
        (.ok messageId, refreshed) ∧ refreshed.attributes (.message messageId) = some row) ∧
    ((¬ ∃ message, getById messageId session.working.messages = some message ∧
        message.deletedAt = none ∧ message.senderUserId = context.currentUser) →
      ∃ error, Workflow.revokeMessageAccess context messageId session =
        (.error (.service error), session.rollback)) := by
  constructor
  · rintro ⟨message, found, present, own⟩
    have stored := @getById_updateRow messageId
      (fun message => { message with accessRevokedAt := some context.now }) session.working.messages
      fun _ => rfl
    rw [found] at stored
    obtain ⟨refreshed, done, held⟩ :=
      @transact_written _ _ _ _ some _ _ _ (prepare_revoke found present own) rfl stored
    exact ⟨refreshed, _, done, held⟩
  · intro refused
    obtain ⟨error, prepared⟩ := prepare_revoke_refused refused
    exact ⟨error, transact_refused prepared⟩

/-! ## What an audit event does to the response -/

section

variable {context : RequestContext} {session : RequestSession} {event : AuditEvent}

/-- A failed audit insert expires what the response is built from. -/
theorem modelValidate_failed (k : Identity) (status : Nat) (fields : k.Row → Json.Members) :
    modelValidate k status fields (recordAuditEventBestEffort context true event session) =
      internalServerError := by
  simp [modelValidate, recordAuditEventBestEffort]

/-- A stored audit event leaves the other instances as they are. -/
theorem modelValidate_recorded {k : Identity} {status : Nat} {fields : k.Row → Json.Members}
    {row : k.Row} (held : session.attributes k = some row)
    (other : k ≠ .auditLog context.auditLogId) :
    modelValidate k status fields (recordAuditEventBestEffort context false event session) =
      jsonResponse status (fields row) := by
  have kept : (recordAuditEventBestEffort context false event session).attributes k = some row := by
    have different : k ≠ .auditLog (recordAuditEvent context event).id := other
    simp only [recordAuditEventBestEffort, Bool.false_eq_true, if_false, Session.attributes_commit]
    rw [Session.attributes_load_of_ne _ _ different, Session.attributes_write, held]
  simp only [modelValidate, kept]

theorem modelValidate_differs {k : Identity} {status : Nat} {fields : k.Row → Json.Members}
    {row : k.Row} (held : session.attributes k = some row)
    (other : k ≠ .auditLog context.auditLogId) (fine : status ≠ 500) :
    modelValidate k status fields (recordAuditEventBestEffort context true event session) ≠
      modelValidate k status fields (recordAuditEventBestEffort context false event session) := by
  rw [modelValidate_failed, modelValidate_recorded held other]
  intro same
  exact fine (congrArg HttpResponse.status same).symm

theorem served_differs {backend : Backend} {eventType : String} {messageId : Uuid}
    {details : List (String × DetailValue)} {status : Nat} {row : Message}
    (held : session.attributes (.message messageId) = some row) (fine : status ≠ 500) :
    (served backend context true eventType messageId details status session).1 ≠
      (served backend context false eventType messageId details status session).1 :=
  modelValidate_differs held (by simp) fine

end

/-! ## Routes -/

/-- A route that is not admitted answers before it audits. -/
theorem enforceRateLimit_refused {context : RequestContext} {session : RequestSession}
    {body body' : RequestSession → HttpResponse × RequestSession}
    (refused : context.rateLimit ≠ .ok ()) :
    enforceRateLimit context body session = enforceRateLimit context body' session := by
  unfold enforceRateLimit
  cases limited : context.rateLimit with
  | ok admitted => exact absurd limited refused
  | error error => cases error <;> rfl

theorem enforceRateLimit_admitted {context : RequestContext} {session : RequestSession}
    {body : RequestSession → HttpResponse × RequestSession} (admitted : context.rateLimit = .ok ()) :
    enforceRateLimit context body session = body session := by
  simp only [enforceRateLimit, admitted]

section

variable (backend : Backend) {context : RequestContext} {session : RequestSession}

theorem sendMessage_same_iff (admitted : context.rateLimit = .ok ())
    (request : MessageCreateRequest) :
    (sendMessage backend context true request session).1 =
        (sendMessage backend context false request session).1 ↔
      ¬ (validateSendInputs context.directory context.currentUser request = .ok () ∧
        IdsFree context session.working) := by
  simp only [sendMessage, enforceRateLimit_admitted admitted]
  cases validated : validateSendInputs context.directory context.currentUser request with
  | error error =>
    have unprepared : (RelayRequest.send context.currentUser request context.messageId
        context.now).prepare context.directory session.working.messages = .error error := by
      simp [RelayRequest.prepare, Messages.sendMessage, validated, bind, Except.bind]
    have refused : Workflow.sendMessage backend context request session =
        (.error (.service error), session.rollback) := transact_refused unprepared
    simp only [refused]
    cases error <;> simp
  | ok _ =>
    have prepared : (RelayRequest.send context.currentUser request context.messageId
        context.now).prepare context.directory session.working.messages = .ok (.insert
          (createMessage context.currentUser request none context.messageId context.now)) := by
      simp [RelayRequest.prepare, Messages.sendMessage, validated, bind, Except.bind, pure,
        Except.pure]
    obtain ⟨stores, fails⟩ := transact_insert backend rfl prepared
    by_cases free : IdsFree context session.working
    · obtain ⟨refreshed, row, done, held⟩ := stores free
      simp only [Workflow.sendMessage, done, free]
      simpa using served_differs held (by decide)
    · simp only [Workflow.sendMessage, fails free]
      simp [free]

theorem getMessage_same_iff (admitted : context.rateLimit = .ok ()) (messageId : Uuid) :
    (getMessage backend context true messageId session).1 =
        (getMessage backend context false messageId session).1 ↔
      ¬ getAccessibleById messageId context.currentUser session.working.messages ≠ none := by
  simp only [getMessage, enforceRateLimit_admitted admitted, Workflow.getMessageForUser]
  cases found : getAccessibleById messageId context.currentUser session.working.messages with
  | none => simp [denied]
  | some message =>
    have held := Session.attributes_load session (.message message.id) message
    simpa using served_differs held (by decide)

theorem getMessageAnchor_same_iff (admitted : context.rateLimit = .ok ()) (messageId : Uuid) :
    (getMessageAnchor backend context true messageId session).1 =
        (getMessageAnchor backend context false messageId session).1 ↔
      ¬ getLatestForMessage messageId session.working.anchors ≠ none := by
  simp only [getMessageAnchor, enforceRateLimit_admitted admitted,
    Workflow.getLatestMessageAnchorPublic]
  cases found : getLatestForMessage messageId session.working.anchors with
  | none => simp [denied]
  | some anchor =>
    have held := Session.attributes_load session (.anchor anchor.id) anchor
    simpa using modelValidate_differs held (by simp) (by decide)

theorem forwardMessage_same_iff (admitted : context.rateLimit = .ok ()) (messageId : Uuid)
    (request : MessageCreateRequest) :
    (forwardMessage backend context true messageId request session).1 =
        (forwardMessage backend context false messageId request session).1 ↔
      ¬ (getAccessibleById messageId context.currentUser session.working.messages ≠ none ∧
        validateSendInputs context.directory context.currentUser request = .ok () ∧
          IdsFree context session.working) := by
  simp only [forwardMessage, enforceRateLimit_admitted admitted]
  have refusing {error : MessageServiceError}
      (refused : (RelayRequest.forward context.currentUser messageId request context.messageId
        context.now).prepare context.directory session.working.messages = .error error) :
      Workflow.forwardMessage backend context messageId request session =
        (.error (.service error), session.rollback) := transact_refused refused
  cases found : getAccessibleById messageId context.currentUser session.working.messages with
  | none =>
    rw [@refusing .messageNotFound
      (by simp [RelayRequest.prepare, Messages.forwardMessage, found])]
    simp [denied]
  | some original =>
    cases validated : validateSendInputs context.directory context.currentUser request with
    | error error =>
      rw [@refusing error
        (by simp [RelayRequest.prepare, Messages.forwardMessage, found, validated, bind, Except.bind])]
      cases error <;> simp [denied]
    | ok _ =>
      have prepared : (RelayRequest.forward context.currentUser messageId request context.messageId
          context.now).prepare context.directory session.working.messages = .ok (.insert
            (createMessage context.currentUser request (some original.id) context.messageId
              context.now)) := by
        simp [RelayRequest.prepare, Messages.forwardMessage, found, validated, bind, Except.bind,
          pure, Except.pure]
      obtain ⟨stores, fails⟩ := transact_insert backend rfl prepared
      by_cases free : IdsFree context session.working
      · obtain ⟨refreshed, row, done, held⟩ := stores free
        simp only [Workflow.forwardMessage, done, free]
        simpa using served_differs held (by decide)
      · simp only [Workflow.forwardMessage, fails free]
        simp [free]

theorem revokeMessage_same_iff (admitted : context.rateLimit = .ok ()) (messageId : Uuid) :
    (revokeMessage backend context true messageId session).1 =
        (revokeMessage backend context false messageId session).1 ↔
      ¬ ∃ message, getById messageId session.working.messages = some message ∧
        message.deletedAt = none ∧ message.senderUserId = context.currentUser := by
  simp only [revokeMessage, enforceRateLimit_admitted admitted]
  obtain ⟨stores, refuses⟩ := transact_revoke context session messageId
  by_cases own : ∃ message, getById messageId session.working.messages = some message ∧
      message.deletedAt = none ∧ message.senderUserId = context.currentUser
  · obtain ⟨refreshed, row, done, held⟩ := stores own
    simp only [done, own]
    simpa using served_differs held (by decide)
  · obtain ⟨error, refused⟩ := refuses own
    simp only [refused, own]
    cases error <;> simp [denied]

end

theorem respond_refused {backend : Backend} {context : RequestContext} {database : Database}
    {route : MessageRoute} (refused : context.rateLimit ≠ .ok ()) :
    respond backend context true database route = respond backend context false database route := by
  cases route with
  | send request =>
    simp only [respond, sendMessage]
    exact enforceRateLimit_refused refused
  | get messageId =>
    simp only [respond, getMessage]
    exact enforceRateLimit_refused refused
  | anchor messageId =>
    simp only [respond, getMessageAnchor]
    exact enforceRateLimit_refused refused
  | forward messageId request =>
    simp only [respond, forwardMessage]
    exact enforceRateLimit_refused refused
  | revoke messageId =>
    simp only [respond, revokeMessage]
    exact enforceRateLimit_refused refused
  | delete messageId =>
    simp only [respond, deleteMessage]
    exact enforceRateLimit_refused refused

/-- A deletion is confirmed by a fixed text, whatever became of its audit event. -/
theorem deleteMessage_same (context : RequestContext) (session : RequestSession)
    (messageId : Uuid) : (deleteMessage context true messageId session).1 =
      (deleteMessage context false messageId session).1 := by
  simp only [deleteMessage, enforceRateLimit]
  cases context.rateLimit with
  | error error => cases error <;> rfl
  | ok admitted =>
    obtain ⟨result, later⟩ := Workflow.deleteMessageForUser context messageId session
    cases result with
    | ok deleted => rfl
    | error raised =>
      cases raised with
      | service error => cases error <;> rfl
      | anchorNotFound => rfl
      | database => rfl

/-- The response to a request whose audit event is lost is the usual one exactly when it is
built from no row: the rate limit refuses the request, the operation fails, or the route is the
deletion of a message. -/
theorem audit_failure_transparent_iff (backend : Backend) (context : RequestContext)
    (database : Database) (route : MessageRoute) :
    (respond backend context true database route).1 =
        (respond backend context false database route).1 ↔
      ¬ (context.rateLimit = .ok () ∧ AnswersWithRow context database route) := by
  by_cases admitted : context.rateLimit = .ok ()
  · simp only [admitted, true_and]
    cases route with
    | send request => exact sendMessage_same_iff backend admitted request
    | get messageId => exact getMessage_same_iff backend admitted messageId
    | anchor messageId => exact getMessageAnchor_same_iff backend admitted messageId
    | forward messageId request => exact forwardMessage_same_iff backend admitted messageId request
    | revoke messageId => exact revokeMessage_same_iff backend admitted messageId
    | delete messageId =>
      exact iff_of_true (deleteMessage_same context _ messageId) id
  · have same := @respond_refused backend context database route admitted
    exact iff_of_true (congrArg Prod.fst same) fun both => admitted both.1

/-- A short message to the first device of a user. -/
def greeting (recipient : Uuid) : MessageCreateRequest where
  senderDeviceId := onePositive
  recipientUserId := recipient
  recipientDeviceId := onePositive
  wirePayloadJson :=
    ⟨"\x7b\"format\":\"libsignal-v1\",\"type\":1,\"bodyB64\":\"AQ==\"\x7d", by decide⟩
  consumedOneTimePrekeyId := none

/-- A request of the first user, from a client that names itself. -/
def plainContext : RequestContext where
  directory := openDirectory
  currentUser := 1
  rateLimit := .ok ()
  ipAddress := some "127.0.0.1"
  userAgent := some "pytest"
  now := .newYear2026
  messageId := 10
  anchorId := 20
  auditLogId := 30

def plainBackend : Backend := ⟨Keccak.keccak256, zuluSerializer⟩

/-- The sender of a stored message is told of an internal error. -/
theorem lost_audit_event_fails_send :
    let lost := respond plainBackend plainContext true ⟨[], [], []⟩ (.send (greeting 2))
    let recorded := respond plainBackend plainContext false ⟨[], [], []⟩ (.send (greeting 2))
    lost.1 ≠ recorded.1 ∧ lost.1.status = 500 ∧ recorded.1.status = 201 ∧
      lost.2.committed.messages.length = 1 := by
  refine ⟨fun same => ?_, rfl, rfl, rfl⟩
  have statuses : 500 = 201 := congrArg HttpResponse.status same
  omega

/-! ## What is committed -/

/-- Nothing is left to commit. -/
def Settled (session : RequestSession) : Prop := session.working = session.committed

theorem transact_settled {context : RequestContext} {session : RequestSession}
    {request : RelayRequest} {messageId : Uuid} {andThen : RequestSession → Option RequestSession} :
    Settled (transact context request messageId andThen session).2 := by
  unfold transact
  split
  · rfl
  · split
    · rfl
    · split
      · rfl
      · next written _ _ refreshed loaded =>
        obtain ⟨message, -, rfl⟩ := Option.map_eq_some_iff.mp loaded
        rfl

/-- The messages and anchors in the database. -/
def relayRows (session : RequestSession) : MessageTable × AnchorTable :=
  (session.committed.messages, session.committed.anchors)

/-- Whether an audit event is stored is nothing to the other tables. -/
theorem relayRows_recordAuditEvent {context : RequestContext} {insertFails : Bool}
    {event : AuditEvent} {session : RequestSession} (settled : Settled session) :
    relayRows (recordAuditEventBestEffort context insertFails event session) = relayRows session := by
  cases insertFails with
  | true => rfl
  | false =>
    have same : session.working = session.committed := settled
    simp [recordAuditEventBestEffort, relayRows, same]

section

variable {backend : Backend} {context : RequestContext} {session : RequestSession}

theorem relayRows_denied {insertFails : Bool} {actor : Option Uuid} {eventType reason : String}
    {messageId : Uuid} {response : HttpResponse} (settled : Settled session) :
    relayRows (denied context insertFails actor eventType messageId reason response session).2 =
      relayRows session :=
  relayRows_recordAuditEvent settled

theorem relayRows_served {insertFails : Bool} {eventType : String} {messageId : Uuid}
    {details : List (String × DetailValue)} {status : Nat} (settled : Settled session) :
    relayRows (served backend context insertFails eventType messageId details status session).2 =
      relayRows session :=
  relayRows_recordAuditEvent settled

/-- The rows after a route whose body leaves the given ones. -/
def rowsAdmitting (context : RequestContext) (session : RequestSession)
    (rows : MessageTable × AnchorTable) : MessageTable × AnchorTable :=
  match context.rateLimit with
  | .ok _ => rows
  | .error _ => relayRows session

theorem relayRows_enforceRateLimit {body : RequestSession → HttpResponse × RequestSession}
    {rows : MessageTable × AnchorTable} (leaves : relayRows (body session).2 = rows) :
    relayRows (enforceRateLimit context body session).2 = rowsAdmitting context session rows := by
  unfold enforceRateLimit rowsAdmitting
  cases context.rateLimit with
  | ok admitted => exact leaves
  | error error => cases error <;> rfl

theorem relayRows_sendMessage (insertFails : Bool) (request : MessageCreateRequest) :
    relayRows (sendMessage backend context insertFails request session).2 =
      rowsAdmitting context session
        (relayRows (Workflow.sendMessage backend context request session).2) := by
  apply relayRows_enforceRateLimit
  have settled : Settled (Workflow.sendMessage backend context request session).2 :=
    transact_settled
  split
  case h_6 messageId stored found =>
    rw [found] at settled ⊢
    exact relayRows_served settled
  all_goals
    rename_i found
    rw [found]

theorem relayRows_getMessage (settled : Settled session) (insertFails : Bool) (messageId : Uuid) :
    relayRows (getMessage backend context insertFails messageId session).2 =
      rowsAdmitting context session (relayRows session) := by
  apply relayRows_enforceRateLimit
  unfold Workflow.getMessageForUser
  cases getAccessibleById messageId context.currentUser session.working.messages with
  | none => exact relayRows_denied settled
  | some message =>
    have loaded : Settled (session.load (.message message.id) message) := settled
    exact relayRows_served loaded

theorem relayRows_getMessageAnchor (settled : Settled session) (insertFails : Bool)
    (messageId : Uuid) :
    relayRows (getMessageAnchor backend context insertFails messageId session).2 =
      rowsAdmitting context session (relayRows session) := by
  apply relayRows_enforceRateLimit
  unfold Workflow.getLatestMessageAnchorPublic
  cases getLatestForMessage messageId session.working.anchors with
  | none => exact relayRows_denied settled
  | some anchor =>
    have loaded : Settled (session.load (.anchor anchor.id) anchor) := settled
    exact relayRows_recordAuditEvent loaded

theorem relayRows_forwardMessage (insertFails : Bool) (messageId : Uuid)
    (request : MessageCreateRequest) :
    relayRows (forwardMessage backend context insertFails messageId request session).2 =
      rowsAdmitting context session
        (relayRows (Workflow.forwardMessage backend context messageId request session).2) := by
  apply relayRows_enforceRateLimit
  have settled : Settled (Workflow.forwardMessage backend context messageId request session).2 :=
    transact_settled
  split
  case h_8 forwarded stored found =>
    rw [found] at settled ⊢
    exact relayRows_served settled
  all_goals
    rename_i found
    rw [found] at settled ⊢
  all_goals exact relayRows_denied settled

theorem relayRows_revokeMessage (insertFails : Bool) (messageId : Uuid) :
    relayRows (revokeMessage backend context insertFails messageId session).2 =
      rowsAdmitting context session
        (relayRows (Workflow.revokeMessageAccess context messageId session).2) := by
  apply relayRows_enforceRateLimit
  have settled : Settled (Workflow.revokeMessageAccess context messageId session).2 :=
    transact_settled
  split
  case h_4 revoked stored found =>
    rw [found] at settled ⊢
    exact relayRows_served settled
  all_goals
    rename_i found
    rw [found] at settled ⊢
  all_goals exact relayRows_denied settled

theorem relayRows_deleteMessage (insertFails : Bool) (messageId : Uuid) :
    relayRows (deleteMessage context insertFails messageId session).2 =
      rowsAdmitting context session
        (relayRows (Workflow.deleteMessageForUser context messageId session).2) := by
  apply relayRows_enforceRateLimit
  have settled : Settled (Workflow.deleteMessageForUser context messageId session).2 :=
    transact_settled
  split
  all_goals
    rename_i found
    rw [found] at settled ⊢
  all_goals exact relayRows_recordAuditEvent settled

end

/-- The operation of a route is in the database whether or not its audit event is. -/
theorem operation_stays_committed (backend : Backend) (context : RequestContext)
    (database : Database) (route : MessageRoute) :
    relayRows (respond backend context true database route).2 =
      relayRows (respond backend context false database route).2 := by
  have starts : Settled (Session.start database) := rfl
  cases route with
  | send request =>
    exact (relayRows_sendMessage true request).trans
      (relayRows_sendMessage false request).symm
  | get messageId =>
    exact (relayRows_getMessage starts true messageId).trans
      (relayRows_getMessage starts false messageId).symm
  | anchor messageId =>
    exact (relayRows_getMessageAnchor starts true messageId).trans
      (relayRows_getMessageAnchor starts false messageId).symm
  | forward messageId request =>
    exact (relayRows_forwardMessage true messageId request).trans
      (relayRows_forwardMessage false messageId request).symm
  | revoke messageId =>
    exact (relayRows_revokeMessage true messageId).trans
      (relayRows_revokeMessage false messageId).symm
  | delete messageId =>
    exact (relayRows_deleteMessage true messageId).trans
      (relayRows_deleteMessage false messageId).symm

end EpicKfc.Guarantees.AuditTransparency
