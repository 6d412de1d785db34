import EpicKfc.Source.Server.Identifiers
import Mathlib.Data.List.Sort

/-!
# The message relay of the backend

Rows of `server/backend/app/models/message.py`, the queries of
`repositories/message_repository.py` and the workflows of
`services/message_service.py`. A workflow reads the committed rows and prepares
one write; the write takes effect when its transaction commits, and not at all
when it rolls back. The rows of other tables that a workflow reads are a
parameter.
-/

namespace EpicKfc.Source.Server.Messages
open EpicKfc.Lib

/-- Payload texts the request schema accepts, `Field(min_length=2)`. -/
abbrev WirePayload := {text : String // 2 ≤ text.length}

structure Message where
  id : Uuid
  senderUserId : Uuid
  senderDeviceId : PositiveInt
  recipientUserId : Uuid
  recipientDeviceId : PositiveInt
  wirePayloadJson : WirePayload
  consumedOneTimePrekeyId : Option PositiveInt
  forwardedFromMessageId : Option Uuid
  createdAt : UtcTimestamp
  accessRevokedAt : Option UtcTimestamp
  senderDeletedAt : Option UtcTimestamp
  recipientDeletedAt : Option UtcTimestamp
  deletedAt : Option UtcTimestamp
deriving DecidableEq

/-- The `messages` table; `id` is its primary key. -/
abbrev MessageTable := List Message

/-! ## Queries -/

/-- `_sender_visible`. -/
def senderVisible (userId : Uuid) (message : Message) : Prop :=
  message.senderUserId = userId ∧ message.senderDeletedAt = none ∧ message.deletedAt = none

/-- `_recipient_visible`. -/
def recipientVisible (userId : Uuid) (message : Message) : Prop :=
  message.recipientUserId = userId ∧ message.recipientDeletedAt = none ∧
    message.accessRevokedAt = none ∧ message.deletedAt = none

instance (userId : Uuid) : DecidablePred (senderVisible userId) := fun message =>
  inferInstanceAs (Decidable (message.senderUserId = userId ∧ _))

instance (userId : Uuid) : DecidablePred (recipientVisible userId) := fun message =>
  inferInstanceAs (Decidable (message.recipientUserId = userId ∧ _))

def getById (messageId : Uuid) (rows : MessageTable) : Option Message :=
  rows.find? fun message => message.id = messageId

def getAccessibleById (messageId userId : Uuid) (rows : MessageTable) : Option Message :=
  rows.find? fun message =>
    message.id = messageId ∧ (senderVisible userId message ∨ recipientVisible userId message)

/-- `order_by(desc(created_at), desc(id))`. -/
def newestFirst (first second : Message) : Prop :=
  second.createdAt < first.createdAt ∨
    first.createdAt = second.createdAt ∧ second.id.toNat ≤ first.id.toNat

instance : DecidableRel newestFirst := fun first second =>
  inferInstanceAs (Decidable (second.createdAt < first.createdAt ∨ _))

/-- The two listings of a user's messages. -/
inductive Listing where
  | received
  | sent
deriving DecidableEq, Repr

/-- The `where` clause of `list_received` or `list_sent`; each is the predicate of that role. -/
def listed : Listing → Uuid → Message → Prop
  | .received => recipientVisible
  | .sent => senderVisible

instance (listing : Listing) (userId : Uuid) : DecidablePred (listed listing userId) :=
  match listing with
  | .received => inferInstanceAs (DecidablePred (recipientVisible userId))
  | .sent => inferInstanceAs (DecidablePred (senderVisible userId))

/-- All rows of a listing in order, before `limit` and `offset`. -/
def listingRows (listing : Listing) (userId : Uuid) (rows : MessageTable) : List Message :=
  (rows.filter fun message => listed listing userId message).insertionSort newestFirst

/-- `.limit(limit).offset(offset)`. -/
def listPage (listing : Listing) (userId : Uuid) (limit offset : Nat) (rows : MessageTable) :
    List Message :=
  ((listingRows listing userId rows).drop offset).take limit

def listReceived (userId : Uuid) (limit offset : Nat) (rows : MessageTable) : List Message :=
  listPage .received userId limit offset rows

def listSent (userId : Uuid) (limit offset : Nat) (rows : MessageTable) : List Message :=
  listPage .sent userId limit offset rows

/-! ## Writes -/

/-- The effect of a transaction on the table when it commits. -/
inductive RowWrite where
  | insert (message : Message)
  | markSenderDeleted (messageId : Uuid) (now : UtcTimestamp)
  | markRecipientDeleted (messageId : Uuid) (now : UtcTimestamp)
  | revokeRecipientAccess (messageId : Uuid) (now : UtcTimestamp)
deriving DecidableEq

def updateRow (messageId : Uuid) (change : Message → Message) (rows : MessageTable) :
    MessageTable :=
  rows.map fun message => if message.id = messageId then change message else message

/-- An update statement sets one column of the row with that key; an insert fails
on a taken key. -/
def RowWrite.apply : RowWrite → MessageTable → Option MessageTable
  | .insert message, rows =>
    if ∃ existing ∈ rows, existing.id = message.id then none else some (rows ++ [message])
  | .markSenderDeleted messageId now, rows =>
    some (updateRow messageId (fun message => { message with senderDeletedAt := some now }) rows)
  | .markRecipientDeleted messageId now, rows =>
    some (updateRow messageId (fun message => { message with recipientDeletedAt := some now }) rows)
  | .revokeRecipientAccess messageId now, rows =>
    some (updateRow messageId (fun message => { message with accessRevokedAt := some now }) rows)

/-- `mark_sender_deleted`: the guard of its select, then the update. -/
def markSenderDeleted (messageId senderUserId : Uuid) (now : UtcTimestamp) (rows : MessageTable) :
    Option RowWrite :=
  (rows.find? fun message => message.id = messageId ∧ message.senderUserId = senderUserId ∧
    message.senderDeletedAt = none ∧ message.deletedAt = none).map
      fun _ => .markSenderDeleted messageId now

def markRecipientDeleted (messageId recipientUserId : Uuid) (now : UtcTimestamp)
    (rows : MessageTable) : Option RowWrite :=
  (rows.find? fun message => message.id = messageId ∧ message.recipientUserId = recipientUserId ∧
    message.recipientDeletedAt = none ∧ message.accessRevokedAt = none ∧
    message.deletedAt = none).map fun _ => .markRecipientDeleted messageId now

def revokeRecipientAccess (messageId senderUserId : Uuid) (now : UtcTimestamp)
    (rows : MessageTable) : Option RowWrite :=
  (rows.find? fun message => message.id = messageId ∧ message.senderUserId = senderUserId ∧
    message.deletedAt = none).map fun _ => .revokeRecipientAccess messageId now

/-! ## Workflows -/

inductive MessageServiceError where
  | messageNotFound
  | messageAccessDenied
  | recipientNotFound
  | invalidSenderDevice
  | invalidRecipientDevice
  | invalidConsumedPreKey
deriving DecidableEq, Repr

def MessageServiceError.text : MessageServiceError → String
  | .messageNotFound => "Message not found."
  | .messageAccessDenied => "Message access denied."
  | .recipientNotFound => "Recipient not found."
  | .invalidSenderDevice => "Invalid sender device."
  | .invalidRecipientDevice => "Invalid recipient device."
  | .invalidConsumedPreKey => "Invalid consumed one-time prekey."

/-- What `_validate_send_inputs` reads from the users, devices and pre-keys. -/
structure RelayDirectory where
  activeUser : Uuid → Bool
  activeDevice : Uuid → PositiveInt → Bool
  usedPreKey : Uuid → PositiveInt → PositiveInt → Bool

/-- Every user and device of the directory is active. -/
def openDirectory : RelayDirectory where
  activeUser _ := true
  activeDevice _ _ := true
  usedPreKey _ _ _ := true

structure MessageCreateRequest where
  senderDeviceId : PositiveInt
  recipientUserId : Uuid
  recipientDeviceId : PositiveInt
  wirePayloadJson : WirePayload
  consumedOneTimePrekeyId : Option PositiveInt

def validateConsumedOneTimePrekey (directory : RelayDirectory) (request : MessageCreateRequest) :
    Except MessageServiceError Unit :=
  match request.consumedOneTimePrekeyId with
  | none => .ok ()
  | some prekeyId =>
    if directory.usedPreKey request.recipientUserId request.recipientDeviceId prekeyId then .ok ()
    else .error .invalidConsumedPreKey

def validateSendInputs (directory : RelayDirectory) (currentUser : Uuid)
    (request : MessageCreateRequest) : Except MessageServiceError Unit :=
  if directory.activeUser request.recipientUserId = false then .error .recipientNotFound
  else if directory.activeDevice currentUser request.senderDeviceId = false then
    .error .invalidSenderDevice
  else if directory.activeDevice request.recipientUserId request.recipientDeviceId = false then
    .error .invalidRecipientDevice
  else validateConsumedOneTimePrekey directory request

/-- The row `create_message` adds; `id` and `created_at` are column defaults. -/
def createMessage (currentUser : Uuid) (request : MessageCreateRequest)
    (forwardedFromMessageId : Option Uuid) (id : Uuid) (createdAt : UtcTimestamp) : Message where
  id := id
  senderUserId := currentUser
  senderDeviceId := request.senderDeviceId
  recipientUserId := request.recipientUserId
  recipientDeviceId := request.recipientDeviceId
  wirePayloadJson := request.wirePayloadJson
  consumedOneTimePrekeyId := request.consumedOneTimePrekeyId
  forwardedFromMessageId := forwardedFromMessageId
  createdAt := createdAt
  accessRevokedAt := none
  senderDeletedAt := none
  recipientDeletedAt := none
  deletedAt := none

/-- A short request to the first device of a user. -/
def plainRequest (recipient : Uuid) : MessageCreateRequest where
  senderDeviceId := onePositive
  recipientUserId := recipient
  recipientDeviceId := onePositive
  wirePayloadJson := ⟨"\x7b\x7d", by decide⟩
  consumedOneTimePrekeyId := none

def sendMessage (directory : RelayDirectory) (currentUser : Uuid) (request : MessageCreateRequest)
    (id : Uuid) (createdAt : UtcTimestamp) : Except MessageServiceError RowWrite := do
  validateSendInputs directory currentUser request
  return .insert (createMessage currentUser request none id createdAt)

def forwardMessage (directory : RelayDirectory) (currentUser messageId : Uuid)
    (request : MessageCreateRequest) (id : Uuid) (createdAt : UtcTimestamp) (rows : MessageTable) :
    Except MessageServiceError RowWrite :=
  match getAccessibleById messageId currentUser rows with
  | none => .error .messageNotFound
  | some original => do
    validateSendInputs directory currentUser request
    return .insert (createMessage currentUser request (some original.id) id createdAt)

/-- A workflow that changes an existing message first checks that it is there. -/
def presentMessage (messageId : Uuid) (rows : MessageTable) : Except MessageServiceError Message :=
  match getById messageId rows with
  | none => .error .messageNotFound
  | some message => if message.deletedAt = none then .ok message else .error .messageNotFound

def orAccessDenied (write : Option RowWrite) : Except MessageServiceError RowWrite :=
  match write with
  | none => .error .messageAccessDenied
  | some prepared => .ok prepared

def deleteMessageForUser (currentUser messageId : Uuid) (now : UtcTimestamp) (rows : MessageTable) :
    Except MessageServiceError RowWrite := do
  let message ← presentMessage messageId rows
  if message.senderUserId = currentUser then
    orAccessDenied (markSenderDeleted messageId currentUser now rows)
  else if message.recipientUserId = currentUser then
    orAccessDenied (markRecipientDeleted messageId currentUser now rows)
  else .error .messageAccessDenied

def revokeMessageAccess (currentUser messageId : Uuid) (now : UtcTimestamp) (rows : MessageTable) :
    Except MessageServiceError RowWrite := do
  let message ← presentMessage messageId rows
  if message.senderUserId = currentUser then
    orAccessDenied (revokeRecipientAccess messageId currentUser now rows)
  else .error .messageAccessDenied

/-! ## The relay under concurrent requests -/

inductive RelayRequest where
  | send (currentUser : Uuid) (request : MessageCreateRequest) (id : Uuid) (createdAt : UtcTimestamp)
  | forward (currentUser messageId : Uuid) (request : MessageCreateRequest) (id : Uuid)
      (createdAt : UtcTimestamp)
  | delete (currentUser messageId : Uuid) (now : UtcTimestamp)
  | revoke (currentUser messageId : Uuid) (now : UtcTimestamp)

/-- The write a request prepares from the rows committed when it reads them. -/
def RelayRequest.prepare (directory : RelayDirectory) (rows : MessageTable) :
    RelayRequest → Except MessageServiceError RowWrite
  | .send currentUser request id createdAt => sendMessage directory currentUser request id createdAt
  | .forward currentUser messageId request id createdAt =>
    forwardMessage directory currentUser messageId request id createdAt rows
  | .delete currentUser messageId now => deleteMessageForUser currentUser messageId now rows
  | .revoke currentUser messageId now => revokeMessageAccess currentUser messageId now rows

/-- Committed rows and the writes of transactions that are still open. -/
structure RelayState where
  rows : MessageTable
  openWrites : List RowWrite

/-- The other tables may read differently at each request. -/
inductive RelayEvent where
  | prepare (directory : RelayDirectory) (request : RelayRequest)
  | commit (index : Nat)
  | rollback (index : Nat)

def relayStep (state : RelayState) : RelayEvent → Option RelayState
  | .prepare directory request =>
    match request.prepare directory state.rows with
    | .error _ => some state
    | .ok write => some { state with openWrites := state.openWrites ++ [write] }
  | .commit index => do
    let write ← state.openWrites[index]?
    let rows ← write.apply state.rows
    return { rows := rows, openWrites := state.openWrites.eraseIdx index }
  | .rollback index =>
    if index < state.openWrites.length then
      some { state with openWrites := state.openWrites.eraseIdx index }
    else none

/-! ## What a request adds -/

/-- The row is the one that this request creates; a forward has read its original. -/
inductive Creates (rows : MessageTable) : RelayRequest → Message → Prop where
  | sends (currentUser : Uuid) (request : MessageCreateRequest) (id : Uuid) (createdAt : UtcTimestamp) :
      Creates rows (.send currentUser request id createdAt)
        (createMessage currentUser request none id createdAt)
  | forwards (currentUser messageId : Uuid) (request : MessageCreateRequest) (id : Uuid)
      (createdAt : UtcTimestamp) (original : Message) :
      getAccessibleById messageId currentUser rows = some original →
      Creates rows (.forward currentUser messageId request id createdAt)
        (createMessage currentUser request (some original.id) id createdAt)

theorem orAccessDenied_ne_insert {found : Option Message} {mark : RowWrite} {added : Message}
    (marks : mark ≠ .insert added) :
    orAccessDenied (found.map fun _ => mark) ≠ .ok (.insert added) := by
  cases found with
  | none => simp [orAccessDenied]
  | some message => simpa [orAccessDenied] using marks

/-- Only sends and forwards prepare an insert. -/
theorem creates_of_prepare {directory : RelayDirectory} {rows : MessageTable} {request : RelayRequest}
    {added : Message} (prepared : request.prepare directory rows = .ok (.insert added)) :
    Creates rows request added := by
  cases request with
  | send currentUser request id createdAt =>
    simp only [RelayRequest.prepare, sendMessage] at prepared
    cases checked : validateSendInputs directory currentUser request with
    | error problem => simp [checked, bind, Except.bind] at prepared
    | ok =>
      simp only [checked, bind, Except.bind, pure, Except.pure, Except.ok.injEq,
        RowWrite.insert.injEq] at prepared
      subst prepared
      exact .sends currentUser request id createdAt
  | forward currentUser messageId request id createdAt =>
    simp only [RelayRequest.prepare, forwardMessage] at prepared
    split at prepared
    · cases prepared
    · next original found =>
      cases checked : validateSendInputs directory currentUser request with
      | error problem => simp [checked, bind, Except.bind] at prepared
      | ok =>
        simp only [checked, bind, Except.bind, pure, Except.pure, Except.ok.injEq,
          RowWrite.insert.injEq] at prepared
        subst prepared
        exact .forwards currentUser messageId request id createdAt original found
  | delete currentUser messageId now =>
    simp only [RelayRequest.prepare, deleteMessageForUser] at prepared
    cases found : presentMessage messageId rows with
    | error problem => simp [found, bind, Except.bind] at prepared
    | ok message =>
      simp only [found, bind, Except.bind] at prepared
      split at prepared
      · exact absurd prepared (orAccessDenied_ne_insert (by simp))
      · split at prepared
        · exact absurd prepared (orAccessDenied_ne_insert (by simp))
        · cases prepared
  | revoke currentUser messageId now =>
    simp only [RelayRequest.prepare, revokeMessageAccess] at prepared
    cases found : presentMessage messageId rows with
    | error problem => simp [found, bind, Except.bind] at prepared
    | ok message =>
      simp only [found, bind, Except.bind] at prepared
      split at prepared
      · exact absurd prepared (orAccessDenied_ne_insert (by simp))
      · cases prepared

end EpicKfc.Source.Server.Messages
