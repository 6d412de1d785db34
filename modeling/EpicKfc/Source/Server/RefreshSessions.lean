import EpicKfc.Lib.RowTable
import EpicKfc.Source.Server.Identifiers
import Mathlib.Logic.Function.Basic
import Mathlib.Logic.Relation

/-!
# Refresh sessions

Login, refresh-token rotation and the two logouts, each one database transaction
at the `READ COMMITTED` level. A `FOR UPDATE` select and the bulk `UPDATE` pick
their rows from the snapshot of the statement, wait for the holder of a row and
check its newest version again. `rotatedFrom` and `existing` are no columns: they
record which session a refresh replaced, and the sessions a bulk logout found.
-/

namespace EpicKfc.Source.Server.RefreshSessions
open EpicKfc.Lib
open EpicKfc.Lib.RowTable (Table row)

abbrev RequestId := Nat

abbrev TokenHash := String

structure RefreshSession where
  userId : Uuid
  expiresAt : UtcTimestamp
  revokedAt : Option UtcTimestamp
  rotatedFrom : Option TokenHash
deriving DecidableEq

/-- The condition of `get_active_by_hash` on a row. -/
def RefreshSession.isActive (session : RefreshSession) (now : UtcTimestamp) : Bool :=
  session.revokedAt.isNone && decide (now < session.expiresAt)

def RefreshSession.revoke (now : UtcTimestamp) (session : RefreshSession) : RefreshSession :=
  { session with revokedAt := some now }

/-- The two callers of `get_active_by_hash` with `for_update`. -/
inductive Caller where
  | refreshAccessToken
  | logout
deriving DecidableEq

/-- How far the transaction of a request has come. -/
inductive RequestState where
  | idle
  | selected (caller : Caller) (presented : TokenHash) (now : UtcTimestamp)
  | locked (presented : TokenHash) (userId : Uuid)
  | authorized (presented : TokenHash) (userId : Uuid)
  | issuing (presented : Option TokenHash) (userId : Uuid)
  | inserted (presented : Option TokenHash) (issued : TokenHash)
  | loggedIn (issued : TokenHash)
  | refreshed (presented issued : TokenHash)
  | loggingOut (presented : TokenHash)
  | revoked (presented : TokenHash)
  | loggedOut (revoked : Option TokenHash)
  | revokingAll (userId : Uuid) (now : UtcTimestamp) (existing remaining : List TokenHash)
  | loggedOutAll (userId : Uuid) (existing : List TokenHash)
  | rejected
  | aborted
deriving DecidableEq

structure Backend where
  refreshSessions : Table TokenHash RequestId RefreshSession := []
  requests : RequestId → RequestState := fun _ => .idle

def Backend.goes (backend : Backend) (request : RequestId) (state : RequestState) : Backend :=
  { backend with requests := Function.update backend.requests request state }

/-- `db.rollback()`, or the end of a session that did not commit. -/
def Backend.rollsBack (backend : Backend) (request : RequestId) (state : RequestState) : Backend :=
  { refreshSessions := RowTable.rollback request backend.refreshSessions
    requests := Function.update backend.requests request state }

def Backend.commits (backend : Backend) (request : RequestId) (state : RequestState) : Backend :=
  { refreshSessions := RowTable.commit request backend.refreshSessions
    requests := Function.update backend.requests request state }

/-- The session of a token hash in the committed table. -/
def storedSession (backend : Backend) (tokenHash : TokenHash) : Option RefreshSession :=
  (row tokenHash backend.refreshSessions).committed

/-! ## `get_active_by_hash` -/

/-- No row: a refresh raises `AuthError`, a logout commits and answers `True` all the same. -/
def findsNone (backend : Backend) (request : RequestId) : Caller → Backend
  | .refreshAccessToken => backend.rollsBack request .rejected
  | .logout => backend.commits request (.loggedOut none)

/-- The snapshot of the select. -/
def getActiveByHash (backend : Backend) (request : RequestId) (caller : Caller)
    (presented : TokenHash) (now : UtcTimestamp) : Backend :=
  match (storedSession backend presented).filter (·.isActive now) with
  | none => findsNone backend request caller
  | some _ => backend.goes request (.selected caller presented now)

/-- `FOR UPDATE`: waits for the holder of the row and checks the newest version again. -/
def lockActive (backend : Backend) (request : RequestId) (caller : Caller) (presented : TokenHash)
    (now : UtcTimestamp) : Option Backend :=
  (RowTable.lockFree request presented backend.refreshSessions).map fun (session, table) =>
    if session.isActive now then
      { backend with refreshSessions := table }.goes request (match caller with
        | .refreshAccessToken => .locked presented session.userId
        | .logout => .loggingOut presented)
    else findsNone backend request caller

/-- `session.revoked_at = datetime.now(UTC)` and the flush. -/
def revokeSession (backend : Backend) (request : RequestId) (presented : TokenHash)
    (now : UtcTimestamp) (state : RequestState) : Option Backend :=
  (RowTable.update request presented (·.revoke now) backend.refreshSessions).map fun table =>
    { backend with refreshSessions := table }.goes request state

/-! ## `create_login_tokens`, `refresh_access_token` and `logout` -/

section
variable (hashRefreshToken : String → Option TokenHash)

def startRefresh (backend : Backend) (request : RequestId) (refreshToken : String)
    (now : UtcTimestamp) : Backend :=
  match hashRefreshToken refreshToken with
  | none => backend.rollsBack request .rejected
  | some presented => getActiveByHash backend request .refreshAccessToken presented now

/-- `get_by_id` and the check of `is_active`. -/
def readUser (backend : Backend) (request : RequestId) (presented : TokenHash) (userId : Uuid)
    (userIsActive : Bool) : Backend :=
  if userIsActive then backend.goes request (.authorized presented userId)
  else backend.rollsBack request .rejected

def newSession (userId : Uuid) (expiresAt : UtcTimestamp) (presented : Option TokenHash) :
    RefreshSession where
  userId := userId
  expiresAt := expiresAt
  revokedAt := none
  rotatedFrom := presented

/-- A token that cannot be hashed or is taken already ends the request with an error. -/
def createRefreshSession (backend : Backend) (request : RequestId) (presented : Option TokenHash)
    (userId : Uuid) (refreshToken : String) (expiresAt : UtcTimestamp) : Option Backend :=
  match hashRefreshToken refreshToken with
  | none => some (backend.rollsBack request .aborted)
  | some issued =>
    match RowTable.insert request issued (newSession userId expiresAt presented)
        backend.refreshSessions with
    | .done table => some ({ backend with refreshSessions := table }.goes request
        (.inserted presented issued))
    | .conflict => some (backend.rollsBack request .aborted)
    | .waits => none

def commitIssued (backend : Backend) (request : RequestId) (presented : Option TokenHash)
    (issued : TokenHash) : Backend :=
  backend.commits request (match presented with
    | none => .loggedIn issued
    | some presented => .refreshed presented issued)

def startLogout (backend : Backend) (request : RequestId) (refreshToken : String)
    (now : UtcTimestamp) : Backend :=
  match hashRefreshToken refreshToken with
  | none => backend.rollsBack request (.loggedOut none)
  | some presented => getActiveByHash backend request .logout presented now

end

/-! ## `logout_all` -/

/-- The committed sessions that meet a condition. -/
def storedHashes (backend : Backend) (meets : RefreshSession → Bool) : List TokenHash :=
  (backend.refreshSessions.map Prod.fst).filter fun tokenHash =>
    (storedSession backend tokenHash).any meets

/-- The `WHERE` of `revoke_all_for_user`. -/
def RefreshSession.revocableFor (userId : Uuid) (session : RefreshSession) : Bool :=
  decide (session.userId = userId) && session.revokedAt.isNone

def revokeAllForUser (backend : Backend) (request : RequestId) (userId : Uuid)
    (now : UtcTimestamp) : Backend :=
  backend.goes request (.revokingAll userId now (storedHashes backend fun _ => true)
    (storedHashes backend (·.revocableFor userId)))

/-- The `UPDATE` reaches a row of its snapshot, in any order. -/
def visitSession (backend : Backend) (request : RequestId) (userId : Uuid) (now : UtcTimestamp)
    (existing remaining : List TokenHash) (tokenHash : TokenHash) : Option Backend :=
  if tokenHash ∈ remaining then
    let visited : RequestState := .revokingAll userId now existing (remaining.filter (· ≠ tokenHash))
    match (row tokenHash backend.refreshSessions) with
    | ⟨some session, none⟩ =>
      if session.revocableFor userId then revokeSession backend request tokenHash now visited
      else some (backend.goes request visited)
    | _ => none
  else none

/-! ## Interleaving -/

/-- One statement of a request, with what it takes from outside. -/
inductive Statement where
  | startLogin (userId : Uuid)
  | startRefresh (refreshToken : String) (now : UtcTimestamp)
  | startLogout (refreshToken : String) (now : UtcTimestamp)
  | lockActive
  | readUser (userIsActive : Bool)
  | revoke (now : UtcTimestamp)
  | createRefreshSession (refreshToken : String) (expiresAt : UtcTimestamp)
  | commit
  | startLogoutAll (userId : Uuid) (now : UtcTimestamp)
  | visitSession (tokenHash : TokenHash)
  | fail

/-- The request has ended; its session is closed. -/
def RequestState.ended : RequestState → Bool
  | .loggedIn _ | .refreshed _ _ | .loggedOut _ | .loggedOutAll _ _ | .rejected | .aborted => true
  | _ => false

/-- A request takes its next statement; `fail` ends a request without a commit. -/
def backendStep (hashRefreshToken : String → Option TokenHash) (backend : Backend)
    (event : RequestId × Statement) : Option Backend :=
  let (request, statement) := event
  match statement, backend.requests request with
  | .startLogin userId, .idle => some (backend.goes request (.issuing none userId))
  | .startRefresh refreshToken now, .idle =>
    some (startRefresh hashRefreshToken backend request refreshToken now)
  | .startLogout refreshToken now, .idle =>
    some (startLogout hashRefreshToken backend request refreshToken now)
  | .lockActive, .selected caller presented now => lockActive backend request caller presented now
  | .readUser userIsActive, .locked presented userId =>
    some (readUser backend request presented userId userIsActive)
  | .revoke now, .authorized presented userId =>
    revokeSession backend request presented now (.issuing (some presented) userId)
  | .revoke now, .loggingOut presented =>
    revokeSession backend request presented now (.revoked presented)
  | .createRefreshSession refreshToken expiresAt, .issuing presented userId =>
    createRefreshSession hashRefreshToken backend request presented userId refreshToken expiresAt
  | .commit, .inserted presented issued => some (commitIssued backend request presented issued)
  | .commit, .revoked presented => some (backend.commits request (.loggedOut (some presented)))
  | .startLogoutAll userId now, .idle => some (revokeAllForUser backend request userId now)
  | .visitSession tokenHash, .revokingAll userId now existing remaining =>
    visitSession backend request userId now existing remaining tokenHash
  | .commit, .revokingAll userId _ existing [] =>
    some (backend.commits request (.loggedOutAll userId existing))
  | .fail, state => if state.ended then none else some (backend.rollsBack request .aborted)
  | _, _ => none

/-- The tables as the migrations create them, and no request begun. -/
def Backend.Empty (backend : Backend) : Prop := backend = {}

/-! ## Login chains -/

/-- A refresh replaced the first session by the second. -/
def RotatesTo (backend : Backend) (presented issued : TokenHash) : Prop :=
  ∃ session, storedSession backend issued = some session ∧ session.rotatedFrom = some presented

/-- The sessions that successive refreshes obtain from one. -/
def DescendsFrom (backend : Backend) : TokenHash → TokenHash → Prop :=
  Relation.ReflTransGen (RotatesTo backend)

/-- The session of the token is revoked in the committed table. -/
def Ended (backend : Backend) (tokenHash : TokenHash) : Prop :=
  ∃ session, storedSession backend tokenHash = some session ∧ session.revokedAt ≠ none

end EpicKfc.Source.Server.RefreshSessions
