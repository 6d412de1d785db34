import EpicKfc.Lib.Runs
import EpicKfc.Source.Server.RefreshSessions

/-!
# What one statement does to the refresh sessions

`Takes` lists every effect a statement can have, with the guards it passed.
`Coherent` is what all interleavings keep: a held row was active when it was
locked, a row that only its holder sees is the session it is about to issue, and
a session that was replaced is revoked and was replaced once.
-/

namespace EpicKfc.Source.Server.RefreshSessions
open EpicKfc.Lib
open EpicKfc.Lib.RowTable (Table Row row)

/-- The states of a request that read no session it could act on. -/
def RequestState.Refused (state : RequestState) : Prop :=
  state = .rejected ∨ state = .aborted ∨ state = .loggedOut none

def Backend.withSession (backend : Backend) (tokenHash : TokenHash)
    (session : Row RequestId RefreshSession) : Backend :=
  { backend with refreshSessions := RowTable.put tokenHash session backend.refreshSessions }

/-- What a request does once it holds the row of the presented token. -/
def lockedState (caller : Caller) (presented : TokenHash) (userId : Uuid) : RequestState :=
  match caller with
  | .refreshAccessToken => .locked presented userId
  | .logout => .loggingOut presented

/-- The effects that `statement` of `request` can have. -/
inductive Takes (backend : Backend) (request : RequestId) (statement : Statement) :
    Backend → Prop where
  | selects (caller : Caller) (presented : TokenHash) (now : UtcTimestamp) :
      backend.requests request = .idle →
      Takes backend request statement (backend.goes request (.selected caller presented now))
  | locks (caller : Caller) (presented : TokenHash) (now : UtcTimestamp) (session : RefreshSession) :
      backend.requests request = .selected caller presented now →
      row presented backend.refreshSessions = ⟨some session, none⟩ → session.isActive now →
      Takes backend request statement ((backend.withSession presented
        ⟨some session, some (request, session)⟩).goes request
          (lockedState caller presented session.userId))
  | authorizes (presented : TokenHash) (userId : Uuid) :
      backend.requests request = .locked presented userId →
      Takes backend request statement (backend.goes request (.authorized presented userId))
  | revokes (presented : TokenHash) (now : UtcTimestamp) (state : RequestState)
      (table : Table TokenHash RequestId RefreshSession) :
      ((∃ userId, backend.requests request = .authorized presented userId ∧
          state = .issuing (some presented) userId) ∨
        backend.requests request = .loggingOut presented ∧ state = .revoked presented) →
      RowTable.update request presented (·.revoke now) backend.refreshSessions = some table →
      Takes backend request statement ({ backend with refreshSessions := table }.goes request state)
  | issues (userId : Uuid) :
      backend.requests request = .idle →
      Takes backend request statement (backend.goes request (.issuing none userId))
  | inserts (presented : Option TokenHash) (userId : Uuid) (issued : TokenHash)
      (expiresAt : UtcTimestamp) :
      backend.requests request = .issuing presented userId →
      row issued backend.refreshSessions = ⟨none, none⟩ →
      Takes backend request statement ((backend.withSession issued
        ⟨none, some (request, newSession userId expiresAt presented)⟩).goes request
          (.inserted presented issued))
  | commitsIssued (presented : Option TokenHash) (issued : TokenHash) :
      statement = .commit → backend.requests request = .inserted presented issued →
      Takes backend request statement (commitIssued backend request presented issued)
  | commitsLogout (presented : TokenHash) :
      backend.requests request = .revoked presented →
      Takes backend request statement (backend.commits request (.loggedOut (some presented)))
  | logsOutNone :
      (backend.requests request = .idle ∨
        ∃ presented now, backend.requests request = .selected .logout presented now) →
      Takes backend request statement (backend.commits request (.loggedOut none))
  | beginsAll (userId : Uuid) (now : UtcTimestamp) :
      backend.requests request = .idle →
      Takes backend request statement (revokeAllForUser backend request userId now)
  | visits (userId : Uuid) (now : UtcTimestamp) (existing remaining : List TokenHash)
      (tokenHash : TokenHash) (session : RefreshSession) :
      backend.requests request = .revokingAll userId now existing remaining →
      row tokenHash backend.refreshSessions = ⟨some session, none⟩ →
      session.revocableFor userId →
      Takes backend request statement ((backend.withSession tokenHash
        ⟨some session, some (request, session.revoke now)⟩).goes request
          (.revokingAll userId now existing (remaining.filter (· ≠ tokenHash))))
  | skips (userId : Uuid) (now : UtcTimestamp) (existing remaining : List TokenHash)
      (tokenHash : TokenHash) (session : RefreshSession) :
      backend.requests request = .revokingAll userId now existing remaining →
      row tokenHash backend.refreshSessions = ⟨some session, none⟩ →
      session.revocableFor userId = false →
      Takes backend request statement (backend.goes request
        (.revokingAll userId now existing (remaining.filter (· ≠ tokenHash))))
  | commitsAll (userId : Uuid) (now : UtcTimestamp) (existing : List TokenHash) :
      backend.requests request = .revokingAll userId now existing [] →
      Takes backend request statement (backend.commits request (.loggedOutAll userId existing))
  | refuses (state : RequestState) :
      (backend.requests request).ended = false → state.Refused →
      Takes backend request statement (backend.rollsBack request state)

theorem takes_findsNone {backend : Backend} {request : RequestId} {caller : Caller}
    (statement : Statement)
    (reads : backend.requests request = .idle ∨
      ∃ presented now, backend.requests request = .selected caller presented now) :
    Takes backend request statement (findsNone backend request caller) := by
  cases caller with
  | refreshAccessToken =>
    refine .refuses _ ?_ (Or.inl rfl)
    obtain idle | ⟨_, _, selected⟩ := reads
    · rw [idle]; rfl
    · rw [selected]; rfl
  | logout => exact .logsOutNone reads

theorem takes_getActiveByHash {backend : Backend} {request : RequestId} (statement : Statement)
    (caller : Caller) (presented : TokenHash) (now : UtcTimestamp)
    (idle : backend.requests request = .idle) :
    Takes backend request statement (getActiveByHash backend request caller presented now) := by
  unfold getActiveByHash
  split
  · exact takes_findsNone statement (Or.inl idle)
  · exact .selects caller presented now idle

theorem takes_lockActive {backend backend' : Backend} {request : RequestId} (statement : Statement)
    {caller : Caller} {presented : TokenHash} {now : UtcTimestamp}
    (selected : backend.requests request = .selected caller presented now)
    (moved : lockActive backend request caller presented now = some backend') :
    Takes backend request statement backend' := by
  obtain ⟨⟨session, table⟩, locked, rfl⟩ := Option.map_eq_some_iff.mp moved
  obtain ⟨free, rfl⟩ := RowTable.lockFree_some locked
  dsimp only
  split
  · next active =>
    have taken := @Takes.locks backend request statement caller presented now session selected
      free active
    cases caller <;> exact taken
  · exact takes_findsNone statement (Or.inr ⟨_, _, selected⟩)

theorem takes_createRefreshSession {hashRefreshToken : String → Option TokenHash}
    {backend backend' : Backend} {request : RequestId} (statement : Statement)
    {presented : Option TokenHash} {userId : Uuid} {refreshToken : String} {expiresAt : UtcTimestamp}
    (issuing : backend.requests request = .issuing presented userId)
    (moved : createRefreshSession hashRefreshToken backend request presented userId refreshToken
      expiresAt = some backend') : Takes backend request statement backend' := by
  have going : (backend.requests request).ended = false := by rw [issuing]; rfl
  unfold createRefreshSession at moved
  split at moved
  · cases moved
    exact .refuses _ going (Or.inr (Or.inl rfl))
  · next issued _ =>
    split at moved
    · next table inserted =>
      cases moved
      obtain ⟨free, rfl⟩ := RowTable.insert_done inserted
      exact .inserts presented userId issued expiresAt issuing free
    · cases moved
      exact .refuses _ going (Or.inr (Or.inl rfl))
    · cases moved

theorem takes_visitSession {backend backend' : Backend} {request : RequestId} (statement : Statement)
    {userId : Uuid} {now : UtcTimestamp} {existing remaining : List TokenHash} {tokenHash : TokenHash}
    (revoking : backend.requests request = .revokingAll userId now existing remaining)
    (moved : visitSession backend request userId now existing remaining tokenHash = some backend') :
    Takes backend request statement backend' := by
  unfold visitSession at moved
  split at moved
  · dsimp only at moved
    split at moved
    · next session free =>
      split at moved
      · next revocable =>
        obtain ⟨table, updated, rfl⟩ := Option.map_eq_some_iff.mp moved
        simp only [RowTable.update, free, Option.some.injEq] at updated
        subst updated
        exact .visits userId now existing remaining tokenHash session revoking free revocable
      · next kept =>
        cases moved
        exact .skips userId now existing remaining tokenHash session revoking free (by simpa using kept)
    · cases moved
  · cases moved

/-- Every statement that can happen has one of the listed effects. -/
theorem takes_of_step {hashRefreshToken : String → Option TokenHash} {backend backend' : Backend}
    {request : RequestId} {statement : Statement}
    (moved : backendStep hashRefreshToken backend (request, statement) = some backend') :
    Takes backend request statement backend' := by
  simp only [backendStep] at moved
  split at moved
  · next state => cases moved; exact .issues _ state
  · next state =>
    cases moved
    unfold startRefresh
    split
    · exact .refuses _ (by rw [state]; rfl) (Or.inl rfl)
    · exact takes_getActiveByHash _ _ _ _ state
  · next state =>
    cases moved
    unfold startLogout
    split
    · exact .refuses _ (by rw [state]; rfl) (Or.inr (Or.inr rfl))
    · exact takes_getActiveByHash _ _ _ _ state
  · next state => exact takes_lockActive _ state moved
  · next state =>
    cases moved
    unfold readUser
    split
    · exact .authorizes _ _ state
    · exact .refuses _ (by rw [state]; rfl) (Or.inl rfl)
  · next state =>
    obtain ⟨table, updated, rfl⟩ := Option.map_eq_some_iff.mp moved
    exact .revokes _ _ _ table (Or.inl ⟨_, state, rfl⟩) updated
  · next state =>
    obtain ⟨table, updated, rfl⟩ := Option.map_eq_some_iff.mp moved
    exact .revokes _ _ _ table (Or.inr ⟨state, rfl⟩) updated
  · next state => exact takes_createRefreshSession _ state moved
  · next state => cases moved; exact .commitsIssued _ _ rfl state
  · next state => cases moved; exact .commitsLogout _ state
  · next state => cases moved; exact .beginsAll _ _ state
  · next state => exact takes_visitSession _ state moved
  · next state => cases moved; exact .commitsAll _ _ _ state
  · split at moved
    · cases moved
    · next going =>
      cases moved
      exact .refuses _ (by simpa using going) (Or.inr (Or.inl rfl))
  · cases moved

/-- A statement commits what its request holds, or is visible to nobody else. -/
theorem Takes.commits_or_uncommitted {backend backend' : Backend} {request : RequestId}
    {statement : Statement} (taken : Takes backend request statement backend') :
    (∃ state, backend' = backend.commits request state) ∨
      RowTable.Uncommitted request backend.refreshSessions backend'.refreshSessions := by
  cases taken with
  | selects | authorizes | issues | beginsAll | skips => exact Or.inr (.refl request _)
  | locks caller presented now session _ free _ =>
    exact Or.inr (.put (by rw [free]) (by simp [free]))
  | revokes presented now state table _ updated =>
    exact Or.inr (RowTable.update_uncommitted updated)
  | inserts presented userId issued expiresAt _ free =>
    exact Or.inr (.put (by rw [free]) (by simp [free]))
  | visits userId now existing remaining tokenHash session _ free _ =>
    exact Or.inr (.put (by rw [free]) (by simp [free]))
  | commitsIssued | commitsLogout | logsOutNone | commitsAll => exact Or.inl ⟨_, rfl⟩
  | refuses state _ _ => exact Or.inr (RowTable.rollback_uncommitted request _)

/-- Only the request itself moves, and it refreshes a token by committing its rotation. -/
theorem Takes.requests {backend backend' : Backend} {request : RequestId} {statement : Statement}
    (taken : Takes backend request statement backend') :
    ∃ state, backend'.requests = Function.update backend.requests request state ∧
      ∀ presented issued, state = .refreshed presented issued →
        backend.requests request = .inserted (some presented) issued := by
  cases taken with
  | commitsIssued presented issued _ inserted =>
    refine ⟨_, rfl, fun presented' issued' refreshed => ?_⟩
    cases presented with
    | none => cases refreshed
    | some presented =>
      cases refreshed
      exact inserted
  | locks caller => cases caller <;> exact ⟨_, rfl, nofun⟩
  | revokes presented now state table phase _ =>
    rcases phase with ⟨userId, _, rfl⟩ | ⟨_, rfl⟩ <;> exact ⟨_, rfl, nofun⟩
  | refuses state _ refused => rcases refused with rfl | rfl | rfl <;> exact ⟨_, rfl, nofun⟩
  | _ => exact ⟨_, rfl, nofun⟩

/-! ## What every interleaving keeps -/

/-- The request holds the stored session of the token and would write `held`. -/
def Holding (backend : Backend) (request : RequestId) (tokenHash : TokenHash) (userId : Uuid)
    (held : RefreshSession) : Prop :=
  ∃ session, row tokenHash backend.refreshSessions = ⟨some session, some (request, held)⟩ ∧
    session.userId = userId

def PhaseHolds (backend : Backend) (request : RequestId) : RequestState → Prop
  | .locked presented userId | .authorized presented userId =>
    ∃ held, Holding backend request presented userId held
  | .issuing (some presented) userId =>
    ∃ held, Holding backend request presented userId held ∧ held.revokedAt ≠ none
  | .inserted (some presented) _ | .revoked presented =>
    ∃ userId held, Holding backend request presented userId held ∧ held.revokedAt ≠ none
  | .loggingOut presented => ∃ userId held, Holding backend request presented userId held
  | .refreshed presented _ | .loggedOut (some presented) => Ended backend presented
  | _ => True

structure Coherent (backend : Backend) : Prop where
  held : ∀ tokenHash session holder held,
    row tokenHash backend.refreshSessions = ⟨some session, some (holder, held)⟩ →
      session.revokedAt = none ∧ held.userId = session.userId ∧
        held.rotatedFrom = session.rotatedFrom
  fresh : ∀ tokenHash holder held,
    row tokenHash backend.refreshSessions = ⟨none, some (holder, held)⟩ →
      backend.requests holder = .inserted held.rotatedFrom tokenHash ∧
        ∀ presented, held.rotatedFrom = some presented →
          ∃ session, storedSession backend presented = some session ∧ session.userId = held.userId
  phases : ∀ request, PhaseHolds backend request (backend.requests request)
  replacedEnded : ∀ presented issued, RotatesTo backend presented issued → Ended backend presented
  replacedOnce : Relator.RightUnique (RotatesTo backend)
  refreshedOnce : ∀ presented first second issued issued',
    backend.requests first = .refreshed presented issued →
      backend.requests second = .refreshed presented issued' → first = second

theorem Coherent.not_ended {backend : Backend} (coherent : Coherent backend)
    {request : RequestId} {tokenHash : TokenHash} {userId : Uuid} {held : RefreshSession}
    (holding : Holding backend request tokenHash userId held) : ¬ Ended backend tokenHash := by
  rintro ⟨stored, found, revoked⟩
  obtain ⟨session, here, _⟩ := holding
  rw [storedSession, here] at found
  cases found
  exact revoked (coherent.held _ _ _ _ here).1

/-- The phase of a request survives what leaves its rows and the ended sessions. -/
theorem PhaseHolds.frame {backend backend' : Backend} {request : RequestId} {state : RequestState}
    (before : PhaseHolds backend request state)
    (rows : ∀ tokenHash held, (row tokenHash backend.refreshSessions).held = some (request, held) →
      row tokenHash backend'.refreshSessions = row tokenHash backend.refreshSessions)
    (ended : ∀ tokenHash, Ended backend tokenHash → Ended backend' tokenHash) :
    PhaseHolds backend' request state := by
  have still {tokenHash userId held} (holding : Holding backend request tokenHash userId held) :
      Holding backend' request tokenHash userId held := by
    obtain ⟨session, here, user⟩ := holding
    exact ⟨session, (rows tokenHash held (by rw [here])).trans here, user⟩
  cases state with
  | locked presented userId | authorized presented userId =>
    obtain ⟨held, holding⟩ := before
    exact ⟨held, still holding⟩
  | issuing presented userId =>
    cases presented with
    | none => trivial
    | some presented =>
      obtain ⟨held, holding, revoked⟩ := before
      exact ⟨held, still holding, revoked⟩
  | inserted presented issued =>
    cases presented with
    | none => trivial
    | some presented =>
      obtain ⟨userId, held, holding, revoked⟩ := before
      exact ⟨userId, held, still holding, revoked⟩
  | revoked presented =>
    obtain ⟨userId, held, holding, revoked⟩ := before
    exact ⟨userId, held, still holding, revoked⟩
  | loggingOut presented =>
    obtain ⟨userId, held, holding⟩ := before
    exact ⟨userId, held, still holding⟩
  | refreshed presented issued => exact ended presented before
  | loggedOut presented =>
    cases presented with
    | none => trivial
    | some presented => exact ended presented before
  | _ => trivial

/-! ### Statements that commit nothing -/

section
variable {backend backend' : Backend} {request : RequestId}
  (table : RowTable.Uncommitted request backend.refreshSessions backend'.refreshSessions)

include table

theorem storedSession_uncommitted (tokenHash : TokenHash) :
    storedSession backend' tokenHash = storedSession backend tokenHash := table.committed tokenHash

theorem ended_uncommitted (tokenHash : TokenHash) :
    Ended backend' tokenHash ↔ Ended backend tokenHash := by
  unfold Ended
  rw [storedSession_uncommitted table]

theorem rotatesTo_uncommitted : RotatesTo backend' = RotatesTo backend := by
  funext presented issued
  unfold RotatesTo
  rw [storedSession_uncommitted table]

theorem row_uncommitted {tokenHash : TokenHash} {holder : RequestId} {held : RefreshSession}
    (other : holder ≠ request)
    (holds : (row tokenHash backend.refreshSessions).held = some (holder, held)) :
    row tokenHash backend'.refreshSessions = row tokenHash backend.refreshSessions :=
  table.row_eq other ((table.others tokenHash holder held other).mpr holds)

theorem Coherent.uncommitted {state : RequestState} (before : Coherent backend)
    (requests : backend'.requests = Function.update backend.requests request state)
    (held : ∀ tokenHash session held,
      row tokenHash backend'.refreshSessions = ⟨some session, some (request, held)⟩ →
        session.revokedAt = none ∧ held.userId = session.userId ∧
          held.rotatedFrom = session.rotatedFrom)
    (fresh : ∀ tokenHash held,
      row tokenHash backend'.refreshSessions = ⟨none, some (request, held)⟩ →
        state = .inserted held.rotatedFrom tokenHash ∧
          ∀ presented, held.rotatedFrom = some presented →
            ∃ session, storedSession backend presented = some session ∧
              session.userId = held.userId)
    (phase : PhaseHolds backend' request state)
    (open' : ∀ presented issued, state ≠ .refreshed presented issued) : Coherent backend' := by
  have theirs {other : RequestId} (different : other ≠ request) :
      backend'.requests other = backend.requests other := by
    rw [requests, Function.update_of_ne different]
  constructor
  · intro tokenHash session holder theirHeld here
    by_cases same : holder = request
    · subst same
      exact held tokenHash session theirHeld here
    · have earlier := table.row_eq (k := tokenHash) same (by rw [here])
      exact before.held tokenHash session holder theirHeld (earlier ▸ here)
  · intro tokenHash holder theirHeld here
    simp only [storedSession_uncommitted table]
    by_cases same : holder = request
    · subst same
      rw [requests, Function.update_self]
      exact fresh tokenHash theirHeld here
    · have earlier := table.row_eq (k := tokenHash) same (by rw [here])
      rw [theirs same]
      exact before.fresh tokenHash holder theirHeld (earlier ▸ here)
  · intro other
    by_cases same : other = request
    · subst same
      rw [requests, Function.update_self]
      exact phase
    · rw [theirs same]
      refine (before.phases other).frame ?_ fun tokenHash => (ended_uncommitted table tokenHash).mpr
      exact fun tokenHash theirHeld holds => row_uncommitted table same holds
  · intro presented issued rotates
    rw [rotatesTo_uncommitted table] at rotates
    exact (ended_uncommitted table presented).mpr (before.replacedEnded presented issued rotates)
  · rw [rotatesTo_uncommitted table]
    exact before.replacedOnce
  · intro presented first second issued issued' refreshed refreshed'
    have going {other issued} (answered : backend'.requests other = .refreshed presented issued) :
        backend.requests other = .refreshed presented issued := by
      by_cases same : other = request
      · rw [same, requests, Function.update_self] at answered
        exact absurd answered (open' _ _)
      · rw [← theirs same, answered]
    exact before.refreshedOnce presented first second issued issued' (going refreshed)
      (going refreshed')

end

/-! ### Commits -/

section
variable {backend : Backend} {request : RequestId} {state : RequestState}

/-- A stored session after a commit: unchanged, or what the request held. -/
theorem storedSession_commits (backend : Backend) (request : RequestId) (state : RequestState)
    (tokenHash : TokenHash) :
    (∃ held, (row tokenHash backend.refreshSessions).held = some (request, held) ∧
      storedSession (backend.commits request state) tokenHash = some held) ∨
    ((∀ held, (row tokenHash backend.refreshSessions).held ≠ some (request, held)) ∧
      storedSession (backend.commits request state) tokenHash = storedSession backend tokenHash) := by
  unfold storedSession Backend.commits
  obtain ⟨held, holds, now⟩ | ⟨others, same⟩ :=
    RowTable.row_commit_cases request tokenHash backend.refreshSessions
  · exact Or.inl ⟨held, holds, by rw [now]⟩
  · exact Or.inr ⟨others, by rw [same]⟩

/-- What a commit stores over a session keeps its user and where it came from. -/
theorem Coherent.storedSession_commits_some (before : Coherent backend) (request : RequestId)
    (state : RequestState) {tokenHash : TokenHash} {session : RefreshSession}
    (stored : storedSession backend tokenHash = some session) :
    ∃ session', storedSession (backend.commits request state) tokenHash = some session' ∧
      session'.userId = session.userId ∧ session'.rotatedFrom = session.rotatedFrom ∧
      (session.revokedAt ≠ none → session' = session) := by
  obtain ⟨held, holds, now⟩ | ⟨_, same⟩ := storedSession_commits backend request state tokenHash
  · have here : row tokenHash backend.refreshSessions = ⟨some session, some (request, held)⟩ := by
      rw [storedSession] at stored
      cases earlier : row tokenHash backend.refreshSessions
      simp_all
    obtain ⟨unrevoked, user, origin⟩ := before.held tokenHash session request held here
    exact ⟨held, now, user, origin, fun revoked => absurd unrevoked revoked⟩
  · exact ⟨session, same.trans stored, rfl, rfl, fun _ => rfl⟩

theorem Coherent.ended_commits (before : Coherent backend) {tokenHash : TokenHash}
    (ended : Ended backend tokenHash) : Ended (backend.commits request state) tokenHash := by
  obtain ⟨session, stored, revoked⟩ := ended
  obtain ⟨session', stored', _, _, same⟩ := before.storedSession_commits_some request state stored
  exact ⟨session', stored', same revoked ▸ revoked⟩

theorem Holding.ended_commits {tokenHash : TokenHash} {userId : Uuid} {held : RefreshSession}
    (holding : Holding backend request tokenHash userId held) (revoked : held.revokedAt ≠ none) :
    Ended (backend.commits request state) tokenHash := by
  obtain ⟨session, here, _⟩ := holding
  obtain ⟨held', holds, now⟩ | ⟨others, _⟩ := storedSession_commits backend request state tokenHash
  · rw [here] at holds
    cases holds
    exact ⟨held, now, revoked⟩
  · exact absurd (by rw [here]) (others held)

/-- A rotation after a commit is an earlier one, or the one the request commits. -/
theorem Coherent.rotatesTo_commits (before : Coherent backend) {presented issued : TokenHash}
    (rotates : RotatesTo (backend.commits request state) presented issued) :
    RotatesTo backend presented issued ∨
      storedSession backend issued = none ∧
        backend.requests request = .inserted (some presented) issued := by
  obtain ⟨session, stored, origin⟩ := rotates
  obtain ⟨held, holds, now⟩ | ⟨_, same⟩ := storedSession_commits backend request state issued
  · rw [now] at stored
    cases stored
    cases earlier : storedSession backend issued with
    | none =>
      refine Or.inr ⟨rfl, ?_⟩
      have here : row issued backend.refreshSessions = ⟨none, some (request, session)⟩ := by
        rw [storedSession] at earlier
        cases now' : row issued backend.refreshSessions
        simp_all
      rw [(before.fresh issued request session here).1, origin]
    | some original =>
      obtain ⟨session', stored', _, origin', _⟩ :=
        before.storedSession_commits_some request state earlier
      rw [now] at stored'
      cases stored'
      exact Or.inl ⟨original, earlier, origin'.symm.trans origin⟩
  · exact Or.inl ⟨session, same.symm.trans stored, origin⟩

/-- A request about to commit a rotation still holds the session it replaces. -/
theorem Coherent.holding_of_inserted (before : Coherent backend) {presented issued : TokenHash}
    (inserted : backend.requests request = .inserted (some presented) issued) :
    ∃ userId held, Holding backend request presented userId held ∧ held.revokedAt ≠ none := by
  have phase := before.phases request
  rwa [inserted] at phase

theorem Coherent.commits (before : Coherent backend)
    (phase : PhaseHolds (backend.commits request state) request state)
    (answers : ∀ presented issued, state = .refreshed presented issued →
      backend.requests request = .inserted (some presented) issued) :
    Coherent (backend.commits request state) := by
  have rowCases tokenHash := RowTable.row_commit_cases request tokenHash backend.refreshSessions
  have theirs {other : RequestId} (different : other ≠ request) :
      (backend.commits request state).requests other = backend.requests other :=
    Function.update_of_ne different _ _
  have own : (backend.commits request state).requests request = state := Function.update_self ..
  -- a token that another request rotated, or that has a successor, is no longer held
  have unheld {presented issued : TokenHash} (ended : Ended backend presented)
      (inserted : backend.requests request = .inserted (some presented) issued) : False := by
    obtain ⟨userId, held, holding, _⟩ := before.holding_of_inserted inserted
    exact before.not_ended holding ended
  constructor
  · intro tokenHash session holder held here
    obtain ⟨_, _, now⟩ | ⟨_, same⟩ := rowCases tokenHash
    · exact absurd (now.symm.trans here) (by simp)
    · exact before.held tokenHash session holder held (same.symm.trans here)
  · intro tokenHash holder held here
    obtain ⟨_, _, now⟩ | ⟨others, same⟩ := rowCases tokenHash
    · exact absurd (now.symm.trans here) (by simp)
    · have earlier := same.symm.trans here
      have different : holder ≠ request := by
        rintro rfl
        exact others held (by rw [earlier])
      obtain ⟨inserting, replaces⟩ := before.fresh tokenHash holder held earlier
      refine ⟨(theirs different).trans inserting, fun presented origin => ?_⟩
      obtain ⟨session, stored, user⟩ := replaces presented origin
      obtain ⟨session', stored', user', _⟩ :=
        before.storedSession_commits_some request state stored
      exact ⟨session', stored', user'.trans user⟩
  · intro other
    by_cases same : other = request
    · subst same
      rw [own]
      exact phase
    · rw [theirs same]
      refine (before.phases other).frame ?_ fun tokenHash => before.ended_commits
      intro tokenHash held holds
      obtain ⟨_, mine, _⟩ | ⟨_, unchanged⟩ := rowCases tokenHash
      · rw [mine] at holds
        cases holds
        exact absurd rfl same
      · exact unchanged
  · intro presented issued rotates
    rcases before.rotatesTo_commits rotates with earlier | ⟨_, inserted⟩
    · exact before.ended_commits (before.replacedEnded presented issued earlier)
    · obtain ⟨userId, held, holding, revoked⟩ := before.holding_of_inserted inserted
      exact holding.ended_commits revoked
  · intro presented issued issued' rotates rotates'
    rcases before.rotatesTo_commits rotates with earlier | ⟨_, inserted⟩ <;>
      rcases before.rotatesTo_commits rotates' with earlier' | ⟨_, inserted'⟩
    · exact before.replacedOnce earlier earlier'
    · exact (unheld (before.replacedEnded presented issued earlier) inserted').elim
    · exact (unheld (before.replacedEnded presented issued' earlier') inserted).elim
    · rw [inserted] at inserted'
      cases inserted'
      rfl
  · intro presented first second issued issued' refreshed refreshed'
    have endedBefore {other issued} (different : other ≠ request)
        (answered : (backend.commits request state).requests other = .refreshed presented issued) :
        Ended backend presented := by
      have phase := before.phases other
      rwa [← theirs different, answered] at phase
    by_cases same : first = request <;> by_cases same' : second = request
    · rw [same, same']
    · rw [same, own] at refreshed
      exact (unheld (endedBefore same' refreshed') (answers presented issued refreshed)).elim
    · rw [same', own] at refreshed'
      exact (unheld (endedBefore same refreshed) (answers presented issued' refreshed')).elim
    · rw [theirs same] at refreshed
      rw [theirs same'] at refreshed'
      exact before.refreshedOnce presented first second issued issued' refreshed refreshed'

end

/-! ### Every statement -/

/-- A request that only moves on holds the same rows as before. -/
theorem Coherent.goes {backend : Backend} {request : RequestId} {state : RequestState}
    (before : Coherent backend) (phase : PhaseHolds backend request state)
    (notInserting : ∀ presented issued, backend.requests request ≠ .inserted presented issued)
    (open' : ∀ presented issued, state ≠ .refreshed presented issued) :
    Coherent (backend.goes request state) := by
  have unchanged : RowTable.Uncommitted request backend.refreshSessions
      (backend.goes request state).refreshSessions := .refl request _
  refine before.uncommitted unchanged rfl ?_ ?_ ?_ open'
  · exact fun tokenHash session held here => before.held tokenHash session request held here
  · intro tokenHash held here
    exact absurd (before.fresh tokenHash request held here).1 (notInserting _ _)
  · exact phase.frame (fun _ _ _ => rfl) fun _ ended => ended

/-- One stored session that `request` takes or rewrites. -/
theorem Coherent.withSession {backend : Backend} {request : RequestId} {state : RequestState}
    {tokenHash : TokenHash} {session held : RefreshSession} (before : Coherent backend)
    (here : (row tokenHash backend.refreshSessions).committed = some session)
    (free : ∀ holder other, (row tokenHash backend.refreshSessions).held = some (holder, other) →
      holder = request)
    (kept : session.revokedAt = none ∧ held.userId = session.userId ∧
      held.rotatedFrom = session.rotatedFrom)
    (notInserting : ∀ presented issued, backend.requests request ≠ .inserted presented issued)
    (phase : PhaseHolds (backend.withSession tokenHash ⟨some session, some (request, held)⟩)
      request state)
    (open' : ∀ presented issued, state ≠ .refreshed presented issued) :
    Coherent ((backend.withSession tokenHash ⟨some session, some (request, held)⟩).goes
      request state) := by
  refine before.uncommitted (.put here free) rfl ?_ ?_ (phase.frame (fun _ _ _ => rfl)
    fun _ ended => ended) open'
  · intro other original theirs now
    simp only [Backend.goes, Backend.withSession, RowTable.row_put] at now
    split at now
    · cases now
      exact kept
    · exact before.held other original request theirs now
  · intro other theirs now
    simp only [Backend.goes, Backend.withSession, RowTable.row_put] at now
    split at now
    · cases now
    · exact absurd (before.fresh other request theirs now).1 (notInserting _ _)

theorem holding_withSession {backend : Backend} {request : RequestId} {tokenHash : TokenHash}
    {session held : RefreshSession} :
    Holding (backend.withSession tokenHash ⟨some session, some (request, held)⟩) request tokenHash
      session.userId held :=
  ⟨session, by rw [Backend.withSession, RowTable.row_put, if_pos rfl], rfl⟩

/-- A request marks the session that it holds as revoked. -/
theorem Coherent.revokes {backend : Backend} {request : RequestId} {presented : TokenHash}
    {now : UtcTimestamp} {state : RequestState} {table : Table TokenHash RequestId RefreshSession}
    (before : Coherent backend)
    (phase : (∃ userId, backend.requests request = .authorized presented userId ∧
        state = .issuing (some presented) userId) ∨
      backend.requests request = .loggingOut presented ∧ state = .revoked presented)
    (updated : RowTable.update request presented (·.revoke now) backend.refreshSessions =
      some table) : Coherent ({ backend with refreshSessions := table }.goes request state) := by
  have holding : ∃ userId held, Holding backend request presented userId held ∧
      ∀ userId', state = .issuing (some presented) userId' → userId = userId' := by
    have earlier := before.phases request
    rcases phase with ⟨userId, authorized, rfl⟩ | ⟨loggingOut, rfl⟩
    · rw [authorized] at earlier
      obtain ⟨held, holding⟩ := earlier
      refine ⟨userId, held, holding, fun userId' same => ?_⟩
      cases same
      rfl
    · rw [loggingOut] at earlier
      obtain ⟨userId, held, holding⟩ := earlier
      exact ⟨userId, held, holding, fun userId' same => by cases same⟩
  obtain ⟨userId, held, ⟨session, here, user⟩, known⟩ := holding
  rw [RowTable.update_of_held here] at updated
  cases updated
  obtain ⟨unrevoked, sameUser, sameOrigin⟩ := before.held presented session request held here
  refine before.withSession (by rw [here]) (by simp [here]) ⟨unrevoked, sameUser, sameOrigin⟩
    ?_ ?_ ?_
  · rcases phase with ⟨userId, authorized, _⟩ | ⟨loggingOut, _⟩
    · simp [authorized]
    · simp [loggingOut]
  · rcases phase with ⟨userId', _, rfl⟩ | ⟨_, rfl⟩
    · exact ⟨_, known userId' rfl ▸ user ▸ holding_withSession, by simp [RefreshSession.revoke]⟩
    · exact ⟨_, _, holding_withSession, by simp [RefreshSession.revoke]⟩
  · rcases phase with ⟨userId', _, rfl⟩ | ⟨_, rfl⟩ <;> exact fun _ _ same => by cases same

/-- A request inserts the session that replaces the one it holds, or that of a login. -/
theorem Coherent.inserts {backend : Backend} {request : RequestId} {presented : Option TokenHash}
    {userId : Uuid} {issued : TokenHash} (before : Coherent backend) (expiresAt : UtcTimestamp)
    (issuing : backend.requests request = .issuing presented userId)
    (free : row issued backend.refreshSessions = ⟨none, none⟩) :
    Coherent ((backend.withSession issued
      ⟨none, some (request, newSession userId expiresAt presented)⟩).goes request
        (.inserted presented issued)) := by
  have earlier := before.phases request
  rw [issuing] at earlier
  refine before.uncommitted (.put (by rw [free]) (by simp [free])) rfl ?_ ?_ ?_ fun _ _ same => by cases same
  · intro other original theirs now
    simp only [Backend.goes, Backend.withSession, RowTable.row_put] at now
    split at now
    · cases now
    · exact before.held other original request theirs now
  · intro other theirs now
    simp only [Backend.goes, Backend.withSession, RowTable.row_put] at now
    split at now
    · next same =>
      cases now
      subst same
      refine ⟨rfl, fun replaced origin => ?_⟩
      cases presented with
      | none => cases origin
      | some presented =>
        cases origin
        obtain ⟨held, ⟨session, here, user⟩, _⟩ := earlier
        exact ⟨session, by rw [storedSession, here], user⟩
    · exact absurd (before.fresh other request theirs now).1 (by simp [issuing])
  · cases presented with
    | none => trivial
    | some presented =>
      obtain ⟨held, ⟨session, here, user⟩, revoked⟩ := earlier
      refine ⟨userId, held, ⟨session, ?_, user⟩, revoked⟩
      have different : issued ≠ presented := by
        rintro rfl
        rw [free] at here
        cases here
      simp only [Backend.goes, Backend.withSession, RowTable.row_put, if_neg different]
      exact here

/-- One statement keeps the invariant. -/
theorem coherent_takes {backend backend' : Backend} {request : RequestId} {statement : Statement}
    (before : Coherent backend) (taken : Takes backend request statement backend') :
    Coherent backend' := by
  cases taken with
  | selects caller presented now idle => exact before.goes trivial (by simp [idle]) fun _ _ same => by cases same
  | locks caller presented now session selected free active =>
    have unrevoked : session.revokedAt = none := by
      simp only [RefreshSession.isActive, Bool.and_eq_true, Option.isNone_iff_eq_none] at active
      exact active.1
    refine before.withSession (by rw [free]) (by simp [free]) ⟨unrevoked, rfl, rfl⟩
      (by simp [selected]) ?_ ?_
    · cases caller with
      | refreshAccessToken => exact ⟨session, holding_withSession⟩
      | logout => exact ⟨session.userId, session, holding_withSession⟩
    · cases caller <;> exact fun _ _ same => by cases same
  | authorizes presented userId locked =>
    have phase := before.phases request
    rw [locked] at phase
    exact before.goes phase (by simp [locked]) fun _ _ same => by cases same
  | revokes presented now state table phase updated => exact before.revokes phase updated
  | issues userId idle => exact before.goes trivial (by simp [idle]) fun _ _ same => by cases same
  | inserts presented userId issued expiresAt issuing free =>
    exact before.inserts expiresAt issuing free
  | commitsIssued presented issued _ inserted =>
    cases presented with
    | none => exact before.commits trivial fun _ _ same => by cases same
    | some presented =>
      obtain ⟨userId, held, holding, revoked⟩ := before.holding_of_inserted inserted
      refine before.commits (holding.ended_commits revoked) fun presented' issued' same => ?_
      cases same
      exact inserted
  | commitsLogout presented revoking =>
    have phase := before.phases request
    rw [revoking] at phase
    obtain ⟨userId, held, holding, revoked⟩ := phase
    exact before.commits (holding.ended_commits revoked) fun _ _ same => by cases same
  | logsOutNone _ => exact before.commits trivial fun _ _ same => by cases same
  | beginsAll userId now idle => exact before.goes trivial (by simp [idle]) fun _ _ same => by cases same
  | visits userId now existing remaining tokenHash session revoking free revocable =>
    have unrevoked : session.revokedAt = none := by
      simp only [RefreshSession.revocableFor, Bool.and_eq_true, Option.isNone_iff_eq_none] at revocable
      exact revocable.2
    exact before.withSession (by rw [free]) (by simp [free]) ⟨unrevoked, rfl, rfl⟩
      (by simp [revoking]) trivial fun _ _ same => by cases same
  | skips userId now existing remaining tokenHash session revoking _ _ =>
    exact before.goes trivial (by simp [revoking]) fun _ _ same => by cases same
  | commitsAll userId now existing _ => exact before.commits trivial fun _ _ same => by cases same
  | refuses state _ refused =>
    have releases tokenHash held := RowTable.rollback_releases request tokenHash held
      backend.refreshSessions
    refine before.uncommitted (RowTable.rollback_uncommitted request _) rfl ?_ ?_ ?_ ?_
    · exact fun tokenHash _ held here => absurd (congrArg Row.held here) (releases tokenHash held)
    · exact fun tokenHash held here => absurd (congrArg Row.held here) (releases tokenHash held)
    · rcases refused with rfl | rfl | rfl <;> trivial
    · rcases refused with rfl | rfl | rfl <;> exact fun _ _ same => by cases same

theorem coherent_empty {backend : Backend} (empty : backend.Empty) : Coherent backend := by
  cases empty
  have noRow {presented issued} (rotates : RotatesTo {} presented issued) : False := by
    obtain ⟨session, stored, _⟩ := rotates
    cases stored
  refine ⟨?_, ?_, fun _ => trivial, fun _ _ rotates => (noRow rotates).elim,
    fun _ _ _ rotates => (noRow rotates).elim, nofun⟩
  · intro tokenHash session holder held here
    cases here
  · intro tokenHash holder held here
    cases here

theorem coherent_reachable {hashRefreshToken : String → Option TokenHash}
    {meets : Backend → RequestId × Statement → Prop} {backend : Backend}
    (reached : Runs.ReachableBy (backendStep hashRefreshToken) Backend.Empty meets backend) :
    Coherent backend :=
  Runs.invariant_of_preserved (fun _ => coherent_empty)
    (fun _ _ _ before _ moved => coherent_takes before (takes_of_step moved)) reached

end EpicKfc.Source.Server.RefreshSessions
