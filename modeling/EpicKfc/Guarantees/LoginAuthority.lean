import EpicKfc.Guarantees.TokenRotation
import EpicKfc.Lib.Lineage
import EpicKfc.Source.Server.AccessTokens

/-!
# Sessions come from logins

A refresh passes on the user of the session it replaces, so in every interleaving a
stored session leads back, through the sessions it was rotated from, to exactly one
login, of its own user. An access token that came with a session acts, until it
expires, for that user alone.
-/

namespace EpicKfc.Guarantees.LoginAuthority
open EpicKfc.Lib
open EpicKfc.Lib.RowTable (row)
open EpicKfc.Source.Server (UtcTimestamp Uuid)
open EpicKfc.Source.Server.AccessTokens
open EpicKfc.Source.Server.UserAccounts (User asciiMapping lower userRole)
open EpicKfc.Source.Server.RefreshSessions

/-- What an ended login or refresh answered with: the session it replaced, and its own. -/
def answerOf : RequestState → Option (Option TokenHash × TokenHash)
  | .loggedIn issued => some (none, issued)
  | .refreshed presented issued => some (some presented, issued)
  | _ => none

/-- Nothing of a session that is being issued, or has been. -/
def IssuesNothing : RequestState → Prop
  | .issuing none _ | .inserted _ _ | .loggedIn _ | .refreshed _ _ => False
  | _ => True

/-! ## One statement -/

section
variable {backend backend' : Backend} {request : RequestId} {statement : Statement}
  (taken : Takes backend request statement backend')
include taken

/-- Requests that have ended take no more statements. -/
theorem running : (backend.requests request).ended = false := by
  cases taken with
  | locks caller presented now session selected => simp [selected, RequestState.ended]
  | revokes presented now state table phase =>
    obtain ⟨userId, authorized, -⟩ | ⟨loggingOut, -⟩ := phase
    · simp [authorized, RequestState.ended]
    · simp [loggingOut, RequestState.ended]
  | logsOutNone phase =>
    obtain idle | ⟨presented, now, selected⟩ := phase
    · simp [idle, RequestState.ended]
    · simp [selected, RequestState.ended]
  | refuses state running => exact running
  | commitsIssued presented issued committing inserted => simp [inserted, RequestState.ended]
  | inserts presented userId issued expiresAt issuing => simp [issuing, RequestState.ended]
  | visits userId now existing remaining tokenHash session revoking
  | skips userId now existing remaining tokenHash session revoking
  | commitsAll userId now existing revoking => simp [revoking, RequestState.ended]
  | selects caller presented now phase
  | authorizes presented userId phase
  | issues userId phase
  | commitsLogout presented phase
  | beginsAll userId now phase => simp [phase, RequestState.ended]

theorem ended_stays {other : RequestId} (closed : (backend.requests other).ended = true) :
    backend'.requests other = backend.requests other := by
  obtain ⟨state, moved, -⟩ := taken.requests
  have different : other ≠ request := by
    rintro rfl
    rw [running taken] at closed
    cases closed
  rw [moved, Function.update_of_ne different]

/-- A session is issued in three statements: the request names its user, inserts the session
and commits it. -/
theorem issues_cases :
    (∃ userId, backend.requests request = .idle ∧
      backend' = backend.goes request (.issuing none userId)) ∨
    (∃ presented userId issued expiresAt, backend.requests request = .issuing presented userId ∧
      backend' = (backend.withSession issued
        ⟨none, some (request, newSession userId expiresAt presented)⟩).goes request
          (.inserted presented issued)) ∨
    (∃ presented issued, backend.requests request = .inserted presented issued ∧
      backend' = commitIssued backend request presented issued) ∨
    IssuesNothing (backend'.requests request) := by
  cases taken with
  | issues userId idle => exact .inl ⟨userId, idle, rfl⟩
  | inserts presented userId issued expiresAt issuing =>
    exact .inr (.inl ⟨presented, userId, issued, expiresAt, issuing, rfl⟩)
  | commitsIssued presented issued committing inserted =>
    exact .inr (.inr (.inl ⟨presented, issued, inserted, rfl⟩))
  | locks caller =>
    refine .inr (.inr (.inr ?_))
    cases caller <;> simp [Backend.goes, lockedState, IssuesNothing]
  | revokes presented now state table phase =>
    refine .inr (.inr (.inr ?_))
    obtain ⟨userId, -, rfl⟩ | ⟨-, rfl⟩ := phase
    · simp [Backend.goes, IssuesNothing]
    · simp [Backend.goes, IssuesNothing]
  | refuses state running refused =>
    refine .inr (.inr (.inr ?_))
    obtain rfl | rfl | rfl := refused
    all_goals simp [Backend.rollsBack, IssuesNothing]
  | _ => simp [Backend.goes, Backend.commits, revokeAllForUser, IssuesNothing]

/-- A request inserts the session of the user it is for. -/
theorem inserts_of_inserted {presented : Option TokenHash} {issued : TokenHash}
    (after : backend'.requests request = .inserted presented issued) :
    ∃ userId expiresAt, backend.requests request = .issuing presented userId ∧
      row issued backend'.refreshSessions =
        ⟨none, some (request, newSession userId expiresAt presented)⟩ := by
  obtain ⟨userId, -, rfl⟩ | ⟨presented', userId, issued', expiresAt, issuing, rfl⟩ |
    ⟨presented', issued', -, rfl⟩ | nothing := issues_cases taken
  · simp [Backend.goes] at after
  · simp only [Backend.goes, Function.update_self, RequestState.inserted.injEq] at after
    obtain ⟨rfl, rfl⟩ := after
    exact ⟨userId, expiresAt, issuing, by simp [Backend.goes, Backend.withSession, RowTable.row_put]⟩
  · cases presented' <;> simp [commitIssued, Backend.commits] at after
  · rw [after] at nothing
    exact nothing.elim

/-- A request that has inserted its session commits it, or leaves nothing. -/
theorem answers_or_uncommitted {presented : Option TokenHash} {issued : TokenHash}
    (inserting : backend.requests request = .inserted presented issued) :
    backend' = commitIssued backend request presented issued ∨
      RowTable.Uncommitted request backend.refreshSessions backend'.refreshSessions := by
  cases taken with
  | commitsIssued presented' issued' committing inserted =>
    rw [inserting, RequestState.inserted.injEq] at inserted
    obtain ⟨rfl, rfl⟩ := inserted
    exact Or.inl rfl
  | refuses => exact Or.inr (RowTable.rollback_uncommitted request _)
  | revokes presented' now state table phase => simp [inserting] at phase
  | logsOutNone phase => simp [inserting] at phase
  | locks caller presented' now session phase
  | inserts presented' userId issued expiresAt phase
  | visits userId now existing remaining tokenHash session phase
  | skips userId now existing remaining tokenHash session phase
  | commitsAll userId now existing phase
  | selects caller presented' now phase
  | authorizes presented' userId phase
  | issues userId phase
  | commitsLogout presented' phase
  | beginsAll userId now phase =>
    rw [inserting] at phase
    cases phase

/-- Only what was inserted is answered. -/
theorem inserted_of_answered {presented : Option TokenHash} {issued : TokenHash}
    (answered : answerOf (backend'.requests request) = some (presented, issued)) :
    backend.requests request = .inserted presented issued ∧
      backend' = commitIssued backend request presented issued := by
  obtain ⟨userId, -, rfl⟩ | ⟨presented', userId, issued', expiresAt, -, rfl⟩ |
    ⟨presented', issued', inserted, rfl⟩ | nothing := issues_cases taken
  · simp [Backend.goes, answerOf] at answered
  · simp [Backend.goes, answerOf] at answered
  · have same : presented' = presented ∧ issued' = issued := by
      cases presented' <;>
        simpa [commitIssued, Backend.commits, answerOf] using answered
    obtain ⟨rfl, rfl⟩ := same
    exact ⟨inserted, rfl⟩
  · cases state : backend'.requests request <;> simp_all [answerOf, IssuesNothing]

/-- What a request holds survives the statements of others. -/
theorem row_others {other : RequestId} {tokenHash : TokenHash} {held : RefreshSession}
    (different : other ≠ request)
    (holds : (row tokenHash backend.refreshSessions).held = some (other, held)) :
    row tokenHash backend'.refreshSessions = row tokenHash backend.refreshSessions := by
  obtain ⟨state, rfl⟩ | unseen := taken.commits_or_uncommitted
  · obtain ⟨mine, holding, -⟩ | ⟨-, same⟩ :=
      RowTable.row_commit_cases request tokenHash backend.refreshSessions
    · rw [holds] at holding
      cases holding
      exact absurd rfl different
    · exact same
  · exact row_uncommitted unseen different holds

end

/-- An idle request begins to issue without a session only by a login. -/
theorem startLogin_of_idle {hashRefreshToken : String → Option TokenHash}
    {backend backend' : Backend} {request : RequestId} {statement : Statement} {userId : Uuid}
    (idle : backend.requests request = .idle)
    (moved : backendStep hashRefreshToken backend (request, statement) = some backend')
    (after : backend'.requests request = .issuing none userId) : statement = .startLogin userId := by
  cases statement with
  | startLogin user =>
    simp only [backendStep, idle, Option.some.injEq] at moved
    subst moved
    simpa [Backend.goes] using after
  | startRefresh refreshToken now =>
    simp only [backendStep, idle, Option.some.injEq] at moved
    subst moved
    simp only [startRefresh, getActiveByHash, findsNone] at after
    repeat' split at after
    all_goals simp [Backend.goes, Backend.rollsBack] at after
  | startLogout refreshToken now =>
    simp only [backendStep, idle, Option.some.injEq] at moved
    subst moved
    simp only [startLogout, getActiveByHash, findsNone] at after
    repeat' split at after
    all_goals simp [Backend.goes, Backend.rollsBack, Backend.commits] at after
  | startLogoutAll user now =>
    simp only [backendStep, idle, Option.some.injEq] at moved
    subst moved
    simp [revokeAllForUser, Backend.goes] at after
  | fail =>
    simp only [backendStep, idle, RequestState.ended, if_false, Bool.false_eq_true,
      Option.some.injEq] at moved
    subst moved
    simp [Backend.rollsBack] at after
  | _ => simp [backendStep, idle] at moved

/-- A request begins to issue without a session only by a login. -/
theorem startLogin_of_issuing {hashRefreshToken : String → Option TokenHash}
    {backend backend' : Backend} {request : RequestId} {statement : Statement} {userId : Uuid}
    (moved : backendStep hashRefreshToken backend (request, statement) = some backend')
    (after : backend'.requests request = .issuing none userId) : statement = .startLogin userId := by
  obtain ⟨other, idle, -⟩ | ⟨presented, other, issued, expiresAt, -, rfl⟩ |
    ⟨presented, issued, -, rfl⟩ | nothing := issues_cases (takes_of_step moved)
  · exact startLogin_of_idle idle moved after
  · simp [Backend.goes] at after
  · cases presented <;> simp [commitIssued, Backend.commits] at after
  · rw [after] at nothing
    exact nothing.elim

/-! ## What every interleaving keeps -/

/-- A login of the user began a chain that the session of the token belongs to. -/
def FromLogin (logins : RequestId → Uuid → Prop) (backend : Backend) (tokenHash : TokenHash)
    (userId : Uuid) : Prop :=
  ∃ login first request, DescendsFrom backend login tokenHash ∧
    storedSession backend login = some first ∧ first.rotatedFrom = none ∧ first.userId = userId ∧
    backend.requests request = .loggedIn login ∧ logins request userId

structure Authorized (logins : RequestId → Uuid → Prop) (backend : Backend) : Prop where
  issuing : ∀ request userId, backend.requests request = .issuing none userId → logins request userId
  inserted : ∀ request presented issued, backend.requests request = .inserted presented issued →
    ∃ held, row issued backend.refreshSessions = ⟨none, some (request, held)⟩ ∧
      held.rotatedFrom = presented ∧ (presented = none → logins request held.userId)
  answered : ∀ request presented issued,
    answerOf (backend.requests request) = some (presented, issued) →
      ∃ session, storedSession backend issued = some session ∧ session.rotatedFrom = presented
  stored : ∀ tokenHash session, storedSession backend tokenHash = some session →
    FromLogin logins backend tokenHash session.userId

variable {logins : RequestId → Uuid → Prop} {backend backend' : Backend} {request : RequestId}
  {statement : Statement}

/-- A stored session keeps its user and where it came from. -/
theorem sessions_kept (coherent : Coherent backend) (taken : Takes backend request statement backend')
    {tokenHash : TokenHash} {session : RefreshSession}
    (stored : storedSession backend tokenHash = some session) :
    ∃ session', storedSession backend' tokenHash = some session' ∧
      session'.userId = session.userId ∧ session'.rotatedFrom = session.rotatedFrom := by
  obtain ⟨state, rfl⟩ | unseen := taken.commits_or_uncommitted
  · obtain ⟨session', stored', user, origin, -⟩ :=
      coherent.storedSession_commits_some request state stored
    exact ⟨session', stored', user, origin⟩
  · rw [storedSession_uncommitted unseen]
    exact ⟨session, stored, rfl, rfl⟩

/-- A chain stays a chain. -/
theorem fromLogin_kept (coherent : Coherent backend) (taken : Takes backend request statement backend')
    {tokenHash : TokenHash} {userId : Uuid} (came : FromLogin logins backend tokenHash userId) :
    FromLogin logins backend' tokenHash userId := by
  obtain ⟨login, first, other, descends, stored, origin, user, loggedIn, began⟩ := came
  obtain ⟨first', stored', user', origin'⟩ := sessions_kept coherent taken stored
  have rotates (presented issued : TokenHash) (before : RotatesTo backend presented issued) :
      RotatesTo backend' presented issued := by
    obtain ⟨session, found, rotated⟩ := before
    obtain ⟨session', found', -, rotated'⟩ := sessions_kept coherent taken found
    exact ⟨session', found', rotated'.trans rotated⟩
  refine ⟨login, first', other, Relation.ReflTransGen.mono rotates _ _ descends, stored',
    origin'.trans origin, user'.trans user, ?_, began⟩
  rw [ended_stays taken (by rw [loggedIn]; rfl), loggedIn]

/-- A session that a commit stores continues the chain of the one it replaces, or begins its own. -/
theorem fromLogin_committed (coherent : Coherent backend) (before : Authorized logins backend)
    {state : RequestState}
    (taken : Takes backend request statement (backend.commits request state))
    {tokenHash : TokenHash} {session : RefreshSession}
    (here : row tokenHash backend.refreshSessions = ⟨none, some (request, session)⟩)
    (stored : storedSession (backend.commits request state) tokenHash = some session) :
    FromLogin logins (backend.commits request state) tokenHash session.userId := by
  obtain ⟨inserting, replaces⟩ := coherent.fresh tokenHash request session here
  cases origin : session.rotatedFrom with
  | none =>
    rw [origin] at inserting
    obtain ⟨own, here', -, began⟩ := before.inserted request none tokenHash inserting
    rw [here] at here'
    cases here'
    obtain answers | unseen := answers_or_uncommitted taken inserting
    · have loggedIn : (backend.commits request state).requests request = .loggedIn tokenHash := by
        rw [answers]
        exact Function.update_self ..
      exact ⟨tokenHash, session, request, .refl, stored, origin, rfl, loggedIn, began rfl⟩
    · have earlier : storedSession backend tokenHash = none := by rw [storedSession, here]
      rw [storedSession_uncommitted unseen, earlier] at stored
      cases stored
  | some presented =>
    obtain ⟨replaced, storedReplaced, user⟩ := replaces presented origin
    obtain ⟨login, first, other, descends, rest⟩ :=
      fromLogin_kept coherent taken (before.stored presented replaced storedReplaced)
    rw [← user]
    exact ⟨login, first, other, descends.tail ⟨session, stored, origin⟩, rest⟩

/-- A commit stores sessions of known users: the one it replaces, or the one that logs in. -/
theorem stored_commits (coherent : Coherent backend) (before : Authorized logins backend)
    {state : RequestState}
    (taken : Takes backend request statement (backend.commits request state)) :
    ∀ tokenHash session, storedSession (backend.commits request state) tokenHash = some session →
      FromLogin logins (backend.commits request state) tokenHash session.userId := by
  intro tokenHash session stored
  cases earlier : storedSession backend tokenHash with
  | some original =>
    obtain ⟨session', stored', user, -⟩ :=
      coherent.storedSession_commits_some request state earlier
    rw [stored] at stored'
    cases stored'
    exact user ▸ fromLogin_kept coherent taken (before.stored tokenHash original earlier)
  | none =>
    obtain ⟨held, holds, now⟩ | ⟨-, same⟩ := storedSession_commits backend request state tokenHash
    · rw [stored] at now
      cases now
      have here : row tokenHash backend.refreshSessions = ⟨none, some (request, session)⟩ := by
        rw [storedSession] at earlier
        cases current : row tokenHash backend.refreshSessions
        simp_all
      exact fromLogin_committed coherent before taken here stored
    · rw [same, earlier] at stored
      cases stored

theorem authorized_step {hashRefreshToken : String → Option TokenHash} (coherent : Coherent backend)
    (before : Authorized logins backend)
    (met : ∀ userId, statement = .startLogin userId → logins request userId)
    (moved : backendStep hashRefreshToken backend (request, statement) = some backend') :
    Authorized logins backend' := by
  have taken := takes_of_step moved
  have others {other : RequestId} (different : other ≠ request) :
      backend'.requests other = backend.requests other := by
    obtain ⟨state, requests, -⟩ := taken.requests
    rw [requests, Function.update_of_ne different]
  constructor
  · intro other userId issuing
    by_cases same : other = request
    · subst same
      exact met userId (startLogin_of_issuing moved issuing)
    · rw [others same] at issuing
      exact before.issuing other userId issuing
  · intro other presented issued inserted
    by_cases same : other = request
    · subst same
      obtain ⟨userId, expiresAt, issuing, here⟩ := inserts_of_inserted taken inserted
      refine ⟨_, here, rfl, ?_⟩
      rintro rfl
      exact before.issuing other userId issuing
    · rw [others same] at inserted
      obtain ⟨held, here, origin, began⟩ := before.inserted other presented issued inserted
      exact ⟨held, (row_others taken same (by rw [here])).trans here, origin, began⟩
  · intro other presented issued answered
    by_cases same : other = request
    · subst same
      obtain ⟨inserted, rfl⟩ := inserted_of_answered taken answered
      obtain ⟨held, here, origin, -⟩ := before.inserted other presented issued inserted
      obtain ⟨mine, holds, now⟩ | ⟨others, -⟩ := storedSession_commits backend other _ issued
      · rw [here] at holds
        cases holds
        exact ⟨held, now, origin⟩
      · exact absurd (by rw [here]) (others held)
    · rw [others same] at answered
      obtain ⟨session, stored, origin⟩ := before.answered other presented issued answered
      obtain ⟨session', stored', -, origin'⟩ := sessions_kept coherent taken stored
      exact ⟨session', stored', origin'.trans origin⟩
  · obtain ⟨state, rfl⟩ | unseen := taken.commits_or_uncommitted
    · exact stored_commits coherent before taken
    · intro tokenHash session stored
      rw [storedSession_uncommitted unseen] at stored
      exact fromLogin_kept coherent taken (before.stored tokenHash session stored)

/-! ## Every run -/

section
variable {hashRefreshToken : String → Option TokenHash} {events : List (RequestId × Statement)}

theorem authorized_run (ends : Runs.run (backendStep hashRefreshToken) {} events = some backend) :
    Coherent backend ∧
      Authorized (fun request userId => (request, .startLogin userId) ∈ events) backend := by
  have reached : Runs.ReachableBy (backendStep hashRefreshToken) Backend.Empty
      (fun _ event => event ∈ events) backend :=
    Runs.reachableBy_of_run events (.start rfl) (Runs.everyStep_of_forall (fun _ member _ => member) _)
      ends
  refine @Runs.invariant_of_preserved _ _ _ _ _ (fun backend => Coherent backend ∧
    Authorized (fun request userId => (request, .startLogin userId) ∈ events) backend) ?_ ?_ _ reached
  · rintro start rfl
    refine ⟨@coherent_reachable hashRefreshToken (fun _ _ => True) _ (.start rfl), nofun, nofun, nofun, ?_⟩
    intro tokenHash session stored
    cases stored
  · rintro before ⟨request, statement⟩ after ⟨coherent, authorized⟩ member moved
    refine ⟨coherent_takes coherent (takes_of_step moved),
      authorized_step coherent authorized ?_ moved⟩
    rintro userId rfl
    exact member

/-- A chain leads back to one session without a predecessor. -/
theorem login_unique {backend : Backend} {first second tokenHash : TokenHash}
    (descends : DescendsFrom backend first tokenHash) (descends' : DescendsFrom backend second tokenHash)
    (origin : ∀ presented, ¬ RotatesTo backend presented first)
    (origin' : ∀ presented, ¬ RotatesTo backend presented second) : first = second := by
  refine @Lineage.root_unique _ (fun login => ∀ presented, ¬ RotatesTo backend presented login)
    (Function.swap (RotatesTo backend)) ?_ ?_ tokenHash first second descends.swap descends'.swap
    origin origin'
  · rintro issued presented presented' ⟨session, stored, rotated⟩ ⟨session', stored', rotated'⟩
    rw [stored] at stored'
    cases stored'
    rw [rotated] at rotated'
    exact Option.some.inj rotated'
  · exact fun issued presented root rotates => root presented rotates

theorem no_origin {tokenHash : TokenHash} {session : RefreshSession}
    (stored : storedSession backend tokenHash = some session) (origin : session.rotatedFrom = none) :
    ∀ presented, ¬ RotatesTo backend presented tokenHash := by
  rintro presented ⟨session', stored', rotated⟩
  rw [stored] at stored'
  cases stored'
  rw [origin] at rotated
  cases rotated

/-- However requests interleave, the answer to a login or refresh names a stored session, and every
stored session descends from exactly one login, which has answered and was for the session's user. -/
theorem sessions_descend_from_logins
    (ends : Runs.run (backendStep hashRefreshToken) {} events = some backend) :
    (∀ request presented issued, answerOf (backend.requests request) = some (presented, issued) →
      ∃ session, storedSession backend issued = some session ∧ session.rotatedFrom = presented) ∧
    ∀ tokenHash session, storedSession backend tokenHash = some session →
      ∃ login first request, DescendsFrom backend login tokenHash ∧
        storedSession backend login = some first ∧ first.rotatedFrom = none ∧
        first.userId = session.userId ∧ backend.requests request = .loggedIn login ∧
        (request, .startLogin session.userId) ∈ events ∧
        ∀ other original, DescendsFrom backend other tokenHash →
          storedSession backend other = some original → original.rotatedFrom = none →
            other = login := by
  refine ⟨(authorized_run ends).2.answered, fun tokenHash session stored => ?_⟩
  obtain ⟨login, first, request, descends, found, origin, user, loggedIn, began⟩ :=
    (authorized_run ends).2.stored tokenHash session stored
  refine ⟨login, first, request, descends, found, origin, user, loggedIn, began, ?_⟩
  intro other original descends' stored' origin'
  exact login_unique descends' descends (no_origin stored' origin') (no_origin found origin)

/-- A login of the user is where the session of the token comes from. -/
def ActsFor (events : List (RequestId × Statement)) (backend : Backend) (issued : TokenHash)
    (userId : Uuid) : Prop :=
  ∃ login request, DescendsFrom backend login issued ∧ backend.requests request = .loggedIn login ∧
    (request, .startLogin userId) ∈ events

/-- The access token of an answered login or refresh is accepted exactly until it expires and while
its user is active, and whoever presents it acts for a user who has logged in. -/
theorem access_tokens_act_for_logins
    (ends : Runs.run (backendStep hashRefreshToken) {} events = some backend)
    {answering : RequestId} {presented : Option TokenHash} {issued : TokenHash}
    (answered : answerOf (backend.requests answering) = some (presented, issued)) :
    ∃ session, storedSession backend issued = some session ∧
      ∀ settings jwt issuedAt role jti token, role ≠ "" → jti ≠ "" →
        createAccessToken settings jwt issuedAt session.userId role jti = .ok token →
        (∀ key, getJwtSecretKey settings = .ok key →
          ReadsBack jwt key (accessTokenPayload settings issuedAt session.userId role jti)) →
        ∀ mapping scheme, lower mapping scheme = JsonText.codePoints "bearer" →
        ∀ now rows user,
          (getCurrentUser mapping settings jwt now rows (some ⟨scheme, token⟩) = .ok user ↔
            (truncate issuedAt ≤ now ∧ now < expiry settings issuedAt) ∧
              getById session.userId rows = some user ∧ user.isActive = true) ∧
          (getCurrentUser mapping settings jwt now rows (some ⟨scheme, token⟩) = .ok user →
            ActsFor events backend issued user.id) := by
  obtain ⟨session, stored, -⟩ := (authorized_run ends).2.answered answering presented issued answered
  refine ⟨session, stored, ?_⟩
  intro settings jwt issuedAt role jti token named drawn created reads mapping scheme bearer now rows user
  have accepted := @getCurrentUser_created settings jwt issuedAt session.userId role jti token mapping
    scheme bearer reads named drawn created now rows user
  refine ⟨accepted, fun presents => ?_⟩
  obtain ⟨-, found, -⟩ := accepted.mp presents
  have same : user.id = session.userId := by simpa using List.find?_some found
  obtain ⟨login, -, request, descends, -, -, -, loggedIn, began⟩ :=
    (authorized_run ends).2.stored issued session stored
  exact ⟨login, request, descends, loggedIn, same ▸ began⟩

end

/-! ## A token of the second session -/

theorem sessions_descend_from_logins_race : ∃ backend,
    [1, 2, 3].map backend.requests =
      [.refreshed "first" "second", .rejected, .loggedOut (some "second")] ∧
    ∃ session login request, storedSession backend "second" = some session ∧
      DescendsFrom backend login "second" ∧ backend.requests request = .loggedIn login ∧
      (request, .startLogin session.userId) ∈ TokenRotation.raceRun := by
  have ends : (Runs.run (backendStep TokenRotation.sampleHashRefreshToken) {}
      TokenRotation.raceRun).map (fun backend => [1, 2, 3].map backend.requests) =
      some [.refreshed "first" "second", .rejected, .loggedOut (some "second")] := by
    decide
  obtain ⟨backend, final, states⟩ := Option.map_eq_some_iff.mp ends
  obtain ⟨answers, descend⟩ := sessions_descend_from_logins final
  have refreshed : backend.requests 1 = .refreshed "first" "second" := by
    simpa using (List.cons.inj states).1
  obtain ⟨session, stored, -⟩ := answers 1 (some "first") "second" (by rw [refreshed]; rfl)
  obtain ⟨login, -, request, descends, -, -, -, loggedIn, began, -⟩ := descend "second" session stored
  exact ⟨backend, states, session, login, request, stored, descends, loggedIn, began⟩

def sampleSettings : TokenSettings where
  jwtSecretKey := some "0123456789abcdef0123456789abcdef"
  jwtAlgorithm := "HS256"
  accessTokenExpireMinutes := 15

/-- Issued at the beginning of 2026. -/
def samplePayload : AccessTokenPayload where
  sub := "00000000-0000-0000-0000-000000000001"
  role := "user"
  jti := "jti"
  iat := 1767225600
  exp := 1767226500

def sampleToken : String :=
  "eyJhbGciOiJIUzI1NiIsInR5cCI6IkpXVCJ9.eyJzdWIiOiIwMDAwMDAwMC0wMDAwLTAwMDAtMDAwMC0wMDAwMDAwMDAwMDEi" ++
  "LCJyb2xlIjoidXNlciIsImp0aSI6Imp0aSIsImlhdCI6MTc2NzIyNTYwMCwiZXhwIjoxNzY3MjI2NTAwLCJ0eXBlIjoiYWNj" ++
  "ZXNzIn0._j8ddB6H6eG0jtcHakaDb_17TBTvOuym2m25KHe3mCs"

/-- Knows the one token, by the text of its payload. -/
def sampleJwt : JwtLibrary where
  encode payload key algorithm :=
    if Json.compact (fun text => text.toList) (.object payload) =
        Json.compact (fun text => text.toList) (.object samplePayload.claims) ∧
      some key = sampleSettings.jwtSecretKey ∧ algorithm = "HS256" then some sampleToken
    else none
  decode token key algorithms _ now :=
    if token = sampleToken ∧ some key = sampleSettings.jwtSecretKey ∧ "HS256" ∈ algorithms ∧
      samplePayload.iat ≤ now ∧ now < samplePayload.exp then some samplePayload.claims
    else none

theorem payload_sample : accessTokenPayload sampleSettings 1767225600 1 "user" "jti" = samplePayload := by
  have sub : Uuid.str 1 = "00000000-0000-0000-0000-000000000001" := by decide
  have issued : truncate 1767225600 = 1767225600 := by norm_num [truncate]
  have expires : truncate (1767225600 + sampleSettings.accessTokenExpireMinutes * 60) = 1767226500 := by
    norm_num [truncate, sampleSettings]
  rw [accessTokenPayload, sub, issued, expires]
  rfl

theorem encode_sample {key : String} (secret : some key = sampleSettings.jwtSecretKey) :
    sampleJwt.encode samplePayload.claims key jwtAllowedAlgorithm = some sampleToken := by
  simp only [sampleJwt, secret, jwtAllowedAlgorithm, and_self, if_true]

theorem readsBack_sample {key : String} (secret : some key = sampleSettings.jwtSecretKey) :
    ReadsBack sampleJwt key samplePayload := by
  constructor
  · intro token now encoded
    rw [encode_sample secret] at encoded
    cases encoded
    simp only [sampleJwt, secret, jwtAllowedAlgorithm, List.mem_singleton, true_and]
  · rw [encode_sample secret]
    decide

def sampleUser : User where
  id := 1
  username := JsonText.codePoints "alice"
  email := JsonText.codePoints "alice@example.org"
  passwordHash := []
  role := userRole
  isActive := true

/-- The second session's token, a second before it expires. -/
theorem access_tokens_act_for_logins_sample : ∃ backend,
    backend.requests 1 = .refreshed "first" "second" ∧
      getCurrentUser asciiMapping sampleSettings sampleJwt 1767226499 [sampleUser]
        (some ⟨JsonText.codePoints "Bearer", sampleToken⟩) = .ok sampleUser ∧
      ActsFor TokenRotation.raceRun backend "second" 1 := by
  have ends : (Runs.run (backendStep TokenRotation.sampleHashRefreshToken) {}
      TokenRotation.raceRun).map (fun backend => (backend.requests 1,
        (storedSession backend "second").map RefreshSession.userId)) =
      some (.refreshed "first" "second", some 1) := by
    decide
  obtain ⟨backend, final, states⟩ := Option.map_eq_some_iff.mp ends
  obtain ⟨refreshed, owner⟩ := Prod.mk.inj states
  have answered : answerOf (backend.requests 1) = some (some "first", "second") := by
    rw [refreshed]
    rfl
  obtain ⟨session, stored, acts⟩ := access_tokens_act_for_logins final answered
  have user : session.userId = 1 := by
    rw [stored] at owner
    exact Option.some.inj owner
  rw [user] at acts
  have secret {key : String} (same : getJwtSecretKey sampleSettings = .ok key) :
      some key = sampleSettings.jwtSecretKey := by
    cases same
    rfl
  have created : createAccessToken sampleSettings sampleJwt 1767225600 1 "user" "jti" =
      .ok sampleToken := by
    refine createAccessToken_eq_ok.mpr ⟨_, rfl, rfl, ?_⟩
    rw [payload_sample]
    exact encode_sample rfl
  have alive : (truncate 1767225600 : ℚ) ≤ 1767226499 ∧
      (1767226499 : ℚ) < expiry sampleSettings 1767225600 := by
    norm_num [truncate, expiry, sampleSettings]
  obtain ⟨accepted, came⟩ := acts sampleSettings sampleJwt 1767225600 "user" "jti" sampleToken
    (by decide) (by decide) created (fun key same => payload_sample ▸ readsBack_sample (secret same))
    asciiMapping (JsonText.codePoints "Bearer") (by decide) 1767226499 [sampleUser] sampleUser
  have current := accepted.mpr ⟨alive, rfl, rfl⟩
  exact ⟨backend, refreshed, current, came current⟩

end EpicKfc.Guarantees.LoginAuthority
