import EpicKfc.Source.Server.RefreshSessionSteps

/-!
# Refresh tokens are used once

However refreshes and logouts of one token interleave, at most one refresh gets
through: it holds the row from its checked read to its commit, and the commit that
stores the next session is the one that ends this one. A session that ended stays
ended, so its token never refreshes again, and of a login chain only the last
session can be active.
-/

namespace EpicKfc.Guarantees.TokenRotation
open EpicKfc.Lib
open EpicKfc.Source.Server (UtcTimestamp Uuid)
open EpicKfc.Source.Server.RefreshSessions

/-- The token refreshed, was logged out, or belongs to a session that is revoked. -/
def Used (backend : Backend) (presented : TokenHash) : Prop :=
  (∃ request issued, backend.requests request = .refreshed presented issued) ∨
    (∃ request, backend.requests request = .loggedOut (some presented)) ∨ Ended backend presented

/-- A session of the chain that the session `first` begins, active at the time `now`. -/
def ActiveDescendant (backend : Backend) (first : TokenHash) (now : UtcTimestamp)
    (tokenHash : TokenHash) : Prop :=
  DescendsFrom backend first tokenHash ∧
    ∃ session, storedSession backend tokenHash = some session ∧ session.isActive now

theorem ended_of_used {backend : Backend} (coherent : Coherent backend) {presented : TokenHash}
    (used : Used backend presented) : Ended backend presented := by
  rcases used with ⟨request, issued, refreshed⟩ | ⟨request, loggedOut⟩ | ended
  · have phase := coherent.phases request
    rwa [refreshed] at phase
  · have phase := coherent.phases request
    rwa [loggedOut] at phase
  · exact ended

theorem not_active_of_ended {backend : Backend} {tokenHash : TokenHash} {session : RefreshSession}
    {now : UtcTimestamp} (ended : Ended backend tokenHash)
    (stored : storedSession backend tokenHash = some session) : session.isActive now = false := by
  obtain ⟨session', stored', revoked⟩ := ended
  rw [stored] at stored'
  cases stored'
  simp [RefreshSession.isActive, revoked]

/-- A chain has no branches, and all its sessions but the last have ended. -/
theorem active_descendant_unique {backend : Backend} (coherent : Coherent backend)
    {login first second : TokenHash} {now : UtcTimestamp}
    (active : ActiveDescendant backend login now first)
    (active' : ActiveDescendant backend login now second) : first = second := by
  have last {earlier later : TokenHash} (active : ActiveDescendant backend login now earlier)
      (descends : DescendsFrom backend earlier later) : later = earlier := by
    rcases Relation.ReflTransGen.cases_head descends with same | ⟨next, rotates, _⟩
    · exact same.symm
    · obtain ⟨_, session, stored, live⟩ := active
      have ended := coherent.replacedEnded earlier next rotates
      rw [not_active_of_ended ended stored] at live
      cases live
  rcases Relation.ReflTransGen.total_of_right_unique coherent.replacedOnce active.1 active'.1 with
    later | earlier
  · exact (last active later).symm
  · exact last active' earlier

/-- One statement revives no session and refreshes no token of an ended one. -/
theorem ended_takes {backend backend' : Backend} {request : RequestId} {statement : Statement}
    (before : Coherent backend) (taken : Takes backend request statement backend')
    {presented : TokenHash} (ended : Ended backend presented) :
    Ended backend' presented ∧ ∀ other issued,
      backend'.requests other = .refreshed presented issued →
        backend.requests other = .refreshed presented issued := by
  constructor
  · rcases taken.commits_or_uncommitted with ⟨state, rfl⟩ | unseen
    · exact before.ended_commits ended
    · exact (ended_uncommitted unseen presented).mpr ended
  · intro other issued refreshed
    obtain ⟨state, requests, answers⟩ := taken.requests
    rw [requests] at refreshed
    by_cases same : other = request
    · rw [same, Function.update_self] at refreshed
      obtain ⟨userId, held, holding, _⟩ :=
        before.holding_of_inserted (answers presented issued refreshed)
      exact absurd ended (before.not_ended holding)
    · rwa [Function.update_of_ne same] at refreshed

section
variable {hashRefreshToken : String → Option TokenHash}

theorem ended_run {backend backend' : Backend} {events : List (RequestId × Statement)}
    (before : Coherent backend)
    (ends : Runs.run (backendStep hashRefreshToken) backend events = some backend')
    (presented : TokenHash) :
    Ended backend presented → Ended backend' presented ∧ ∀ request issued,
      backend'.requests request = .refreshed presented issued →
        backend.requests request = .refreshed presented issued := by
  refine @Runs.related_of_run _ _ (backendStep hashRefreshToken) (fun _ _ => True) Coherent
    (fun earlier later => Ended earlier presented → Ended later presented ∧ ∀ request issued,
      later.requests request = .refreshed presented issued →
        earlier.requests request = .refreshed presented issued) ?_ ?_ ?_ events backend backend'
    before (Runs.everyStep_of_forall (fun _ _ _ => trivial) backend) ends
  · exact fun _ ended => ⟨ended, fun _ _ refreshed => refreshed⟩
  · intro first second third one two ended
    obtain ⟨middle, back⟩ := one ended
    obtain ⟨last, back'⟩ := two middle
    exact ⟨last, fun request issued refreshed => back _ _ (back' _ _ refreshed)⟩
  · intro s e s' coherent _ moved
    have taken := takes_of_step moved
    exact ⟨coherent_takes coherent taken, ended_takes coherent taken⟩

/-- In every interleaving a token refreshes at most once, a login chain has at most
one active session, and a rotated or logged-out token never refreshes again. -/
theorem refresh_tokens_single_use {backend : Backend}
    (reached : Runs.Reachable (backendStep hashRefreshToken) Backend.Empty backend) :
    (∀ presented first second issued issued',
      backend.requests first = .refreshed presented issued →
        backend.requests second = .refreshed presented issued' → first = second) ∧
    (∀ login first second now, ActiveDescendant backend login now first →
      ActiveDescendant backend login now second → first = second) ∧
    ∀ presented, Used backend presented → ∀ events backend',
      Runs.run (backendStep hashRefreshToken) backend events = some backend' →
        Ended backend' presented ∧ ∀ request issued,
          backend'.requests request = .refreshed presented issued →
            backend.requests request = .refreshed presented issued := by
  have coherent : Coherent backend := coherent_reachable reached
  refine ⟨coherent.refreshedOnce, ?_, ?_⟩
  · exact fun login first second now => active_descendant_unique coherent
  · intro presented used events backend' ends
    exact ended_run coherent ends presented (ended_of_used coherent used)

end

/-! ## Two refreshes of one token, and a logout with the next -/

def sampleUser : Uuid := 1

def sampleTime : UtcTimestamp := .newYear2026

def sampleExpiry : UtcTimestamp := .newYear 2027 (by decide)

def sampleHashRefreshToken (refreshToken : String) : Option TokenHash :=
  if refreshToken = "" then none else some refreshToken

def sampleLogin (request : RequestId) (refreshToken : String) : List (RequestId × Statement) :=
  [(request, .startLogin sampleUser), (request, .createRefreshSession refreshToken sampleExpiry),
    (request, .commit)]

/-- A refresh from its lock up to the insert of the next session. -/
def sampleRotation (request : RequestId) (refreshToken : String) : List (RequestId × Statement) :=
  [(request, .lockActive), (request, .readUser true), (request, .revoke sampleTime),
    (request, .createRefreshSession refreshToken sampleExpiry)]

def raceRun : List (RequestId × Statement) :=
  sampleLogin 0 "first" ++
    [(1, .startRefresh "first" sampleTime), (2, .startRefresh "first" sampleTime)] ++
    sampleRotation 1 "second" ++ [(1, .commit), (2, .lockActive),
      (3, .startLogout "second" sampleTime), (3, .lockActive), (3, .revoke sampleTime), (3, .commit)]

theorem refresh_tokens_single_use_race : ∃ backend,
    [1, 2, 3].map backend.requests =
      [.refreshed "first" "second", .rejected, .loggedOut (some "second")] ∧
    (∀ presented first second issued issued',
      backend.requests first = .refreshed presented issued →
        backend.requests second = .refreshed presented issued' → first = second) ∧
    (∀ login first second now, ActiveDescendant backend login now first →
      ActiveDescendant backend login now second → first = second) ∧
    ∀ presented, Used backend presented → ∀ events backend',
      Runs.run (backendStep sampleHashRefreshToken) backend events = some backend' →
        Ended backend' presented ∧ ∀ request issued,
          backend'.requests request = .refreshed presented issued →
            backend.requests request = .refreshed presented issued := by
  have ends : (Runs.run (backendStep sampleHashRefreshToken) {} raceRun).map
      (fun backend => [1, 2, 3].map backend.requests) =
      some [.refreshed "first" "second", .rejected, .loggedOut (some "second")] := by
    decide
  obtain ⟨backend, final, states⟩ := Option.map_eq_some_iff.mp ends
  exact ⟨backend, states, refresh_tokens_single_use (Runs.reachable_of_run rfl final)⟩

end EpicKfc.Guarantees.TokenRotation
