import EpicKfc.Guarantees.TokenRotation

/-!
# Logging out of every session

The bulk `UPDATE` of `logout_all` reaches the rows of its snapshot only. A refresh
that commits after the snapshot leaves its next session outside: the `UPDATE` waits
for the replaced row, finds it revoked and passes on. Without such a refresh every
session of the user that descends from an earlier one is in the snapshot, and is
revoked by the time the transaction commits.
-/

namespace EpicKfc.Guarantees.LogoutAll
open EpicKfc.Lib
open EpicKfc.Lib.RowTable (row)
open EpicKfc.Source.Server (UtcTimestamp Uuid)
open EpicKfc.Source.Server.RefreshSessions
open EpicKfc.Guarantees.TokenRotation

/-- After a `logout_all` of a user, no active session of the user descends from a
session that existed when it began. -/
def LogoutAllComplete (backend : Backend) : Prop :=
  ∀ request userId existing, backend.requests request = .loggedOutAll userId existing →
    ∀ origin ∈ existing, ∀ now tokenHash session, ActiveDescendant backend origin now tokenHash →
      storedSession backend tokenHash = some session → session.userId ≠ userId

/-- A refresh commits the rotation of a session that a `logout_all` of its user,
still under way, found when it began. -/
def RotatesDuringLogoutAll (backend : Backend) (event : RequestId × Statement) : Prop :=
  ∃ presented issued, event.2 = .commit ∧
    backend.requests event.1 = .inserted (some presented) issued ∧
    ∃ other userId now existing remaining,
      backend.requests other = .revokingAll userId now existing remaining ∧
      presented ∈ existing ∧
      ∃ session, storedSession backend presented = some session ∧ session.userId = userId

/-! ## What a bulk logout covers -/

/-- A stored session of the user that descends from one of the existing sessions. -/
structure Family (backend : Backend) (userId : Uuid) (existing : List TokenHash)
    (tokenHash : TokenHash) (session : RefreshSession) : Prop where
  descends : ∃ origin ∈ existing, DescendsFrom backend origin tokenHash
  stored : storedSession backend tokenHash = some session
  user : session.userId = userId

/-- The request itself is about to revoke the session. -/
def Revoking (backend : Backend) (request : RequestId) (tokenHash : TokenHash) (userId : Uuid) :
    Prop :=
  ∃ held, Holding backend request tokenHash userId held ∧ held.revokedAt ≠ none

def Covers (backend : Backend) (request : RequestId) : RequestState → Prop
  | .revokingAll userId _ existing remaining =>
    (∀ tokenHash ∈ existing, storedSession backend tokenHash ≠ none) ∧
      ∀ tokenHash session, Family backend userId existing tokenHash session →
        tokenHash ∈ existing ∧ (session.revokedAt ≠ none ∨ tokenHash ∈ remaining ∨
          Revoking backend request tokenHash userId)
  | .loggedOutAll userId existing =>
    (∀ tokenHash ∈ existing, storedSession backend tokenHash ≠ none) ∧
      ∀ tokenHash session, Family backend userId existing tokenHash session →
        session.revokedAt ≠ none
  | _ => True

theorem mem_storedHashes {backend : Backend} {meets : RefreshSession → Bool}
    {tokenHash : TokenHash} {session : RefreshSession}
    (stored : storedSession backend tokenHash = some session) (met : meets session) :
    tokenHash ∈ storedHashes backend meets := by
  have present : row tokenHash backend.refreshSessions ≠ ⟨none, none⟩ := by
    intro absent
    simp [storedSession, absent] at stored
  refine List.mem_filter.mpr ⟨List.mem_map_of_mem (RowTable.mem_of_row present), ?_⟩
  rw [stored]
  exact met

theorem stored_of_mem {backend : Backend} {meets : RefreshSession → Bool} {tokenHash : TokenHash}
    (member : tokenHash ∈ storedHashes backend meets) : storedSession backend tokenHash ≠ none := by
  have met := (List.mem_filter.mp member).2
  intro absent
  rw [absent] at met
  cases met

theorem stored_of_ended {backend : Backend} {tokenHash : TokenHash}
    (ended : Ended backend tokenHash) : storedSession backend tokenHash ≠ none := by
  obtain ⟨session, stored, _⟩ := ended
  rw [stored]
  exact Option.some_ne_none session

/-! ## Statements that commit nothing -/

section
variable {backend backend' : Backend} {request : RequestId}

theorem family_uncommitted
    (table : RowTable.Uncommitted request backend.refreshSessions backend'.refreshSessions)
    {userId : Uuid} {existing : List TokenHash} {tokenHash : TokenHash} {session : RefreshSession}
    (family : Family backend' userId existing tokenHash session) :
    Family backend userId existing tokenHash session := by
  obtain ⟨⟨origin, member, descends⟩, stored, user⟩ := family
  rw [DescendsFrom, rotatesTo_uncommitted table] at descends
  rw [storedSession_uncommitted table] at stored
  exact ⟨⟨origin, member, descends⟩, stored, user⟩

/-- A request's cover survives what leaves its rows and adds no descendant. -/
theorem Covers.frame {state : RequestState} (before : Covers backend request state)
    (stored : ∀ tokenHash, storedSession backend tokenHash ≠ none →
      storedSession backend' tokenHash ≠ none)
    (rows : ∀ tokenHash userId, Revoking backend request tokenHash userId →
      Revoking backend' request tokenHash userId)
    (families : ∀ userId existing tokenHash session,
      (∀ tokenHash ∈ existing, storedSession backend tokenHash ≠ none) →
      ((∃ now remaining, state = .revokingAll userId now existing remaining) ∨
        state = .loggedOutAll userId existing) →
      Family backend' userId existing tokenHash session →
        ∃ earlier, Family backend userId existing tokenHash earlier ∧
          (earlier.revokedAt ≠ none → session = earlier)) :
    Covers backend' request state := by
  cases state with
  | revokingAll userId now existing remaining =>
    obtain ⟨present, covered⟩ := before
    refine ⟨fun tokenHash member => stored tokenHash (present tokenHash member), ?_⟩
    intro tokenHash session family
    obtain ⟨earlier, familyBefore, same⟩ := families userId existing tokenHash session present
      (Or.inl ⟨now, remaining, rfl⟩) family
    obtain ⟨member, revoked | waiting | revoking⟩ := covered tokenHash earlier familyBefore
    · exact ⟨member, Or.inl (same revoked ▸ revoked)⟩
    · exact ⟨member, Or.inr (Or.inl waiting)⟩
    · exact ⟨member, Or.inr (Or.inr (rows tokenHash userId revoking))⟩
  | loggedOutAll userId existing =>
    obtain ⟨present, revokedAll⟩ := before
    refine ⟨fun tokenHash member => stored tokenHash (present tokenHash member), ?_⟩
    intro tokenHash session family
    obtain ⟨earlier, familyBefore, same⟩ := families userId existing tokenHash session present
      (Or.inr rfl) family
    have revoked := revokedAll tokenHash earlier familyBefore
    exact same revoked ▸ revoked
  | _ => trivial

/-- What a statement that commits nothing leaves of the cover of its own or another request. -/
theorem Covers.uncommitted {other : RequestId} {state : RequestState}
    (before : Covers backend other state)
    (table : RowTable.Uncommitted request backend.refreshSessions backend'.refreshSessions)
    (rows : ∀ tokenHash userId, Revoking backend other tokenHash userId →
      Revoking backend' other tokenHash userId) :
    Covers backend' other state := by
  refine before.frame ?_ rows ?_
  · intro tokenHash stored
    rwa [storedSession_uncommitted table]
  · exact fun _ _ _ session _ _ family => ⟨session, family_uncommitted table family, fun _ => rfl⟩

theorem revoking_uncommitted {other : RequestId} (different : other ≠ request)
    (table : RowTable.Uncommitted request backend.refreshSessions backend'.refreshSessions)
    (tokenHash : TokenHash) (userId : Uuid) (revoking : Revoking backend other tokenHash userId) :
    Revoking backend' other tokenHash userId := by
  obtain ⟨held, ⟨session, here, user⟩, revoked⟩ := revoking
  exact ⟨held, ⟨session, (row_uncommitted table different (by rw [here])).trans here, user⟩, revoked⟩

end

/-! ## Commits -/

section
variable {backend : Backend} {request : RequestId} {state : RequestState}

/-- A descendant after a commit is an earlier one, or the session that the commit issues. -/
theorem descendsFrom_commits (before : Coherent backend) {origin tokenHash : TokenHash}
    (present : storedSession backend origin ≠ none)
    (descends : DescendsFrom (backend.commits request state) origin tokenHash) :
    (DescendsFrom backend origin tokenHash ∧ storedSession backend tokenHash ≠ none) ∨
      ∃ presented, DescendsFrom backend origin presented ∧
        storedSession backend tokenHash = none ∧
        backend.requests request = .inserted (some presented) tokenHash := by
  induction descends with
  | refl => exact Or.inl ⟨.refl, present⟩
  | @tail middle tokenHash _ rotates ih =>
    rcases before.rotatesTo_commits rotates with earlier | ⟨absent, inserted⟩
    · have storedMiddle := stored_of_ended (before.replacedEnded middle tokenHash earlier)
      obtain ⟨session, stored, _⟩ := id earlier
      rcases ih with ⟨descends, _⟩ | ⟨_, _, absent, _⟩
      · exact Or.inl ⟨descends.tail earlier, by simp [stored]⟩
      · exact absurd absent storedMiddle
    · obtain ⟨_, _, ⟨session, here, _⟩, _⟩ := before.holding_of_inserted inserted
      rcases ih with ⟨descends, _⟩ | ⟨_, _, absentMiddle, _⟩
      · exact Or.inr ⟨middle, descends, absent, inserted⟩
      · simp [storedSession, here] at absentMiddle

/-- A member of the family after a commit was one before, or replaces one. -/
theorem family_commits (before : Coherent backend) {userId : Uuid} {existing : List TokenHash}
    {tokenHash : TokenHash} {session : RefreshSession}
    (present : ∀ tokenHash ∈ existing, storedSession backend tokenHash ≠ none)
    (family : Family (backend.commits request state) userId existing tokenHash session) :
    (∃ earlier, Family backend userId existing tokenHash earlier ∧
      (earlier.revokedAt ≠ none → session = earlier)) ∨
    ∃ presented replaced, backend.requests request = .inserted (some presented) tokenHash ∧
      Family backend userId existing presented replaced := by
  obtain ⟨⟨origin, member, descends⟩, stored, user⟩ := family
  rcases descendsFrom_commits before (present origin member) descends with
    ⟨descends, presentHere⟩ | ⟨presented, descends, absent, inserted⟩
  · obtain ⟨earlier, storedBefore⟩ := Option.ne_none_iff_exists'.mp presentHere
    obtain ⟨session', stored', user', _, same⟩ :=
      before.storedSession_commits_some request state storedBefore
    rw [stored] at stored'
    cases stored'
    exact Or.inl ⟨earlier, ⟨⟨origin, member, descends⟩, storedBefore, user'.symm.trans user⟩, same⟩
  · obtain ⟨held, holds, now⟩ | ⟨_, same⟩ := storedSession_commits backend request state tokenHash
    · rw [now] at stored
      cases stored
      have here : row tokenHash backend.refreshSessions = ⟨none, some (request, session)⟩ := by
        rw [storedSession] at absent
        cases earlier : row tokenHash backend.refreshSessions
        simp_all
      obtain ⟨inserting, replaces⟩ := before.fresh tokenHash request session here
      rw [inserted] at inserting
      have origin' : some presented = session.rotatedFrom := by
        simpa using inserting
      obtain ⟨replaced, storedReplaced, user'⟩ := replaces presented origin'.symm
      exact Or.inr ⟨presented, replaced, inserted,
        ⟨⟨origin, member, descends⟩, storedReplaced, user'.trans user⟩⟩
    · rw [same, absent] at stored
      cases stored

/-- The cover of another request survives a commit that rotates none of its sessions. -/
theorem Covers.commits {other : RequestId} {otherState : RequestState}
    (coherent : Coherent backend) (before : Covers backend other otherState)
    (different : other ≠ request)
    (spared : ∀ userId now existing remaining presented issued replaced,
      otherState = .revokingAll userId now existing remaining → presented ∈ existing →
        backend.requests request = .inserted (some presented) issued →
        storedSession backend presented = some replaced → replaced.userId ≠ userId) :
    Covers (backend.commits request state) other otherState := by
  have rows tokenHash userId (revoking : Revoking backend other tokenHash userId) :
      Revoking (backend.commits request state) other tokenHash userId := by
    obtain ⟨held, ⟨session, here, user⟩, revoked⟩ := revoking
    refine ⟨held, ⟨session, ?_, user⟩, revoked⟩
    obtain ⟨_, mine, _⟩ | ⟨_, same⟩ :=
      RowTable.row_commit_cases request tokenHash backend.refreshSessions
    · rw [here] at mine
      cases mine
      exact absurd rfl different
    · exact same.trans here
  have covered := before
  refine before.frame ?_ rows ?_
  · intro tokenHash present
    obtain ⟨session, stored⟩ := Option.ne_none_iff_exists'.mp present
    obtain ⟨session', stored', _⟩ := coherent.storedSession_commits_some request state stored
    simp [stored']
  · intro userId existing tokenHash session present phase family
    rcases family_commits coherent present family with earlier | ⟨presented, replaced, inserted, old⟩
    · exact earlier
    · exfalso
      rcases phase with ⟨now, remaining, rfl⟩ | rfl
      · have member := (covered.2 presented replaced old).1
        exact spared userId now existing remaining presented tokenHash replaced rfl member inserted
          old.stored old.user
      · obtain ⟨_, _, holding, _⟩ := coherent.holding_of_inserted inserted
        exact coherent.not_ended holding ⟨replaced, old.stored, covered.2 presented replaced old⟩

/-- The commit of a bulk logout that has reached every row of its snapshot. -/
theorem Covers.commitsAll (coherent : Coherent backend) {userId : Uuid} {now : UtcTimestamp}
    {existing : List TokenHash} (revoking : backend.requests request = .revokingAll userId now existing [])
    (before : Covers backend request (.revokingAll userId now existing [])) :
    Covers (backend.commits request state) request (.loggedOutAll userId existing) := by
  obtain ⟨present, covered⟩ := before
  constructor
  · intro tokenHash member
    obtain ⟨session, stored⟩ := Option.ne_none_iff_exists'.mp (present tokenHash member)
    obtain ⟨session', stored', _⟩ := coherent.storedSession_commits_some request state stored
    simp [stored']
  · intro tokenHash session family
    rcases family_commits coherent present family with ⟨earlier, old, same⟩ | ⟨_, _, inserted, _⟩
    · obtain ⟨_, revoked | waiting | ⟨held, holding, revoked⟩⟩ := covered tokenHash earlier old
      · exact same revoked ▸ revoked
      · cases waiting
      · obtain ⟨session', stored', revoked'⟩ : Ended (backend.commits request state) tokenHash :=
          holding.ended_commits revoked
        rw [family.stored] at stored'
        cases stored'
        exact revoked'
    · rw [revoking] at inserted
      cases inserted

end

/-! ## Whole runs -/

theorem covers_begins {backend : Backend} {request : RequestId} (userId : Uuid)
    (now : UtcTimestamp) :
    Covers backend request (.revokingAll userId now (storedHashes backend fun _ => true)
      (storedHashes backend (·.revocableFor userId))) := by
  refine ⟨fun _ => stored_of_mem, fun tokenHash session family => ⟨?_, ?_⟩⟩
  · exact mem_storedHashes family.stored rfl
  · by_cases revoked : session.revokedAt = none
    · refine Or.inr (Or.inl (mem_storedHashes family.stored ?_))
      simp [RefreshSession.revocableFor, family.user, revoked]
    · exact Or.inl revoked

/-- The bulk logout leaves the row it has reached, revoked by itself or before. -/
theorem covers_passes {backend : Backend} {request : RequestId} {userId : Uuid}
    {now : UtcTimestamp} {existing remaining : List TokenHash} {tokenHash : TokenHash}
    (before : Covers backend request (.revokingAll userId now existing remaining))
    (passed : ∀ session, Family backend userId existing tokenHash session →
      session.revokedAt ≠ none ∨ Revoking backend request tokenHash userId) :
    Covers backend request (.revokingAll userId now existing (remaining.filter (· ≠ tokenHash))) := by
  refine ⟨before.1, fun other session family => ?_⟩
  obtain ⟨member, revoked | waiting | revoking⟩ := before.2 other session family
  · exact ⟨member, Or.inl revoked⟩
  · by_cases same : other = tokenHash
    · subst same
      rcases passed session family with revoked | revoking
      · exact ⟨member, Or.inl revoked⟩
      · exact ⟨member, Or.inr (Or.inr revoking)⟩
    · exact ⟨member, Or.inr (Or.inl (List.mem_filter.mpr ⟨waiting, by simpa using same⟩))⟩
  · exact ⟨member, Or.inr (Or.inr revoking)⟩

/-- The bulk logout takes a free row and revokes it. -/
theorem covers_visits {backend : Backend} {request : RequestId} {userId : Uuid}
    {now : UtcTimestamp} {existing remaining : List TokenHash} {tokenHash : TokenHash}
    {session : RefreshSession} {state : RequestState}
    (before : Covers backend request (.revokingAll userId now existing remaining))
    (free : row tokenHash backend.refreshSessions = ⟨some session, none⟩)
    (user : session.userId = userId) :
    Covers ((backend.withSession tokenHash ⟨some session, some (request, session.revoke now)⟩).goes
      request state) request
      (.revokingAll userId now existing (remaining.filter (· ≠ tokenHash))) := by
  have table : RowTable.Uncommitted request backend.refreshSessions (backend.withSession tokenHash
      ⟨some session, some (request, session.revoke now)⟩).refreshSessions :=
    .put (by rw [free]) (by simp [free])
  refine covers_passes (before.uncommitted table ?_) ?_
  · rintro other owner ⟨held, ⟨original, here, user⟩, revoked⟩
    have different : tokenHash ≠ other := by
      rintro rfl
      rw [free] at here
      cases here
    refine ⟨held, ⟨original, ?_, user⟩, revoked⟩
    rw [Backend.goes, Backend.withSession, RowTable.row_put, if_neg different]
    exact here
  · intro original family
    refine Or.inr ⟨session.revoke now, ?_, by simp [RefreshSession.revoke]⟩
    exact user ▸ holding_withSession

def AllCovered (backend : Backend) : Prop :=
  ∀ request, Covers backend request (backend.requests request)

/-- A statement shows the cover of its own request; the others are framed. -/
theorem AllCovered.next {backend backend' : Backend} {request : RequestId} {state : RequestState}
    (requests : backend'.requests = Function.update backend.requests request state)
    (own : Covers backend' request state)
    (others : ∀ other, other ≠ request → Covers backend' other (backend.requests other)) :
    AllCovered backend' := by
  intro other
  rw [requests]
  by_cases same : other = request
  · rw [same, Function.update_self]
    exact own
  · rw [Function.update_of_ne same]
    exact others other same

theorem AllCovered.uncommitted {backend backend' : Backend} {request : RequestId}
    {state : RequestState} (before : AllCovered backend)
    (requests : backend'.requests = Function.update backend.requests request state)
    (table : RowTable.Uncommitted request backend.refreshSessions backend'.refreshSessions)
    (own : Covers backend' request state) : AllCovered backend' :=
  .next requests own fun other different =>
    (before other).uncommitted table (revoking_uncommitted different table)

theorem AllCovered.commits {backend : Backend} {request : RequestId} {state : RequestState}
    (before : AllCovered backend) (coherent : Coherent backend)
    (own : Covers (backend.commits request state) request state)
    (spared : ∀ presented issued, backend.requests request = .inserted (some presented) issued →
      ¬ RotatesDuringLogoutAll backend (request, .commit)) :
    AllCovered (backend.commits request state) := by
  refine .next rfl own fun other different => ?_
  refine Covers.commits coherent (before other) different ?_
  intro userId now existing remaining presented issued replaced revoking member inserted stored user
  exact spared presented issued inserted ⟨presented, issued, rfl, inserted, other, userId, now,
    existing, remaining, revoking, member, replaced, stored, user⟩

/-- One statement that rotates no session under a bulk logout keeps every cover. -/
theorem allCovered_takes {backend backend' : Backend} {request : RequestId} {statement : Statement}
    (coherent : Coherent backend) (before : AllCovered backend)
    (met : ¬ RotatesDuringLogoutAll backend (request, statement))
    (taken : Takes backend request statement backend') : AllCovered backend' := by
  cases taken with
  | selects caller presented now _ => exact before.uncommitted rfl (.refl request _) trivial
  | locks caller presented now session _ free _ =>
    refine before.uncommitted rfl (.put (by rw [free]) (by simp [free])) ?_
    cases caller <;> trivial
  | authorizes presented userId _ => exact before.uncommitted rfl (.refl request _) trivial
  | revokes presented now state table phase updated =>
    refine before.uncommitted rfl (RowTable.update_uncommitted updated) ?_
    rcases phase with ⟨userId, _, rfl⟩ | ⟨_, rfl⟩ <;> trivial
  | issues userId _ => exact before.uncommitted rfl (.refl request _) trivial
  | inserts presented userId issued expiresAt _ free =>
    exact before.uncommitted rfl (.put (by rw [free]) (by simp [free])) trivial
  | commitsIssued presented issued isCommit inserted =>
    subst isCommit
    refine before.commits coherent ?_ fun _ _ _ => met
    cases presented <;> trivial
  | commitsLogout presented revoking =>
    exact before.commits coherent trivial fun _ _ inserted => by simp [revoking] at inserted
  | logsOutNone phase =>
    refine before.commits coherent trivial fun presented issued inserted => ?_
    rcases phase with idle | ⟨_, _, selected⟩
    · simp [idle] at inserted
    · simp [selected] at inserted
  | beginsAll userId now _ =>
    exact before.uncommitted rfl (.refl request _) (covers_begins userId now)
  | visits userId now existing remaining tokenHash session revoking free revocable =>
    have table : RowTable.Uncommitted request backend.refreshSessions (backend.withSession tokenHash
        ⟨some session, some (request, session.revoke now)⟩).refreshSessions :=
      .put (by rw [free]) (by simp [free])
    have own := before request
    rw [revoking] at own
    have user : session.userId = userId := by
      simp only [RefreshSession.revocableFor, Bool.and_eq_true, decide_eq_true_eq] at revocable
      exact revocable.1
    exact before.uncommitted rfl table (covers_visits own free user)
  | skips userId now existing remaining tokenHash session revoking free kept =>
    have own := before request
    rw [revoking] at own
    have passed : Covers backend request (.revokingAll userId now existing
        (remaining.filter (· ≠ tokenHash))) := by
      refine covers_passes own fun original family => Or.inl ?_
      have same := family.stored
      rw [storedSession, free] at same
      cases same
      intro unrevoked
      simp [RefreshSession.revocableFor, family.user, unrevoked] at kept
    exact before.uncommitted rfl (.refl request _)
      (passed.uncommitted (.refl request _) fun _ _ revoking => revoking)
  | commitsAll userId now existing revoking =>
    have own := before request
    rw [revoking] at own
    exact before.commits coherent (.commitsAll coherent revoking own) fun _ _ inserted => by
      simp [revoking] at inserted
  | refuses state _ refused =>
    refine before.uncommitted rfl (RowTable.rollback_uncommitted request _) ?_
    rcases refused with rfl | rfl | rfl <;> trivial

theorem allCovered_empty {backend : Backend} (empty : backend.Empty) : AllCovered backend := by
  cases empty
  exact fun _ => trivial

section
variable {hashRefreshToken : String → Option TokenHash}

/-- `logout_all` is complete in every interleaving in which no refresh commits the
rotation of one of its sessions while it is under way. -/
theorem logout_all_complete {backend : Backend}
    (reached : Runs.ReachableBy (backendStep hashRefreshToken) Backend.Empty
      (fun backend event => ¬ RotatesDuringLogoutAll backend event) backend) :
    LogoutAllComplete backend := by
  have covered : Coherent backend ∧ AllCovered backend := by
    refine @Runs.invariant_of_preserved _ _ (backendStep hashRefreshToken) _ _
      (fun backend => Coherent backend ∧ AllCovered backend)
      (fun _ empty => ⟨coherent_empty empty, allCovered_empty empty⟩) ?_ _ reached
    intro s e s' before met moved
    have taken := takes_of_step moved
    exact ⟨coherent_takes before.1 taken, allCovered_takes before.1 before.2 met taken⟩
  intro request userId existing done origin member now tokenHash session active stored user
  have cover := covered.2 request
  rw [done] at cover
  have revoked := cover.2 tokenHash session ⟨⟨origin, member, active.1⟩, stored, user⟩
  obtain ⟨_, session', stored', live⟩ := active
  rw [not_active_of_ended ⟨session, stored, revoked⟩ stored'] at live
  cases live

end

/-! ## A refresh under a bulk logout -/

def rotates (backend : Backend) (event : RequestId × Statement) : Bool :=
  match event.2, backend.requests event.1 with
  | .commit, .inserted (some _) _ => true
  | _, _ => false

theorem spared_of_not_rotates (backend : Backend) (event : RequestId × Statement) (_ : True)
    (still : (!rotates backend event) = true) : ¬ RotatesDuringLogoutAll backend event := by
  rintro ⟨presented, issued, isCommit, inserted, _⟩
  rw [rotates, isCommit, inserted] at still
  cases still

/-- The refresh holds its session when the bulk logout takes its snapshot, and then fails. -/
def failedRotationRun : List (RequestId × Statement) :=
  sampleLogin 0 "first" ++ [(1, .startRefresh "first" sampleTime)] ++ sampleRotation 1 "second" ++
    [(2, .startLogoutAll sampleUser sampleTime), (1, .fail), (2, .visitSession "first"),
      (2, .commit)]

theorem logout_all_complete_sample : ∃ backend,
    backend.requests 2 = .loggedOutAll sampleUser ["first"] ∧ LogoutAllComplete backend := by
  have ends : (Runs.run (backendStep sampleHashRefreshToken) {} failedRotationRun).map
      (fun backend => backend.requests 2) = some (.loggedOutAll sampleUser ["first"]) := by
    decide
  have met : Runs.checkRun (backendStep sampleHashRefreshToken)
      (fun backend event => !rotates backend event) {} failedRotationRun = true := by
    decide
  obtain ⟨backend, final, done⟩ := Option.map_eq_some_iff.mp ends
  exact ⟨backend, done, logout_all_complete (Runs.reachableBy_of_run failedRotationRun
    (.start rfl) (Runs.everyStep_of_check spared_of_not_rotates (fun _ _ _ _ _ _ => trivial) _
      trivial met) final)⟩

/-- The same with a refresh that commits: its next session is not in the snapshot. -/
def escapeRun : List (RequestId × Statement) :=
  sampleLogin 0 "first" ++ [(1, .startRefresh "first" sampleTime)] ++ sampleRotation 1 "second" ++
    [(2, .startLogoutAll sampleUser sampleTime), (1, .commit), (2, .visitSession "first"),
      (2, .commit)]

theorem logout_all_escaped :
    ¬ ∀ backend, Runs.Reachable (backendStep sampleHashRefreshToken) Backend.Empty backend →
      LogoutAllComplete backend := by
  intro complete
  have ends : (Runs.run (backendStep sampleHashRefreshToken) {} escapeRun).map
      (fun backend => (backend.requests 2, storedSession backend "second")) =
      some (.loggedOutAll sampleUser ["first"],
        some ⟨sampleUser, sampleExpiry, none, some "first"⟩) := by
    decide
  obtain ⟨backend, final, observed⟩ := Option.map_eq_some_iff.mp ends
  obtain ⟨done, stored⟩ := Prod.mk.inj observed
  have descends : DescendsFrom backend "first" "second" := .single ⟨_, stored, rfl⟩
  exact complete backend (Runs.reachable_of_run rfl final) 2 sampleUser ["first"] done "first"
    List.mem_cons_self sampleTime "second" _ ⟨descends, _, stored, by decide⟩ stored rfl

end EpicKfc.Guarantees.LogoutAll
