import EpicKfc.Source.Server.KeyRelaySteps

/-!
# Single hand-out of one-time pre-keys

A request that is about to answer with a pre-key has committed the marker on it,
and a marked row is never held, inserted or consumed again. So the pre-keys of
the answers, together with those of the requests about to answer, are distinct,
however the statements of the requests interleave.
-/

namespace EpicKfc.Guarantees.PreKeyHandOut
open EpicKfc.Lib
open EpicKfc.Lib.RowTable (Row row)
open EpicKfc.Source.Server
open EpicKfc.Source.Server.KeyRelay

/-- The pre-keys of all bundle responses so far. -/
def handedOut (relay : Relay) : List PreKeyName := relay.responses.filterMap BundleRecord.handedOut

/-- The pre-key is marked as used in the committed table. -/
def Spent (relay : Relay) (name : PreKeyName) : Prop :=
  ∃ prekey, (row name relay.oneTimePrekeys).committed = some prekey ∧ prekey.usedAt ≠ none

/-- The pre-key a request has consumed and not yet answered with. -/
def consumed : RequestState → Option PreKeyName
  | .bundled target _ (some (prekeyId, _)) => some ⟨target, prekeyId⟩
  | _ => none

/-- What a request that has chosen a pre-key holds or has committed. -/
def PhaseHolds (relay : Relay) (request : RequestId) : RequestState → Prop
  | .locked target _ prekeyId => ∃ prekey held,
      row ⟨target, prekeyId⟩ relay.oneTimePrekeys = ⟨some prekey, some (request, held)⟩
  | .marked target _ prekeyId => ∃ prekey held,
      row ⟨target, prekeyId⟩ relay.oneTimePrekeys = ⟨some prekey, some (request, held)⟩ ∧
        held.usedAt ≠ none
  | .bundled target _ (some (prekeyId, _)) => Spent relay ⟨target, prekeyId⟩
  | _ => True

structure SingleUse (relay : Relay) : Prop where
  heldUnused : ∀ name holder held prekey,
    row name relay.oneTimePrekeys = ⟨some prekey, some (holder, held)⟩ → prekey.usedAt = none
  phases : ∀ request, PhaseHolds relay request (relay.requests request)
  handedSpent : ∀ name ∈ handedOut relay, Spent relay name
  consumedOnce : ∀ request request' name, consumed (relay.requests request) = some name →
    consumed (relay.requests request') = some name → request = request'
  consumedFresh : ∀ request name, consumed (relay.requests request) = some name →
    name ∉ handedOut relay
  handedOnce : (handedOut relay).Nodup

theorem spent_of_consumed {relay : Relay} {request : RequestId} {state : RequestState}
    {name : PreKeyName} (holds : PhaseHolds relay request state)
    (consumes : consumed state = some name) : Spent relay name := by
  unfold consumed at consumes
  split at consumes
  · cases consumes
    exact holds
  · cases consumes

/-- A phase survives a step that keeps marked rows and the rows the request holds. -/
theorem PhaseHolds.frame {relay relay' : Relay} {request : RequestId} {state : RequestState}
    (holds : PhaseHolds relay request state)
    (spent : ∀ name, Spent relay name → Spent relay' name)
    (kept : ∀ name held, (row name relay.oneTimePrekeys).held = some (request, held) →
      row name relay'.oneTimePrekeys = row name relay.oneTimePrekeys) :
    PhaseHolds relay' request state := by
  unfold PhaseHolds at holds ⊢
  split
  · obtain ⟨prekey, held, here⟩ := holds
    exact ⟨prekey, held, by rw [kept _ held (by rw [here]), here]⟩
  · obtain ⟨prekey, held, here, used⟩ := holds
    exact ⟨prekey, held, by rw [kept _ held (by rw [here]), here], used⟩
  · exact spent _ holds
  · trivial

/-- What a step has to show about its own request; the other requests are framed. -/
theorem SingleUse.next {relay relay' : Relay} {request : RequestId} {state : RequestState}
    (before : SingleUse relay)
    (requests : relay'.requests = Function.update relay.requests request state)
    (handed : handedOut relay' = handedOut relay)
    (spent : ∀ name, Spent relay name → Spent relay' name)
    (others : ∀ name holder held, holder ≠ request →
      (row name relay.oneTimePrekeys).held = some (holder, held) →
        row name relay'.oneTimePrekeys = row name relay.oneTimePrekeys)
    (heldUnused : ∀ name holder held prekey,
      row name relay'.oneTimePrekeys = ⟨some prekey, some (holder, held)⟩ → prekey.usedAt = none)
    (phase : PhaseHolds relay' request state)
    (fresh : ∀ name, consumed state = some name → ¬ Spent relay name) : SingleUse relay' := by
  have mine : relay'.requests request = state := by rw [requests, Function.update_self]
  have theirs {other : RequestId} (different : other ≠ request) :
      relay'.requests other = relay.requests other := by
    rw [requests, Function.update_of_ne different]
  have spentBefore {other : RequestId} {name : PreKeyName} (different : other ≠ request)
      (consumes : consumed (relay'.requests other) = some name) : Spent relay name :=
    spent_of_consumed (before.phases other) (theirs different ▸ consumes)
  refine ⟨heldUnused, ?_, ?_, ?_, ?_, handed ▸ before.handedOnce⟩
  · intro other
    by_cases same : other = request
    · subst same
      exact mine ▸ phase
    · rw [theirs same]
      exact (before.phases other).frame spent fun name held => others name other held same
  · intro name member
    exact spent name (before.handedSpent name (handed ▸ member))
  · intro first second name consumes consumes'
    by_cases same : first = request <;> by_cases same' : second = request
    · rw [same, same']
    · rw [same, mine] at consumes
      exact absurd (spentBefore same' consumes') (fresh name consumes)
    · rw [same', mine] at consumes'
      exact absurd (spentBefore same consumes) (fresh name consumes')
    · rw [theirs same] at consumes
      rw [theirs same'] at consumes'
      exact before.consumedOnce first second name consumes consumes'
  · intro other name consumes
    rw [handed]
    by_cases same : other = request
    · rw [same, mine] at consumes
      exact fun member => fresh name consumes (before.handedSpent name member)
    · rw [theirs same] at consumes
      exact before.consumedFresh other name consumes

/-- Statements that commit no pre-key and consume none. -/
theorem SingleUse.uncommitted {relay relay' : Relay} {request : RequestId} {state : RequestState}
    (before : SingleUse relay)
    (requests : relay'.requests = Function.update relay.requests request state)
    (handed : handedOut relay' = handedOut relay)
    (table : RowTable.Uncommitted request relay.oneTimePrekeys relay'.oneTimePrekeys)
    (own : ∀ name held prekey, row name relay'.oneTimePrekeys =
      ⟨some prekey, some (request, held)⟩ → prekey.usedAt = none)
    (phase : PhaseHolds relay' request state) (consumesNone : consumed state = none) :
    SingleUse relay' := by
  refine before.next requests handed ?_ ?_ ?_ phase (by simp [consumesNone])
  · rintro name ⟨prekey, stored, used⟩
    exact ⟨prekey, by rw [table.committed, stored], used⟩
  · intro name holder held other holds
    exact table.row_eq other ((table.others name holder held other).mpr holds)
  · intro name holder held prekey here
    by_cases same : holder = request
    · subst same
      exact own name held prekey here
    · have earlier := table.row_eq (k := name) same (by rw [here])
      exact before.heldUnused name holder held prekey (earlier ▸ here)

theorem SingleUse.elsewhere {relay relay' : Relay} {request : RequestId} {state : RequestState}
    (before : SingleUse relay)
    (requests : relay'.requests = Function.update relay.requests request state)
    (handed : handedOut relay' = handedOut relay)
    (table : relay'.oneTimePrekeys = relay.oneTimePrekeys)
    (phase : PhaseHolds relay' request state) (consumesNone : consumed state = none) :
    SingleUse relay' := by
  refine before.uncommitted requests handed (table ▸ .refl request _) ?_ phase consumesNone
  intro name held prekey here
  exact before.heldUnused name request held prekey (table ▸ here)

/-- One pre-key row that `request` takes or rewrites. -/
theorem SingleUse.put {relay relay' : Relay} {request : RequestId} {state : RequestState}
    {name : PreKeyName} {committed : Option OneTimePreKey} {prekey : OneTimePreKey}
    (before : SingleUse relay)
    (requests : relay'.requests = Function.update relay.requests request state)
    (handed : handedOut relay' = handedOut relay)
    (table : relay'.oneTimePrekeys =
      RowTable.put name ⟨committed, some (request, prekey)⟩ relay.oneTimePrekeys)
    (same : (row name relay.oneTimePrekeys).committed = committed)
    (free : ∀ holder held, (row name relay.oneTimePrekeys).held = some (holder, held) →
      holder = request)
    (unused : ∀ original, committed = some original → original.usedAt = none)
    (phase : PhaseHolds relay' request state) (consumesNone : consumed state = none) :
    SingleUse relay' := by
  refine before.uncommitted requests handed (table ▸ .put same free) ?_ phase consumesNone
  intro other held original here
  rw [table, RowTable.row_put] at here
  split at here
  · cases here
    exact unused original rfl
  · exact before.heldUnused other request held original here

/-- The end of a request that commits what it holds. -/
theorem SingleUse.commit {relay relay' : Relay} {request : RequestId} {state : RequestState}
    (before : SingleUse relay)
    (requests : relay'.requests = Function.update relay.requests request state)
    (handed : handedOut relay' = handedOut relay)
    (table : relay'.oneTimePrekeys = RowTable.commit request relay.oneTimePrekeys)
    (phase : PhaseHolds relay' request state)
    (fresh : ∀ name, consumed state = some name → ¬ Spent relay name) : SingleUse relay' := by
  have split name := RowTable.row_commit_cases request name relay.oneTimePrekeys
  rw [← table] at split
  refine before.next requests handed ?_ ?_ ?_ phase fresh
  · rintro name ⟨prekey, stored, used⟩
    obtain ⟨held, holds, _⟩ | ⟨_, same⟩ := split name
    · refine absurd (before.heldUnused name request held prekey ?_) used
      cases here : row name relay.oneTimePrekeys
      simp_all
    · exact ⟨prekey, by rw [same, stored], used⟩
  · intro name holder held other holds
    obtain ⟨value, mine, _⟩ | ⟨_, same⟩ := split name
    · rw [mine] at holds
      cases holds
      exact absurd rfl other
    · exact same
  · intro name holder held prekey here
    obtain ⟨value, _, now⟩ | ⟨_, same⟩ := split name
    · rw [now] at here
      cases here
    · exact before.heldUnused name holder held prekey (same ▸ here)

/-- An answer moves its pre-key from the requests about to answer to the responses. -/
theorem SingleUse.respond {relay : Relay} {request : RequestId} {target : DeviceName}
    {deviceKey : DeviceKey} {prekeyId : PositiveInt} {prekey : OneTimePreKey}
    (before : SingleUse relay)
    (bundled : relay.requests request = .bundled target deviceKey (some (prekeyId, prekey))) :
    SingleUse (respond relay request target deviceKey (some (prekeyId, prekey))) := by
  have consumes : consumed (relay.requests request) = some ⟨target, prekeyId⟩ := by rw [bundled]; rfl
  have spent : Spent relay ⟨target, prekeyId⟩ := spent_of_consumed (before.phases request) consumes
  have theirs {other : RequestId} (different : other ≠ request) : Function.update relay.requests
      request .answered other = relay.requests other := Function.update_of_ne different _ _
  have still (other : RequestId) (name : PreKeyName) (consumesOther : consumed (Function.update
      relay.requests request .answered other) = some name) :
      other ≠ request ∧ consumed (relay.requests other) = some name := by
    by_cases same : other = request
    · rw [same, Function.update_self] at consumesOther
      cases consumesOther
    · exact ⟨same, theirs same ▸ consumesOther⟩
  refine ⟨before.heldUnused, ?_, ?_, ?_, ?_, ?_⟩
  · intro other
    by_cases same : other = request
    · subst same
      simp [KeyRelay.respond, Relay.goes, PhaseHolds]
    · change PhaseHolds _ other (Function.update relay.requests request .answered other)
      rw [theirs same]
      exact (before.phases other).frame (fun _ spent => spent) fun _ _ _ => rfl
  · intro name member
    obtain rfl | earlier := List.mem_cons.mp member
    · exact spent
    · exact before.handedSpent name earlier
  · intro first second name consumesFirst consumesSecond
    exact before.consumedOnce first second name (still first name consumesFirst).2
      (still second name consumesSecond).2
  · intro other name consumesOther member
    obtain ⟨different, earlier⟩ := still other name consumesOther
    obtain rfl | answered := List.mem_cons.mp member
    · exact different (before.consumedOnce other request _ earlier consumes)
    · exact before.consumedFresh other name earlier answered
  · exact List.nodup_cons.mpr ⟨before.consumedFresh request _ consumes, before.handedOnce⟩

/-- One statement keeps every pre-key used at most once. -/
theorem singleUse_takes {relay relay' : Relay} {request : RequestId} {statement : Statement}
    (before : SingleUse relay) (taken : Takes relay request statement relay') : SingleUse relay' := by
  cases taken with
  | readsDevice target deviceKey _ _ => exact before.elsewhere rfl rfl rfl trivial rfl
  | selects target deviceKey candidates _ => exact before.elsewhere rfl rfl rfl trivial rfl
  | locks target deviceKey candidates prekeyId prekey _ free unused =>
    refine before.put rfl rfl rfl (by rw [free]) (by simp [free]) ?_ ?_ rfl
    · intro original same
      cases same
      exact unused
    · exact ⟨prekey, prekey, by simp [Relay.goes, Relay.withPreKey, RowTable.row_put]⟩
  | marks target deviceKey prekeyId now table locked updated =>
    have phase := before.phases request
    rw [locked] at phase
    obtain ⟨prekey, held, here⟩ := phase
    rw [RowTable.update_of_held here] at updated
    cases updated
    refine before.put rfl rfl rfl (by rw [here]) (by simp [here]) ?_ ?_ rfl
    · intro original same
      cases same
      exact before.heldUnused _ request held prekey here
    · exact ⟨prekey, { held with usedAt := some now }, by simp [Relay.goes, RowTable.row_put],
        by simp⟩
  | commitsFetch target deviceKey prekeyId marked =>
    have phase := before.phases request
    rw [marked] at phase
    obtain ⟨prekey, held, here, used⟩ := phase
    have stored : row ⟨target, prekeyId⟩ (RowTable.commit request relay.oneTimePrekeys) =
        ⟨some held, none⟩ := by
      rw [RowTable.row_commit, here]
      exact if_pos rfl
    refine @SingleUse.commit relay _ request (.bundled target deviceKey (some (prekeyId, held)))
      before ?_ rfl rfl ⟨held, by simp [commitFetch, Relay.goes, stored], used⟩ ?_
    · simp [commitFetch, Relay.goes, stored]
    · rintro name consumes ⟨original, earlier, usedEarlier⟩
      cases consumes
      rw [here] at earlier
      cases earlier
      exact usedEarlier (before.heldUnused _ request held prekey here)
  | findsNone target deviceKey _ => exact before.elsewhere rfl rfl rfl trivial rfl
  | responds target deviceKey oneTimePrekey bundled =>
    cases oneTimePrekey with
    | none => exact before.elsewhere rfl rfl rfl trivial rfl
    | some entry => exact before.respond bundled
  | beginsUpload device deviceKey prekeys _ _ => exact before.elsewhere rfl rfl rfl trivial rfl
  | inserts device upload remaining _ free =>
    exact before.put rfl rfl rfl (by rw [free]) (by simp [free]) (fun _ same => by cases same) trivial
      rfl
  | commitsUpload device _ => exact before.commit rfl rfl rfl trivial (by simp [consumed])
  | beginsUpsert device body loaded _ => exact before.elsewhere rfl rfl rfl trivial rfl
  | flushes device body loaded table _ _ => exact before.elsewhere rfl rfl rfl trivial rfl
  | commitsUpsert _ _ => exact before.elsewhere rfl rfl rfl trivial rfl
  | refuses state _ refused =>
    have work := RowTable.rollback_uncommitted request relay.oneTimePrekeys
    have releases name held prekey (here : row name (RowTable.rollback request
        relay.oneTimePrekeys) = ⟨some prekey, some (request, held)⟩) : prekey.usedAt = none :=
      absurd (by rw [here]) (RowTable.rollback_releases request name held relay.oneTimePrekeys)
    obtain rfl | ⟨error, rfl⟩ := refused
    · exact before.uncommitted rfl rfl work releases trivial rfl
    · exact before.uncommitted rfl rfl work releases trivial rfl

theorem singleUse_empty {relay : Relay} (empty : relay.Empty) : SingleUse relay := by
  cases empty
  refine ⟨?_, fun _ => trivial, ?_, ?_, ?_, List.nodup_nil⟩
  · intro name holder held prekey here
    rw [RowTable.row_nil] at here
    cases here
  · intro name member
    cases member
  · intro request request' name consumes
    cases consumes
  · intro request name consumes
    cases consumes

theorem singleUse_reachable {meets : Relay → RequestId × Statement → Prop} {relay : Relay}
    (reached : Runs.ReachableBy relayStep Relay.Empty meets relay) : SingleUse relay :=
  Runs.invariant_of_preserved (fun _ => singleUse_empty)
    (fun _ _ _ before _ moved => singleUse_takes before (takes_of_step moved)) reached

/-- In every interleaving a pre-key is handed out at most once, and a request that
ended without a commit has no pre-key of its own in the table. -/
theorem prekey_handed_out_once {relay : Relay}
    (reached : Runs.Reachable relayStep Relay.Empty relay) :
    (∀ name, (handedOut relay).count name ≤ 1) ∧
    ∀ request, (relay.requests request).Refused → ∀ name prekey,
      ((row name relay.oneTimePrekeys).committed = some prekey ∨
        ∃ holder, (row name relay.oneTimePrekeys).held = some (holder, prekey)) →
      prekey.uploadedBy ≠ request := by
  have provenance : Provenance relay := provenance_reachable reached
  refine ⟨fun name => List.nodup_iff_count_le_one.mp (singleUse_reachable reached).handedOnce name,
    ?_⟩
  intro request refused name prekey present mine
  have origin := provenance.origin present
  rw [mine] at origin
  obtain ended | ⟨error, ended⟩ := refused <;> simp [ended, RequestState.uploadingFor] at origin

/-! ## One pre-key, uploaded twice and fetched once -/

def sampleDevice : DeviceName := ⟨1, onePositive⟩

def sampleMaterial (identityKeyPublicB64 : String) : DeviceKeyMaterial where
  registrationId := onePositive
  identityKeyPublicB64 := identityKeyPublicB64
  identitySigningPublicB64 := "c2lnbg=="
  signedPrekeyId := onePositive
  signedPrekeyPublicB64 := "cHJl"
  signedPrekeySignatureB64 := "c2ln"

/-- A whole upsert of the sample device. -/
def sampleUpsert (request : RequestId) (identityKeyPublicB64 : String) :
    List (RequestId × Statement) :=
  [(request, .startUpsert sampleDevice ⟨sampleDevice.deviceId, sampleMaterial identityKeyPublicB64⟩),
    (request, .flushUpsert (.newYear2026)), (request, .commitUpsert)]

def sampleBatch (prekeyPublicB64 : String) : OneTimePreKeyBatchUploadRequest where
  prekeys := [⟨sampleDevice.deviceId, ⟨7, by decide⟩, prekeyPublicB64⟩]
  nonempty := by simp
  length_le := by simp
  distinct := by simp

/-- An upload of the sample pre-key, up to its insert. -/
def sampleInsert (request : RequestId) (prekeyPublicB64 : String) : List (RequestId × Statement) :=
  [(request, .startUpload sampleDevice (sampleBatch prekeyPublicB64)), (request, .insertPreKey)]

def sampleFetch (request : RequestId) : List (RequestId × Statement) :=
  [(request, .startFetch sampleDevice true), (request, .selectPreKeys), (request, .visitPreKey),
    (request, .markUsed (.newYear2026)), (request, .commitFetch), (request, .respond)]

def handOutRun : List (RequestId × Statement) :=
  sampleUpsert 0 "aWQw" ++ sampleInsert 1 "b25l" ++ [(1, .commitUpload)] ++ sampleFetch 2 ++
    sampleInsert 3 "dHdv"

theorem prekey_handed_out_once_sample : ∃ relay,
    handedOut relay = [⟨sampleDevice, ⟨7, by decide⟩⟩] ∧
    (∀ name, (handedOut relay).count name ≤ 1) ∧
    ∀ request, (relay.requests request).Refused → ∀ name prekey,
      ((row name relay.oneTimePrekeys).committed = some prekey ∨
        ∃ holder, (row name relay.oneTimePrekeys).held = some (holder, prekey)) →
      prekey.uploadedBy ≠ request := by
  have ends : (Runs.run relayStep {} handOutRun).map handedOut =
      some [⟨sampleDevice, ⟨7, by decide⟩⟩] := by
    decide
  obtain ⟨relay, final, handed⟩ := Option.map_eq_some_iff.mp ends
  exact ⟨relay, handed, prekey_handed_out_once (Runs.reachable_of_run rfl final)⟩

end EpicKfc.Guarantees.PreKeyHandOut
