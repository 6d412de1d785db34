import EpicKfc.Lib.Runs
import EpicKfc.Source.Server.KeyRelay

/-!
# What one statement does to the relay

`Takes` lists every effect a statement can have, with the guards it passed.
`Provenance` follows a pre-key back to its upload: a committed pre-key comes from
an upload that committed, and a pre-key that only its holder sees comes from an
upload that is still under way.
-/

namespace EpicKfc.Source.Server.KeyRelay
open EpicKfc.Lib
open EpicKfc.Lib.RowTable (Table Row row)

/-- The request has ended without a commit. -/
def RequestState.Refused (state : RequestState) : Prop :=
  state = .aborted ∨ ∃ error, state = .rejected error

def Relay.withPreKey (relay : Relay) (name : PreKeyName) (prekey : Row RequestId OneTimePreKey) :
    Relay :=
  { relay with oneTimePrekeys := RowTable.put name prekey relay.oneTimePrekeys }

/-- The effects that `statement` of `request` can have. -/
inductive Takes (relay : Relay) (request : RequestId) (statement : Statement) : Relay → Prop where
  | readsDevice (target : DeviceName) (deviceKey : DeviceKey) :
      relay.requests request = .idle → getByUserAndDevice relay target = some deviceKey →
      Takes relay request statement (relay.goes request (.deviceRead target deviceKey))
  | selects (target : DeviceName) (deviceKey : DeviceKey) (candidates : List PositiveInt) :
      (relay.requests request = .deviceRead target deviceKey ∨
        ∃ earlier, relay.requests request = .selecting target deviceKey earlier) →
      Takes relay request statement (relay.goes request (.selecting target deviceKey candidates))
  | locks (target : DeviceName) (deviceKey : DeviceKey) (candidates : List PositiveInt)
      (prekeyId : PositiveInt) (prekey : OneTimePreKey) :
      relay.requests request = .selecting target deviceKey candidates →
      row ⟨target, prekeyId⟩ relay.oneTimePrekeys = ⟨some prekey, none⟩ → prekey.usedAt = none →
      Takes relay request statement ((relay.withPreKey ⟨target, prekeyId⟩
        ⟨some prekey, some (request, prekey)⟩).goes request (.locked target deviceKey prekeyId))
  | marks (target : DeviceName) (deviceKey : DeviceKey) (prekeyId : PositiveInt)
      (now : UtcTimestamp) (table : Table PreKeyName RequestId OneTimePreKey) :
      relay.requests request = .locked target deviceKey prekeyId →
      RowTable.update request ⟨target, prekeyId⟩
        (fun prekey => { prekey with usedAt := some now }) relay.oneTimePrekeys = some table →
      Takes relay request statement
        ({ relay with oneTimePrekeys := table }.goes request (.marked target deviceKey prekeyId))
  | commitsFetch (target : DeviceName) (deviceKey : DeviceKey) (prekeyId : PositiveInt) :
      relay.requests request = .marked target deviceKey prekeyId →
      Takes relay request statement (commitFetch relay request target deviceKey prekeyId)
  | findsNone (target : DeviceName) (deviceKey : DeviceKey) :
      relay.requests request = .selecting target deviceKey [] →
      Takes relay request statement (relay.goes request (.bundled target deviceKey none))
  | responds (target : DeviceName) (deviceKey : DeviceKey)
      (oneTimePrekey : Option (PositiveInt × OneTimePreKey)) :
      relay.requests request = .bundled target deviceKey oneTimePrekey →
      Takes relay request statement (respond relay request target deviceKey oneTimePrekey)
  | beginsUpload (device : DeviceName) (deviceKey : DeviceKey)
      (prekeys : List OneTimePreKeyUpload) :
      relay.requests request = .idle → getByUserAndDevice relay device = some deviceKey →
      Takes relay request statement (relay.goes request (.uploading device prekeys))
  | inserts (device : DeviceName) (upload : OneTimePreKeyUpload)
      (remaining : List OneTimePreKeyUpload) :
      relay.requests request = .uploading device (upload :: remaining) →
      row ⟨device, upload.prekeyId⟩ relay.oneTimePrekeys = ⟨none, none⟩ →
      Takes relay request statement ((relay.withPreKey ⟨device, upload.prekeyId⟩
        ⟨none, some (request, newPreKey request upload)⟩).goes request
          (.uploading device remaining))
  | commitsUpload (device : DeviceName) :
      relay.requests request = .uploading device [] →
      Takes relay request statement (commitUpload relay request)
  | beginsUpsert (device : DeviceName) (body : DeviceKeyUploadRequest)
      (loaded : Option DeviceKey) :
      relay.requests request = .idle →
      Takes relay request statement (relay.goes request (.upserting device body loaded))
  | flushes (device : DeviceName) (body : DeviceKeyUploadRequest) (loaded : Option DeviceKey)
      (table : Table DeviceName RequestId DeviceKey) :
      relay.requests request = .upserting device body loaded →
      RowTable.Uncommitted request relay.deviceKeys table →
      Takes relay request statement ({ relay with deviceKeys := table }.goes request .flushed)
  | commitsUpsert :
      statement = .commitUpsert → relay.requests request = .flushed →
      Takes relay request statement (commitUpsert relay request)
  | refuses (state : RequestState) :
      (relay.requests request).ended = false → state.Refused →
      Takes relay request statement (relay.rollsBack request state)

theorem takes_startFetch (relay : Relay) (request : RequestId) (statement : Statement) (target : DeviceName)
    (targetUserIsActive : Bool) (idle : relay.requests request = .idle) :
    Takes relay request statement (startFetch relay request target targetUserIsActive) := by
  unfold startFetch
  split
  · next deviceKey active =>
    exact .readsDevice target deviceKey idle (Option.filter_eq_some_iff.mp active).1
  · exact .refuses _ (by rw [idle]; rfl) (Or.inr ⟨_, rfl⟩)

theorem takes_visitPreKey (relay : Relay) (request : RequestId) (statement : Statement) (target : DeviceName)
    (deviceKey : DeviceKey) (candidates : List PositiveInt)
    (selecting : relay.requests request = .selecting target deviceKey candidates) :
    Takes relay request statement (visitPreKey relay request target deviceKey candidates) := by
  cases candidates with
  | nil => exact .findsNone target deviceKey selecting
  | cons prekeyId candidates =>
    simp only [visitPreKey]
    split
    · next prekey table locked =>
      obtain ⟨free, rfl⟩ := RowTable.lockFree_some locked
      split
      · next unused => exact .locks target deviceKey _ prekeyId prekey selecting free unused
      · exact .selects target deviceKey candidates (Or.inr ⟨_, selecting⟩)
    · exact .selects target deviceKey candidates (Or.inr ⟨_, selecting⟩)

theorem takes_startUpload (relay : Relay) (request : RequestId) (statement : Statement) (device : DeviceName)
    (batch : OneTimePreKeyBatchUploadRequest) (idle : relay.requests request = .idle) :
    Takes relay request statement (startUpload relay request device batch) := by
  have open' : (relay.requests request).ended = false := by rw [idle]; rfl
  unfold startUpload
  split
  · exact .refuses _ open' (Or.inr ⟨_, rfl⟩)
  · split
    · exact .refuses _ open' (Or.inr ⟨_, rfl⟩)
    · next deviceKey active =>
      exact .beginsUpload device deviceKey batch.prekeys idle (Option.filter_eq_some_iff.mp active).1

theorem takes_insertPreKey {relay relay' : Relay} {request : RequestId} {statement : Statement} {device : DeviceName}
    {upload : OneTimePreKeyUpload} {remaining : List OneTimePreKeyUpload}
    (uploading : relay.requests request = .uploading device (upload :: remaining))
    (moved : insertPreKey relay request device upload remaining = some relay') :
    Takes relay request statement relay' := by
  unfold insertPreKey at moved
  split at moved
  · next table inserted =>
    cases moved
    obtain ⟨free, rfl⟩ := RowTable.insert_done inserted
    exact .inserts device upload remaining uploading free
  · cases moved
    exact .refuses _ (by rw [uploading]; rfl) (Or.inr ⟨_, rfl⟩)
  · cases moved

theorem takes_flushUpsert {relay relay' : Relay} {request : RequestId} {statement : Statement} {device : DeviceName}
    {body : DeviceKeyUploadRequest} {loaded : Option DeviceKey} {now : UtcTimestamp}
    (upserting : relay.requests request = .upserting device body loaded)
    (moved : flushUpsert relay request device body loaded now = some relay') :
    Takes relay request statement relay' := by
  unfold flushUpsert at moved
  split at moved
  · split at moved
    · next table inserted =>
      cases moved
      exact .flushes device body _ table upserting (RowTable.insert_uncommitted inserted)
    · cases moved
      exact .refuses _ (by rw [upserting]; rfl) (Or.inr ⟨_, rfl⟩)
    · cases moved
  · obtain ⟨table, updated, rfl⟩ := Option.map_eq_some_iff.mp moved
    exact .flushes device body _ table upserting (RowTable.update_uncommitted updated)

/-- Every statement that can happen has one of the listed effects. -/
theorem takes_of_step {relay relay' : Relay} {request : RequestId} {statement : Statement}
    (moved : relayStep relay (request, statement) = some relay') : Takes relay request statement relay' := by
  simp only [relayStep] at moved
  split at moved
  · next state => cases moved; exact takes_startFetch relay request _ _ _ state
  · next state => cases moved; exact .selects _ _ _ (Or.inl state)
  · next state => cases moved; exact takes_visitPreKey relay request _ _ _ _ state
  · next state =>
    obtain ⟨table, updated, rfl⟩ := Option.map_eq_some_iff.mp moved
    exact .marks _ _ _ _ table state updated
  · next state => cases moved; exact .commitsFetch _ _ _ state
  · next state => cases moved; exact .responds _ _ _ state
  · next state => cases moved; exact takes_startUpload relay request _ _ _ state
  · next state => exact takes_insertPreKey state moved
  · next state => cases moved; exact .commitsUpload _ state
  · next state =>
    cases moved
    unfold startUpsert
    split
    · exact .refuses _ (by rw [state]; rfl) (Or.inr ⟨_, rfl⟩)
    · exact .beginsUpsert _ _ _ state
  · next state => exact takes_flushUpsert state moved
  · next state => cases moved; exact .commitsUpsert rfl state
  · split at moved
    · cases moved
    · next going =>
      cases moved
      exact .refuses _ (by simpa using going) (Or.inl rfl)
  · cases moved

/-- A statement changes the state of its own request only. -/
theorem takes_requests {relay relay' : Relay} {request : RequestId} {statement : Statement}
    (taken : Takes relay request statement relay') :
    ∃ state, relay'.requests = Function.update relay.requests request state := by
  cases taken <;> exact ⟨_, rfl⟩

/-! ## Where a pre-key comes from -/

/-- The device whose pre-keys the request is inserting. -/
def RequestState.uploadingFor : RequestState → Option DeviceName
  | .uploading device _ => some device
  | _ => none

/-- A held pre-key keeps its upload, or is an insert of its holder. -/
def HeldFrom (relay : Relay) (name : PreKeyName) (committed : Option OneTimePreKey)
    (holder : RequestId) (held : OneTimePreKey) : Prop :=
  match committed with
  | some prekey => held.uploadedBy = prekey.uploadedBy
  | none => held.uploadedBy = holder ∧ (relay.requests holder).uploadingFor = some name.device

structure Provenance (relay : Relay) : Prop where
  committed : ∀ name prekey, (row name relay.oneTimePrekeys).committed = some prekey →
    relay.requests prekey.uploadedBy = .uploaded
  held : ∀ name holder held, (row name relay.oneTimePrekeys).held = some (holder, held) →
    HeldFrom relay name (row name relay.oneTimePrekeys).committed holder held

/-- Every pre-key in the table comes from an upload that committed or is under way. -/
theorem Provenance.origin {relay : Relay} (holds : Provenance relay) {name : PreKeyName}
    {prekey : OneTimePreKey} (present : (row name relay.oneTimePrekeys).committed = some prekey ∨
      ∃ holder, (row name relay.oneTimePrekeys).held = some (holder, prekey)) :
    relay.requests prekey.uploadedBy = .uploaded ∨
      (relay.requests prekey.uploadedBy).uploadingFor = some name.device := by
  obtain stored | ⟨holder, stored⟩ := present
  · exact Or.inl (holds.committed name prekey stored)
  · have from' := holds.held name holder prekey stored
    cases earlier : (row name relay.oneTimePrekeys).committed with
    | none =>
      rw [earlier] at from'
      exact Or.inr (from'.1 ▸ from'.2)
    | some original =>
      rw [earlier] at from'
      exact Or.inl (from' ▸ holds.committed name original earlier)

/-- What a step has to show about its own request; the other requests are framed. -/
theorem Provenance.next {relay relay' : Relay} {request : RequestId} {state : RequestState}
    (before : Provenance relay)
    (requests : relay'.requests = Function.update relay.requests request state)
    (running : relay.requests request ≠ .uploaded)
    (committed : ∀ name prekey, (row name relay'.oneTimePrekeys).committed = some prekey →
      (∃ earlier, (row name relay.oneTimePrekeys).committed = some earlier ∧
        prekey.uploadedBy = earlier.uploadedBy) ∨
      prekey.uploadedBy = request ∧ state = .uploaded)
    (others : ∀ name holder held, holder ≠ request →
      (row name relay'.oneTimePrekeys).held = some (holder, held) →
        row name relay'.oneTimePrekeys = row name relay.oneTimePrekeys)
    (own : ∀ name held, (row name relay'.oneTimePrekeys).held = some (request, held) →
      HeldFrom relay' name (row name relay'.oneTimePrekeys).committed request held) :
    Provenance relay' := by
  constructor
  · intro name prekey stored
    rw [requests]
    obtain ⟨earlier, present, same⟩ | ⟨mine, ends⟩ := committed name prekey stored
    · have uploaded := before.committed name earlier present
      rw [same, Function.update_of_ne]
      · exact uploaded
      · exact fun other => running (other ▸ uploaded)
    · rw [mine, ends, Function.update_self]
  · intro name holder held stored
    by_cases mine : holder = request
    · subst mine
      exact own name held stored
    · have same := others name holder held mine stored
      rw [same] at stored ⊢
      have from' := before.held name holder held stored
      unfold HeldFrom at from' ⊢
      rw [requests, Function.update_of_ne mine]
      exact from'

/-- Work on other tables, by a request that is not uploading. -/
theorem Provenance.elsewhere {relay relay' : Relay} {request : RequestId} {state : RequestState}
    (before : Provenance relay)
    (requests : relay'.requests = Function.update relay.requests request state)
    (running : relay.requests request ≠ .uploaded) (idle : (relay.requests request).uploadingFor = none)
    (table : relay'.oneTimePrekeys = relay.oneTimePrekeys) : Provenance relay' := by
  refine before.next requests running ?_ ?_ ?_
  · intro name prekey stored
    rw [table] at stored
    exact Or.inl ⟨prekey, stored, rfl⟩
  · intro name holder held _ _
    rw [table]
  · intro name held stored
    rw [table] at stored ⊢
    have from' := before.held name request held stored
    cases earlier : (row name relay.oneTimePrekeys).committed with
    | some prekey => rwa [earlier] at from'
    | none =>
      rw [earlier] at from'
      exact absurd from'.2 (by simp [idle])

/-- The end of a request that commits what it holds. -/
theorem Provenance.commit {relay relay' : Relay} {request : RequestId} {state : RequestState}
    (before : Provenance relay)
    (requests : relay'.requests = Function.update relay.requests request state)
    (running : relay.requests request ≠ .uploaded)
    (ends : (relay.requests request).uploadingFor ≠ none → state = .uploaded)
    (table : relay'.oneTimePrekeys = RowTable.commit request relay.oneTimePrekeys) :
    Provenance relay' := by
  have split name := RowTable.row_commit_cases request name relay.oneTimePrekeys
  rw [← table] at split
  refine before.next requests running ?_ ?_ ?_
  · intro name prekey stored
    obtain ⟨value, held, now⟩ | ⟨_, same⟩ := split name
    · have from' := before.held name request value held
      rw [now] at stored
      cases stored
      cases earlier : (row name relay.oneTimePrekeys).committed with
      | none =>
        rw [earlier] at from'
        exact Or.inr ⟨from'.1, ends (by simp [from'.2])⟩
      | some original =>
        rw [earlier] at from'
        exact Or.inl ⟨original, rfl, from'⟩
    · rw [same] at stored
      exact Or.inl ⟨prekey, stored, rfl⟩
  · intro name holder held _ stored
    obtain ⟨value, _, now⟩ | ⟨_, same⟩ := split name
    · simp [now] at stored
    · exact same
  · intro name held stored
    obtain ⟨value, _, now⟩ | ⟨other, same⟩ := split name
    · simp [now] at stored
    · exact absurd (same ▸ stored) (other held)

/-- Statements of a request that commit nothing. -/
theorem Provenance.uncommitted {relay relay' : Relay} {request : RequestId} {state : RequestState}
    (before : Provenance relay)
    (requests : relay'.requests = Function.update relay.requests request state)
    (running : relay.requests request ≠ .uploaded)
    (table : RowTable.Uncommitted request relay.oneTimePrekeys relay'.oneTimePrekeys)
    (own : ∀ name held, (row name relay'.oneTimePrekeys).held = some (request, held) →
      HeldFrom relay' name (row name relay'.oneTimePrekeys).committed request held) :
    Provenance relay' := by
  refine before.next requests running ?_ ?_ own
  · intro name prekey stored
    rw [table.committed] at stored
    exact Or.inl ⟨prekey, stored, rfl⟩
  · exact fun name holder held other stored => table.row_eq other stored

theorem HeldFrom.mono {relay relay' : Relay} {name : PreKeyName}
    {committed : Option OneTimePreKey} {holder : RequestId} {held : OneTimePreKey}
    (before : HeldFrom relay name committed holder held)
    (uploads : (relay'.requests holder).uploadingFor = (relay.requests holder).uploadingFor) :
    HeldFrom relay' name committed holder held := by
  cases committed with
  | none => exact ⟨before.1, uploads.trans before.2⟩
  | some prekey => exact before

/-- One pre-key row that `request` takes or rewrites. -/
theorem Provenance.put {relay relay' : Relay} {request : RequestId} {state : RequestState}
    {name : PreKeyName} {committed : Option OneTimePreKey} {prekey : OneTimePreKey}
    (before : Provenance relay)
    (requests : relay'.requests = Function.update relay.requests request state)
    (running : relay.requests request ≠ .uploaded)
    (uploads : state.uploadingFor = (relay.requests request).uploadingFor)
    (table : relay'.oneTimePrekeys =
      RowTable.put name ⟨committed, some (request, prekey)⟩ relay.oneTimePrekeys)
    (same : (row name relay.oneTimePrekeys).committed = committed)
    (free : ∀ holder held, (row name relay.oneTimePrekeys).held = some (holder, held) →
      holder = request)
    (from' : HeldFrom relay' name committed request prekey) : Provenance relay' := by
  refine before.uncommitted requests running (table ▸ .put same free) ?_
  intro other held stored
  rw [table, RowTable.row_put] at stored ⊢
  split at stored
  · next here =>
    cases stored
    rw [if_pos here]
    exact here ▸ from'
  · next there =>
    rw [if_neg there]
    refine (before.held other request held stored).mono ?_
    rw [requests, Function.update_self]
    exact uploads

/-- One statement keeps the provenance of every pre-key. -/
theorem provenance_takes {relay relay' : Relay} {request : RequestId} {statement : Statement}
    (before : Provenance relay) (taken : Takes relay request statement relay') : Provenance relay' := by
  cases taken with
  | readsDevice target deviceKey idle _ =>
    exact before.elsewhere rfl (by simp [idle]) (by simp [idle, RequestState.uploadingFor]) rfl
  | selects target deviceKey candidates reading =>
    obtain reading | ⟨earlier, reading⟩ := reading
    · exact before.elsewhere rfl (by simp [reading]) (by simp [reading, RequestState.uploadingFor]) rfl
    · exact before.elsewhere rfl (by simp [reading]) (by simp [reading, RequestState.uploadingFor]) rfl
  | locks target deviceKey candidates prekeyId prekey selecting free _ =>
    exact before.put rfl (by simp [selecting]) (by simp [selecting, RequestState.uploadingFor]) rfl
      (by rw [free]) (by simp [free]) rfl
  | marks target deviceKey prekeyId now table locked updated =>
    obtain ⟨prekey, held, rfl⟩ := RowTable.update_some updated
    refine before.put rfl (by simp [locked]) (by simp [locked, RequestState.uploadingFor]) rfl rfl
      (fun holder value holds => RowTable.update_holder updated holds) ?_
    obtain mine | ⟨_, stored⟩ := held
    · have from' := before.held _ request prekey mine
      cases earlier : (row ⟨target, prekeyId⟩ relay.oneTimePrekeys).committed with
      | none =>
        rw [earlier] at from'
        simp [locked, HeldFrom, RequestState.uploadingFor] at from'
      | some original =>
        rw [earlier] at from'
        exact from'
    · rw [stored]
      rfl
  | commitsFetch target deviceKey prekeyId marked =>
    exact before.commit rfl (by simp [marked]) (by simp [marked, RequestState.uploadingFor]) rfl
  | findsNone target deviceKey selecting =>
    exact before.elsewhere rfl (by simp [selecting]) (by simp [selecting, RequestState.uploadingFor]) rfl
  | responds target deviceKey oneTimePrekey bundled =>
    exact before.elsewhere rfl (by simp [bundled]) (by simp [bundled, RequestState.uploadingFor]) rfl
  | beginsUpload device deviceKey prekeys idle _ =>
    exact before.elsewhere rfl (by simp [idle]) (by simp [idle, RequestState.uploadingFor]) rfl
  | inserts device upload remaining uploading free =>
    exact before.put rfl (by simp [uploading]) (by rw [uploading]; rfl) rfl (by rw [free])
      (by simp [free])
      ⟨rfl, by simp [Relay.goes, RequestState.uploadingFor]⟩
  | commitsUpload device uploading =>
    exact before.commit rfl (by simp [uploading]) (fun _ => rfl) rfl
  | beginsUpsert device body loaded idle =>
    exact before.elsewhere rfl (by simp [idle]) (by simp [idle, RequestState.uploadingFor]) rfl
  | flushes device body loaded table upserting _ =>
    exact before.elsewhere rfl (by simp [upserting]) (by simp [upserting, RequestState.uploadingFor]) rfl
  | commitsUpsert _ flushed =>
    exact before.elsewhere rfl (by simp [flushed]) (by simp [flushed, RequestState.uploadingFor]) rfl
  | refuses state going refused =>
    refine before.uncommitted rfl ?_ (RowTable.rollback_uncommitted request _) ?_
    · intro uploaded
      simp [uploaded, RequestState.ended] at going
    · intro name held stored
      exact absurd stored (RowTable.rollback_releases request name held _)

theorem provenance_empty {relay : Relay} (empty : relay.Empty) : Provenance relay := by
  cases empty
  constructor
  · intro name prekey stored
    cases stored
  · intro name holder held stored
    cases stored

theorem provenance_reachable {meets : Relay → RequestId × Statement → Prop} {relay : Relay}
    (reached : Runs.ReachableBy relayStep Relay.Empty meets relay) : Provenance relay :=
  Runs.invariant_of_preserved (fun _ => provenance_empty)
    (fun _ _ _ before _ moved => provenance_takes before (takes_of_step moved)) reached

end EpicKfc.Source.Server.KeyRelay
