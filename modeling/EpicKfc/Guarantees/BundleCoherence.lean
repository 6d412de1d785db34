import EpicKfc.Guarantees.PreKeyHandOut
import Mathlib.Tactic.FinCases

/-!
# Coherence of pre-key bundles

A bundle joins a device key with a one-time pre-key of the same device, and
nothing ties the pre-key to the identity key it was uploaded under. The two
belong together as long as an upsert that commits another identity key finds no
unused pre-key of the device and no fetch that has already read the old key.
-/

namespace EpicKfc.Guarantees.BundleCoherence
open EpicKfc.Lib
open EpicKfc.Lib.RowTable (Row row)
open EpicKfc.Source.Server
open EpicKfc.Source.Server.KeyRelay
open EpicKfc.Guarantees.PreKeyHandOut

/-- The pre-key was committed while its device's stored identity key was this one. -/
def UploadedUnder (relay : Relay) (name : PreKeyName) (identityKeyPublicB64 : String) : Prop :=
  UploadRecord.mk name (some identityKeyPublicB64) ∈ relay.uploads

/-- The request is between its device read and its lock on a pre-key of the device. -/
def Reading (device : DeviceName) : RequestState → Prop
  | .deviceRead target _ | .selecting target _ _ => target = device
  | _ => False

/-- An upsert that commits another identity key finds neither an unused pre-key of
the device nor a fetch that has read the old one. -/
def IdentityChangeIsSafe (relay : Relay) (event : RequestId × Statement) : Prop :=
  event.2 = .commitUpsert → ∀ device stored written,
    row device relay.deviceKeys = ⟨some stored, some (event.1, written)⟩ →
    written.material.identityKeyPublicB64 ≠ stored.material.identityKeyPublicB64 →
    (∀ prekeyId prekey, (row ⟨device, prekeyId⟩ relay.oneTimePrekeys).committed = some prekey →
      prekey.usedAt ≠ none) ∧
    ∀ request, ¬ Reading device (relay.requests request)

/-- What a request knows about the stored identity key of its device. -/
def PhaseCoherent (relay : Relay) : RequestState → Prop
  | .deviceRead target deviceKey | .selecting target deviceKey _ =>
    storedIdentity relay target = some deviceKey.material.identityKeyPublicB64
  | .locked target deviceKey prekeyId | .marked target deviceKey prekeyId
  | .bundled target deviceKey (some (prekeyId, _)) =>
    UploadedUnder relay ⟨target, prekeyId⟩ deviceKey.material.identityKeyPublicB64
  | .uploading device _ => storedIdentity relay device ≠ none
  | _ => True

structure Coherent (relay : Relay) : Prop where
  unused : ∀ name prekey, (row name relay.oneTimePrekeys).committed = some prekey →
    prekey.usedAt = none → ∃ identity, storedIdentity relay name.device = some identity ∧
      UploadedUnder relay name identity
  phases : ∀ request, PhaseCoherent relay (relay.requests request)
  answered : ∀ record ∈ relay.responses, ∀ name, record.handedOut = some name →
    UploadedUnder relay name record.bundle.identityKeyPublicB64

theorem PhaseCoherent.mono {relay relay' : Relay} {state : RequestState}
    (holds : PhaseCoherent relay state)
    (uploads : ∀ upload ∈ relay.uploads, upload ∈ relay'.uploads)
    (identity : ∀ device, Reading device state →
      storedIdentity relay' device = storedIdentity relay device)
    (stays : ∀ device, storedIdentity relay device ≠ none → storedIdentity relay' device ≠ none) :
    PhaseCoherent relay' state := by
  cases state with
  | deviceRead target deviceKey => exact (identity target rfl).trans holds
  | selecting target deviceKey candidates => exact (identity target rfl).trans holds
  | locked target deviceKey prekeyId => exact uploads _ holds
  | marked target deviceKey prekeyId => exact uploads _ holds
  | bundled target deviceKey oneTimePrekey =>
    cases oneTimePrekey with
    | none => trivial
    | some entry => exact uploads _ holds
  | uploading device remaining => exact stays device holds
  | _ => trivial

theorem PhaseCoherent.known {relay : Relay} {state : RequestState} {device : DeviceName}
    (holds : PhaseCoherent relay state) (reading : Reading device state) :
    ∃ identity, storedIdentity relay device = some identity := by
  cases state with
  | deviceRead target deviceKey =>
    cases reading
    exact ⟨_, holds⟩
  | selecting target deviceKey candidates =>
    cases reading
    exact ⟨_, holds⟩
  | _ => cases reading

/-- What a step without a change of identity keys has to show about its own request. -/
theorem Coherent.next {relay relay' : Relay} {request : RequestId} {state : RequestState}
    (before : Coherent relay)
    (requests : relay'.requests = Function.update relay.requests request state)
    (uploads : ∀ upload ∈ relay.uploads, upload ∈ relay'.uploads)
    (identity : ∀ device, storedIdentity relay' device = storedIdentity relay device)
    (unused : ∀ name prekey, (row name relay'.oneTimePrekeys).committed = some prekey →
      prekey.usedAt = none → ∃ identity, storedIdentity relay name.device = some identity ∧
        UploadedUnder relay' name identity)
    (phase : PhaseCoherent relay' state)
    (answered : ∀ record ∈ relay'.responses, record ∈ relay.responses ∨
      ∀ name, record.handedOut = some name →
        UploadedUnder relay' name record.bundle.identityKeyPublicB64) : Coherent relay' := by
  refine ⟨?_, ?_, ?_⟩
  · intro name prekey stored fresh
    rw [identity]
    exact unused name prekey stored fresh
  · intro other
    rw [requests]
    by_cases same : other = request
    · subst same
      rw [Function.update_self]
      exact phase
    · rw [Function.update_of_ne same]
      exact (before.phases other).mono uploads (fun device _ => identity device)
        fun device present => (identity device).symm ▸ present
  · intro record member name hands
    obtain earlier | new := answered record member
    · exact uploads _ (before.answered record earlier name hands)
    · exact new name hands

/-- Statements that leave every committed row as it is. -/
theorem Coherent.uncommitted {relay relay' : Relay} {request : RequestId} {state : RequestState}
    (before : Coherent relay)
    (requests : relay'.requests = Function.update relay.requests request state)
    (uploads : relay'.uploads = relay.uploads) (responses : relay'.responses = relay.responses)
    (devices : RowTable.Uncommitted request relay.deviceKeys relay'.deviceKeys)
    (prekeys : RowTable.Uncommitted request relay.oneTimePrekeys relay'.oneTimePrekeys)
    (phase : PhaseCoherent relay' state) : Coherent relay' := by
  refine before.next requests (fun upload member => uploads ▸ member) ?_ ?_ phase
    (fun record member => Or.inl (responses ▸ member))
  · intro device
    unfold storedIdentity getByUserAndDevice
    rw [devices.committed]
  · intro name prekey stored fresh
    rw [prekeys.committed] at stored
    obtain ⟨identity, known, under⟩ := before.unused name prekey stored fresh
    exact ⟨identity, known, by unfold UploadedUnder; rwa [uploads]⟩

/-- The end of a request that commits its pre-key rows: its inserts need an upload record. -/
theorem Coherent.commit {relay relay' : Relay} {request : RequestId} {state : RequestState}
    (before : Coherent relay) (single : SingleUse relay)
    (requests : relay'.requests = Function.update relay.requests request state)
    (uploads : ∀ upload ∈ relay.uploads, upload ∈ relay'.uploads)
    (responses : relay'.responses = relay.responses)
    (devices : relay'.deviceKeys = relay.deviceKeys)
    (prekeys : relay'.oneTimePrekeys = RowTable.commit request relay.oneTimePrekeys)
    (inserted : ∀ name held, row name relay.oneTimePrekeys = ⟨none, some (request, held)⟩ →
      ∃ identity, storedIdentity relay name.device = some identity ∧
        UploadedUnder relay' name identity)
    (phase : PhaseCoherent relay' state) : Coherent relay' := by
  refine before.next requests uploads ?_ ?_ phase (fun record member => Or.inl (responses ▸ member))
  · intro device
    unfold storedIdentity getByUserAndDevice
    rw [devices]
  · intro name prekey stored fresh
    have covered (original : OneTimePreKey) (earlier : (row name relay.oneTimePrekeys).committed =
        some original) (unused : original.usedAt = none) :
        ∃ identity, storedIdentity relay name.device = some identity ∧
          UploadedUnder relay' name identity := by
      obtain ⟨identity, known, under⟩ := before.unused name original earlier unused
      exact ⟨identity, known, uploads _ under⟩
    rw [prekeys] at stored
    obtain ⟨held, holds, now⟩ | ⟨_, same⟩ :=
      RowTable.row_commit_cases request name relay.oneTimePrekeys
    · cases here : row name relay.oneTimePrekeys with
      | mk committed holder =>
        rw [here] at holds
        cases holds
        cases committed with
        | none => exact inserted name held here
        | some original =>
          exact covered original (by rw [here]) (single.heldUnused name request held original here)
    · exact covered prekey (same ▸ stored) fresh

/-- Upload records exist for every insert that an upload commits. -/
theorem mem_committedUploads {relay : Relay} {request : RequestId} {name : PreKeyName}
    {held : OneTimePreKey}
    (here : row name relay.oneTimePrekeys = ⟨none, some (request, held)⟩) :
    UploadRecord.mk name (storedIdentity relay name.device) ∈ committedUploads relay request := by
  refine List.mem_map.mpr ⟨name, List.mem_filter.mpr ⟨?_, ?_⟩, rfl⟩
  · exact List.mem_map_of_mem (RowTable.mem_of_row (by simp [here]))
  · simp [here]

/-- A committed upsert stores what its request holds, and leaves the other devices. -/
theorem storedIdentity_commitUpsert (relay : Relay) (request : RequestId) (device : DeviceName) :
    storedIdentity (commitUpsert relay request) device = storedIdentity relay device ∨
    ∃ written, (row device relay.deviceKeys).held = some (request, written) ∧
      storedIdentity (commitUpsert relay request) device =
        some written.material.identityKeyPublicB64 := by
  unfold storedIdentity getByUserAndDevice
  obtain ⟨written, held, now⟩ | ⟨_, same⟩ :=
    RowTable.row_commit_cases request device relay.deviceKeys
  · refine Or.inr ⟨written, held, ?_⟩
    simp only [commitUpsert, Relay.goes, now, Option.map_some]
  · refine Or.inl ?_
    simp only [commitUpsert, Relay.goes, same]

/-- A safe change of a stored identity key meets no unused pre-key and no reading fetch. -/
theorem quiet_of_changed {relay : Relay} {request : RequestId} {device : DeviceName}
    {identity : String} (safe : IdentityChangeIsSafe relay (request, .commitUpsert))
    (known : storedIdentity relay device = some identity)
    (changed : storedIdentity (commitUpsert relay request) device ≠ storedIdentity relay device) :
    (∀ prekeyId prekey, (row ⟨device, prekeyId⟩ relay.oneTimePrekeys).committed = some prekey →
      prekey.usedAt ≠ none) ∧
    ∀ other, ¬ Reading device (relay.requests other) := by
  obtain same | ⟨written, held, now⟩ := storedIdentity_commitUpsert relay request device
  · exact absurd same changed
  · obtain ⟨stored, present, rfl⟩ := Option.map_eq_some_iff.mp known
    refine safe rfl device stored written ?_ ?_
    · unfold getByUserAndDevice at present
      cases here : row device relay.deviceKeys
      simp_all
    · intro same
      rw [now, known, same] at changed
      exact changed rfl

/-- An upsert whose identity change is safe. -/
theorem Coherent.upsert {relay : Relay} {request : RequestId} (before : Coherent relay)
    (safe : IdentityChangeIsSafe relay (request, .commitUpsert)) :
    Coherent (commitUpsert relay request) := by
  refine ⟨?_, ?_, before.answered⟩
  · intro name prekey stored fresh
    obtain ⟨identity, known, under⟩ := before.unused name prekey stored fresh
    refine ⟨identity, ?_, under⟩
    by_contra changed
    exact (quiet_of_changed safe known (known ▸ changed)).1 name.prekeyId prekey stored fresh
  · intro other
    change PhaseCoherent _ (Function.update relay.requests request .upserted other)
    by_cases same : other = request
    · rw [same, Function.update_self]
      trivial
    · rw [Function.update_of_ne same]
      refine (before.phases other).mono (fun _ member => member) ?_ ?_
      · intro device reading
        obtain ⟨identity, known⟩ := (before.phases other).known reading
        by_contra changed
        exact (quiet_of_changed safe known changed).2 other reading
      · intro device present
        obtain kept | ⟨written, _, now⟩ := storedIdentity_commitUpsert relay request device
        · exact kept ▸ present
        · rw [now]
          exact Option.some_ne_none _

/-- One statement whose identity change is safe keeps bundles coherent. -/
theorem coherent_takes {relay relay' : Relay} {request : RequestId} {statement : Statement}
    (before : Coherent relay) (single : SingleUse relay) (provenance : Provenance relay)
    (safe : IdentityChangeIsSafe relay (request, statement))
    (taken : Takes relay request statement relay') : Coherent relay' := by
  have phase := before.phases request
  cases taken with
  | readsDevice target deviceKey idle stored =>
    exact before.uncommitted rfl rfl rfl (.refl request _) (.refl request _)
      (congrArg (Option.map _) stored)
  | selects target deviceKey candidates reading =>
    refine before.uncommitted rfl rfl rfl (.refl request _) (.refl request _) ?_
    obtain reading | ⟨earlier, reading⟩ := reading
    · rw [reading] at phase
      exact phase
    · rw [reading] at phase
      exact phase
  | locks target deviceKey candidates prekeyId prekey selecting free unused =>
    refine before.uncommitted rfl rfl rfl (.refl request _)
      (.put (by rw [free]) (by simp [free])) ?_
    rw [selecting] at phase
    obtain ⟨identity, known, under⟩ := before.unused ⟨target, prekeyId⟩ prekey (by rw [free]) unused
    have same : identity = deviceKey.material.identityKeyPublicB64 :=
      Option.some.inj (known.symm.trans phase)
    subst same
    exact under
  | marks target deviceKey prekeyId now table locked updated =>
    rw [locked] at phase
    exact before.uncommitted rfl rfl rfl (.refl request _) (RowTable.update_uncommitted updated)
      phase
  | commitsFetch target deviceKey prekeyId marked =>
    rw [marked] at phase
    refine before.commit single rfl (fun _ member => member) rfl rfl rfl ?_ ?_
    · intro name held here
      have from' := provenance.held name request held (by rw [here])
      rw [here] at from'
      exact absurd from'.2 (by simp [marked, RequestState.uploadingFor])
    · cases (row ⟨target, prekeyId⟩ (RowTable.commit request relay.oneTimePrekeys)).committed with
      | none => trivial
      | some prekey => exact phase
  | findsNone target deviceKey _ =>
    exact before.uncommitted rfl rfl rfl (.refl request _) (.refl request _) trivial
  | responds target deviceKey oneTimePrekey bundled =>
    rw [bundled] at phase
    refine before.next rfl (fun _ member => member) (fun _ => rfl) before.unused trivial ?_
    intro record member
    obtain rfl | earlier := List.mem_cons.mp member
    · right
      intro name hands
      cases oneTimePrekey with
      | none => cases hands
      | some entry =>
        cases hands
        exact phase
    · exact Or.inl earlier
  | beginsUpload device deviceKey prekeys _ stored =>
    refine before.uncommitted rfl rfl rfl (.refl request _) (.refl request _) ?_
    have known : storedIdentity relay device = some deviceKey.material.identityKeyPublicB64 :=
      congrArg (Option.map _) stored
    change storedIdentity relay device ≠ none
    rw [known]
    exact Option.some_ne_none _
  | inserts device upload remaining uploading free =>
    rw [uploading] at phase
    exact before.uncommitted rfl rfl rfl (.refl request _)
      (.put (by rw [free]) (by simp [free])) phase
  | commitsUpload device uploading =>
    rw [uploading] at phase
    refine before.commit single rfl (fun _ => List.mem_append_right _) rfl rfl rfl ?_ trivial
    intro name held here
    have from' := provenance.held name request held (by rw [here])
    rw [here] at from'
    have own : name.device = device := by
      simpa [uploading, RequestState.uploadingFor] using from'.2.symm
    obtain ⟨identity, known⟩ := Option.ne_none_iff_exists'.mp phase
    refine ⟨identity, own ▸ known, List.mem_append_left _ ?_⟩
    rw [← known, ← own]
    exact mem_committedUploads here
  | beginsUpsert device body loaded _ =>
    exact before.uncommitted rfl rfl rfl (.refl request _) (.refl request _) trivial
  | flushes device body loaded table _ work =>
    exact before.uncommitted rfl rfl rfl work (.refl request _) trivial
  | commitsUpsert now _ => exact before.upsert (now ▸ safe)
  | refuses state _ refused =>
    refine before.uncommitted rfl rfl rfl (RowTable.rollback_uncommitted request _)
      (RowTable.rollback_uncommitted request _) ?_
    obtain rfl | ⟨error, rfl⟩ := refused <;> trivial

theorem coherent_empty {relay : Relay} (empty : relay.Empty) : Coherent relay := by
  cases empty
  refine ⟨?_, fun _ => trivial, ?_⟩
  · intro name prekey stored
    cases stored
  · intro record member
    cases member

/-- In every run whose identity changes are safe, a bundle carries a pre-key only if
it was uploaded under the identity key of the bundle. -/
theorem bundles_coherent {relay : Relay}
    (reached : Runs.ReachableBy relayStep Relay.Empty IdentityChangeIsSafe relay) :
    ∀ record ∈ relay.responses, ∀ name, record.handedOut = some name →
      UploadedUnder relay name record.bundle.identityKeyPublicB64 := by
  have invariant : Coherent relay ∧ SingleUse relay ∧ Provenance relay := by
    refine @Runs.invariant_of_preserved _ _ relayStep Relay.Empty IdentityChangeIsSafe
      (fun relay => Coherent relay ∧ SingleUse relay ∧ Provenance relay) ?_ ?_ relay reached
    · exact fun relay empty => ⟨coherent_empty empty, singleUse_empty empty, provenance_empty empty⟩
    · rintro relay event relay' ⟨coherent, single, provenance⟩ safe moved
      have taken := takes_of_step moved
      exact ⟨coherent_takes coherent single provenance safe taken, singleUse_takes single taken,
        provenance_takes provenance taken⟩
  exact invariant.1.answered

/-! ## A change after the hand-out -/

instance (device : DeviceName) : (state : RequestState) → Decidable (Reading device state)
  | .deviceRead _ _ | .selecting _ _ _ => inferInstanceAs (Decidable (_ = _))
  | .idle | .locked _ _ _ | .marked _ _ _ | .bundled _ _ _ | .answered | .uploading _ _ | .uploaded
  | .upserting _ _ _ | .flushed | .upserted | .rejected _ | .aborted =>
    inferInstanceAs (Decidable False)

/-- One of the requests takes a statement; a commit meets no unused pre-key of a stored device, and
none of the requests reads one. -/
def checkChange (requests : List RequestId) (relay : Relay) (event : RequestId × Statement) : Bool :=
  requests.contains event.1 &&
  match event.2 with
  | .commitUpsert => relay.deviceKeys.all fun entry => entry.2.committed.isNone ||
    (relay.oneTimePrekeys.all fun prekey => prekey.1.device != entry.1 ||
      prekey.2.committed.all fun stored => stored.usedAt.isSome) &&
    requests.all fun request => !decide (Reading entry.1 (relay.requests request))
  | _ => true

theorem everyStep_of_checkChange (requests : List RequestId) {events : List (RequestId × Statement)}
    (checked : Runs.checkRun relayStep (checkChange requests) {} events = true) :
    Runs.EveryStep relayStep IdentityChangeIsSafe {} events := by
  have alone : Runs.EveryStep relayStep (fun relay event =>
      IdentityChangeIsSafe relay event ∧ checkChange requests relay event = true) {} events := by
    refine @Runs.everyStep_of_check _ _ relayStep
      (fun relay => ∀ other, other ∉ requests → relay.requests other = .idle) _ (checkChange requests)
      ?_ ?_ events {} (fun _ _ => rfl) checked
    · rintro relay ⟨request, statement⟩ only checked
      refine ⟨?_, checked⟩
      rintro rfl device stored written here -
      have clear := (Bool.and_eq_true_iff.mp checked).2
      simp only [List.all_eq_true, Bool.or_eq_true, Bool.and_eq_true, Option.isNone_iff_eq_none,
        bne_iff_ne, Bool.not_eq_true', decide_eq_false_iff_not] at clear
      have member := @RowTable.mem_of_row _ _ _ _ device relay.deviceKeys (by simp [here])
      obtain absent | ⟨used, unread⟩ := clear _ member
      · rw [here] at absent
        cases absent
      · refine ⟨fun prekeyId prekey committed => ?_, fun other => ?_⟩
        · have listed := @RowTable.mem_of_row _ _ _ _ (PreKeyName.mk device prekeyId)
            relay.oneTimePrekeys (fun none => by rw [none] at committed; cases committed)
          have now := (used _ listed).resolve_left (not_not.mpr rfl)
          rw [committed] at now
          exact Option.isSome_iff_ne_none.mp now
        · by_cases begun : other ∈ requests
          · exact unread other begun
          · rw [only other begun]
            exact id
    · rintro relay ⟨request, statement⟩ relay' only ⟨-, checked⟩ moved other different
      obtain ⟨state, updated⟩ := takes_requests (takes_of_step moved)
      have begun : request ∈ requests := List.contains_iff_mem.mp (Bool.and_eq_true_iff.mp checked).1
      have other' : other ≠ request := fun same => different (same ▸ begun)
      rw [updated, Function.update_of_ne other']
      exact only other different
  exact alone.mono fun _ _ both => both.1

/-- The next pre-key, with another id. -/
def nextBatch : OneTimePreKeyBatchUploadRequest where
  prekeys := [⟨sampleDevice.deviceId, ⟨8, by decide⟩, "dHdv"⟩]
  nonempty := by simp
  length_le := by simp
  distinct := by simp

/-- The device changes its identity key once its pre-key is handed out, and then uploads another. -/
def renewalRun : List (RequestId × Statement) :=
  sampleUpsert 0 "aWQw" ++ sampleInsert 1 "b25l" ++ [(1, .commitUpload)] ++ sampleFetch 2 ++
    sampleUpsert 3 "aWQx" ++
    [(4, .startUpload sampleDevice nextBatch), (4, .insertPreKey), (4, .commitUpload)] ++ sampleFetch 5

theorem bundles_coherent_sample : ∃ relay,
    (relay.responses.map fun record =>
      (record.handedOut, record.bundle.identityKeyPublicB64)) =
        [(some ⟨sampleDevice, ⟨8, by decide⟩⟩, "aWQx"), (some ⟨sampleDevice, ⟨7, by decide⟩⟩, "aWQw")] ∧
    ∀ record ∈ relay.responses, ∀ name, record.handedOut = some name →
      UploadedUnder relay name record.bundle.identityKeyPublicB64 := by
  have ends : (Runs.run relayStep {} renewalRun).map (fun relay => relay.responses.map fun record =>
      (record.handedOut, record.bundle.identityKeyPublicB64)) =
        some [(some ⟨sampleDevice, ⟨8, by decide⟩⟩, "aWQx"),
          (some ⟨sampleDevice, ⟨7, by decide⟩⟩, "aWQw")] := by
    decide
  obtain ⟨relay, final, handed⟩ := Option.map_eq_some_iff.mp ends
  have safe := @everyStep_of_checkChange [0, 1, 2, 3, 4, 5] renewalRun (by decide)
  exact ⟨relay, handed, bundles_coherent (Runs.reachableBy_of_run renewalRun (.start rfl) safe final)⟩

/-- A device changes its identity key and uploads its pre-key again under the new
one; the upload is refused, and the old pre-key is handed out with the new key. -/
def identityChangeRun : List (RequestId × Statement) :=
  sampleUpsert 0 "aWQw" ++ sampleInsert 1 "b25l" ++ [(1, .commitUpload)] ++
    sampleUpsert 2 "aWQx" ++ sampleInsert 3 "dHdv" ++ sampleFetch 4

theorem stale_prekey_in_new_bundle : ∃ relay, Runs.Reachable relayStep Relay.Empty relay ∧
    ∃ record ∈ relay.responses, ∃ name, record.handedOut = some name ∧
      record.bundle.oneTimePrekeyPublicB64 = some "b25l" ∧
      record.bundle.identityKeyPublicB64 = "aWQx" ∧ ¬ UploadedUnder relay name "aWQx" := by
  have ends : (Runs.run relayStep {} identityChangeRun).map (fun relay =>
      (relay.responses, relay.uploads)) =
      some ([⟨sampleDevice, bundleResponse sampleDevice
          (assignedDeviceKey ⟨sampleDevice.deviceId, sampleMaterial "aWQx"⟩
            (.newYear 2026 (by decide)))
          (some (⟨7, by decide⟩, ⟨"b25l", none, 1⟩))⟩],
        [⟨⟨sampleDevice, ⟨7, by decide⟩⟩, some "aWQw"⟩]) := by
    decide
  obtain ⟨relay, final, outcome⟩ := Option.map_eq_some_iff.mp ends
  obtain ⟨responses, uploads⟩ := Prod.mk.inj outcome
  refine ⟨relay, Runs.reachable_of_run rfl final, _, responses ▸ List.mem_singleton_self _,
    ⟨sampleDevice, ⟨7, by decide⟩⟩, rfl, rfl, rfl, ?_⟩
  unfold UploadedUnder
  rw [uploads]
  decide

end EpicKfc.Guarantees.BundleCoherence
