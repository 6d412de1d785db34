import EpicKfc.Guarantees.PreKeyHandOut
import EpicKfc.Source.KeyRequests

/-!
# What a fetched bundle is made of

Upserts of a device interleave, and each writes only the columns that differ from
the row it has loaded, so the columns of a bundle may come from different uploads.
Each of them comes from some upload for that device, and the one-time pre-key from
some batch. A device that uploads one set of keys is therefore published as it is.
-/

namespace EpicKfc.Guarantees.PublishedBundles
open EpicKfc.Lib
open EpicKfc.Source.Server
open EpicKfc.Source.Server.KeyRelay
open EpicKfc.Source
open EpicKfc.Source.KeyRequests
open EpicKfc.Guarantees.PreKeyHandOut

/-! ## Uploads -/

/-- Every column is that of some material, not always of the same. -/
structure Mixed (uploaded : DeviceKeyMaterial → Prop) (material : DeviceKeyMaterial) : Prop where
  registrationId : ∃ source, uploaded source ∧ source.registrationId = material.registrationId
  identityKey : ∃ source, uploaded source ∧
    source.identityKeyPublicB64 = material.identityKeyPublicB64
  identitySigning : ∃ source, uploaded source ∧
    source.identitySigningPublicB64 = material.identitySigningPublicB64
  signedPrekeyId : ∃ source, uploaded source ∧ source.signedPrekeyId = material.signedPrekeyId
  signedPrekey : ∃ source, uploaded source ∧
    source.signedPrekeyPublicB64 = material.signedPrekeyPublicB64
  signedPrekeySignature : ∃ source, uploaded source ∧
    source.signedPrekeySignatureB64 = material.signedPrekeySignatureB64

theorem Mixed.of_uploaded {uploaded : DeviceKeyMaterial → Prop} {material : DeviceKeyMaterial}
    (given : uploaded material) : Mixed uploaded material :=
  ⟨⟨_, given, rfl⟩, ⟨_, given, rfl⟩, ⟨_, given, rfl⟩, ⟨_, given, rfl⟩, ⟨_, given, rfl⟩, ⟨_, given, rfl⟩⟩

theorem changedColumn_cases {β : Type} [DecidableEq β] (loaded assigned stored : β) :
    changedColumn loaded assigned stored = assigned ∨ changedColumn loaded assigned stored = stored := by
  unfold changedColumn
  split
  · exact Or.inr rfl
  · exact Or.inl rfl

/-- An `UPDATE` keeps a column or takes the one that is uploaded. -/
theorem Mixed.writeChanged {uploaded : DeviceKeyMaterial → Prop} {loaded assigned stored : DeviceKey}
    (given : uploaded assigned.material) (before : Mixed uploaded stored.material) :
    Mixed uploaded (writeChanged loaded assigned stored).material := by
  have column {β : Type} [DecidableEq β] (read : DeviceKeyMaterial → β) (old : β)
      (earlier : ∃ source, uploaded source ∧ read source = read stored.material) :
      ∃ source, uploaded source ∧
        read source = changedColumn old (read assigned.material) (read stored.material) := by
    obtain taken | kept := changedColumn_cases old (read assigned.material) (read stored.material)
    · exact ⟨assigned.material, given, taken.symm⟩
    · obtain ⟨source, uploaded, same⟩ := earlier
      exact ⟨source, uploaded, same.trans kept.symm⟩
  exact ⟨column (·.registrationId) _ before.registrationId,
    column (·.identityKeyPublicB64) _ before.identityKey,
    column (·.identitySigningPublicB64) _ before.identitySigning,
    column (·.signedPrekeyId) _ before.signedPrekeyId,
    column (·.signedPrekeyPublicB64) _ before.signedPrekey,
    column (·.signedPrekeySignatureB64) _ before.signedPrekeySignature⟩

section
variable (uploaded : DeviceName → DeviceKeyMaterial → Prop) (offered : PreKeyName → String → Prop)

/-- Every upload that a route lets through is one of these. -/
def Uploads (_relay : Relay) : RequestId × Statement → Prop
  | (_, .startUpsert device body) => device.deviceId = body.deviceId → uploaded device body.material
  | (_, .startUpload device batch) => (∀ prekey ∈ batch.prekeys, prekey.deviceId = device.deviceId) →
    ∀ prekey ∈ batch.prekeys, offered ⟨device, prekey.prekeyId⟩ prekey.prekeyPublicB64
  | _ => True

/-- What a request has read or taken from its body. -/
def Held : RequestState → Prop
  | .deviceRead target deviceKey | .selecting target deviceKey _ | .locked target deviceKey _
  | .marked target deviceKey _ => Mixed (uploaded target) deviceKey.material
  | .bundled target deviceKey oneTimePrekey => Mixed (uploaded target) deviceKey.material ∧
    ∀ entry ∈ oneTimePrekey, offered ⟨target, entry.1⟩ entry.2.prekeyPublicB64
  | .uploading device remaining =>
    ∀ prekey ∈ remaining, offered ⟨device, prekey.prekeyId⟩ prekey.prekeyPublicB64
  | .upserting device body _ => uploaded device body.material
  | _ => True

/-- A response joins a device key of the target with one of its pre-keys, or none. -/
def Joined (record : BundleRecord) : Prop :=
  ∃ deviceKey oneTimePrekey, record.bundle = bundleResponse record.target deviceKey oneTimePrekey ∧
    Held uploaded offered (.bundled record.target deviceKey oneTimePrekey)

structure FromUploads (relay : Relay) : Prop where
  deviceKeys : RowTable.Every (fun name deviceKey => Mixed (uploaded name) deviceKey.material)
    relay.deviceKeys
  oneTimePrekeys : RowTable.Every (fun name prekey => offered name prekey.prekeyPublicB64)
    relay.oneTimePrekeys
  requests : ∀ request, Held uploaded offered (relay.requests request)
  responses : ∀ record ∈ relay.responses, Joined uploaded offered record

end

variable {uploaded : DeviceName → DeviceKeyMaterial → Prop} {offered : PreKeyName → String → Prop}

/-! ## Steps -/

theorem held_update {requests : RequestId → RequestState} {request : RequestId} {state : RequestState}
    (before : ∀ other, Held uploaded offered (requests other)) (now : Held uploaded offered state) :
    ∀ other, Held uploaded offered (Function.update requests request state other) := by
  intro other
  by_cases same : other = request
  · subst same
    rwa [Function.update_self]
  · rw [Function.update_of_ne same]
    exact before other

section
variable {relay : Relay} {request : RequestId}

theorem FromUploads.goes (before : FromUploads uploaded offered relay) {state : RequestState}
    (now : Held uploaded offered state) : FromUploads uploaded offered (relay.goes request state) :=
  ⟨before.deviceKeys, before.oneTimePrekeys, held_update before.requests now, before.responses⟩

theorem FromUploads.rollsBack (before : FromUploads uploaded offered relay) {state : RequestState}
    (now : Held uploaded offered state) :
    FromUploads uploaded offered (relay.rollsBack request state) :=
  ⟨before.deviceKeys.rollback request, before.oneTimePrekeys.rollback request,
    held_update before.requests now, before.responses⟩

theorem FromUploads.withPreKeys (before : FromUploads uploaded offered relay)
    {table : RowTable.Table PreKeyName RequestId OneTimePreKey}
    (kept : RowTable.Every (fun name prekey => offered name prekey.prekeyPublicB64) table) :
    FromUploads uploaded offered { relay with oneTimePrekeys := table } :=
  ⟨before.deviceKeys, kept, before.requests, before.responses⟩

theorem FromUploads.withDevices (before : FromUploads uploaded offered relay)
    {table : RowTable.Table DeviceName RequestId DeviceKey}
    (kept : RowTable.Every (fun name deviceKey => Mixed (uploaded name) deviceKey.material) table) :
    FromUploads uploaded offered { relay with deviceKeys := table } :=
  ⟨kept, before.oneTimePrekeys, before.requests, before.responses⟩

/-- A device key that is read is made of uploads. -/
theorem FromUploads.stored (before : FromUploads uploaded offered relay) {name : DeviceName}
    {deviceKey : DeviceKey} (active : getActiveByUserAndDevice relay name = some deviceKey) :
    Mixed (uploaded name) deviceKey.material :=
  before.deviceKeys name deviceKey (Or.inl (Option.filter_eq_some_iff.mp active).1)

theorem fromUploads_startFetch (before : FromUploads uploaded offered relay) (target : DeviceName)
    (targetUserIsActive : Bool) :
    FromUploads uploaded offered (startFetch relay request target targetUserIsActive) := by
  unfold startFetch
  split
  · next active => exact before.goes (before.stored active)
  · exact before.rollsBack trivial

theorem fromUploads_visitPreKey (before : FromUploads uploaded offered relay) {target : DeviceName}
    {deviceKey : DeviceKey} {candidates : List PositiveInt}
    (read : Mixed (uploaded target) deviceKey.material) :
    FromUploads uploaded offered (visitPreKey relay request target deviceKey candidates) := by
  cases candidates with
  | nil => exact before.goes ⟨read, by simp⟩
  | cons prekeyId candidates =>
    simp only [visitPreKey]
    split
    · next prekey table locked =>
      split
      · exact (before.withPreKeys (before.oneTimePrekeys.lockFree locked)).goes read
      · exact before.goes read
    · exact before.goes read

theorem fromUploads_commitFetch (before : FromUploads uploaded offered relay) {target : DeviceName}
    {deviceKey : DeviceKey} (prekeyId : PositiveInt)
    (read : Mixed (uploaded target) deviceKey.material) :
    FromUploads uploaded offered (commitFetch relay request target deviceKey prekeyId) := by
  have committed := before.oneTimePrekeys.commit request
  refine (before.withPreKeys committed).goes ⟨read, ?_⟩
  intro entry handed
  obtain ⟨prekey, stored, rfl⟩ := Option.map_eq_some_iff.mp handed
  exact committed _ prekey (Or.inl stored)

theorem fromUploads_respond (before : FromUploads uploaded offered relay) {target : DeviceName}
    {deviceKey : DeviceKey} {oneTimePrekey : Option (PositiveInt × OneTimePreKey)}
    (bundled : Held uploaded offered (.bundled target deviceKey oneTimePrekey)) :
    FromUploads uploaded offered (respond relay request target deviceKey oneTimePrekey) := by
  refine ⟨before.deviceKeys, before.oneTimePrekeys, held_update before.requests trivial, ?_⟩
  intro record member
  obtain rfl | earlier := List.mem_cons.mp member
  · exact ⟨deviceKey, oneTimePrekey, rfl, bundled⟩
  · exact before.responses record earlier

theorem fromUploads_startUpload (before : FromUploads uploaded offered relay) {device : DeviceName}
    {batch : OneTimePreKeyBatchUploadRequest}
    (met : Uploads uploaded offered relay (request, .startUpload device batch)) :
    FromUploads uploaded offered (startUpload relay request device batch) := by
  unfold startUpload
  split
  · exact before.rollsBack trivial
  · next same =>
    simp only [List.any_eq_true, decide_eq_true_eq, not_exists, not_and, not_not] at same
    split
    · exact before.rollsBack trivial
    · exact before.goes (met same)

theorem fromUploads_insertPreKey (before : FromUploads uploaded offered relay) {device : DeviceName}
    {upload : OneTimePreKeyUpload} {remaining : List OneTimePreKeyUpload} {relay' : Relay}
    (listed : ∀ prekey ∈ upload :: remaining,
      offered ⟨device, prekey.prekeyId⟩ prekey.prekeyPublicB64)
    (moved : insertPreKey relay request device upload remaining = some relay') :
    FromUploads uploaded offered relay' := by
  unfold insertPreKey at moved
  split at moved
  · next inserted =>
    cases moved
    have kept := before.oneTimePrekeys.insert inserted (listed upload List.mem_cons_self)
    exact (before.withPreKeys kept).goes fun prekey later => listed prekey (List.mem_cons_of_mem _ later)
  · cases moved
    exact before.rollsBack trivial
  · cases moved

theorem fromUploads_flushUpsert (before : FromUploads uploaded offered relay) {device : DeviceName}
    {body : DeviceKeyUploadRequest} {loaded : Option DeviceKey} {now : UtcTimestamp} {relay' : Relay}
    (given : uploaded device body.material)
    (moved : flushUpsert relay request device body loaded now = some relay') :
    FromUploads uploaded offered relay' := by
  unfold flushUpsert at moved
  split at moved
  · split at moved
    · next inserted =>
      cases moved
      exact (before.withDevices (before.deviceKeys.insert inserted (.of_uploaded given))).goes trivial
    · cases moved
      exact before.rollsBack trivial
    · cases moved
  · obtain ⟨table, updated, rfl⟩ := Option.map_eq_some_iff.mp moved
    have kept := before.deviceKeys.update updated fun stored mixed => mixed.writeChanged given
    exact (before.withDevices kept).goes trivial

end

/-- Every statement leaves a relay that is made of uploads. -/
theorem fromUploads_step {relay relay' : Relay} {event : RequestId × Statement}
    (before : FromUploads uploaded offered relay) (met : Uploads uploaded offered relay event)
    (moved : relayStep relay event = some relay') : FromUploads uploaded offered relay' := by
  obtain ⟨request, statement⟩ := event
  have held := before.requests request
  simp only [relayStep] at moved
  split at moved
  · cases moved
    exact fromUploads_startFetch before _ _
  · next state =>
    cases moved
    rw [state] at held
    exact before.goes held
  · next state =>
    cases moved
    rw [state] at held
    exact fromUploads_visitPreKey before held
  · next state =>
    rw [state] at held
    obtain ⟨table, updated, rfl⟩ := Option.map_eq_some_iff.mp moved
    exact (before.withPreKeys (before.oneTimePrekeys.update updated fun _ kept => kept)).goes held
  · next state =>
    cases moved
    rw [state] at held
    exact fromUploads_commitFetch before _ held
  · next state =>
    cases moved
    rw [state] at held
    exact fromUploads_respond before held
  · cases moved
    exact fromUploads_startUpload before met
  · next state =>
    rw [state] at held
    exact fromUploads_insertPreKey before held moved
  · cases moved
    have committed := before.oneTimePrekeys.commit request
    exact ⟨before.deviceKeys, committed, held_update before.requests trivial, before.responses⟩
  · cases moved
    unfold startUpsert
    split
    · exact before.rollsBack trivial
    · next same => exact before.goes (met (not_not.mp same))
  · next state =>
    rw [state] at held
    exact fromUploads_flushUpsert before held moved
  · cases moved
    exact (before.withDevices (before.deviceKeys.commit request)).goes trivial
  · split at moved
    · cases moved
    · cases moved
      exact before.rollsBack trivial
  · cases moved

theorem fromUploads_empty {relay : Relay} (empty : relay.Empty) :
    FromUploads uploaded offered relay := by
  cases empty
  exact ⟨RowTable.every_nil, RowTable.every_nil, fun _ => trivial, by simp⟩

theorem fromUploads_reachable {relay : Relay}
    (reached : Runs.ReachableBy relayStep Relay.Empty (Uploads uploaded offered) relay) :
    FromUploads uploaded offered relay :=
  Runs.invariant_of_preserved (fun _ => fromUploads_empty)
    (fun _ _ _ before met moved => fromUploads_step before met moved) reached

/-! ## Runs -/

/-- The run lets this material through for the device. -/
def UploadedIn (events : List (RequestId × Statement)) (device : DeviceName)
    (material : DeviceKeyMaterial) : Prop :=
  ∃ request body, (request, Statement.startUpsert device body) ∈ events ∧
    device.deviceId = body.deviceId ∧ body.material = material

/-- The run lets this one-time pre-key through. -/
def OfferedIn (events : List (RequestId × Statement)) (name : PreKeyName) (prekeyPublicB64 : String) :
    Prop :=
  ∃ request batch, (request, Statement.startUpload name.device batch) ∈ events ∧
    ∃ prekey ∈ batch.prekeys, prekey.prekeyId = name.prekeyId ∧
      prekey.prekeyPublicB64 = prekeyPublicB64

theorem uploads_of_mem {events : List (RequestId × Statement)} {event : RequestId × Statement}
    (member : event ∈ events) (relay : Relay) :
    Uploads (UploadedIn events) (OfferedIn events) relay event := by
  obtain ⟨request, statement⟩ := event
  cases statement with
  | startUpsert device body => exact fun same => ⟨request, body, member, same, rfl⟩
  | startUpload device batch =>
    exact fun _ prekey listed => ⟨request, batch, member, prekey, listed, rfl, rfl⟩
  | _ => trivial

theorem joined_of_run {events : List (RequestId × Statement)} {relay : Relay}
    (ends : Runs.run relayStep {} events = some relay) :
    ∀ record ∈ relay.responses, Joined (UploadedIn events) (OfferedIn events) record := by
  have met : Runs.EveryStep relayStep (Uploads (UploadedIn events) (OfferedIn events)) {} events :=
    Runs.everyStep_of_forall (fun event member => uploads_of_mem member) _
  exact (fromUploads_reachable (Runs.reachableBy_of_run events (.start rfl) met ends)).responses

/-- Every column of every bundle that a run returns was uploaded for the device in that run, and its
one-time pre-key too, the id with the key. -/
theorem bundle_from_uploads {events : List (RequestId × Statement)} {relay : Relay}
    (ends : Runs.run relayStep {} events = some relay) :
    ∀ record ∈ relay.responses,
      (∃ deviceKey oneTimePrekey,
        record.bundle = bundleResponse record.target deviceKey oneTimePrekey ∧
        Mixed (UploadedIn events record.target) deviceKey.material) ∧
      ∀ name, record.handedOut = some name →
        ∃ prekeyPublicB64, record.bundle.oneTimePrekeyPublicB64 = some prekeyPublicB64 ∧
          OfferedIn events name prekeyPublicB64 := by
  intro record member
  obtain ⟨deviceKey, oneTimePrekey, joined, mixed, offered⟩ := joined_of_run ends record member
  refine ⟨⟨deviceKey, oneTimePrekey, joined, mixed⟩, ?_⟩
  intro name handed
  rw [BundleRecord.handedOut, joined] at handed
  obtain ⟨prekeyId, given, rfl⟩ := Option.map_eq_some_iff.mp handed
  obtain ⟨entry, here, rfl⟩ := Option.map_eq_some_iff.mp given
  refine ⟨entry.2.prekeyPublicB64, ?_, offered entry here⟩
  rw [joined, bundleResponse, here]
  rfl

/-- Two upserts load the same row; one changes the identity key, the other the signature. -/
def crossedRun : List (RequestId × Statement) :=
  sampleUpsert 0 "aWQw" ++ [
    (1, .startUpsert sampleDevice ⟨sampleDevice.deviceId, sampleMaterial "aWQx"⟩),
    (2, .startUpsert sampleDevice ⟨sampleDevice.deviceId,
      { sampleMaterial "aWQw" with signedPrekeySignatureB64 := "bmV3" }⟩),
    (1, .flushUpsert (.newYear2026)), (1, .commitUpsert),
    (2, .flushUpsert (.newYear2026)), (2, .commitUpsert)] ++
    sampleInsert 3 "b25l" ++ [(3, .commitUpload)] ++ sampleFetch 4

/-- The bundle has the identity key of one upload and the signature of another. -/
theorem bundle_from_crossed_uploads : ∃ (relay : Relay) (bundle : PreKeyBundleResponse),
    relay.responses = [⟨sampleDevice, bundle⟩] ∧ bundle.identityKeyPublicB64 = "aWQx" ∧
    bundle.signedPrekeySignatureB64 = "bmV3" ∧
    ∀ record ∈ relay.responses,
      (∃ deviceKey oneTimePrekey,
        record.bundle = bundleResponse record.target deviceKey oneTimePrekey ∧
        Mixed (UploadedIn crossedRun record.target) deviceKey.material) ∧
      ∀ name, record.handedOut = some name →
        ∃ prekeyPublicB64, record.bundle.oneTimePrekeyPublicB64 = some prekeyPublicB64 ∧
          OfferedIn crossedRun name prekeyPublicB64 := by
  have ends : (Runs.run relayStep {} crossedRun).map Relay.responses =
      some [⟨sampleDevice, bundleResponse sampleDevice
        (assignedDeviceKey ⟨sampleDevice.deviceId,
          { sampleMaterial "aWQx" with signedPrekeySignatureB64 := "bmV3" }⟩ (.newYear2026))
        (some (⟨7, by decide⟩, ⟨"b25l", none, 3⟩))⟩] := by
    decide
  obtain ⟨relay, final, responses⟩ := Option.map_eq_some_iff.mp ends
  exact ⟨relay, _, responses, rfl, rfl, bundle_from_uploads final⟩

/-! ## One set of keys -/

variable {pydantic : RequestModels.Pydantic}

/-- A bundle of a device with one set of keys, with one of its pre-keys or none. -/
structure Publishes (material : Client.DeviceKeyMaterial) (preKeys : List Client.OneTimePreKey)
    (bundle : PreKeyBundleResponse) : Prop where
  registrationId : bundle.registrationId.val = material.registrationId
  deviceId : bundle.deviceId.val = material.deviceId
  identityKey : bundle.identityKeyPublicB64 = material.identityKey
  identitySigningKey : bundle.identitySigningPublicB64 = material.identitySigningKey
  signedPreKeyId : bundle.signedPrekeyId.val = material.signedPreKeyId
  signedPreKey : bundle.signedPrekeyPublicB64 = material.signedPreKey
  signedPreKeySignature : bundle.signedPrekeySignatureB64 = material.signedPreKeySignature
  oneTimePreKey : ∃ preKey : Option Client.OneTimePreKey, (∀ given ∈ preKey, given ∈ preKeys) ∧
    bundle.oneTimePrekeyId.map Subtype.val = preKey.map Client.OneTimePreKey.preKeyId ∧
    bundle.oneTimePrekeyPublicB64 = preKey.map Client.OneTimePreKey.publicKey

/-- A device that has uploaded one set of keys is published with these keys. -/
theorem publishes_of_joined {events : List (RequestId × Statement)} {record : BundleRecord}
    {material : Client.DeviceKeyMaterial} {preKeys : List Client.OneTimePreKey}
    (devices : ∀ request body, (request, Statement.startUpsert record.target body) ∈ events →
      UploadsDevice pydantic material body)
    (batches : ∀ request batch, (request, Statement.startUpload record.target batch) ∈ events →
      ∃ keys ⊆ preKeys, UploadsPreKeys pydantic keys batch)
    (joined : Joined (UploadedIn events) (OfferedIn events) record) :
    Publishes material preKeys record.bundle := by
  obtain ⟨deviceKey, oneTimePrekey, same, mixed, offered⟩ := joined
  have carried {source : DeviceKeyMaterial} (uploaded : UploadedIn events record.target source) :
      record.target.deviceId.val = material.deviceId ∧ Carries material source := by
    obtain ⟨request, body, member, named, rfl⟩ := uploaded
    obtain ⟨deviceId, carries, -⟩ := uploadsDevice_iff.mp (devices request body member)
    exact ⟨named ▸ deviceId, carries⟩
  rw [same]
  constructor
  case registrationId =>
    obtain ⟨source, uploaded, column⟩ := mixed.registrationId
    exact (congrArg Subtype.val column).symm.trans (carried uploaded).2.registrationId
  case deviceId =>
    obtain ⟨source, uploaded, -⟩ := mixed.registrationId
    exact (carried uploaded).1
  case identityKey =>
    obtain ⟨source, uploaded, column⟩ := mixed.identityKey
    exact column.symm.trans (carried uploaded).2.identityKey
  case identitySigningKey =>
    obtain ⟨source, uploaded, column⟩ := mixed.identitySigning
    exact column.symm.trans (carried uploaded).2.identitySigningKey
  case signedPreKeyId =>
    obtain ⟨source, uploaded, column⟩ := mixed.signedPrekeyId
    exact (congrArg Subtype.val column).symm.trans (carried uploaded).2.signedPreKeyId
  case signedPreKey =>
    obtain ⟨source, uploaded, column⟩ := mixed.signedPrekey
    exact column.symm.trans (carried uploaded).2.signedPreKey
  case signedPreKeySignature =>
    obtain ⟨source, uploaded, column⟩ := mixed.signedPrekeySignature
    exact column.symm.trans (carried uploaded).2.signedPreKeySignature
  case oneTimePreKey =>
    cases oneTimePrekey with
    | none => exact ⟨none, by simp, rfl, rfl⟩
    | some entry =>
      obtain ⟨request, batch, member, prekey, listed, sameId, sameKey⟩ := offered entry rfl
      obtain ⟨keys, own, uploads⟩ := batches request batch member
      obtain ⟨preKey, given, preKeyId, publicKey⟩ := isPreKey_of_uploads uploads prekey listed
      refine ⟨some preKey, by simpa using own given, ?_, ?_⟩
      · simp [bundleResponse, preKeyId, sameId]
      · simp [bundleResponse, publicKey, sameKey]

/-- The client reads such a bundle as the device's. -/
theorem Publishes.bundleFromJson {material : Client.DeviceKeyMaterial}
    {preKeys : List Client.OneTimePreKey} {bundle : PreKeyBundleResponse}
    (publishes : Publishes material preKeys bundle) (userId : String) :
    ∃ preKey : Option Client.OneTimePreKey, (∀ given ∈ preKey, given ∈ preKeys) ∧
      Client.bundleFromJson userId (RequestModels.preKeyBundleResponse bundle) =
        Client.NativeSignalCryptoProvider.publishedBundle material userId preKey := by
  obtain ⟨preKey, given, preKeyId, publicKey⟩ := publishes.oneTimePreKey
  refine ⟨preKey, given, ?_⟩
  rw [bundleFromJson_response]
  simp only [Client.NativeSignalCryptoProvider.publishedBundle, publishes.registrationId,
    publishes.deviceId, publishes.identityKey, publishes.identitySigningKey,
    publishes.signedPreKeyId, publishes.signedPreKey, publishes.signedPreKeySignature, preKeyId,
    publicKey]

/-- However requests interleave, a device whose uploads all carry one set of keys is fetched as it
was generated, with one of its pre-keys or none. -/
theorem fetched_as_published {events : List (RequestId × Statement)} {relay : Relay}
    (ends : Runs.run relayStep {} events = some relay) {device : DeviceName}
    {material : Client.DeviceKeyMaterial} {preKeys : List Client.OneTimePreKey}
    (devices : ∀ request body, (request, Statement.startUpsert device body) ∈ events →
      UploadsDevice pydantic material body)
    (batches : ∀ request batch, (request, Statement.startUpload device batch) ∈ events →
      ∃ keys ⊆ preKeys, UploadsPreKeys pydantic keys batch) :
    ∀ record ∈ relay.responses, record.target = device → ∀ userId,
      ∃ preKey : Option Client.OneTimePreKey, (∀ given ∈ preKey, given ∈ preKeys) ∧
        Client.bundleFromJson userId (RequestModels.preKeyBundleResponse record.bundle) =
          Client.NativeSignalCryptoProvider.publishedBundle material userId preKey := by
  rintro record member rfl userId
  exact (publishes_of_joined devices batches (joined_of_run ends record member)).bundleFromJson userId

/-- A client device with the keys of the sample uploads. -/
def publishedDevice : Client.DeviceKeyMaterial where
  deviceId := 1
  registrationId := 1
  identityKey := "aWQw"
  identityPrivateKey := ""
  identitySigningKey := "c2lnbg=="
  identitySigningPrivateKey := ""
  signedPreKeyId := 1
  signedPreKey := "cHJl"
  signedPreKeyPrivate := ""
  signedPreKeySignature := "c2ln"

def publishedPreKeys : List Client.OneTimePreKey := [⟨1, 7, "b25l", "", false⟩]

/-- Reads nothing but values of the right type. -/
def strictPydantic : RequestModels.Pydantic where
  intOfText _ := StrictModels.fail "int_parsing" ""
  intOfFraction _ := StrictModels.fail "int_from_float" ""
  uuidOfText _ := StrictModels.fail "uuid_parsing" ""

/-- An upload and a fetch of the sample device. -/
def publishRun : List (RequestId × Statement) :=
  sampleUpsert 0 "aWQw" ++ sampleInsert 1 "b25l" ++ [(1, .commitUpload)] ++ sampleFetch 2

theorem uploadsDevice_sample : UploadsDevice strictPydantic publishedDevice
    ⟨sampleDevice.deviceId, sampleMaterial "aWQw"⟩ := by
  refine uploadsDevice_iff.mpr ⟨rfl, ⟨rfl, rfl, rfl, rfl, rfl, rfl⟩, ?_, ?_, ?_, ?_⟩
  all_goals
    unfold RequestModels.Base64Field
    decide

theorem uploadsPreKeys_sample :
    UploadsPreKeys strictPydantic publishedPreKeys (sampleBatch "b25l") := by
  refine ⟨[⟨⟨1, by decide⟩, ⟨7, by decide⟩, "b25l"⟩],
    oneTimePreKeyBatchUploadRequest_body.mpr ⟨⟨by decide, by decide⟩, ?_, by decide⟩, rfl⟩
  refine .cons (oneTimePreKeyUpload_item.mpr ⟨rfl, rfl, rfl, ?_⟩) .nil
  unfold RequestModels.Base64Field
  decide

theorem fetched_as_published_sample : ∃ (relay : Relay) (bundle : PreKeyBundleResponse),
    relay.responses = [⟨sampleDevice, bundle⟩] ∧ bundle.oneTimePrekeyId = some ⟨7, by decide⟩ ∧
    ∀ record ∈ relay.responses, record.target = sampleDevice → ∀ userId,
      ∃ preKey : Option Client.OneTimePreKey, (∀ given ∈ preKey, given ∈ publishedPreKeys) ∧
        Client.bundleFromJson userId (RequestModels.preKeyBundleResponse record.bundle) =
          Client.NativeSignalCryptoProvider.publishedBundle publishedDevice userId preKey := by
  have ends : (Runs.run relayStep {} publishRun).map Relay.responses =
      some [⟨sampleDevice, bundleResponse sampleDevice
        (assignedDeviceKey ⟨sampleDevice.deviceId, sampleMaterial "aWQw"⟩ (.newYear2026))
        (some (⟨7, by decide⟩, ⟨"b25l", none, 1⟩))⟩] := by
    decide
  obtain ⟨relay, final, responses⟩ := Option.map_eq_some_iff.mp ends
  refine ⟨relay, _, responses, rfl, @fetched_as_published strictPydantic _ _ final _ _ _ ?_ ?_⟩
  · intro request body member
    simp only [publishRun, sampleUpsert, sampleInsert, sampleFetch, List.cons_append, List.nil_append,
      List.mem_cons, Prod.mk.injEq, reduceCtorEq, and_false, List.not_mem_nil, or_false,
      Statement.startUpsert.injEq, true_and] at member
    rw [member.2]
    exact uploadsDevice_sample
  · intro request batch member
    simp only [publishRun, sampleUpsert, sampleInsert, sampleFetch, List.cons_append, List.nil_append,
      List.mem_cons, Prod.mk.injEq, reduceCtorEq, and_false, List.not_mem_nil, or_false, false_or,
      Statement.startUpload.injEq, true_and] at member
    exact ⟨publishedPreKeys, List.Subset.refl _, member.2 ▸ uploadsPreKeys_sample⟩

end EpicKfc.Guarantees.PublishedBundles
