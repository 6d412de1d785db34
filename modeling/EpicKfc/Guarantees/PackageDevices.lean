import EpicKfc.Guarantees.PublishedBundles
import EpicKfc.Source.Cryptography.DeviceBundles

/-!
# Devices of the cryptography package

The package turns a device into rows, the rows into the bodies of the key routes and
the answer of the backend into a bundle again. Whatever the backend does in between,
the bundle is the public side of the device, with its one-time pre-key at most once.
-/

namespace EpicKfc.Guarantees.PackageDevices
open EpicKfc.Lib
open EpicKfc.Source
open EpicKfc.Source.Cryptography
open EpicKfc.Source.Server
open EpicKfc.Source.Server.KeyRelay
open EpicKfc.Guarantees.PublishedBundles
open EpicKfc.Guarantees.PreKeyHandOut (handedOut singleUse_reachable)

variable {node : NodeRuntime} {pydantic : RequestModels.Pydantic} {userId : String} {deviceId : Nat}
  {drawn : KeyMaterial}

/-- The rows of a generated device. -/
def rowsOf (userId : String) (deviceId : Nat) (drawn : KeyMaterial) (now : String) :
    DeviceKeysRow × List OneTimePreKeyRow :=
  deviceToDbRows (generateDevice userId deviceId drawn) now

/-- The pre-key of a generated device as it is uploaded. -/
def uploadedPreKey (deviceId : Nat) (drawn : KeyMaterial) : Client.OneTimePreKey :=
  ⟨deviceId, 1, toBase64 drawn.preKey.pubKey, "", false⟩

theorem preKeys_rowsOf (now : String) : (rowsOf userId deviceId drawn now).2.map
    OneTimePreKeyRow.preKey = [uploadedPreKey deviceId drawn] := rfl

/-- The package reads a bundle of the device's columns as the device. -/
theorem bundle_of_publishes (decodes : ∀ bytes, node.fromBase64 (toBase64 bytes) = bytes)
    {now : String} {bundle : PreKeyBundleResponse}
    (publishes : Publishes (rowsOf userId deviceId drawn now).1.material
      [uploadedPreKey deviceId drawn] bundle) :
    ∃ api, ApiPreKeyBundleResponse.ofMembers (RequestModels.preKeyBundleResponse bundle) = some api ∧
      ∃ preKey, preKeyBundleFromApiResponse node api =
          (deviceToPublicBundle (generateDevice userId deviceId drawn)).withPreKey preKey ∧
        (preKey = none ∨ preKey = (generateDevice userId deviceId drawn).oneTimePreKeyPublic) := by
  obtain ⟨registrationId, -, identityKey, -, signedPreKeyId, signedPreKey, signature,
    preKey, given, preKeyId, publicKey⟩ := publishes
  refine ⟨_, ofMembers_response bundle, ?_⟩
  rw [registrationId, identityKey, signedPreKeyId, signedPreKey, signature, publicKey]
  have ids : bundle.oneTimePrekeyId.map (·.val.toNat) =
      preKey.map fun preKey => preKey.preKeyId.toNat := by
    have mapped := congrArg (Option.map Int.toNat) preKeyId
    rwa [Option.map_map, Option.map_map] at mapped
  rw [ids]
  cases preKey with
  | none =>
    refine ⟨none, ?_, Or.inl rfl⟩
    simp [preKeyBundleFromApiResponse, publicBundleFromDb, DeviceType.withPreKey, rowsOf,
      deviceToDbRows, deviceToPublicBundle, generateDevice, DeviceKeysRow.material, decodes]
  | some preKey =>
    obtain rfl : preKey = uploadedPreKey deviceId drawn := by simpa using given preKey rfl
    by_cases empty : toBase64 drawn.preKey.pubKey = ""
    · refine ⟨none, ?_, Or.inl rfl⟩
      simp [preKeyBundleFromApiResponse, publicBundleFromDb, DeviceType.withPreKey, rowsOf,
        deviceToDbRows, deviceToPublicBundle, generateDevice, DeviceKeysRow.material, decodes,
        uploadedPreKey, empty]
    · refine ⟨_, ?_, Or.inr rfl⟩
      simp [preKeyBundleFromApiResponse, publicBundleFromDb, DeviceType.withPreKey, rowsOf,
        deviceToDbRows, deviceToPublicBundle, generateDevice, DeviceKeysRow.material, decodes,
        uploadedPreKey, empty]

/-- One name is handed out once. -/
theorem filter_length_le_one {α β : Type} [DecidableEq β] {items : List α} {read : α → Option β}
    {meets : α → Bool} {only : β} (distinct : (items.filterMap read).Nodup)
    (reads : ∀ item ∈ items, meets item = true → read item = some only) :
    (items.filter meets).length ≤ 1 := by
  have counted : (items.filter meets).length ≤ (items.filterMap read).count only := by
    rw [← List.countP_eq_length_filter, List.count, List.countP_filterMap]
    apply List.countP_mono_left
    intro item member met
    simp [reads item member met]
  exact counted.trans (List.nodup_iff_count_le_one.mp distinct only)

section Runs
variable {events : List (RequestId × Statement)} {relay : Relay} {name : DeviceName}
  (ends : Runs.run relayStep {} events = some relay)
  (devices : ∀ request body, (request, Statement.startUpsert name body) ∈ events →
    ∃ now, UploadsRow pydantic (rowsOf userId deviceId drawn now).1 body)
  (batches : ∀ request batch, (request, Statement.startUpload name batch) ∈ events →
    ∃ now, UploadsPreKeyRows pydantic (rowsOf userId deviceId drawn now).2 batch)
include ends devices batches

theorem publishes_of_rows : ∀ record ∈ relay.responses, record.target = name →
    Publishes (rowsOf userId deviceId drawn "").1.material [uploadedPreKey deviceId drawn]
      record.bundle := by
  rintro record member rfl
  apply @publishes_of_joined pydantic _ _ _ _ _ _ (joined_of_run ends record member)
  · intro request body uploads
    obtain ⟨now, row⟩ := devices request body uploads
    exact uploadsRow_iff.mp row
  · intro request batch uploads
    obtain ⟨now, rows⟩ := batches request batch uploads
    rw [uploadsPreKeyRows_iff, preKeys_rowsOf] at rows
    exact ⟨_, List.Subset.refl _, rows⟩

/-- However requests interleave, a device of the package whose uploads are its own is fetched as
its public bundle, and at most one fetch has its one-time pre-key. -/
theorem device_fetched_as_generated (decodes : ∀ bytes, node.fromBase64 (toBase64 bytes) = bytes) :
    (∀ record ∈ relay.responses, record.target = name →
      ∃ api, ApiPreKeyBundleResponse.ofMembers
          (RequestModels.preKeyBundleResponse record.bundle) = some api ∧
        ∃ preKey, preKeyBundleFromApiResponse node api =
            (deviceToPublicBundle (generateDevice userId deviceId drawn)).withPreKey preKey ∧
          (preKey = none ∨
            preKey = (generateDevice userId deviceId drawn).oneTimePreKeyPublic)) ∧
    (relay.responses.filter fun record =>
      record.target = name ∧ record.bundle.oneTimePrekeyId.isSome).length ≤ 1 := by
  have publishes := publishes_of_rows ends devices batches
  constructor
  · intro record member target
    exact bundle_of_publishes decodes (publishes record member target)
  · have once := (singleUse_reachable (Runs.reachableBy_of_run events (.start rfl)
      (Runs.everyStep_of_forall (fun _ _ _ => trivial) _) ends)).handedOnce
    apply @filter_length_le_one _ _ _ _ _ _ ⟨name, ⟨1, by decide⟩⟩ once
    intro record member met
    simp only [Bool.decide_and, Bool.and_eq_true, decide_eq_true_eq, Option.isSome_iff_exists] at met
    obtain ⟨target, prekeyId, given⟩ := met
    obtain ⟨preKey, uploaded, preKeyId, -⟩ := (publishes record member target).oneTimePreKey
    rw [given, Option.map_some] at preKeyId
    obtain ⟨own, here, same⟩ := Option.map_eq_some_iff.mp preKeyId.symm
    have mine : own = uploadedPreKey deviceId drawn := by simpa using uploaded own here
    rw [mine] at same
    simp only [BundleRecord.handedOut, given, Option.map_some, target]
    congr 2
    exact Subtype.ext same.symm

end Runs

/-! ## A device of the package -/

/-- Decodes base64, and neither parses nor opens anything. -/
def decodingNode : NodeRuntime where
  fromBase64 text := Base64.decode text.toList
  parseEnvelope _ := none
  gcmDecrypt _ _ _ _ _ := none

theorem decodes_decodingNode (bytes : Bytes) : decodingNode.fromBase64 (toBase64 bytes) = bytes := by
  simp only [decodingNode, toBase64, String.toList_ofList, Base64.decode_encode]

/-- A key as it is uploaded. -/
def keyBytes (text : String) : Bytes := Base64.decode text.toList

/-- Keys of libsignal; the identity key has signed the signed pre-key. -/
def packageKeys : KeyMaterial where
  registrationId := 9421
  identityKeyPair := ⟨keyBytes "BQ/pz+w+ZjoMKafXjB5/y2DwO9hYlypljmkNdX7H46cL",
    keyBytes "kDdq34f+bdt543KWXqBv7fc4yQYka9IEFdRmd8uVzmk="⟩
  preKey := ⟨keyBytes "BQNaevwwFO8HGmiJoFIqEP70ylnpRhKFNEdFrkuvNRpB",
    keyBytes "eELRpU4JCre6uSV189a51eCkVWraI1mvFt5F+vREwkk="⟩
  signedPreKey := ⟨keyBytes "BV7f3Nq9gYVWOfDNLJBfh1PtBtzbrvMnui06VVJ0kIc4",
    keyBytes "mEqSUi4JhuYxzmRXJmsW0HpkYlXPgi+vOQQes/bHqEI="⟩
  signature := keyBytes
    "QIH/CDtpcjUGVJau3LD691aaoC7jxq7aYOVHB0MaRQ/l7H+cUA5brsXR9n9u+eB9pOtDEZhv/cQGst/aOddsCg=="

def packageMaterial : DeviceKeyMaterial where
  registrationId := ⟨9421, by decide⟩
  identityKeyPublicB64 := "BQ/pz+w+ZjoMKafXjB5/y2DwO9hYlypljmkNdX7H46cL"
  identitySigningPublicB64 := "BQ/pz+w+ZjoMKafXjB5/y2DwO9hYlypljmkNdX7H46cL"
  signedPrekeyId := onePositive
  signedPrekeyPublicB64 := "BV7f3Nq9gYVWOfDNLJBfh1PtBtzbrvMnui06VVJ0kIc4"
  signedPrekeySignatureB64 :=
    "QIH/CDtpcjUGVJau3LD691aaoC7jxq7aYOVHB0MaRQ/l7H+cUA5brsXR9n9u+eB9pOtDEZhv/cQGst/aOddsCg=="

def packageBatch : OneTimePreKeyBatchUploadRequest where
  prekeys := [⟨onePositive, onePositive, "BQNaevwwFO8HGmiJoFIqEP70ylnpRhKFNEdFrkuvNRpB"⟩]
  nonempty := by simp
  length_le := by simp
  distinct := by simp

theorem uploadsRow_package : UploadsRow strictPydantic (rowsOf "alice" 1 packageKeys "").1
    ⟨onePositive, packageMaterial⟩ := by
  refine uploadsRow_iff.mpr (KeyRequests.uploadsDevice_iff.mpr
    ⟨rfl, ⟨rfl, by decide, by decide, rfl, by decide, by decide⟩, ?_, ?_, ?_, ?_⟩)
  all_goals
    unfold RequestModels.Base64Field
    decide

theorem uploadsPreKeyRows_package :
    UploadsPreKeyRows strictPydantic (rowsOf "alice" 1 packageKeys "").2 packageBatch := by
  rw [uploadsPreKeyRows_iff, preKeys_rowsOf]
  refine ⟨[⟨⟨1, by decide⟩, ⟨1, by decide⟩, "BQNaevwwFO8HGmiJoFIqEP70ylnpRhKFNEdFrkuvNRpB"⟩],
    KeyRequests.oneTimePreKeyBatchUploadRequest_body.mpr ⟨⟨by decide, by decide⟩, ?_, by decide⟩, rfl⟩
  refine .cons (KeyRequests.oneTimePreKeyUpload_item.mpr ⟨rfl, rfl, by decide, ?_⟩) .nil
  unfold RequestModels.Base64Field
  decide

/-- Two fetches, of which the second finds no pre-key left; responses are listed latest first. -/
def packageRun : List (RequestId × Statement) := [
  (0, .startUpsert PreKeyHandOut.sampleDevice ⟨onePositive, packageMaterial⟩),
  (0, .flushUpsert .newYear2026), (0, .commitUpsert),
  (1, .startUpload PreKeyHandOut.sampleDevice packageBatch), (1, .insertPreKey), (1, .commitUpload)] ++
  PreKeyHandOut.sampleFetch 2 ++
  [(3, .startFetch PreKeyHandOut.sampleDevice true), (3, .selectPreKeys), (3, .visitPreKey),
    (3, .respond)]

/-- The uploads of the run are the device's rows. -/
theorem uploads_packageRun :
    (∀ request body, (request, Statement.startUpsert PreKeyHandOut.sampleDevice body) ∈ packageRun →
      ∃ now, UploadsRow strictPydantic (rowsOf "alice" 1 packageKeys now).1 body) ∧
    ∀ request batch, (request, Statement.startUpload PreKeyHandOut.sampleDevice batch) ∈ packageRun →
      ∃ now, UploadsPreKeyRows strictPydantic (rowsOf "alice" 1 packageKeys now).2 batch := by
  constructor
  · intro request body member
    simp only [packageRun, PreKeyHandOut.sampleFetch, List.cons_append, List.nil_append,
      List.mem_cons, Prod.mk.injEq, reduceCtorEq, and_false, List.not_mem_nil, or_false,
      Statement.startUpsert.injEq, true_and] at member
    exact ⟨"", member.2 ▸ uploadsRow_package⟩
  · intro request batch member
    simp only [packageRun, PreKeyHandOut.sampleFetch, List.cons_append, List.nil_append,
      List.mem_cons, Prod.mk.injEq, reduceCtorEq, and_false, List.not_mem_nil, or_false, false_or,
      Statement.startUpload.injEq, true_and] at member
    exact ⟨"", member.2 ▸ uploadsPreKeyRows_package⟩

theorem device_fetched_as_generated_package : ∃ relay : Relay,
    (relay.responses.map fun record => record.bundle.oneTimePrekeyId.isSome) = [false, true] ∧
    (∀ record ∈ relay.responses, record.target = PreKeyHandOut.sampleDevice →
      ∃ api, ApiPreKeyBundleResponse.ofMembers
          (RequestModels.preKeyBundleResponse record.bundle) = some api ∧
        ∃ preKey, preKeyBundleFromApiResponse decodingNode api =
            (deviceToPublicBundle (generateDevice "alice" 1 packageKeys)).withPreKey preKey ∧
          (preKey = none ∨
            preKey = (generateDevice "alice" 1 packageKeys).oneTimePreKeyPublic)) ∧
    (relay.responses.filter fun record =>
      record.target = PreKeyHandOut.sampleDevice ∧ record.bundle.oneTimePrekeyId.isSome).length ≤
        1 := by
  have ends : (Runs.run relayStep {} packageRun).map (fun relay =>
      relay.responses.map fun record => record.bundle.oneTimePrekeyId.isSome) =
        some [false, true] := by
    decide
  obtain ⟨relay, final, responses⟩ := Option.map_eq_some_iff.mp ends
  obtain ⟨devices, batches⟩ := uploads_packageRun
  exact ⟨relay, responses, device_fetched_as_generated final devices batches decodes_decodingNode⟩

end EpicKfc.Guarantees.PackageDevices
