import EpicKfc.Lib.RowTable
import EpicKfc.Source.Server.Identifiers
import Mathlib.Data.List.Sort
import Mathlib.Logic.Function.Basic

/-!
# Public key relay

The routes that store device keys, store one-time pre-keys and hand out pre-key
bundles. Each request is one database transaction at the `READ COMMITTED` level,
and its statements interleave with those of the others. `uploadedBy` and
`uploads` are no columns: they record which request inserted a pre-key, and the
identity key its device had when that upload committed.
-/

namespace EpicKfc.Source.Server.KeyRelay
open EpicKfc.Lib
open EpicKfc.Lib.RowTable (Table row)

abbrev RequestId := Nat

/-! ## Tables -/

structure DeviceName where
  userId : Uuid
  deviceId : PositiveInt
deriving DecidableEq

structure PreKeyName where
  device : DeviceName
  prekeyId : PositiveInt
deriving DecidableEq

/-- The public key columns of a device, as uploaded. -/
structure DeviceKeyMaterial where
  registrationId : PositiveInt
  identityKeyPublicB64 : String
  identitySigningPublicB64 : String
  signedPrekeyId : PositiveInt
  signedPrekeyPublicB64 : String
  signedPrekeySignatureB64 : String
deriving DecidableEq

structure DeviceKey where
  material : DeviceKeyMaterial
  signedPrekeyCreatedAt : UtcTimestamp
  revokedAt : Option UtcTimestamp
  isActive : Bool
deriving DecidableEq

structure OneTimePreKey where
  prekeyPublicB64 : String
  usedAt : Option UtcTimestamp
  uploadedBy : RequestId
deriving DecidableEq

/-! ## Requests and responses -/

structure DeviceKeyUploadRequest where
  deviceId : PositiveInt
  material : DeviceKeyMaterial

structure OneTimePreKeyUpload where
  deviceId : PositiveInt
  prekeyId : PositiveInt
  prekeyPublicB64 : String

/-- A batch as the schema lets it through: 1 to 100 keys without duplicates. -/
structure OneTimePreKeyBatchUploadRequest where
  prekeys : List OneTimePreKeyUpload
  nonempty : prekeys ≠ []
  length_le : prekeys.length ≤ 100
  distinct : (prekeys.map fun prekey => (prekey.deviceId, prekey.prekeyId)).Nodup

structure PreKeyBundleResponse where
  registrationId : PositiveInt
  deviceId : PositiveInt
  identityKeyPublicB64 : String
  identitySigningPublicB64 : String
  signedPrekeyId : PositiveInt
  signedPrekeyPublicB64 : String
  signedPrekeySignatureB64 : String
  oneTimePrekeyId : Option PositiveInt
  oneTimePrekeyPublicB64 : Option String
deriving DecidableEq

structure HTTPException where
  statusCode : Nat
  detail : String
deriving DecidableEq

def deviceIdMismatchError : HTTPException := ⟨400, "Path device_id must match request device_id"⟩

def targetDeviceNotFoundError : HTTPException := ⟨404, "Target device not found"⟩

def deviceNotFoundError : HTTPException := ⟨404, "Device not found"⟩

def preKeyExistsError : HTTPException := ⟨409, "One-time prekey already exists"⟩

def deviceKeyNotSavedError : HTTPException := ⟨409, "Device key could not be saved"⟩

/-- How far the route of a request has come. -/
inductive RequestState where
  | idle
  | deviceRead (target : DeviceName) (deviceKey : DeviceKey)
  | selecting (target : DeviceName) (deviceKey : DeviceKey) (candidates : List PositiveInt)
  | locked (target : DeviceName) (deviceKey : DeviceKey) (prekeyId : PositiveInt)
  | marked (target : DeviceName) (deviceKey : DeviceKey) (prekeyId : PositiveInt)
  | bundled (target : DeviceName) (deviceKey : DeviceKey)
      (oneTimePrekey : Option (PositiveInt × OneTimePreKey))
  | answered
  | uploading (device : DeviceName) (remaining : List OneTimePreKeyUpload)
  | uploaded
  | upserting (device : DeviceName) (request : DeviceKeyUploadRequest) (loaded : Option DeviceKey)
  | flushed
  | upserted
  | rejected (error : HTTPException)
  | aborted

structure BundleRecord where
  target : DeviceName
  bundle : PreKeyBundleResponse
deriving DecidableEq

/-- The one-time pre-key that a bundle response hands out. -/
def BundleRecord.handedOut (record : BundleRecord) : Option PreKeyName :=
  record.bundle.oneTimePrekeyId.map (PreKeyName.mk record.target)

structure UploadRecord where
  name : PreKeyName
  identityKeyPublicB64 : Option String
deriving DecidableEq

structure Relay where
  deviceKeys : Table DeviceName RequestId DeviceKey := []
  oneTimePrekeys : Table PreKeyName RequestId OneTimePreKey := []
  requests : RequestId → RequestState := fun _ => .idle
  responses : List BundleRecord := []
  uploads : List UploadRecord := []

def Relay.goes (relay : Relay) (request : RequestId) (state : RequestState) : Relay :=
  { relay with requests := Function.update relay.requests request state }

/-- `db.rollback()`, or the end of a session that did not commit. -/
def Relay.rollsBack (relay : Relay) (request : RequestId) (state : RequestState) : Relay :=
  { relay with
    deviceKeys := RowTable.rollback request relay.deviceKeys
    oneTimePrekeys := RowTable.rollback request relay.oneTimePrekeys
    requests := Function.update relay.requests request state }

/-! ## Device key repository -/

def getByUserAndDevice (relay : Relay) (name : DeviceName) : Option DeviceKey :=
  (row name relay.deviceKeys).committed

def getActiveByUserAndDevice (relay : Relay) (name : DeviceName) : Option DeviceKey :=
  (getByUserAndDevice relay name).filter fun deviceKey =>
    deviceKey.isActive && deviceKey.revokedAt.isNone

/-- The identity key a device has in the committed table. -/
def storedIdentity (relay : Relay) (name : DeviceName) : Option String :=
  (getByUserAndDevice relay name).map (·.material.identityKeyPublicB64)

/-- The row the route assigns, both for a new device and over a loaded one. -/
def assignedDeviceKey (request : DeviceKeyUploadRequest) (now : UtcTimestamp) : DeviceKey where
  material := request.material
  signedPrekeyCreatedAt := now
  revokedAt := none
  isActive := true

/-- The `UPDATE` of a loaded object names a column only when its value changed. -/
def changedColumn {β : Type} [DecidableEq β] (loaded assigned stored : β) : β :=
  if loaded = assigned then stored else assigned

def writeChanged (loaded assigned stored : DeviceKey) : DeviceKey where
  material :=
    { registrationId := changedColumn loaded.material.registrationId
        assigned.material.registrationId stored.material.registrationId
      identityKeyPublicB64 := changedColumn loaded.material.identityKeyPublicB64
        assigned.material.identityKeyPublicB64 stored.material.identityKeyPublicB64
      identitySigningPublicB64 := changedColumn loaded.material.identitySigningPublicB64
        assigned.material.identitySigningPublicB64 stored.material.identitySigningPublicB64
      signedPrekeyId := changedColumn loaded.material.signedPrekeyId
        assigned.material.signedPrekeyId stored.material.signedPrekeyId
      signedPrekeyPublicB64 := changedColumn loaded.material.signedPrekeyPublicB64
        assigned.material.signedPrekeyPublicB64 stored.material.signedPrekeyPublicB64
      signedPrekeySignatureB64 := changedColumn loaded.material.signedPrekeySignatureB64
        assigned.material.signedPrekeySignatureB64 stored.material.signedPrekeySignatureB64 }
  signedPrekeyCreatedAt := changedColumn loaded.signedPrekeyCreatedAt
    assigned.signedPrekeyCreatedAt stored.signedPrekeyCreatedAt
  revokedAt := changedColumn loaded.revokedAt assigned.revokedAt stored.revokedAt
  isActive := changedColumn loaded.isActive assigned.isActive stored.isActive

/-! ## One-time pre-key repository -/

/-- The snapshot of the `SELECT`: unused committed pre-keys of the device by ascending id. -/
def unusedForDevice (relay : Relay) (target : DeviceName) : List PositiveInt :=
  ((relay.oneTimePrekeys.filter fun entry => entry.1.device = target ∧
    ∃ prekey ∈ entry.2.committed, prekey.usedAt = none).map (·.1.prekeyId)).insertionSort
      (·.val ≤ ·.val)

def newPreKey (request : RequestId) (upload : OneTimePreKeyUpload) : OneTimePreKey where
  prekeyPublicB64 := upload.prekeyPublicB64
  usedAt := none
  uploadedBy := request

/-! ## `get_prekey_bundle` -/

def bundleResponse (target : DeviceName) (deviceKey : DeviceKey)
    (oneTimePrekey : Option (PositiveInt × OneTimePreKey)) : PreKeyBundleResponse where
  registrationId := deviceKey.material.registrationId
  deviceId := target.deviceId
  identityKeyPublicB64 := deviceKey.material.identityKeyPublicB64
  identitySigningPublicB64 := deviceKey.material.identitySigningPublicB64
  signedPrekeyId := deviceKey.material.signedPrekeyId
  signedPrekeyPublicB64 := deviceKey.material.signedPrekeyPublicB64
  signedPrekeySignatureB64 := deviceKey.material.signedPrekeySignatureB64
  oneTimePrekeyId := oneTimePrekey.map (·.1)
  oneTimePrekeyPublicB64 := oneTimePrekey.map (·.2.prekeyPublicB64)

def startFetch (relay : Relay) (request : RequestId) (target : DeviceName)
    (targetUserIsActive : Bool) : Relay :=
  match targetUserIsActive, getActiveByUserAndDevice relay target with
  | true, some deviceKey => relay.goes request (.deviceRead target deviceKey)
  | _, _ => relay.rollsBack request (.rejected targetDeviceNotFoundError)

/-- One row of the ordered `FOR UPDATE SKIP LOCKED` scan; its newest version is checked again. -/
def visitPreKey (relay : Relay) (request : RequestId) (target : DeviceName)
    (deviceKey : DeviceKey) : List PositiveInt → Relay
  | [] => relay.goes request (.bundled target deviceKey none)
  | prekeyId :: candidates =>
    match RowTable.lockFree request ⟨target, prekeyId⟩ relay.oneTimePrekeys with
    | some (prekey, table) =>
      if prekey.usedAt = none then
        { relay with oneTimePrekeys := table }.goes request (.locked target deviceKey prekeyId)
      else relay.goes request (.selecting target deviceKey candidates)
    | none => relay.goes request (.selecting target deviceKey candidates)

def markUsed (relay : Relay) (request : RequestId) (target : DeviceName) (deviceKey : DeviceKey)
    (prekeyId : PositiveInt) (now : UtcTimestamp) : Option Relay :=
  (RowTable.update request ⟨target, prekeyId⟩ (fun prekey => { prekey with usedAt := some now })
    relay.oneTimePrekeys).map fun table =>
      { relay with oneTimePrekeys := table }.goes request (.marked target deviceKey prekeyId)

/-- `db.commit()`, then the refreshed pre-key joins the device key read before. -/
def commitFetch (relay : Relay) (request : RequestId) (target : DeviceName)
    (deviceKey : DeviceKey) (prekeyId : PositiveInt) : Relay :=
  let table := RowTable.commit request relay.oneTimePrekeys
  { relay with oneTimePrekeys := table }.goes request
    (.bundled target deviceKey ((row (PreKeyName.mk target prekeyId) table).committed.map (prekeyId, ·)))

def respond (relay : Relay) (request : RequestId) (target : DeviceName) (deviceKey : DeviceKey)
    (oneTimePrekey : Option (PositiveInt × OneTimePreKey)) : Relay :=
  let record : BundleRecord := ⟨target, bundleResponse target deviceKey oneTimePrekey⟩
  { relay with responses := record :: relay.responses }.goes request .answered

/-! ## `upload_one_time_prekeys` -/

def startUpload (relay : Relay) (request : RequestId) (device : DeviceName)
    (batch : OneTimePreKeyBatchUploadRequest) : Relay :=
  if batch.prekeys.any fun prekey => prekey.deviceId ≠ device.deviceId then
    relay.rollsBack request (.rejected deviceIdMismatchError)
  else match getActiveByUserAndDevice relay device with
    | none => relay.rollsBack request (.rejected deviceNotFoundError)
    | some _ => relay.goes request (.uploading device batch.prekeys)

/-- One row of the batch insert. -/
def insertPreKey (relay : Relay) (request : RequestId) (device : DeviceName)
    (upload : OneTimePreKeyUpload) (remaining : List OneTimePreKeyUpload) : Option Relay :=
  match RowTable.insert request ⟨device, upload.prekeyId⟩ (newPreKey request upload)
      relay.oneTimePrekeys with
  | .done table => some ({ relay with oneTimePrekeys := table }.goes request
      (.uploading device remaining))
  | .conflict => some (relay.rollsBack request (.rejected preKeyExistsError))
  | .waits => none

/-- The pre-keys of the table that the request would commit. -/
def heldNames (relay : Relay) (request : RequestId) : List PreKeyName :=
  (relay.oneTimePrekeys.map Prod.fst).filter fun name =>
    (row name relay.oneTimePrekeys).held.map Prod.fst = some request

/-- The record of the pre-keys that an upload commits. -/
def committedUploads (relay : Relay) (request : RequestId) : List UploadRecord :=
  (heldNames relay request).map fun name => ⟨name, storedIdentity relay name.device⟩

def commitUpload (relay : Relay) (request : RequestId) : Relay :=
  { relay with
    oneTimePrekeys := RowTable.commit request relay.oneTimePrekeys
    uploads := committedUploads relay request ++ relay.uploads }.goes request .uploaded

/-! ## `upsert_device_key` -/

def startUpsert (relay : Relay) (request : RequestId) (device : DeviceName)
    (body : DeviceKeyUploadRequest) : Relay :=
  if device.deviceId ≠ body.deviceId then
    relay.rollsBack request (.rejected deviceIdMismatchError)
  else relay.goes request (.upserting device body (getByUserAndDevice relay device))

def flushUpsert (relay : Relay) (request : RequestId) (device : DeviceName)
    (body : DeviceKeyUploadRequest) (loaded : Option DeviceKey) (now : UtcTimestamp) :
    Option Relay :=
  match loaded with
  | none =>
    match RowTable.insert request device (assignedDeviceKey body now) relay.deviceKeys with
    | .done table => some ({ relay with deviceKeys := table }.goes request .flushed)
    | .conflict => some (relay.rollsBack request (.rejected deviceKeyNotSavedError))
    | .waits => none
  | some deviceKey =>
    (RowTable.update request device (writeChanged deviceKey (assignedDeviceKey body now))
      relay.deviceKeys).map fun table =>
        { relay with deviceKeys := table }.goes request .flushed

def commitUpsert (relay : Relay) (request : RequestId) : Relay :=
  { relay with deviceKeys := RowTable.commit request relay.deviceKeys }.goes request .upserted

/-! ## Interleaving -/

/-- One statement of a request's route, with what it takes from outside. -/
inductive Statement where
  | startFetch (target : DeviceName) (targetUserIsActive : Bool)
  | selectPreKeys
  | visitPreKey
  | markUsed (now : UtcTimestamp)
  | commitFetch
  | respond
  | startUpload (device : DeviceName) (batch : OneTimePreKeyBatchUploadRequest)
  | insertPreKey
  | commitUpload
  | startUpsert (device : DeviceName) (body : DeviceKeyUploadRequest)
  | flushUpsert (now : UtcTimestamp)
  | commitUpsert
  | fail

/-- The request has ended; its session is closed. -/
def RequestState.ended : RequestState → Bool
  | .answered | .uploaded | .upserted | .rejected _ | .aborted => true
  | _ => false

/-- A request takes its next statement; `fail` ends a request without a commit. -/
def relayStep (relay : Relay) (event : RequestId × Statement) : Option Relay :=
  let (request, statement) := event
  match statement, relay.requests request with
  | .startFetch target targetUserIsActive, .idle =>
    some (startFetch relay request target targetUserIsActive)
  | .selectPreKeys, .deviceRead target deviceKey =>
    some (relay.goes request (.selecting target deviceKey (unusedForDevice relay target)))
  | .visitPreKey, .selecting target deviceKey candidates =>
    some (visitPreKey relay request target deviceKey candidates)
  | .markUsed now, .locked target deviceKey prekeyId =>
    markUsed relay request target deviceKey prekeyId now
  | .commitFetch, .marked target deviceKey prekeyId =>
    some (commitFetch relay request target deviceKey prekeyId)
  | .respond, .bundled target deviceKey oneTimePrekey =>
    some (respond relay request target deviceKey oneTimePrekey)
  | .startUpload device batch, .idle => some (startUpload relay request device batch)
  | .insertPreKey, .uploading device (upload :: remaining) =>
    insertPreKey relay request device upload remaining
  | .commitUpload, .uploading _ [] => some (commitUpload relay request)
  | .startUpsert device body, .idle => some (startUpsert relay request device body)
  | .flushUpsert now, .upserting device body loaded =>
    flushUpsert relay request device body loaded now
  | .commitUpsert, .flushed => some (commitUpsert relay request)
  | .fail, state => if state.ended then none else some (relay.rollsBack request .aborted)
  | _, _ => none

/-- The tables as the migrations create them, and no request begun. -/
def Relay.Empty (relay : Relay) : Prop := relay = {}

end EpicKfc.Source.Server.KeyRelay
