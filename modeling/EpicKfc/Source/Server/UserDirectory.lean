import EpicKfc.Lib.JsonRoundTrip
import EpicKfc.Source.Server.KeyRelay
import EpicKfc.Source.Server.UserAccounts

/-!
# User directory

`get_user_by_username` of `server/backend/app/api/v1/users.py`, with the list of
devices it answers with. The two queries are statements of their own, so the tables
they read need not be of one moment.
-/

namespace EpicKfc.Source.Server.UserDirectory
open EpicKfc.Lib
open EpicKfc.Lib.JsonText (Text codePoints)
open EpicKfc.Lib.SoleMatches (MultipleResults oneOrNone)
open EpicKfc.Source.Server.KeyRelay
open EpicKfc.Source.Server.UserAccounts

/-- `user_repository.get_by_username`. -/
def getByUsername (username : Text) (rows : UserTable) : Except MultipleResults (Option User) :=
  oneOrNone (rows.filter fun user => user.username = username)

/-- `device_key_repository.list_devices_for_user`: `order_by(DeviceKey.device_id)`. -/
def listDevicesForUser (relay : Relay) (userId : Uuid) : List (PositiveInt × DeviceKey) :=
  (relay.deviceKeys.filterMap fun entry =>
    if entry.1.userId = userId then
      (getByUserAndDevice relay entry.1).map fun deviceKey => (entry.1.deviceId, deviceKey)
    else none).insertionSort (·.1.val ≤ ·.1.val)

structure UserDeviceSummary where
  deviceId : PositiveInt
  isActive : Bool

structure UserByUsernameResponse where
  id : Uuid
  username : Text
  devices : List UserDeviceSummary

def deviceSummary (device : PositiveInt × DeviceKey) : UserDeviceSummary where
  deviceId := device.1
  isActive := device.2.isActive && device.2.revokedAt.isNone

/-- What the path's length and pattern let through. -/
def PathUsername (username : Text) : Prop :=
  3 ≤ username.length ∧ username.length ≤ 50 ∧ username.all isUsernamePoint = true

instance (username : Text) : Decidable (PathUsername username) :=
  inferInstanceAs (Decidable (_ ∧ _ ∧ _))

/-- The path's constraints fail with 422, an unknown or inactive user with 404, and a query with
several results is an internal error. -/
inductive LookupError where
  | usernamePath
  | userNotFound
  | query (error : MultipleResults)

def getUserByUsername (username : Text) (users : UserTable) (relay : Relay) :
    Except LookupError UserByUsernameResponse :=
  if ¬ PathUsername username then .error .usernamePath
  else match getByUsername username users with
    | .error error => .error (.query error)
    | .ok none => .error .userNotFound
    | .ok (some user) =>
      if user.isActive = false then .error .userNotFound
      else .ok ⟨user.id, user.username, (listDevicesForUser relay user.id).map deviceSummary⟩

/-- The body of the response. -/
def UserByUsernameResponse.members (response : UserByUsernameResponse) : Json.Members := [
  ("id", .string response.id.str),
  ("username", .string (String.ofList (response.username.map Char.ofNat))),
  ("devices", .array (response.devices.map fun device => .object [
    ("device_id", .number device.deviceId.val),
    ("is_active", .bool device.isActive)]))]

/-! ## The listed devices -/

theorem mem_listDevicesForUser {relay : Relay} {userId : Uuid} {deviceId : PositiveInt}
    {deviceKey : DeviceKey} : (deviceId, deviceKey) ∈ listDevicesForUser relay userId ↔
      getByUserAndDevice relay ⟨userId, deviceId⟩ = some deviceKey := by
  rw [listDevicesForUser, List.mem_insertionSort, List.mem_filterMap]
  constructor
  · rintro ⟨⟨name, rows⟩, -, listed⟩
    split at listed
    · next owned =>
      obtain ⟨stored, read, same⟩ := Option.map_eq_some_iff.mp listed
      obtain ⟨rfl, rfl⟩ := Prod.mk.inj same
      rw [← owned, ← read]
    · cases listed
  · intro stored
    refine ⟨(⟨userId, deviceId⟩, RowTable.row ⟨userId, deviceId⟩ relay.deviceKeys), ?_, ?_⟩
    · apply RowTable.mem_of_row
      intro empty
      rw [getByUserAndDevice, empty] at stored
      cases stored
    · simp [stored]

theorem listDevicesForUser_sorted (relay : Relay) (userId : Uuid) :
    (listDevicesForUser relay userId).Pairwise fun first second => first.1.val ≤ second.1.val :=
  List.pairwise_insertionSort _ _

end EpicKfc.Source.Server.UserDirectory
