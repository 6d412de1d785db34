import EpicKfc.Guarantees.LoginLookup
import EpicKfc.Guarantees.PublishedBundles
import EpicKfc.Source.Client.ClientRuns
import EpicKfc.Source.Server.UserDirectory

/-!
# Names that resolve to devices

A client that knows a username asks the directory for the account and one of its
devices, and then the key relay for that device's keys. Registration and the path of
the directory check usernames by different code; an upload leaves every device it
touches active. So no registered name is refused, and no resolved device is missing.
A name that is a UUID itself never gets that far: the client takes it for the id.
-/

namespace EpicKfc.Guarantees.NameResolution
open EpicKfc.Lib
open EpicKfc.Lib.JsonText (Text codePoints)
open EpicKfc.Source
open EpicKfc.Source.Client (ClientSetup ClientState UserAddress)
open EpicKfc.Source.Server
open EpicKfc.Source.Server.KeyRelay
open EpicKfc.Source.Server.UserAccounts
open EpicKfc.Source.Server.UserDirectory
open EpicKfc.Guarantees.LoginLookup

/-! ## Devices stay active -/

/-- Not revoked, as an upload leaves it. -/
def Active (_name : DeviceName) (deviceKey : DeviceKey) : Prop :=
  deviceKey.isActive = true ∧ deviceKey.revokedAt = none

theorem active_assigned (name : DeviceName) (body : DeviceKeyUploadRequest) (now : UtcTimestamp) :
    Active name (assignedDeviceKey body now) := ⟨rfl, rfl⟩

theorem active_writeChanged {name : DeviceName} {loaded assigned stored : DeviceKey}
    (now : Active name assigned) (before : Active name stored) :
    Active name (writeChanged loaded assigned stored) := by
  constructor
  · obtain taken | kept :=
      PublishedBundles.changedColumn_cases loaded.isActive assigned.isActive stored.isActive
    · exact taken.trans now.1
    · exact kept.trans before.1
  · obtain taken | kept :=
      PublishedBundles.changedColumn_cases loaded.revokedAt assigned.revokedAt stored.revokedAt
    · exact taken.trans now.2
    · exact kept.trans before.2

theorem active_flushUpsert {relay relay' : Relay} (before : RowTable.Every Active relay.deviceKeys)
    {request : RequestId} {device : DeviceName} {body : DeviceKeyUploadRequest}
    {loaded : Option DeviceKey} {now : UtcTimestamp}
    (moved : flushUpsert relay request device body loaded now = some relay') :
    RowTable.Every Active relay'.deviceKeys := by
  unfold flushUpsert at moved
  split at moved
  · split at moved
    · next inserted =>
      cases moved
      exact before.insert inserted (active_assigned device body now)
    · cases moved
      exact before.rollback request
    · cases moved
  · obtain ⟨table, updated, rfl⟩ := Option.map_eq_some_iff.mp moved
    exact before.update updated fun _ stored => active_writeChanged (active_assigned device body now) stored

/-- Only a flush, a commit or a rollback touches the device keys. -/
theorem active_step {relay relay' : Relay} {event : RequestId × Statement}
    (before : RowTable.Every Active relay.deviceKeys) (moved : relayStep relay event = some relay') :
    RowTable.Every Active relay'.deviceKeys := by
  obtain ⟨request, statement⟩ := event
  cases takes_of_step moved with
  | flushes device body loaded table upserting work =>
    cases statement with
    | flushUpsert now =>
      simp only [relayStep, upserting] at moved
      exact active_flushUpsert before moved
    | fail =>
      simp only [relayStep, upserting, RequestState.ended, Bool.false_eq_true, if_false,
        Option.some.injEq] at moved
      have rolledBack := congrArg Relay.deviceKeys moved
      exact rolledBack ▸ before.rollback request
    | _ => simp [relayStep, upserting] at moved
  | commitsUpsert => exact before.commit request
  | refuses => exact before.rollback request
  | _ => exact before

theorem active_reachable {relay : Relay}
    (served : Runs.Reachable relayStep Relay.Empty relay) {name : DeviceName} {deviceKey : DeviceKey}
    (stored : getByUserAndDevice relay name = some deviceKey) : Active name deviceKey := by
  have active : RowTable.Every Active relay.deviceKeys :=
    Runs.invariant_of_preserved (fun _ empty => by cases empty; exact RowTable.every_nil)
      (fun _ _ _ before _ moved => active_step before moved) served
  exact active name deviceKey (Or.inl stored)

/-! ## Registered usernames pass the path -/

theorem pathUsername_of_valid {value username : Text}
    (valid : validateUsername value = .ok username) : PathUsername username := by
  simp only [validateUsername] at valid
  split at valid
  · cases valid
  · next sized =>
    split at valid
    · cases valid
    · next matched =>
      cases valid
      obtain ⟨least, most⟩ := not_not.mp sized
      exact ⟨least, most, (not_not.mp matched).2⟩

theorem pathUsername_of_request {validateEmail : Text → Option Text} {username email password : Text}
    {request : RegisterRequest}
    (parsed : parseRegisterRequest validateEmail username email password = .ok request) :
    PathUsername request.username := by
  unfold parseRegisterRequest at parsed
  split at parsed
  · cases parsed
  · split at parsed
    · cases parsed
    · cases parsed
    · next valid _ =>
      split at parsed
      · cases parsed
      · cases parsed
        exact pathUsername_of_valid valid

section
variable {mapping : CaseMapping} {validateEmail : Text → Option Text} {users : UserTable}

/-- Every user can be asked for. -/
def Nameable (rows : UserTable) : Prop := ∀ user ∈ rows, PathUsername user.username

theorem nameable_reachable
    (registered : Runs.Reachable (registerStep mapping validateEmail) (· = []) users) :
    Nameable users := by
  refine Runs.invariant_of_preserved ?_ (fun rows call rows' before _ moved => ?_) registered
  · rintro start rfl
    simp [Nameable]
  · unfold registerStep at moved
    split at moved
    · cases moved
      exact before
    · next request parsed =>
      cases moved
      obtain same | added := registerUser_cases call request rows
      · rwa [same]
      · unfold insertUser at added
        split at added
        · cases added
        · rw [← Option.some.inj added]
          intro user member
          obtain earlier | here := List.mem_append.mp member
          · exact before user earlier
          · rw [List.mem_singleton.mp here]
            exact pathUsername_of_request parsed

/-- The query finds the user of this name. -/
theorem getByUsername_eq (consistent : Consistent mapping users) {user : User}
    (member : user ∈ users) : getByUsername user.username users = .ok (some user) := by
  have exclusive : SoleMatches.Exclusive (fun username (user : User) => user.username = username)
      users := consistent.unique.imp fun apart username both => apart.1 (both.1.trans both.2.symm)
  exact exclusive.lookup_eq_some.mpr ⟨member, rfl⟩

theorem getByUsername_none {username : Text} (absent : ∀ user ∈ users, user.username ≠ username) :
    getByUsername username users = .ok none := by
  have empty : users.filter (fun user => user.username = username) = [] := by
    simpa [List.filter_eq_nil_iff] using absent
  rw [getByUsername, empty]
  rfl

/-- The directory answers for a user who is active. -/
theorem getUserByUsername_active (consistent : Consistent mapping users)
    {user : User} (member : user ∈ users) (path : PathUsername user.username)
    (active : user.isActive = true) (relay : Relay) :
    getUserByUsername user.username users relay =
      .ok ⟨user.id, user.username, (listDevicesForUser relay user.id).map deviceSummary⟩ := by
  rw [getUserByUsername, if_neg (not_not.mpr path), getByUsername_eq consistent member]
  simp [active]

/-- The directory refuses a name that no active user has. -/
theorem getUserByUsername_absent (consistent : Consistent mapping users)
    {username : Text} (absent : ∀ user ∈ users, user.isActive = true → user.username ≠ username)
    (relay : Relay) : ∃ refused, (refused = .usernamePath ∨ refused = .userNotFound) ∧
      getUserByUsername username users relay = .error refused := by
  rw [getUserByUsername]
  split
  · exact ⟨_, Or.inl rfl, rfl⟩
  · refine ⟨.userNotFound, Or.inr rfl, ?_⟩
    by_cases present : ∃ user ∈ users, user.username = username
    · obtain ⟨user, member, named⟩ := present
      have inactive : user.isActive = false :=
        eq_false_of_ne_true fun active => absent user member active named
      rw [← named, getByUsername_eq consistent member]
      simp [inactive]
    · rw [getByUsername_none fun user member named => present ⟨user, member, named⟩]

end

/-! ## The address a client makes of the answer -/

theorem ofList_codePoints (name : String) :
    String.ofList ((codePoints name).map Char.ofNat) = name := by
  rw [codePoints, List.map_map]
  have each : Char.ofNat ∘ Char.toNat = id := funext Char.ofNat_toNat
  rw [each, List.map_id, String.ofList_toList]

/-- Of devices that are all active the client takes the first. -/
theorem userAddressFromJson_members (response : UserByUsernameResponse) (defaultDeviceId : Int)
    (active : ∀ device ∈ response.devices, device.isActive = true) :
    Client.userAddressFromJson response.members defaultDeviceId =
      ⟨response.id.str, String.ofList (response.username.map Char.ofNat),
        (response.devices.head?.map fun device => device.deviceId.val).getD defaultDeviceId⟩ := by
  obtain ⟨id, username, devices⟩ := response
  cases devices with
  | nil =>
    simp [Client.userAddressFromJson, UserByUsernameResponse.members, Client.value, Json.lookup_cons,
      Client.QJsonValue.toArray, Client.QJsonValue.toString]
  | cons first rest =>
    have flag : first.isActive = true := active first List.mem_cons_self
    have bounds := first.deviceId.property
    have deviceId : Client.QJsonValue.toInt (some (.number first.deviceId.val)) defaultDeviceId =
        first.deviceId.val := if_pos (by omega)
    simp [Client.userAddressFromJson, UserByUsernameResponse.members, Client.value, Json.lookup_cons,
      Client.QJsonValue.toArray, Client.QJsonValue.toString, Client.QJsonValue.toObject,
      Client.QJsonValue.toBool, flag, deviceId]

/-- The published device with the least id, whose keys the relay hands out; or, of a user that
has published none, the default. -/
def Chosen (relay : Relay) (userId : Uuid) (defaultDeviceId deviceId : Int) : Prop :=
  (∃ (published : PositiveInt) (deviceKey : DeviceKey), deviceId = published.val ∧
    getActiveByUserAndDevice relay ⟨userId, published⟩ = some deviceKey ∧
    ∀ other stored, getByUserAndDevice relay ⟨userId, other⟩ = some stored →
      published.val ≤ other.val) ∨
  (deviceId = defaultDeviceId ∧ ∀ other, getByUserAndDevice relay ⟨userId, other⟩ = none)

theorem chosen_head {relay : Relay} (served : Runs.Reachable relayStep Relay.Empty relay) (userId : Uuid)
    (defaultDeviceId : Int) : Chosen relay userId defaultDeviceId
      (((listDevicesForUser relay userId).head?.map fun device => device.1.val).getD defaultDeviceId) := by
  cases listed : listDevicesForUser relay userId with
  | nil =>
    refine Or.inr ⟨rfl, fun other => ?_⟩
    rw [Option.eq_none_iff_forall_ne_some]
    intro deviceKey stored
    have member := mem_listDevicesForUser.mpr stored
    rw [listed] at member
    cases member
  | cons first rest =>
    obtain ⟨published, deviceKey⟩ := first
    have stored : getByUserAndDevice relay ⟨userId, published⟩ = some deviceKey :=
      mem_listDevicesForUser.mp (listed ▸ List.mem_cons_self)
    have active := active_reachable served stored
    refine Or.inl ⟨published, deviceKey, rfl, ?_, fun other key stored' => ?_⟩
    · rw [getActiveByUserAndDevice, stored, Option.filter_eq_some_iff]
      simp [active.1, active.2]
    · have member := mem_listDevicesForUser.mpr stored'
      have sorted := listDevicesForUser_sorted relay userId
      rw [listed] at member sorted
      obtain here | later := List.mem_cons.mp member
      · rw [(Prod.mk.inj here).1]
      · exact (List.pairwise_cons.mp sorted).1 _ later

theorem devices_active {relay : Relay} (served : Runs.Reachable relayStep Relay.Empty relay)
    (userId : Uuid) : ∀ device ∈ (listDevicesForUser relay userId).map deviceSummary,
      device.isActive = true := by
  intro device member
  obtain ⟨⟨deviceId, deviceKey⟩, listed, rfl⟩ := List.mem_map.mp member
  have active := active_reachable served (mem_listDevicesForUser.mp listed)
  simp [deviceSummary, active.1, active.2]

/-! ## Resolution -/

section
variable {mapping : CaseMapping} {validateEmail : Text → Option Text}

theorem resolveUsername_of_filled {setup : ClientSetup} {name : String}
    (filled : setup.trimmed name ≠ "") (client : ClientState)
    (found : ClientState → UserAddress → ClientState) (continuation : Client.Continuation) :
    Client.KeyService.resolveUsername setup client name found continuation =
      if setup.isUuid (setup.trimmed name) then
        found client ⟨setup.trimmed name, setup.trimmed name, setup.deviceId⟩
      else client.send client.accessToken false continuation := by
  have shown : (setup.trimmed name).isEmpty = false := by simpa using filled
  simp only [Client.KeyService.resolveUsername, shown, Bool.false_eq_true, if_false]

/-- Whatever registrations and uploads have come before, the directory answers for a name exactly
when an active user has it; the client makes of the answer that user's id with the least device
the user has published, and the key relay does not refuse that device. The client asks for every
name but a UUID, which it takes for the user's id. -/
theorem registered_name_resolves
    (accepts : ∀ given address, validateEmail given = some address → atSign ∈ address)
    {users : UserTable}
    (registered : Runs.Reachable (registerStep mapping validateEmail) (· = []) users)
    {relay : Relay} (served : Runs.Reachable relayStep Relay.Empty relay) (name : String) :
    (∀ user ∈ users, user.isActive = true → user.username = codePoints name →
      ∃ response, getUserByUsername (codePoints name) users relay = .ok response ∧
        ∀ (setup : ClientSetup) (client : ClientState) found, ∃ deviceId,
          Chosen relay user.id setup.deviceId deviceId ∧
          Client.KeyService.addressArrived setup client response.members found =
            found client ⟨user.id.str, name, deviceId⟩) ∧
    ((∀ user ∈ users, user.isActive = true → user.username ≠ codePoints name) →
      ∃ refused, (refused = .usernamePath ∨ refused = .userNotFound) ∧
        getUserByUsername (codePoints name) users relay = .error refused) ∧
    ∀ (setup : ClientSetup), setup.trimmed name ≠ "" → ∀ (client : ClientState) found continuation,
      Client.KeyService.resolveUsername setup client name found continuation =
        if setup.isUuid (setup.trimmed name) then
          found client ⟨setup.trimmed name, setup.trimmed name, setup.deviceId⟩
        else client.send client.accessToken false continuation := by
  have consistent := consistent_of_reachable accepts registered
  refine ⟨?_, fun absent => getUserByUsername_absent consistent absent relay,
    fun _ filled => resolveUsername_of_filled filled⟩
  intro user member active named
  have answered := getUserByUsername_active consistent member
    (nameable_reachable registered user member) active relay
  rw [named] at answered
  refine ⟨_, answered, fun setup client found => ⟨_, chosen_head served user.id setup.deviceId, ?_⟩⟩
  have filled : user.id.str.isEmpty = false := by simp [Uuid.str_ne_empty]
  rw [Client.KeyService.addressArrived, userAddressFromJson_members _ _ (devices_active served user.id)]
  simp [filled, ofList_codePoints, Function.comp_def, deviceSummary]

end

/-- Alice has published a device, and is asked for and found with it; her id is taken as it is. -/
theorem registered_name_resolves_alice :
    (∃ relay response, getUserByUsername (codePoints "alice") [alice, bob] relay = .ok response ∧
      ∀ (setup : ClientSetup) (client : ClientState) found, ∃ deviceId,
        Chosen relay 1 setup.deviceId deviceId ∧
        Client.KeyService.addressArrived setup client response.members found =
          found client ⟨Uuid.str 1, "alice", deviceId⟩) ∧
    (∀ (client : ClientState) found continuation,
      Client.KeyService.resolveUsername Client.sampleSetup client "alice" found continuation =
        client.send client.accessToken false continuation) ∧
    ∀ (client : ClientState) found continuation,
      Client.KeyService.resolveUsername Client.sampleSetup client (Uuid.str 1) found continuation =
        found client ⟨Uuid.str 1, Uuid.str 1, Client.sampleSetup.deviceId⟩ := by
  have registered : Runs.Reachable (registerStep asciiMapping acceptAddress) (· = []) [alice, bob] :=
    @Runs.reachable_of_run _ _ _ _ [] _ [exampleCall "alice" "alice@example.com" 1 [],
      exampleCall " bob" "Bob@example.com" 2 [alice]] rfl rfl
  have ends : (Runs.run relayStep {} (PreKeyHandOut.sampleUpsert 0 "aWQw")).isSome := by decide
  obtain ⟨relay, ran⟩ := Option.isSome_iff_exists.mp ends
  have served : Runs.Reachable relayStep Relay.Empty relay := Runs.reachable_of_run rfl ran
  obtain ⟨answers, -, asks⟩ := registered_name_resolves acceptAddress_atSign registered served "alice"
  obtain ⟨-, -, takes⟩ :=
    registered_name_resolves acceptAddress_atSign registered served (Uuid.str 1)
  obtain ⟨response, answered, resolves⟩ := answers alice (by simp) rfl rfl
  refine ⟨⟨relay, response, answered, resolves⟩, fun client found continuation => ?_,
    fun client found continuation => ?_⟩
  · exact (asks Client.sampleSetup (by decide) client found continuation).trans (if_neg (by decide))
  · exact (takes Client.sampleSetup (by decide) client found continuation).trans (if_pos (by decide))

end EpicKfc.Guarantees.NameResolution
