import EpicKfc.Source.Client.ClientState

/-!
# Trust in peers

`KeyService::trustUsername` and its bundle cache, with `HttpUserDirectoryGateway`
and `HttpKeyGateway::fetchPreKeyBundle`. The pin is looked up for the address
that was asked for; the cached bundle carries the device that the reply named.
-/

namespace EpicKfc.Source.Client
open EpicKfc.Lib

def bundleFromJson (userId : String) (object : Json.Members) : PreKeyBundle where
  userId := userId
  registrationId := (value object "registrationId").toInt 0
  deviceId := (value object "deviceId").toInt 0
  identityKey := (value object "identityKey").toString
  identitySigningKey := (value object "identitySigningKey").toString
  signedPreKeyId := (value object "signedPreKeyId").toInt 0
  signedPreKey := (value object "signedPreKey").toString
  signedPreKeySignature := (value object "signedPreKeySignature").toString
  oneTimePreKeyId :=
    if !(value object "oneTimePreKeyId").isNull && (value object "oneTimePreKeyId").isSome then
      some ((value object "oneTimePreKeyId").toInt 0)
    else none
  oneTimePreKey := (value object "oneTimePreKey").toString

/-- The first active device of the reply, else its first device, else the default. -/
def userAddressFromJson (object : Json.Members) (defaultDeviceId : Int) : UserAddress :=
  let devices := (value object "devices").toArray
  let isActive (device : Json) : Bool :=
    (value (QJsonValue.toObject (some device)) "is_active").toBool true
  let deviceId :=
    match (devices.find? isActive).or devices.head? with
    | some device => (value (QJsonValue.toObject (some device)) "device_id").toInt defaultDeviceId
    | none => defaultDeviceId
  ⟨(value object "id").toString, (value object "username").toString, deviceId⟩

namespace KeyService

variable (setup : ClientSetup)

/-- `HttpUserDirectoryGateway::resolveUsername`: a UUID is its own address, without a request. -/
def resolveUsername (client : ClientState) (username : String) (found : ClientState → UserAddress → ClientState)
    (continuation : Continuation) : ClientState :=
  let trimmedUsername := setup.trimmed username
  if trimmedUsername.isEmpty then client
  else if setup.isUuid trimmedUsername then
    found client ⟨trimmedUsername, trimmedUsername, setup.deviceId⟩
  else client.send client.accessToken false continuation

/-- The reply of the directory; an address without a user is not found. -/
def addressArrived (client : ClientState) (object : Json.Members)
    (found : ClientState → UserAddress → ClientState) : ClientState :=
  let address := userAddressFromJson object setup.deviceId
  if address.userId.isEmpty then client else found client address

/-- The callback of `resolveUsername` in `trustUsername`. -/
def trustAddress (io : ClientIo) (client : ClientState) (address : UserAddress) : ClientState :=
  match client.mutate setup (.saveKnownUser address) (io.store 0) with
  | (.error _, client) => client
  | (.ok (), client) => client.send client.accessToken false (.trustBundle address)

def trustUsername (client : ClientState) (username : String) (io : ClientIo) : ClientState :=
  if client.session.isSome then
    resolveUsername setup client username (trustAddress setup io) .trustAddress
  else client

/-- The callback of `fetchPreKeyBundle` in `trustUsername`. -/
def trustBundle (client : ClientState) (address : UserAddress) (bundle : PreKeyBundle) (io : ClientIo) :
    ClientState :=
  match setup.crypto.verifySignedPreKey bundle with
  | .error _ => client
  | .ok () =>
    match client.trustPin address.userId address.deviceId with
    | none =>
      let pin : TrustPin := ⟨address.userId, address.deviceId, bundle.identityKey, io.now⟩
      match client.mutate setup (.saveTrustPin pin) (io.store 0) with
      | (.error _, client) => client
      | (.ok (), client) => { client with lastTrustedBundle := some bundle }
    | some pin =>
      if pin.identityKey ≠ bundle.identityKey then client
      else { client with lastTrustedBundle := some bundle }

def cachedBundle (client : ClientState) (userId : String) (deviceId : Int) : Option PreKeyBundle :=
  client.lastTrustedBundle.filter fun bundle =>
    bundle.userId = userId ∧ bundle.deviceId = deviceId

end KeyService

end EpicKfc.Source.Client
