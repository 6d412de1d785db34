import EpicKfc.Source.Client.KeyService

/-!
# Reading, sending and forwarding

The parts of `MessageService` that decrypt a stored message and that encrypt one
for a recipient. `trustedBundle` takes the cached bundle without a look at the
pins, and otherwise fetches one and compares it with the pin that was stored when
the fetch began.
-/

namespace EpicKfc.Source.Client
open EpicKfc.Lib

namespace MessageService

variable (setup : ClientSetup)

/-! ## Decryption -/

def oneTimePreKeyFor (client : ClientState) (message : LocalMessage) : Option OneTimePreKey :=
  message.consumedOneTimePreKeyId.bind fun preKeyId =>
    (JsonLocalStore.loadOneTimePreKeys setup.deviceId client.store.memory).find? fun preKey =>
      preKey.preKeyId = preKeyId

def sentMessageLocalCopyUnavailable : ClientError :=
  ⟨.cryptoError, "This sent message was cached before local sender-copy encryption was available."⟩

/-- A sent message with the payload that its sender kept. -/
def senderCopy (message : LocalMessage) : LocalMessage :=
  { message with
    wirePayloadJson := message.localSenderCopyWirePayloadJson
    consumedOneTimePreKeyId := none }

def decryptForCurrentUser (client : ClientState) (device : DeviceKeyMaterial) (message : LocalMessage) :
    Result String :=
  if message.senderUserId ≠ client.currentUserId then
    setup.crypto.decrypt client.currentUserId device message (oneTimePreKeyFor setup client message)
  else if message.localSenderCopyWirePayloadJson.isEmpty then .error sentMessageLocalCopyUnavailable
  else setup.crypto.decrypt client.currentUserId device (senderCopy message) none

def notFound (message : String) : ClientError := ⟨.notFound, message⟩

def deviceKeysUnavailable : ClientError :=
  ⟨.cryptoError, "Device keys are not available. Login first."⟩

/-- How `download` and `forwardToAddress` begin; `missing` is each one's own error. -/
def cachedPlaintext (missing : ClientError) (client : ClientState) (messageId : String) :
    Result (DeviceKeyMaterial × String) :=
  match LocalMessages.findMessage messageId client.store.memory.messages with
  | none => .error missing
  | some message =>
    match client.currentDevice setup with
    | none => .error deviceKeysUnavailable
    | some device => (decryptForCurrentUser setup client device message).map (device, ·)

/-! ## Encryption -/

def selfPreKeyBundleFor (client : ClientState) (device : DeviceKeyMaterial) : PreKeyBundle where
  userId := client.currentUserId
  registrationId := device.registrationId
  deviceId := device.deviceId
  identityKey := device.identityKey
  identitySigningKey := device.identitySigningKey
  signedPreKeyId := device.signedPreKeyId
  signedPreKey := device.signedPreKey
  signedPreKeySignature := device.signedPreKeySignature
  oneTimePreKeyId := none
  oneTimePreKey := ""

def createLocalSenderCopy (client : ClientState) (device : DeviceKeyMaterial) (plaintext : String)
    (io : ClientIo) : Result String :=
  (setup.crypto.encrypt client.currentUserId device (selfPreKeyBundleFor client device) plaintext
    io.draws).map (·.wirePayloadJson)

/-- The callback that `sendToAddress` and `forwardToAddress` give to `trustedBundle`:
encrypt for the recipient, then for the sender, then hand both to the gateway. -/
def deliver (client : ClientState) (delivery : Delivery) (bundle : PreKeyBundle) (io : ClientIo) :
    ClientState :=
  let address := delivery.recipientAddress
  let encryption : Encryption := ⟨address, bundle, client.trustPin address.userId address.deviceId⟩
  let client := { client with encryptions := client.encryptions ++ [encryption] }
  match setup.crypto.encrypt client.currentUserId delivery.device bundle delivery.plaintext
      io.draws with
  | .error _ => client
  | .ok _ =>
    match createLocalSenderCopy setup client delivery.device delivery.plaintext io with
    | .error _ => client
    | .ok _ => client.send client.accessToken false .other

/-- `KeyService::trustedBundle`. -/
def trustedBundle (client : ClientState) (delivery : Delivery) (io : ClientIo) : ClientState :=
  let address := delivery.recipientAddress
  match KeyService.cachedBundle client address.userId address.deviceId with
  | some bundle => deliver setup client delivery bundle io
  | none =>
    match client.trustPin address.userId address.deviceId with
    | none => client
    | some pin => client.send client.accessToken false (.trustedBundle pin delivery)

/-- The callback of `fetchPreKeyBundle` in `trustedBundle`. -/
def bundleArrived (client : ClientState) (pin : TrustPin) (delivery : Delivery) (bundle : PreKeyBundle)
    (io : ClientIo) : ClientState :=
  match setup.crypto.verifySignedPreKey bundle with
  | .error _ => client
  | .ok () =>
    if pin.identityKey ≠ bundle.identityKey then client
    else deliver setup { client with lastTrustedBundle := some bundle } delivery bundle io

def sendToAddress (client : ClientState) (recipientAddress : UserAddress) (plaintext : String)
    (io : ClientIo) : ClientState :=
  match client.currentDevice setup with
  | none => client
  | some device => trustedBundle setup client ⟨recipientAddress, device, plaintext⟩ io

/-- The callback of `resolveUsername` in `send`. -/
def sendAddress (plaintext : String) (io : ClientIo) (client : ClientState) (address : UserAddress) :
    ClientState :=
  match client.mutate setup (.saveKnownUser address) (io.store 0) with
  | (.error _, client) => client
  | (.ok (), client) => sendToAddress setup client address plaintext io

def send (client : ClientState) (recipientUsername plaintext : String) (io : ClientIo) : ClientState :=
  if client.session.isSome then
    KeyService.resolveUsername setup client recipientUsername (sendAddress setup plaintext io)
      (.sendAddress plaintext)
  else client

/-- What `forwardToAddress` hands to `trustedBundle`. -/
def forwardDelivery (client : ClientState) (messageId : String) (recipientAddress : UserAddress) :
    Result Delivery :=
  (cachedPlaintext setup
      (notFound "Message must be cached before forwarding. Use /read first.") client messageId).map
    fun opened => ⟨recipientAddress, opened.1, opened.2⟩

def forwardToAddress (client : ClientState) (messageId : String) (recipientAddress : UserAddress)
    (io : ClientIo) : ClientState :=
  match forwardDelivery setup client messageId recipientAddress with
  | .error _ => client
  | .ok delivery => trustedBundle setup client delivery io

/-- The callback of `resolveUsername` in `forward`. -/
def forwardAddress (messageId : String) (io : ClientIo) (client : ClientState) (address : UserAddress) :
    ClientState :=
  match client.mutate setup (.saveKnownUser address) (io.store 0) with
  | (.error _, client) => client
  | (.ok (), client) => forwardToAddress setup client messageId address io

def forward (client : ClientState) (messageId recipientUsername : String) (io : ClientIo) : ClientState :=
  if client.session.isSome then
    KeyService.resolveUsername setup client recipientUsername (forwardAddress setup messageId io)
      (.forwardAddress messageId)
  else client

end MessageService

end EpicKfc.Source.Client
