import EpicKfc.Source.Client.DeviceKeys

/-!
# Failed primitives

A failed key generation, authentication code or AES-GCM call stops an operation. A
failed signature, key agreement or key expansion is resized to the length of its
output and used.
-/

namespace EpicKfc.Guarantees.FailClosed
open EpicKfc.Lib
open EpicKfc.Source.Client
open EpicKfc.Source.Client.StoreDocuments
open EpicKfc.Source.Client.NativeSignalCryptoProvider

inductive Primitive where
  | keyGeneration
  | signature
  | agreement
  | expansion
  | authenticationCode
  | sealing
  | opening
deriving DecidableEq

/-- The operations look at the outcome of these. -/
def Primitive.checked : Primitive → Bool
  | .keyGeneration | .authenticationCode | .sealing | .opening => true
  | .signature | .agreement | .expansion => false

/-- A call of a primitive and whether it succeeds. -/
structure Call where
  primitive : Primitive
  succeeded : Bool
deriving DecidableEq

/-- Where a call fails, the operation returns an error. -/
def FailsClosed {α : Type} (calls : List Call) (result : Result α) : Prop :=
  (∃ call ∈ calls, call.succeeded = false) → ∃ error, result = .error error

/-- No failure goes unchecked, unless a checked one stops the operation. -/
def Guarded (calls : List Call) : Prop :=
  (∀ call ∈ calls, call.primitive.checked = false → call.succeeded = true) ∨
    ∃ call ∈ calls, call.primitive.checked = true ∧ call.succeeded = false

/-- A required one-time pre-key is not there. -/
def LacksPreKey (message : LocalMessage) (oneTimePreKey : Option OneTimePreKey) : Prop :=
  message.consumedOneTimePreKeyId ≠ none ∧ oneTimePreKey = none

/-! ## The calls of each operation -/

section Calls
variable (library : NativeLibrary) (signing : SigningLibrary)

def agreementCall (privateKey publicKey : QByteArray) : Call :=
  ⟨.agreement, (library.x25519 privateKey publicKey).isSome⟩

def expansionCall (ikm salt info : QByteArray) (length : Nat) : Call :=
  ⟨.expansion, library.hkdfInit ikm salt info && (library.hkdfDerive ikm salt info length).isSome⟩

/-- `kdfX3dh` and `firstRatchetMessageKey`. -/
def keyCalls (dhOutputs localRatchetPrivateKey remoteRatchetPublicKey : QByteArray) : List Call :=
  let rootKey := kdfX3dh library dhOutputs
  let dhOutput := x25519Dh library localRatchetPrivateKey remoteRatchetPublicKey
  let key := firstRatchetMessageKey library rootKey localRatchetPrivateKey remoteRatchetPublicKey
  [expansionCall library dhOutputs (List.replicate keyBytes 0) (toUtf8 x3dhInfo) keyBytes,
    agreementCall library localRatchetPrivateKey remoteRatchetPublicKey,
    expansionCall library dhOutput rootKey [] (keyBytes * 2),
    ⟨.authenticationCode, key.length == keyBytes⟩]

def deviceCalls (existing : DeviceKeyMaterial) (draws : Draws) : List Call :=
  if !existing.identityKey.isEmpty then []
  else
    let keys := generatedKeys library signing draws
    [⟨.keyGeneration, !keys.identity.wrongSize⟩, ⟨.keyGeneration, !keys.signing.wrongSize⟩,
      ⟨.keyGeneration, !keys.signedPreKey.wrongSize⟩,
      ⟨.signature,
        (signing.ed25519Sign keys.signing.privateKey keys.signedPreKey.publicKey).isSome⟩]

def encryptCalls (senderDevice : DeviceKeyMaterial) (recipientBundle : PreKeyBundle)
    (plaintext : String) (draws : Draws) : List Call :=
  if (library.trimmed plaintext).isEmpty then []
  else
    let (ratchetKey, draws) := generateRawKeyPair library draws
    let (ephemeralKey, draws) := generateRawKeyPair library draws
    let generated : List Call := [⟨.keyGeneration, ratchetKey.publicKey.length == keyBytes⟩,
      ⟨.keyGeneration, ephemeralKey.publicKey.length == keyBytes⟩]
    if ratchetKey.publicKey.length ≠ keyBytes ∨ ephemeralKey.publicKey.length ≠ keyBytes then
      generated
    else
      let secrets := sentSecrets library senderDevice recipientBundle ephemeralKey
      let signedPreKey := fromBase64 recipientBundle.signedPreKey
      let key := firstRatchetMessageKey library (kdfX3dh library secrets) ratchetKey.privateKey
        signedPreKey
      let derived := generated ++
        [agreementCall library (fromBase64 senderDevice.identityPrivateKey) signedPreKey,
          agreementCall library ephemeralKey.privateKey (fromBase64 recipientBundle.identityKey),
          agreementCall library ephemeralKey.privateKey signedPreKey] ++
        keyCalls library secrets ratchetKey.privateKey signedPreKey
      if key.length ≠ keyBytes then derived
      else
        derived ++ [⟨.sealing, (library.aesGcmEncrypt (toUtf8 plaintext) key (randomBytes ivBytes draws)
          (aadFor 0 0 ratchetKey.publicKey)).isSome⟩]

/-- What follows the key agreements of `decrypt`. -/
def openingCalls (currentDevice : DeviceKeyMaterial) (root : Json.Members) (secret : QByteArray) :
    List Call :=
  let secrets := receivedSecrets library currentDevice (value root "x3dh").toObject ++ secret
  let key := receivedKey library currentDevice root secret
  let derived := keyCalls library secrets (fromBase64 currentDevice.signedPreKeyPrivate)
    (fromBase64 (value root "ratchetPublicKey").toString)
  if key.length ≠ keyBytes then derived
  else
    derived ++ [⟨.opening, (library.aesGcmDecrypt (fromBase64 (value root "ciphertext").toString) key
      (fromBase64 (value root "iv").toString) (receivedAad root)
      (fromBase64 (value root "authTag").toString)).isSome⟩]

def decryptCalls (currentDevice : DeviceKeyMaterial) (message : LocalMessage)
    (oneTimePreKey : Option OneTimePreKey) : List Call :=
  let root := unwrapWirePayload library message.wirePayloadJson
  let x3dh := (value root "x3dh").toObject
  if x3dh.isEmpty then []
  else
    let remoteIdentityKey := fromBase64 (value x3dh "identityKey").toString
    let remoteEphemeralKey := fromBase64 (value x3dh "ephemeralKey").toString
    let agreed := [
      agreementCall library (fromBase64 currentDevice.signedPreKeyPrivate) remoteIdentityKey,
      agreementCall library (fromBase64 currentDevice.identityPrivateKey) remoteEphemeralKey,
      agreementCall library (fromBase64 currentDevice.signedPreKeyPrivate) remoteEphemeralKey]
    match message.consumedOneTimePreKeyId, oneTimePreKey with
    | none, _ => agreed ++ openingCalls library currentDevice root []
    | some _, none => agreed
    | some _, some preKey =>
      let privateKey := fromBase64 preKey.privateKey
      agreed ++ [agreementCall library privateKey remoteEphemeralKey] ++
        openingCalls library currentDevice root (x25519Dh library privateKey remoteEphemeralKey)

end Calls

/-! ## Which calls stop an operation -/

/-- Some call fails that the operation looks at. -/
def Stopped (calls : List Call) : Prop :=
  ∃ call ∈ calls, call.primitive.checked = true ∧ call.succeeded = false

theorem not_stopped_nil : ¬ Stopped [] := by
  rintro ⟨_, member, -⟩
  cases member

theorem stopped_append {first second : List Call} :
    Stopped (first ++ second) ↔ Stopped first ∨ Stopped second := by
  simp only [Stopped, List.mem_append, or_and_right, exists_or]

theorem stopped_cons {call : Call} {rest : List Call} : Stopped (call :: rest) ↔
    call.primitive.checked = true ∧ call.succeeded = false ∨ Stopped rest := by
  simp only [Stopped, List.mem_cons, or_and_right, exists_or, exists_eq_left]

/-- An operation that stops at failed checked calls and for another reason fails closed exactly for
that reason or where its calls are guarded. -/
theorem failsClosed_iff {α : Type} {calls : List Call} {result : Result α} {otherwise : Prop}
    (stops : (∃ error, result = .error error) ↔ otherwise ∨ Stopped calls) :
    FailsClosed calls result ↔ otherwise ∨ Guarded calls := by
  constructor
  · intro closed
    by_cases failed : ∃ call ∈ calls, call.succeeded = false
    · exact (stops.mp (closed failed)).imp_right Or.inr
    · refine Or.inr (Or.inl fun call member _ => ?_)
      by_contra missed
      exact failed ⟨call, member, Bool.eq_false_iff.mpr missed⟩
  · rintro (other | unchecked | stopped) ⟨call, member, failed⟩
    · exact stops.mpr (Or.inl other)
    · refine stops.mpr (Or.inr ⟨call, member, ?_, failed⟩)
      by_contra skipped
      have succeeded := unchecked call member (Bool.eq_false_iff.mpr skipped)
      exact absurd (succeeded.symm.trans failed) (by decide)
    · exact stops.mpr (Or.inr stopped)

section Operations
variable (library : NativeLibrary) (signing : SigningLibrary)

@[simp] theorem checked_agreementCall (privateKey publicKey : QByteArray) :
    (agreementCall library privateKey publicKey).primitive.checked = false := rfl

@[simp] theorem stopped_agreementCall_cons (privateKey publicKey : QByteArray) (rest : List Call) :
    Stopped (agreementCall library privateKey publicKey :: rest) ↔ Stopped rest := by
  simp [stopped_cons]

/-- Of the key derivation only the length of the key stops an operation. -/
theorem stopped_keyCalls (dhOutputs localRatchetPrivateKey remoteRatchetPublicKey : QByteArray) :
    Stopped (keyCalls library dhOutputs localRatchetPrivateKey remoteRatchetPublicKey) ↔
      (firstRatchetMessageKey library (kdfX3dh library dhOutputs) localRatchetPrivateKey
        remoteRatchetPublicKey).length ≠ keyBytes := by
  simp [keyCalls, stopped_cons, not_stopped_nil, expansionCall, agreementCall, Primitive.checked]

/-- The calls of an operation that derives a key and then seals or opens with it. -/
theorem stopped_withKey {derived : List Call} {key : QByteArray} {last : Call}
    (derives : Stopped derived ↔ key.length ≠ keyBytes) (looks : last.primitive.checked = true) :
    Stopped (if key.length ≠ keyBytes then derived else derived ++ [last]) ↔
      key.length ≠ keyBytes ∨ last.succeeded = false := by
  by_cases short : key.length ≠ keyBytes
  · rw [if_pos short]
    exact iff_of_true (derives.mpr short) (Or.inl short)
  · rw [if_neg short, stopped_append, derives, stopped_cons]
    simp [looks, not_stopped_nil]

/-- `loadOrCreateDevice` also stops at an empty signature, which no failed call leaves. -/
theorem loadOrCreateDevice_error_iff (sized : ∀ length, (library.uninitialized length).length = length)
    (existing : DeviceKeyMaterial) (deviceId : Int) (draws : Draws)
    (registration : Fin defaultRegistrationIdRange) :
    (∃ error, loadOrCreateDevice library signing existing deviceId draws registration = .error error) ↔
      (existing.identityKey = "" ∧ signing.ed25519Sign
          (generatedKeys library signing draws).signing.privateKey
          (generatedKeys library signing draws).signedPreKey.publicKey = some []) ∨
        Stopped (deviceCalls library signing existing draws) := by
  unfold loadOrCreateDevice deviceCalls
  by_cases fresh : existing.identityKey = ""
  · have created : ¬ (!existing.identityKey.isEmpty) = true := by simp [fresh]
    have left : (library.uninitialized signatureBytes).isEmpty = false := by
      have size := sized signatureBytes
      cases filled : library.uninitialized signatureBytes with
      | nil => rw [filled] at size; cases size
      | cons byte rest => rfl
    rw [if_neg created, if_neg created]
    generalize generatedKeys library signing draws = keys
    obtain ⟨signed, same⟩ : ∃ signed, signing.ed25519Sign keys.signing.privateKey
        keys.signedPreKey.publicKey = signed := ⟨_, rfl⟩
    simp only [ed25519Sign, same, fresh, GeneratedKeys.wrongSize, stopped_cons, not_stopped_nil,
      Primitive.checked]
    rcases signed with - | - | ⟨byte, rest⟩
    · simp only [Option.getD_none, left]
      split <;> simp_all [or_assoc]
    · simp
    · simp only [Option.getD_some]
      split <;> simp_all [or_assoc]
  · simp [fresh, not_stopped_nil]

theorem encrypt_error_iff (senderUserId : String) (senderDevice : DeviceKeyMaterial)
    (recipientBundle : PreKeyBundle) (plaintext : String) (draws : Draws) :
    (∃ error, encrypt library senderUserId senderDevice recipientBundle plaintext draws = .error error) ↔
      (library.trimmed plaintext).isEmpty ∨
        Stopped (encryptCalls library senderDevice recipientBundle plaintext draws) := by
  simp only [encrypt, encryptCalls]
  split
  · next blank => simp [blank]
  · next given =>
    rw [or_iff_right given]
    split
    · next failed =>
      refine iff_of_true ⟨_, rfl⟩ ?_
      simpa [stopped_cons, not_stopped_nil, Primitive.checked] using failed
    · next generated =>
      rw [not_or, not_not, not_not] at generated
      rw [stopped_withKey _ rfl]
      · split
        · next short => exact iff_of_true ⟨_, rfl⟩ (Or.inl short)
        · next long =>
          rw [or_iff_right long]
          split
          · next failed => simp [failed]
          · next sealed => simp [sealed]
      · rw [stopped_append, stopped_append, stopped_keyCalls]
        simp [stopped_cons, not_stopped_nil, generated]

theorem stopped_openingCalls (currentDevice : DeviceKeyMaterial) (root : Json.Members)
    (secret : QByteArray) : Stopped (openingCalls library currentDevice root secret) ↔
      (receivedKey library currentDevice root secret).length ≠ keyBytes ∨
        library.aesGcmDecrypt (fromBase64 (value root "ciphertext").toString)
          (receivedKey library currentDevice root secret) (fromBase64 (value root "iv").toString)
          (receivedAad root) (fromBase64 (value root "authTag").toString) = none := by
  have derives : Stopped (keyCalls library
      (receivedSecrets library currentDevice (value root "x3dh").toObject ++ secret)
      (fromBase64 currentDevice.signedPreKeyPrivate)
      (fromBase64 (value root "ratchetPublicKey").toString)) ↔
      (receivedKey library currentDevice root secret).length ≠ keyBytes := stopped_keyCalls library _ _ _
  rw [openingCalls, stopped_withKey derives rfl, Option.isSome_eq_false_iff,
    Option.isNone_iff_eq_none]

/-- How `decrypt` goes on with the secret of the one-time pre-key. -/
def openedWith (currentDevice : DeviceKeyMaterial) (root : Json.Members) (secret : QByteArray) :
    Result String :=
  if (receivedKey library currentDevice root secret).length ≠ keyBytes then
    .error (cryptoError "Could not derive message key.")
  else
    match library.aesGcmDecrypt (fromBase64 (value root "ciphertext").toString)
      (receivedKey library currentDevice root secret) (fromBase64 (value root "iv").toString)
      (receivedAad root) (fromBase64 (value root "authTag").toString) with
    | none => .error (cryptoError "Message authentication failed.")
    | some plaintext => .ok (library.fromUtf8 plaintext)

theorem openedWith_error_iff (currentDevice : DeviceKeyMaterial) (root : Json.Members)
    (secret : QByteArray) :
    (∃ error, openedWith library currentDevice root secret = .error error) ↔
      Stopped (openingCalls library currentDevice root secret) := by
  rw [stopped_openingCalls, openedWith]
  split
  · next short => exact iff_of_true ⟨_, rfl⟩ (Or.inl short)
  · next long =>
    rw [or_iff_right long]
    split
    · next failed => simp [failed]
    · next plain => simp [plain]

theorem decrypt_error_iff (currentUserId : String) (currentDevice : DeviceKeyMaterial)
    (message : LocalMessage) (oneTimePreKey : Option OneTimePreKey) :
    (∃ error, decrypt library currentUserId currentDevice message oneTimePreKey = .error error) ↔
      ((value (unwrapWirePayload library message.wirePayloadJson) "x3dh").toObject.isEmpty ∨
          LacksPreKey message oneTimePreKey) ∨
        Stopped (decryptCalls library currentDevice message oneTimePreKey) := by
  simp only [decrypt, decryptCalls]
  split
  · next empty => simp [empty]
  · next present =>
    rw [or_iff_right present]
    rcases consumed : message.consumedOneTimePreKeyId with - | preKeyId
    · simp only [oneTimeSecret, consumed, LacksPreKey]
      refine Iff.trans (openedWith_error_iff library _ _ []) ?_
      simp
    · cases oneTimePreKey with
      | none => simp [oneTimeSecret, consumed, LacksPreKey]
      | some preKey =>
        simp only [oneTimeSecret, consumed, LacksPreKey]
        refine Iff.trans (openedWith_error_iff library _ _ _) ?_
        simp

end Operations

/-- Each operation fails closed exactly where its calls are guarded, or a required one-time pre-key
is not there. -/
theorem fails_closed_iff (library : NativeLibrary) (signing : SigningLibrary)
    (sized : ∀ length, (library.uninitialized length).length = length) :
    (∀ existing deviceId draws registration, FailsClosed (deviceCalls library signing existing draws)
      (loadOrCreateDevice library signing existing deviceId draws registration) ↔
        Guarded (deviceCalls library signing existing draws)) ∧
    (∀ senderUserId senderDevice recipientBundle plaintext draws,
      FailsClosed (encryptCalls library senderDevice recipientBundle plaintext draws)
        (encrypt library senderUserId senderDevice recipientBundle plaintext draws) ↔
          Guarded (encryptCalls library senderDevice recipientBundle plaintext draws)) ∧
    (∀ currentUserId currentDevice message oneTimePreKey,
      FailsClosed (decryptCalls library currentDevice message oneTimePreKey)
        (decrypt library currentUserId currentDevice message oneTimePreKey) ↔
          LacksPreKey message oneTimePreKey ∨
          Guarded (decryptCalls library currentDevice message oneTimePreKey)) := by
  have silent : Guarded [] := Or.inl fun call member => nomatch member
  refine ⟨?_, ?_, ?_⟩
  · intro existing deviceId draws registration
    rw [failsClosed_iff (loadOrCreateDevice_error_iff library signing sized existing deviceId draws
      registration)]
    refine or_iff_right_of_imp ?_
    rintro ⟨fresh, signed⟩
    have created : ¬ (!existing.identityKey.isEmpty) = true := by simp [fresh]
    rw [deviceCalls, if_neg created]
    left
    simp [Primitive.checked, signed]
  · intro senderUserId senderDevice recipientBundle plaintext draws
    rw [failsClosed_iff (encrypt_error_iff library senderUserId senderDevice recipientBundle plaintext
      draws)]
    refine or_iff_right_of_imp fun blank => ?_
    rw [encryptCalls, if_pos blank]
    exact silent
  · intro currentUserId currentDevice message oneTimePreKey
    rw [failsClosed_iff (decrypt_error_iff library currentUserId currentDevice message oneTimePreKey),
      or_assoc]
    refine or_iff_right_of_imp fun empty => Or.inr ?_
    rw [decryptCalls, if_pos empty]
    exact silent

/-! ## A bundle of small-order keys -/

def zeroKey : QByteArray := List.replicate keyBytes 0

def ratchetPrivateKey : QByteArray := fromBase64 "fkS0NcqGRFe5MycYoQk0cFrtS6kSF5mwqeprlsxzN+A="
def ephemeralPrivateKey : QByteArray := fromBase64 "g0FCXK/t6dJLBZmu/f3v8cFSbtdbByF+uZv4wLdJi4E="
def ratchetPublicKey : QByteArray := fromBase64 "QQYunRnlGyOBEb5BDLPYj7gGqoMP8SBUiZ54ev58qEs="
def zeroNonce : QByteArray := fromBase64 "CrMGgjA1Zhu426Ic"

/-- The keys that follow from arrays of zeros. -/
def zeroRootKey : QByteArray := fromBase64 "jU9VFXuQKgCZkmnezIN9f957ar4ocMWfKoR2awtaXoc="
def zeroChainKey : QByteArray := fromBase64 "Pebeson/sVuDiIrVmnezGmMaqRdMzrjtvRasHrORLZ0="
def zeroMessageKey : QByteArray := fromBase64 "jAPnBR+WvJWlTiMAdK6I7Gabh6P1pyNDVTQkN2gNLzI="

/-- What OpenSSL computes for that bundle, where fresh memory is zero: it refuses every key agreement. -/
def zeroLibrary : NativeLibrary where
  x25519 := fun _ _ => none
  x25519PublicKey privateKey :=
    if privateKey = ratchetPrivateKey then ratchetPublicKey
    else if privateKey = ephemeralPrivateKey then
      fromBase64 "4p11IZEUmLg37WktEqgVh4mOCsP2II6sEGm8qC+2tjM="
    else []
  ed25519Verify := fun _ _ _ => false
  hkdfInit := fun _ _ _ => true
  hkdfDerive ikm salt _ _ :=
    if ikm = zeroKey ++ zeroKey ++ zeroKey ∧ salt = zeroKey then some zeroRootKey
    else if ikm = zeroKey ∧ salt = zeroRootKey then
      some (fromBase64 "x9nf/FM+nirR7USYV43b0sb1bbMXOUBiKF3toCA6BKw=" ++ zeroChainKey)
    else none
  hmac key data := if key = zeroChainKey ∧ data = [1] then zeroMessageKey else []
  aesGcmEncrypt plaintext key iv aad :=
    if plaintext = toUtf8 "hello" ∧ key = zeroMessageKey ∧ iv = zeroNonce ∧
      aad = aadFor 0 0 ratchetPublicKey then
      some (fromBase64 "aDrGktM=", fromBase64 "7JZp1XhjXrbYIv9DThPFTg==")
    else none
  aesGcmDecrypt := fun _ _ _ _ _ => none
  uninitialized length := List.replicate length 0
  documentObject := fun _ => []
  fromUtf8 bytes := String.ofList (bytes.map fun byte => Char.ofNat byte.toNat)
  trimmed := id

/-- OpenSSL without memory for a signature. -/
def exhaustedSigning : SigningLibrary where
  ed25519PublicKey := fun _ => fromBase64 "O2onvM62pC1io6jQKm8Nc2UyFXcd4kOmOsBIoYtZ2ik="
  ed25519Sign := fun _ _ => none

def senderDevice : DeviceKeyMaterial where
  deviceId := 1
  registrationId := 10001
  identityKey := "0m5VqJYEw1gSpFeLVH+u2Oapb32HkcmHC61yfJqtuXE="
  identityPrivateKey := "hDW9v8h2S8g3jIjyua6p5mLHPEah4ccbZNXa3AUj29o="
  identitySigningKey := ""
  identitySigningPrivateKey := ""
  signedPreKeyId := 1
  signedPreKey := ""
  signedPreKeyPrivate := ""
  signedPreKeySignature := ""

def smallOrderBundle : PreKeyBundle where
  userId := "bob"
  registrationId := 10002
  deviceId := 1
  identityKey := "AAAAAAAAAAAAAAAAAAAAAAAAAAAAAAAAAAAAAAAAAAA="
  identitySigningKey := "AAAAAAAAAAAAAAAAAAAAAAAAAAAAAAAAAAAAAAAAAAA="
  signedPreKeyId := 1
  signedPreKey := "AAAAAAAAAAAAAAAAAAAAAAAAAAAAAAAAAAAAAAAAAAA="
  signedPreKeySignature := ""
  oneTimePreKeyId := none
  oneTimePreKey := ""

def helloDraws : Draws := [ratchetPrivateKey, ephemeralPrivateKey, zeroNonce]

theorem registrationRange_pos : 0 < defaultRegistrationIdRange := by decide

def noDevice : DeviceKeyMaterial := ⟨0, 0, "", "", "", "", 0, "", "", ""⟩

/-- The signature fails, and the device is created with what is in its place. -/
theorem unsigned_device_is_created :
    ¬ FailsClosed (deviceCalls zeroLibrary exhaustedSigning noDevice
        [ratchetPrivateKey, zeroKey, ephemeralPrivateKey])
      (loadOrCreateDevice zeroLibrary exhaustedSigning noDevice 1
        [ratchetPrivateKey, zeroKey, ephemeralPrivateKey] ⟨0, registrationRange_pos⟩) := by
  intro closed
  have created : (loadOrCreateDevice zeroLibrary exhaustedSigning noDevice 1
      [ratchetPrivateKey, zeroKey, ephemeralPrivateKey] ⟨0, registrationRange_pos⟩).toBool = true := by decide
  obtain ⟨error, refused⟩ := closed ⟨⟨.signature, false⟩, by decide, rfl⟩
  rw [refused] at created
  cases created

/-- Every key agreement fails, and the message goes out under a key that follows from zeros. -/
theorem small_order_bundle_is_used :
    (∃ call ∈ encryptCalls zeroLibrary senderDevice smallOrderBundle "hello" helloDraws,
      call = ⟨.agreement, false⟩) ∧
    (∃ payload, encrypt zeroLibrary "alice" senderDevice smallOrderBundle "hello" helloDraws =
      .ok payload) ∧
    ¬ FailsClosed (encryptCalls zeroLibrary senderDevice smallOrderBundle "hello" helloDraws)
      (encrypt zeroLibrary "alice" senderDevice smallOrderBundle "hello" helloDraws) := by
  have failed : ⟨.agreement, false⟩ ∈
      encryptCalls zeroLibrary senderDevice smallOrderBundle "hello" helloDraws := by decide
  have sent : (encrypt zeroLibrary "alice" senderDevice smallOrderBundle "hello" helloDraws).toBool =
      true := by decide
  cases result : encrypt zeroLibrary "alice" senderDevice smallOrderBundle "hello" helloDraws with
  | error error =>
    rw [result] at sent
    cases sent
  | ok payload =>
    refine ⟨⟨_, failed, rfl⟩, ⟨payload, rfl⟩, fun closed => ?_⟩
    obtain ⟨error, refused⟩ := closed ⟨_, failed, rfl⟩
    cases refused

/-- Without random bytes the key generation fails, and nothing is sent. -/
theorem fails_closed_without_keys :
    FailsClosed (encryptCalls zeroLibrary senderDevice smallOrderBundle "hello" [])
      (encrypt zeroLibrary "alice" senderDevice smallOrderBundle "hello" []) := by
  obtain ⟨-, sealing, -⟩ := fails_closed_iff zeroLibrary exhaustedSigning
    fun _ => List.length_replicate
  refine (sealing "alice" senderDevice smallOrderBundle "hello" []).mpr (Or.inr ?_)
  exact ⟨⟨.keyGeneration, false⟩, List.mem_cons_self, rfl, rfl⟩

end EpicKfc.Guarantees.FailClosed
