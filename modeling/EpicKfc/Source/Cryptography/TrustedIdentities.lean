import EpicKfc.Source.Cryptography.DeviceBundles

/-!
# Trust on first use in the cryptography package

`cryptography/src/signal/tofu.ts`. The store is a map from texts, and the clock comes
from outside. A check reads the store and a pin overwrites it; what is pinned is up to
the caller. The scripts beside the package pin an identity exactly when its check
reports a first use.
-/

namespace EpicKfc.Source.Cryptography

structure TrustedIdentity where
  userId : String
  deviceId : Nat
  identityKey : Bytes
  firstSeenAt : String
deriving DecidableEq

inductive TofuVerifyResult where
  | trusted
  | firstUse (record : TrustedIdentity)
  | keyChanged (stored received : Bytes)
deriving DecidableEq

/-- `Map<string, TrustedIdentity>`. -/
abbrev TrustStore := String → Option TrustedIdentity

def emptyTrustStore : TrustStore := fun _ => none

/-- The key of a device in the map. -/
def trustKey (userId : String) (deviceId : Nat) : String := userId ++ ":" ++ Nat.repr deviceId

def verifyIdentityTofu (store : TrustStore) (userId : String) (deviceId : Nat)
    (receivedIdentityKey : Bytes) (now : String) : TofuVerifyResult :=
  match store (trustKey userId deviceId) with
  | none => .firstUse ⟨userId, deviceId, receivedIdentityKey, now⟩
  | some existing =>
    if existing.identityKey = receivedIdentityKey then .trusted
    else .keyChanged existing.identityKey receivedIdentityKey

def pinIdentity (store : TrustStore) (record : TrustedIdentity) : TrustStore :=
  Function.update store (trustKey record.userId record.deviceId) (some record)

def identityKeyBytes (bundle : DeviceType) : Bytes := bundle.identityKey

/-- The arguments of a check of a received identity key, and the time of the clock. -/
structure IdentityCheck where
  userId : String
  deviceId : Nat
  received : Bytes
  now : String
deriving DecidableEq

namespace IdentityCheck

/-- The record of a first use. -/
def record (check : IdentityCheck) : TrustedIdentity :=
  ⟨check.userId, check.deviceId, check.received, check.now⟩

def key (check : IdentityCheck) : String := trustKey check.userId check.deviceId

def answer (store : TrustStore) (check : IdentityCheck) : TofuVerifyResult :=
  verifyIdentityTofu store check.userId check.deviceId check.received check.now

end IdentityCheck

/-! ## Calls -/

/-- A call of one of the two functions on a store. -/
inductive TofuCall where
  | verify (check : IdentityCheck)
  | pin (record : TrustedIdentity)

/-- A store, and what has been answered of it so far. -/
structure TofuState where
  store : TrustStore := emptyTrustStore
  answers : List (IdentityCheck × TofuVerifyResult) := []

def tofuStep (state : TofuState) : TofuCall → Option TofuState
  | .verify check =>
    some { state with answers := state.answers ++ [(check, check.answer state.store)] }
  | .pin record => some { state with store := pinIdentity state.store record }

/-- The calls that the scripts make for these checks: they pin what is reported as a first use. -/
def scriptCalls : TrustStore → List IdentityCheck → List TofuCall
  | _, [] => []
  | store, check :: rest =>
    match check.answer store with
    | .firstUse record =>
      .verify check :: .pin record :: scriptCalls (pinIdentity store record) rest
    | .trusted | .keyChanged _ _ => .verify check :: scriptCalls store rest

end EpicKfc.Source.Cryptography
