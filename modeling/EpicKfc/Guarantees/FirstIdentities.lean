import EpicKfc.Guarantees.PackageDevices
import EpicKfc.Guarantees.PreKeyConsumption
import EpicKfc.Source.Cryptography.TrustedIdentities

/-!
# First identities

The map of pins is keyed by texts; a device id has no colon, so the last colon of a key
ends the user id and no two devices share a key. A check only reads the map and a pin
overwrites it. Where exactly the first uses are pinned, as the scripts of the package
do, the map holds the first key of each device, and a device that only ever publishes
its own keys is never reported as changed.
-/

namespace EpicKfc.Guarantees.FirstIdentities
open EpicKfc.Lib
open EpicKfc.Source
open EpicKfc.Source.Cryptography
open EpicKfc.Source.Server
open EpicKfc.Source.Server.KeyRelay

/-! ## Keys of the map -/

/-- The digits after the last colon of a key. -/
theorem takeWhile_trustKey (userId : String) (deviceId : Nat) :
    (trustKey userId deviceId).toList.reverse.takeWhile (· ≠ ':') =
      (Nat.repr deviceId).toList.reverse := by
  have digits : ∀ char ∈ (Nat.repr deviceId).toList.reverse, decide (char ≠ ':') = true := by
    intro char member
    rw [List.mem_reverse] at member
    rw [decide_eq_true_eq]
    rintro rfl
    have digit := Nat.isDigit_of_mem_toDigits (b := 10) (by decide) (by decide)
      (by simpa [Nat.repr] using member)
    simp at digit
  have shape : (trustKey userId deviceId).toList.reverse =
      (Nat.repr deviceId).toList.reverse ++ ':' :: userId.toList.reverse := by
    simp [trustKey]
  rw [shape, List.takeWhile_append_of_pos digits, List.takeWhile_cons_of_neg (by simp),
    List.append_nil]

theorem trustKey_inj {userId userId' : String} {deviceId deviceId' : Nat} :
    trustKey userId deviceId = trustKey userId' deviceId' ↔
      userId = userId' ∧ deviceId = deviceId' := by
  constructor
  · intro same
    have digits : (Nat.repr deviceId).toList.reverse = (Nat.repr deviceId').toList.reverse := by
      rw [← takeWhile_trustKey userId, same, takeWhile_trustKey]
    have devices : deviceId = deviceId' :=
      PreKeyConsumption.repr_injective (String.toList_injective (List.reverse_injective digits))
    subst devices
    have texts := congrArg String.toList same
    simp only [trustKey, String.toList_append, List.append_left_inj, String.toList_inj] at texts
    exact ⟨texts, rfl⟩
  · rintro ⟨rfl, rfl⟩
    rfl

/-! ## The last pin of each device -/

/-- What the call pins for the device. -/
def pinOf (userId : String) (deviceId : Nat) : TofuCall → Option TrustedIdentity
  | .verify _ => none
  | .pin record => if record.userId = userId ∧ record.deviceId = deviceId then some record else none

def lastPin (calls : List TofuCall) (userId : String) (deviceId : Nat) : Option TrustedIdentity :=
  calls.reverse.findSome? (pinOf userId deviceId)

theorem lastPin_append (calls : List TofuCall) (call : TofuCall) (userId : String) (deviceId : Nat) :
    lastPin (calls ++ [call]) userId deviceId =
      (pinOf userId deviceId call).or (lastPin calls userId deviceId) := by
  rw [lastPin, List.reverse_append, List.reverse_singleton, List.singleton_append,
    List.findSome?_cons, lastPin]
  cases pinOf userId deviceId call <;> rfl

/-- A pin overwrites the entry of its device and no other. -/
theorem pinIdentity_apply (store : TrustStore) (record : TrustedIdentity) (userId : String)
    (deviceId : Nat) : pinIdentity store record (trustKey userId deviceId) =
      if record.userId = userId ∧ record.deviceId = deviceId then some record
      else store (trustKey userId deviceId) := by
  rw [pinIdentity, Function.update_apply]
  by_cases own : record.userId = userId ∧ record.deviceId = deviceId
  · rw [if_pos own, if_pos (trustKey_inj.mpr ⟨own.1.symm, own.2.symm⟩)]
  · have other : trustKey userId deviceId ≠ trustKey record.userId record.deviceId := fun same =>
      own ((trustKey_inj.mp same).imp Eq.symm Eq.symm)
    rw [if_neg own, if_neg other]

/-- Whoever pins what, the store holds the last pin of each device. -/
theorem store_eq_lastPin (calls : List TofuCall) : ∀ {state : TofuState},
    Runs.run tofuStep {} calls = some state → ∀ userId deviceId,
      state.store (trustKey userId deviceId) = lastPin calls userId deviceId := by
  induction calls using List.reverseRecOn with
  | nil =>
    intro state ends userId deviceId
    cases ends
    rfl
  | append_singleton calls call ih =>
    intro state ends userId deviceId
    rw [Runs.run_append, Option.bind_eq_some_iff] at ends
    obtain ⟨middle, before, last⟩ := ends
    have held := ih before userId deviceId
    rw [lastPin_append, ← held]
    cases call with
    | verify check =>
      cases last
      rfl
    | pin record =>
      cases last
      dsimp only
      rw [pinIdentity_apply, pinOf]
      split
      · rfl
      · rfl

/-! ## The first key of each device -/

def IsOf (userId : String) (deviceId : Nat) (check : IdentityCheck) : Bool :=
  check.userId = userId ∧ check.deviceId = deviceId

/-- The first check of a device. -/
def firstCheck (history : List IdentityCheck) (userId : String) (deviceId : Nat) :
    Option IdentityCheck :=
  history.find? (IsOf userId deviceId)

/-- What a device's contact is told, from the earlier checks alone. -/
def expectedAnswer (history : List IdentityCheck) (check : IdentityCheck) : TofuVerifyResult :=
  match firstCheck history check.userId check.deviceId with
  | none => .firstUse check.record
  | some first =>
    if first.received = check.received then .trusted else .keyChanged first.received check.received

/-- The checks that have been answered. -/
def checksOf (answers : List (IdentityCheck × TofuVerifyResult)) : List IdentityCheck :=
  answers.map Prod.fst

/-- Each check is answered by the first key that was checked for its device. -/
def AnsweredByFirst (answers : List (IdentityCheck × TofuVerifyResult)) : Prop :=
  ∀ (index : Nat) (check : IdentityCheck) (answer : TofuVerifyResult),
    answers[index]? = some (check, answer) →
      answer = expectedAnswer (checksOf (answers.take index)) check

/-- The pin policy: a pin is of a reported first use of a device without one, and a device that has
been checked is pinned before it is checked again. -/
def PinsFirstUses (state : TofuState) : TofuCall → Prop
  | .verify check => ∀ past ∈ state.answers, past.1.key = check.key → state.store check.key ≠ none
  | .pin record => state.store (trustKey record.userId record.deviceId) = none ∧
      ∃ past ∈ state.answers, past.2 = .firstUse record

instance (state : TofuState) : (call : TofuCall) → Decidable (PinsFirstUses state call)
  | .verify _ => inferInstanceAs (Decidable (∀ past ∈ _, _))
  | .pin _ => inferInstanceAs (Decidable (_ ∧ _))

theorem isOf_iff {userId : String} {deviceId : Nat} {check : IdentityCheck} :
    IsOf userId deviceId check = true ↔ check.userId = userId ∧ check.deviceId = deviceId := by
  rw [IsOf, decide_eq_true_eq]

theorem firstCheck_append (history : List IdentityCheck) (check : IdentityCheck) (userId : String)
    (deviceId : Nat) : firstCheck (history ++ [check]) userId deviceId =
      (firstCheck history userId deviceId).or
        (if IsOf userId deviceId check then some check else none) := by
  rw [firstCheck, List.find?_append, List.find?_singleton]
  rfl

theorem firstCheck_of_append {history : List IdentityCheck} {check first : IdentityCheck}
    {userId : String} {deviceId : Nat} (found : firstCheck history userId deviceId = some first) :
    firstCheck (history ++ [check]) userId deviceId = some first := by
  rw [firstCheck_append, found, Option.some_or]

theorem answeredByFirst_append {answers : List (IdentityCheck × TofuVerifyResult)}
    {check : IdentityCheck} {answer : TofuVerifyResult} (before : AnsweredByFirst answers)
    (expected : answer = expectedAnswer (checksOf answers) check) :
    AnsweredByFirst (answers ++ [(check, answer)]) := by
  intro index check' answer' here
  rcases Nat.lt_trichotomy index answers.length with earlier | rfl | later
  · rw [List.getElem?_append_left earlier] at here
    rw [List.take_append_of_le_length earlier.le]
    exact before index check' answer' here
  · rw [List.getElem?_concat_length, Option.some.injEq, Prod.mk.injEq] at here
    obtain ⟨rfl, rfl⟩ := here
    rw [List.take_left]
    exact expected
  · rw [List.getElem?_eq_none (by simp; omega)] at here
    cases here

/-- A reported first use is of the key that was checked. -/
theorem record_of_firstUse {answers : List (IdentityCheck × TofuVerifyResult)}
    (before : AnsweredByFirst answers) {check : IdentityCheck} {record : TrustedIdentity}
    (reported : (check, .firstUse record) ∈ answers) : record = check.record := by
  obtain ⟨index, here⟩ := List.mem_iff_getElem?.mp reported
  have expected := before index check _ here
  unfold expectedAnswer at expected
  split at expected
  · cases expected
    rfl
  · split at expected
    · cases expected
    · cases expected

/-- What a run under the policy has answered and pinned. -/
structure FirstsPinned (state : TofuState) : Prop where
  answered : AnsweredByFirst state.answers
  pinned : ∀ userId deviceId record, state.store (trustKey userId deviceId) = some record →
    (firstCheck (checksOf state.answers) userId deviceId).map IdentityCheck.record = some record
  unpinned : ∀ past ∈ state.answers, state.store past.1.key = none →
    firstCheck (checksOf state.answers) past.1.userId past.1.deviceId = some past.1

theorem answer_of_firstsPinned {state : TofuState} (before : FirstsPinned state)
    {check : IdentityCheck} (policy : PinsFirstUses state (.verify check)) :
    check.answer state.store = expectedAnswer (checksOf state.answers) check := by
  rw [IdentityCheck.answer, verifyIdentityTofu, expectedAnswer]
  cases held : state.store (trustKey check.userId check.deviceId) with
  | some record =>
    obtain ⟨first, found, rfl⟩ := Option.map_eq_some_iff.mp
      (before.pinned check.userId check.deviceId record held)
    rw [found]
    rfl
  | none =>
    cases found : firstCheck (checksOf state.answers) check.userId check.deviceId with
    | none => rfl
    | some first =>
      obtain ⟨past, member, rfl⟩ := List.mem_map.mp (List.mem_of_find?_eq_some found)
      have own := isOf_iff.mp (List.find?_some found)
      exact absurd held (policy past member (trustKey_inj.mpr own))

theorem firstsPinned_step {state state' : TofuState} {call : TofuCall} (before : FirstsPinned state)
    (policy : PinsFirstUses state call) (moved : tofuStep state call = some state') :
    FirstsPinned state' := by
  cases call with
  | verify check =>
    cases moved
    have checks : checksOf (state.answers ++ [(check, check.answer state.store)]) =
        checksOf state.answers ++ [check] := List.map_append
    constructor
    · exact answeredByFirst_append before.answered (answer_of_firstsPinned before policy)
    · intro userId deviceId record held
      obtain ⟨first, found, same⟩ := Option.map_eq_some_iff.mp
        (before.pinned userId deviceId record held)
      rw [checks, firstCheck_of_append found, Option.map_some, same]
    · intro past member free
      rw [checks]
      obtain earlier | last := List.mem_append.mp member
      · exact firstCheck_of_append (before.unpinned past earlier free)
      · obtain rfl := List.mem_singleton.mp last
        -- no check of the device before this one, or it would be pinned
        have new : firstCheck (checksOf state.answers) check.userId check.deviceId = none := by
          rw [firstCheck, List.find?_eq_none]
          intro other listed own
          obtain ⟨past, member, rfl⟩ := List.mem_map.mp listed
          exact policy past member (trustKey_inj.mpr (isOf_iff.mp own)) free
        rw [firstCheck_append, new, Option.none_or, if_pos (isOf_iff.mpr ⟨rfl, rfl⟩)]
  | pin record =>
    cases moved
    obtain ⟨free, ⟨check, _⟩, reported, rfl⟩ := policy
    obtain rfl := record_of_firstUse before.answered reported
    have first := before.unpinned _ reported free
    refine ⟨before.answered, fun userId deviceId record held => ?_, fun past member unpinned => ?_⟩
    · dsimp only at held ⊢
      rw [pinIdentity_apply] at held
      split at held
      · next own =>
        obtain ⟨rfl, rfl⟩ := own
        cases held
        exact congrArg (Option.map IdentityCheck.record) first
      · exact before.pinned userId deviceId record held
    · dsimp only [IdentityCheck.key] at unpinned
      rw [pinIdentity_apply] at unpinned
      split at unpinned
      · cases unpinned
      · exact before.unpinned past member unpinned

/-- Under the policy a pin never replaces another. -/
theorem pin_kept_step {state state' : TofuState} {call : TofuCall}
    (policy : PinsFirstUses state call) (moved : tofuStep state call = some state') (key : String)
    (record : TrustedIdentity) (held : state.store key = some record) :
    state'.store key = some record := by
  cases call with
  | verify check =>
    cases moved
    exact held
  | pin newer =>
    cases moved
    have other : key ≠ trustKey newer.userId newer.deviceId := by
      rintro rfl
      rw [policy.1] at held
      cases held
    exact (Function.update_of_ne other _ _).trans held

theorem firstsPinned_run {calls : List TofuCall} {state : TofuState}
    (policy : Runs.EveryStep tofuStep PinsFirstUses {} calls)
    (ends : Runs.run tofuStep {} calls = some state) : FirstsPinned state := by
  have reached : Runs.ReachableBy tofuStep (· = {}) PinsFirstUses state :=
    Runs.reachableBy_of_run calls (.start rfl) policy ends
  refine Runs.invariant_of_preserved ?_ (fun _ _ _ before met moved =>
    firstsPinned_step before met moved) reached
  rintro start rfl
  refine ⟨fun _ _ _ here => ?_, fun _ _ _ held => ?_, fun _ member => ?_⟩
  · cases here
  · cases held
  · cases member

/-- In every history of checks and pins the store holds what was pinned last for each device. Where
first uses are pinned, each device is answered by its own first key, and this key stays pinned. -/
theorem answers_by_first_key {earlier later : List TofuCall} {middle state : TofuState}
    (begins : Runs.run tofuStep {} earlier = some middle)
    (ends : Runs.run tofuStep middle later = some state) :
    (∀ userId deviceId, state.store (trustKey userId deviceId) =
      lastPin (earlier ++ later) userId deviceId) ∧
    (Runs.EveryStep tofuStep PinsFirstUses {} (earlier ++ later) →
      AnsweredByFirst state.answers ∧
      ∀ userId deviceId record, middle.store (trustKey userId deviceId) = some record →
        (firstCheck (checksOf middle.answers) userId deviceId).map IdentityCheck.record = some record ∧
          state.store (trustKey userId deviceId) = some record) := by
  have whole : Runs.run tofuStep {} (earlier ++ later) = some state := by
    rw [Runs.run_append, begins]
    exact ends
  refine ⟨store_eq_lastPin _ whole, fun policy => ⟨(firstsPinned_run policy whole).answered, ?_⟩⟩
  obtain ⟨before, after⟩ := (Runs.everyStep_append begins).mp policy
  intro userId deviceId record held
  refine ⟨(firstsPinned_run before begins).pinned userId deviceId record held, ?_⟩
  exact @Runs.related_of_run _ _ tofuStep PinsFirstUses (fun _ => True)
    (fun before after => ∀ key record, before.store key = some record → after.store key = some record)
    (fun _ _ _ held => held) (fun _ _ _ one two key record held => two key record (one key record held))
    (fun _ _ _ _ met moved => ⟨trivial, pin_kept_step met moved⟩) later _ _ trivial after ends _ _ held

/-! ## The scripts -/

/-- Whatever is checked, the scripts keep to the policy: what they have checked is pinned. -/
theorem policy_of_scripts (checks : List IdentityCheck) : ∀ {state : TofuState},
    (∀ past ∈ state.answers, state.store past.1.key ≠ none) →
      Runs.EveryStep tofuStep PinsFirstUses state (scriptCalls state.store checks) := by
  induction checks with
  | nil => exact fun _ => trivial
  | cons check rest ih =>
    intro state pinned
    have verifies : PinsFirstUses state (.verify check) :=
      fun past member same => same ▸ pinned past member
    rw [scriptCalls]
    cases held : state.store check.key with
    | some existing =>
      have kept : ∀ past ∈ state.answers ++ [(check, check.answer state.store)],
          state.store past.1.key ≠ none := by
        intro past member
        obtain earlier | last := List.mem_append.mp member
        · exact pinned past earlier
        · rw [List.mem_singleton.mp last, held]
          exact Option.some_ne_none existing
      have later := @ih { state with answers := state.answers ++ [(check, check.answer state.store)] } kept
      have known : ∀ record, check.answer state.store ≠ .firstUse record := by
        intro record
        rw [IdentityCheck.answer, verifyIdentityTofu, ← IdentityCheck.key, held]
        dsimp only
        split <;> exact fun same => by cases same
      split
      · next record reported => exact absurd reported (known record)
      · exact .cons verifies rfl later
      · exact .cons verifies rfl later
    | none =>
      have new : check.answer state.store = .firstUse check.record := by
        rw [IdentityCheck.answer, verifyIdentityTofu, ← IdentityCheck.key, held]
        rfl
      simp only [new]
      refine .cons verifies rfl (.cons ⟨held, _, List.mem_append_right _ (List.mem_singleton_self _),
        new⟩ rfl (ih ?_))
      · intro past member
        dsimp only
        rw [pinIdentity, Function.update_apply]
        split
        · exact Option.some_ne_none _
        · next other =>
          obtain earlier | last := List.mem_append.mp member
          · exact pinned past earlier
          · rw [List.mem_singleton.mp last] at other
            exact absurd rfl other

/-! ## Devices that publish their own keys -/

/-- The check is of a bundle that the backend has returned for a device. -/
def OfFetched (node : NodeRuntime) (relay : Relay) (name : DeviceName) (check : IdentityCheck) : Prop :=
  ∃ record ∈ relay.responses, record.target = name ∧ ∃ api,
    ApiPreKeyBundleResponse.ofMembers (RequestModels.preKeyBundleResponse record.bundle) = some api ∧
      check.received = identityKeyBytes (preKeyBundleFromApiResponse node api)

section
variable {node : NodeRuntime} {pydantic : RequestModels.Pydantic} {userId : String} {deviceId : Nat}
  {drawn : KeyMaterial} {events : List (RequestId × Statement)} {relay : Relay} {name : DeviceName}
  (ends : Runs.run relayStep {} events = some relay)
  (devices : ∀ request body, (request, Statement.startUpsert name body) ∈ events →
    ∃ now, UploadsRow pydantic (PackageDevices.rowsOf userId deviceId drawn now).1 body)
  (batches : ∀ request batch, (request, Statement.startUpload name batch) ∈ events →
    ∃ now, UploadsPreKeyRows pydantic (PackageDevices.rowsOf userId deviceId drawn now).2 batch)
  (decodes : ∀ bytes, node.fromBase64 (toBase64 bytes) = bytes)
include ends devices batches decodes

theorem received_of_fetched {check : IdentityCheck} (fetched : OfFetched node relay name check) :
    check.received = drawn.identityKeyPair.pubKey := by
  obtain ⟨record, member, target, api, read, received⟩ := fetched
  obtain ⟨api', read', preKey, bundle, -⟩ := PackageDevices.bundle_of_publishes decodes
    (PackageDevices.publishes_of_rows ends devices batches record member target)
  obtain rfl : api = api' := Option.some.inj (read.symm.trans read')
  rw [received, bundle]
  rfl

/-- Where first uses are pinned, a contact whose device publishes its own keys only is never reported
as changed: it is new once and trusted from then on, whatever is checked of other devices in
between. -/
theorem published_device_stays_trusted {calls : List TofuCall} {state : TofuState}
    (checked : Runs.run tofuStep {} calls = some state)
    (policy : Runs.EveryStep tofuStep PinsFirstUses {} calls) {contactId : String} {contactDevice : Nat}
    (fetched : ∀ answered ∈ state.answers, IsOf contactId contactDevice answered.1 →
      OfFetched node relay name answered.1) :
    ∀ (index : Nat) (check : IdentityCheck) (answer : TofuVerifyResult),
      state.answers[index]? = some (check, answer) → IsOf contactId contactDevice check →
        answer = if (firstCheck (checksOf (state.answers.take index)) contactId contactDevice).isSome
          then .trusted else .firstUse check.record := by
  intro index check answer here own
  rw [(firstsPinned_run policy checked).answered index check answer here, expectedAnswer,
    (isOf_iff.mp own).1, (isOf_iff.mp own).2]
  cases first : firstCheck (checksOf (state.answers.take index)) contactId contactDevice with
  | none => rfl
  | some past =>
    obtain ⟨answered, member, rfl⟩ := List.mem_map.mp (List.mem_of_find?_eq_some first)
    have seen := received_of_fetched ends devices batches decodes
      (fetched answered (List.mem_of_mem_take member) (List.find?_some first))
    have now : check.received = drawn.identityKeyPair.pubKey := received_of_fetched ends devices
      batches decodes (fetched _ (List.mem_of_getElem? here) own)
    simp [seen, now]

end

/-! ## Checks of two devices -/

def sampleCheck (now : String) : IdentityCheck :=
  ⟨"alice", 1, PackageDevices.packageKeys.identityKeyPair.pubKey, now⟩

/-- Another user, whose id has a colon. -/
def otherCheck (now : String) : IdentityCheck :=
  ⟨"alice:1", 1, PackageDevices.packageKeys.signedPreKey.pubKey, now⟩

/-- A key that is not the device's. -/
def changedCheck (now : String) : IdentityCheck :=
  ⟨"alice", 1, PackageDevices.packageKeys.preKey.pubKey, now⟩

/-- The pin of the one waits for that of the other, and a changed key is not pinned. -/
def sampleCalls : List TofuCall :=
  [.verify (sampleCheck "0"), .verify (otherCheck "1"), .pin (otherCheck "1").record,
    .pin (sampleCheck "0").record]

def laterCalls : List TofuCall := [.verify (sampleCheck "2"), .verify (changedCheck "3")]

theorem policy_sampleCalls : Runs.EveryStep tofuStep PinsFirstUses {} (sampleCalls ++ laterCalls) :=
  @Runs.everyStep_of_check _ _ tofuStep (fun _ => True) PinsFirstUses
    (fun state call => decide (PinsFirstUses state call)) (fun _ _ _ => of_decide_eq_true)
    (fun _ _ _ _ _ _ => trivial) (sampleCalls ++ laterCalls) {} trivial (by decide)

theorem answers_by_first_key_sample : ∃ middle state : TofuState,
    Runs.run tofuStep {} sampleCalls = some middle ∧
    Runs.run tofuStep middle laterCalls = some state ∧
    state.answers.map Prod.snd = [.firstUse (sampleCheck "0").record, .firstUse (otherCheck "1").record,
      .trusted, .keyChanged (sampleCheck "0").received (changedCheck "3").received] ∧
    AnsweredByFirst state.answers ∧
    state.store (trustKey "alice" 1) = some (sampleCheck "0").record := by
  obtain ⟨-, answers⟩ := @answers_by_first_key sampleCalls laterCalls _ _ rfl rfl
  obtain ⟨answered, kept⟩ := answers policy_sampleCalls
  exact ⟨_, _, rfl, rfl, by decide, answered, (kept "alice" 1 (sampleCheck "0").record (by decide)).2⟩

/-- The scripts' calls for two checks of the fetched bundle, and one of another device between. -/
def fetchedChecks : List IdentityCheck := [sampleCheck "0", otherCheck "1", sampleCheck "2"]

theorem published_device_stays_trusted_package : ∃ state : TofuState,
    Runs.run tofuStep {} (scriptCalls emptyTrustStore fetchedChecks) = some state ∧
    state.answers[0]? = some (sampleCheck "0", .firstUse (sampleCheck "0").record) ∧
    state.answers[2]? = some (sampleCheck "2", .trusted) := by
  have ends : (Runs.run relayStep {} PackageDevices.packageRun).map (fun relay =>
      relay.responses.map BundleRecord.target) =
        some [PreKeyHandOut.sampleDevice, PreKeyHandOut.sampleDevice] := by
    decide
  obtain ⟨relay, final, responses⟩ := Option.map_eq_some_iff.mp ends
  obtain ⟨devices, batches⟩ := PackageDevices.uploads_packageRun
  obtain ⟨record, member, target⟩ : ∃ record ∈ relay.responses,
      record.target = PreKeyHandOut.sampleDevice :=
    List.mem_map.mp (responses ▸ List.mem_cons_self)
  obtain ⟨api, read, preKey, bundle, -⟩ := PackageDevices.bundle_of_publishes
    PackageDevices.decodes_decodingNode
    (PackageDevices.publishes_of_rows final devices batches record member target)
  have ofFetched (now : String) :
      OfFetched PackageDevices.decodingNode relay PreKeyHandOut.sampleDevice (sampleCheck now) :=
    ⟨record, member, target, api, read, by rw [bundle]; rfl⟩
  have checked : (Runs.run tofuStep {} (scriptCalls emptyTrustStore fetchedChecks)).map (fun state =>
      checksOf state.answers) = some fetchedChecks := by
    decide
  obtain ⟨state, run, checks⟩ := Option.map_eq_some_iff.mp checked
  have policy : Runs.EveryStep tofuStep PinsFirstUses {} (scriptCalls emptyTrustStore fetchedChecks) :=
    @policy_of_scripts fetchedChecks {} (fun _ none => absurd none List.not_mem_nil)
  have fetched : ∀ answered ∈ state.answers, IsOf "alice" 1 answered.1 = true →
      OfFetched PackageDevices.decodingNode relay PreKeyHandOut.sampleDevice answered.1 := by
    intro answered member own
    have listed : answered.1 ∈ fetchedChecks := checks ▸ List.mem_map_of_mem member
    simp only [fetchedChecks, List.mem_cons, List.not_mem_nil, or_false] at listed
    rcases listed with same | same | same
    · exact same ▸ ofFetched "0"
    · rw [same] at own
      exact absurd own (by decide)
    · exact same ▸ ofFetched "2"
  have trusted := published_device_stays_trusted final devices batches
    PackageDevices.decodes_decodingNode run policy fetched
  have answered (index : Nat) (check : IdentityCheck) (here : fetchedChecks[index]? = some check) :
      ∃ answer, state.answers[index]? = some (check, answer) := by
    rw [← checks, checksOf, List.getElem?_map, Option.map_eq_some_iff] at here
    obtain ⟨⟨_, answer⟩, here, rfl⟩ := here
    exact ⟨answer, here⟩
  obtain ⟨first, here⟩ := answered 0 (sampleCheck "0") rfl
  obtain ⟨second, there⟩ := answered 2 (sampleCheck "2") rfl
  refine ⟨state, run, here.trans ?_, there.trans ?_⟩
  · rw [trusted 0 _ first here (by decide), List.take_zero]
    rfl
  · rw [trusted 2 _ second there (by decide), checksOf, List.map_take, ← checksOf, checks]
    rfl

end EpicKfc.Guarantees.FirstIdentities
