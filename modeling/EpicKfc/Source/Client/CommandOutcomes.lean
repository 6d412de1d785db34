import EpicKfc.Source.Client.CommandRouter

/-!
# Outcomes of commands

What a line, and what each reply, makes of the operation in progress: which
signals change the flag, and which call the operation goes on with.
-/

namespace EpicKfc.Source.Client
open EpicKfc.Lib ServiceFlow

/-! ## Signals and calls -/

namespace Signal

/-- The router takes the operation to be over. -/
def Clears (signal : Signal) : Prop :=
  ∀ router : CommandRouter, (router.connected signal).operationInProgress = false

/-- No operation begins. -/
def Calm (signal : Signal) : Prop :=
  ∀ router : CommandRouter,
    (router.connected signal).operationInProgress = true → router.operationInProgress = true

def Neutral (signal : Signal) : Prop :=
  ∀ router : CommandRouter,
    (router.connected signal).operationInProgress = router.operationInProgress

theorem Clears.calm {signal : Signal} (clears : signal.Clears) : signal.Calm := by
  intro router set
  rw [clears router] at set
  cases set

end Signal

namespace CommandRouter

theorem connected_inputMode (router : CommandRouter) (signal : Signal) :
    (router.connected signal).inputMode = router.inputMode := by
  cases signal <;> rfl

theorem inputMode_foldl (signals : List Signal) :
    ∀ router : CommandRouter, (signals.foldl connected router).inputMode = router.inputMode := by
  induction signals with
  | nil => exact fun _ => rfl
  | cons signal rest ih =>
    exact fun router => (ih (router.connected signal)).trans (connected_inputMode router signal)

theorem calm_foldl {signals : List Signal} (calm : ∀ signal ∈ signals, signal.Calm) :
    ∀ router : CommandRouter, (signals.foldl connected router).operationInProgress = true →
      router.operationInProgress = true := by
  induction signals with
  | nil => exact fun _ set => set
  | cons signal rest ih =>
    obtain ⟨head, tail⟩ := List.forall_mem_cons.mp calm
    exact fun router set => head router (ih tail (router.connected signal) set)

theorem neutral_foldl {signals : List Signal} (neutral : ∀ signal ∈ signals, signal.Neutral) :
    ∀ router : CommandRouter,
      (signals.foldl connected router).operationInProgress = router.operationInProgress := by
  induction signals with
  | nil => exact fun _ => rfl
  | cons signal rest ih =>
    obtain ⟨head, tail⟩ := List.forall_mem_cons.mp neutral
    exact fun router => (ih tail (router.connected signal)).trans (head router)

/-- Where no signal begins an operation, one that clears the flag leaves it cleared. -/
theorem cleared_foldl {signals : List Signal} (calm : ∀ signal ∈ signals, signal.Calm)
    (clears : ∃ signal ∈ signals, signal.Clears) :
    ∀ router : CommandRouter, (signals.foldl connected router).operationInProgress = false := by
  induction signals with
  | nil => exact absurd clears (by simp)
  | cons signal rest ih =>
    obtain ⟨head, tail⟩ := List.forall_mem_cons.mp calm
    obtain ⟨clearing, member, clears⟩ := clears
    intro router
    cases member with
    | head =>
      refine Bool.eq_false_iff.mpr fun set => ?_
      exact Bool.false_ne_true ((clears router).symm.trans (calm_foldl tail _ set))
    | tail _ later => exact ih tail ⟨clearing, later, clears⟩ (router.connected signal)

end CommandRouter

namespace GatewayCall

/-- Keys are uploaded after a login by themselves; every other call belongs to a command. -/
def foreground : GatewayCall → Bool
  | .upsertDeviceKeys _ | .uploadOneTimePreKeys _ => false
  | _ => true

/-- How many replies a call can lead to, its own included. -/
def rank : GatewayCall → Nat
  | .login _ _ | .resolveUsername _ _ => 3
  | .upsertDeviceKeys _ | .fetchTrustedBundle _ _ _ | .listReceived _ | .fetchMessageAnchor _ => 2
  | _ => 1

theorem rank_pos (call : GatewayCall) : 0 < call.rank := by
  cases call <;> simp [rank]

theorem rank_le_three (call : GatewayCall) : call.rank ≤ 3 := by
  cases call <;> simp [rank]

end GatewayCall

/-- A call of a dispatched command waits for its reply. -/
def Occupied (console : Console) : Prop := ∃ call ∈ console.waiting, call.foreground = true

/-! ## Postconditions of flows -/

/-- Whatever the allowed answers, the signals and the calls are as stated. -/
abbrev Meets (allowed : (question : Question) → question.Answer → Prop) (flow : ServiceFlow Unit)
    (post : List Signal → List GatewayCall → Prop) : Prop :=
  flow.Ensures allowed fun signals calls _ => post signals calls

/-- A failure that is reported at once meets the postcondition. -/
structure Fails (post : List Signal → List GatewayCall → Prop) : Prop where
  command : ∀ error, post [.commandFailed error] []
  crypto : ∀ error, post [.cryptoOperationFailed error] []

section

variable {allowed : (question : Question) → question.Answer → Prop}
  {post : List Signal → List GatewayCall → Prop} {α : Type}

theorem Meets.weaken {flow : ServiceFlow Unit} {post' : List Signal → List GatewayCall → Prop}
    (met : Meets allowed flow post) (weaker : ∀ signals calls, post signals calls →
      post' signals calls) : Meets allowed flow post' :=
  Flow.Ensures.mono met fun signals calls _ => weaker signals calls

/-- What a flow meets holds of a run that is granted its answers. -/
theorem Meets.performed {flow : ServiceFlow Unit} (met : Meets allowed flow post)
    {answers : ServiceAnswers} (granted : flow.Grants allowed answers 0) :
    post (flow.perform answers 0).1 (flow.perform answers 0).2 :=
  Flow.ensures_perform flow granted met

theorem meets_ask {question : Question} {next : question.Answer → ServiceFlow Unit}
    (each : ∀ answer, allowed question answer → Meets allowed (next answer) post) :
    Meets allowed (ask question >>= next) post :=
  each

theorem meets_emit {signal : Signal} {next : ServiceFlow Unit}
    (met : Meets allowed next fun signals calls => post (signal :: signals) calls) :
    Meets allowed (do emit signal; next) post :=
  met

theorem meets_orCommandFailed {result : Result α} {next : α → ServiceFlow Unit}
    (fails : Fails post) (succeeds : ∀ value, Meets allowed (next value) post) :
    Meets allowed (orCommandFailed result next) post := by
  cases result with
  | error error => exact fails.command error
  | ok value => exact succeeds value

theorem meets_orCryptoOperationFailed {result : Result α} {next : α → ServiceFlow Unit}
    (fails : Fails post) (succeeds : ∀ value, Meets allowed (next value) post) :
    Meets allowed (orCryptoOperationFailed result next) post := by
  cases result with
  | error error => exact fails.crypto error
  | ok value => exact succeeds value

theorem meets_withSession {next : ServiceFlow Unit} (fails : Fails post)
    (loggedIn : Meets allowed next post) : Meets allowed (withSession next) post := by
  refine meets_ask fun session _ => ?_
  cases session with
  | none => exact fails.command authRequired
  | some session => exact loggedIn

theorem meets_withCurrentDevice {next : DeviceKeyMaterial → ServiceFlow Unit} (fails : Fails post)
    (each : ∀ device, Meets allowed (next device) post) :
    Meets allowed (withCurrentDevice next) post := by
  refine meets_ask fun loaded _ => meets_orCommandFailed fails fun loaded => ?_
  cases loaded with
  | none => exact fails.command MessageService.deviceKeysUnavailable
  | some device => exact each device

theorem meets_savingKnownUser {result : Result UserAddress} {next : UserAddress → ServiceFlow Unit}
    (fails : Fails post) (each : ∀ address, Meets allowed (next address) post) :
    Meets allowed (savingKnownUser result next) post :=
  meets_orCommandFailed fails fun address =>
    meets_ask fun _ _ => meets_orCommandFailed fails fun _ => each address

theorem meets_withPlaintext {missing : ClientError} {messageId : String}
    {next : DeviceKeyMaterial → String → ServiceFlow Unit} (fails : Fails post)
    (each : ∀ device plaintext, Meets allowed (next device plaintext) post) :
    Meets allowed (withPlaintext missing messageId next) post := by
  refine meets_ask fun found _ => ?_
  match found with
  | .ok (some message) =>
    refine meets_withCurrentDevice fails fun device => ?_
    exact meets_ask fun _ _ => meets_orCryptoOperationFailed fails fun plaintext =>
      each device plaintext
  | .ok none => exact fails.command missing
  | .error _ => exact fails.command missing

end

/-! ## Operations of a command -/

/-- An operation goes on with one call of a lower rank, or ends with a signal that says so. -/
inductive Proceeds (bound : Nat) : List Signal → List GatewayCall → Prop where
  | ended {signal : Signal} (clears : signal.Clears) : Proceeds bound [signal] []
  | continued {call : GatewayCall} (foreground : call.foreground = true)
      (nearer : call.rank < bound) : Proceeds bound [] [call]

theorem Proceeds.fails (bound : Nat) : Fails (Proceeds bound) where
  command _ := .ended fun _ => rfl
  crypto _ := .ended fun _ => rfl

theorem Proceeds.weaken {bound bound' : Nat} (wider : bound ≤ bound') {signals : List Signal}
    {calls : List GatewayCall} : Proceeds bound signals calls → Proceeds bound' signals calls
  | .ended clears => .ended clears
  | .continued foreground nearer => .continued foreground (nearer.trans_le wider)

section

variable {allowed : (question : Question) → question.Answer → Prop}

theorem bundleTrusted_proceeds (outgoing : Outgoing) (delivery : Delivery)
    (bundle : Result PreKeyBundle) :
    Meets allowed (bundleTrusted outgoing delivery bundle) (Proceeds 2) := by
  have fails := Proceeds.fails 2
  refine meets_orCommandFailed fails fun bundle => ?_
  refine meets_ask fun _ _ => meets_orCryptoOperationFailed fails fun encrypted => ?_
  refine meets_ask fun _ _ => meets_orCryptoOperationFailed fails fun localSenderCopy => ?_
  exact meets_ask fun draft _ => .continued rfl (by simp [GatewayCall.rank])

theorem trustedBundle_proceeds (outgoing : Outgoing) (delivery : Delivery) :
    Meets allowed (trustedBundle outgoing delivery) (Proceeds 3) := by
  have trusted (bundle : Result PreKeyBundle) :
      Meets allowed (bundleTrusted outgoing delivery bundle) (Proceeds 3) :=
    (bundleTrusted_proceeds outgoing delivery bundle).weaken
      fun _ _ => Proceeds.weaken (by decide : 2 ≤ 3)
  refine meets_ask fun cached _ => ?_
  cases cached with
  | some bundle => exact trusted (.ok bundle)
  | none =>
    refine meets_ask fun pin _ => ?_
    match pin with
    | .error error => exact trusted (.error error)
    | .ok none => exact trusted (.error notTrusted)
    | .ok (some pin) => exact .continued rfl (by simp [GatewayCall.rank])

theorem trustedBundleFetched_proceeds (pin : TrustPin) (outgoing : Outgoing) (delivery : Delivery)
    (result : Result PreKeyBundle) :
    Meets allowed (trustedBundleFetched pin outgoing delivery result) (Proceeds 2) := by
  have trusted (bundle : Result PreKeyBundle) :
      Meets allowed (bundleTrusted outgoing delivery bundle) (Proceeds 2) :=
    bundleTrusted_proceeds outgoing delivery bundle
  cases result with
  | error error => exact trusted (.error error)
  | ok bundle =>
    refine meets_ask fun verified _ => ?_
    cases verified with
    | error error => exact trusted (.error error)
    | ok verified =>
      by_cases differs : pin.identityKey ≠ bundle.identityKey
      · simpa only [if_pos differs] using trusted (.error trustMismatch)
      · simpa only [if_neg differs] using trusted (.ok bundle)

theorem addressResolved_proceeds (purpose : AddressPurpose) (result : Result UserAddress) :
    Meets allowed (addressResolved purpose result) (Proceeds 3) := by
  have fails := Proceeds.fails 3
  refine meets_savingKnownUser fails fun address => ?_
  cases purpose with
  | trust => exact .continued rfl (by simp [GatewayCall.rank])
  | read username page => exact .continued rfl (by simp [GatewayCall.rank])
  | send plaintext =>
    exact meets_withCurrentDevice fails fun device => trustedBundle_proceeds _ _
  | forward messageId =>
    exact meets_withPlaintext fails fun device plaintext => trustedBundle_proceeds _ _

theorem trustBundleFetched_proceeds (bound : Nat) (address : UserAddress)
    (result : Result PreKeyBundle) :
    Meets allowed (trustBundleFetched address result) (Proceeds bound) := by
  have fails := Proceeds.fails bound
  refine meets_orCommandFailed fails fun bundle => ?_
  refine meets_ask fun _ _ => meets_orCryptoOperationFailed fails fun _ => ?_
  refine meets_ask fun _ _ => meets_orCommandFailed fails fun existing => ?_
  cases existing with
  | none =>
    refine meets_ask fun now _ => meets_ask fun _ _ => ?_
    exact meets_orCommandFailed fails fun _ => .ended fun _ => rfl
  | some pin =>
    by_cases differs : pin.identityKey ≠ bundle.identityKey
    · simp only [if_pos differs]
      exact .ended fun _ => rfl
    · simp only [if_neg differs]
      exact .ended fun _ => rfl

theorem delivered_proceeds (bound : Nat) (outgoing : Outgoing) (localSenderCopy : String)
    (result : Result LocalMessage) :
    Meets allowed (delivered outgoing localSenderCopy result) (Proceeds bound) := by
  have fails := Proceeds.fails bound
  refine meets_orCommandFailed fails fun message => ?_
  refine meets_ask fun _ _ => meets_orCommandFailed fails fun _ => ?_
  cases outgoing with
  | sendMessage => exact .ended fun _ => rfl
  | forwardMessage messageId => exact .ended fun _ => rfl

theorem messageRevoked_proceeds (bound : Nat) (messageId : String) (result : Result LocalMessage) :
    Meets allowed (messageRevoked messageId result) (Proceeds bound) :=
  meets_orCommandFailed (Proceeds.fails bound) fun _ => meets_ask fun _ _ =>
    meets_orCommandFailed (Proceeds.fails bound) fun _ => .ended fun _ => rfl

theorem messageDeleted_proceeds (bound : Nat) (messageId : String) (result : Result Unit) :
    Meets allowed (messageDeleted messageId result) (Proceeds bound) :=
  meets_orCommandFailed (Proceeds.fails bound) fun _ => meets_ask fun _ _ =>
    meets_orCommandFailed (Proceeds.fails bound) fun _ => .ended fun _ => rfl

theorem concluded_proceeds (messageId : String) (verdict : MessageService.Verdict) :
    Meets allowed (concluded messageId verdict) (Proceeds 2) := by
  cases verdict with
  | reported status => exact .ended fun _ => rfl
  | failed error => exact .ended fun _ => rfl
  | asks anchor => exact .continued rfl (by simp [GatewayCall.rank])

theorem anchorFetched_proceeds (messageId : String) (result : Result BlockchainAnchor) :
    Meets allowed (anchorFetched messageId result) (Proceeds 2) := by
  have concludes (verdict : MessageService.Verdict) :
      Meets allowed (concluded messageId verdict) (Proceeds 2) :=
    concluded_proceeds messageId verdict
  cases result with
  | error error =>
    by_cases missing : error.code = .notFound
    · simpa only [anchorFetched, if_pos missing] using concludes _
    · simp only [anchorFetched, if_neg missing]
      refine meets_ask fun found _ => ?_
      match found with
      | .ok (some cached) =>
        by_cases known : !cached.cachedAnchor.digest.isEmpty
        · simpa only [if_pos known] using concludes _
        · simpa only [if_neg known] using concludes _
      | .ok none => exact concludes _
      | .error _ => exact concludes _
  | ok anchor =>
    refine meets_ask fun found _ => ?_
    match found with
    | .ok (some cached) => exact meets_ask fun _ _ => concludes _
    | .ok none => exact concludes _
    | .error _ => exact concludes _

theorem anchorVerified_proceeds (bound : Nat) (messageId : String)
    (result : Result BlockchainVerification) :
    Meets allowed (anchorVerified messageId result) (Proceeds bound) := by
  refine meets_orCommandFailed (Proceeds.fails bound) fun verification => ?_
  split_ifs
  all_goals exact .ended fun _ => rfl

theorem userRegistered_proceeds (bound : Nat) (result : Result UserProfile) :
    Meets allowed (userRegistered result) (Proceeds bound) :=
  meets_orCommandFailed (Proceeds.fails bound) fun _ => .ended fun _ => rfl

theorem loggedOut_proceeds (bound : Nat) (result : Result Unit) :
    Meets allowed (loggedOut result) (Proceeds bound) :=
  meets_orCommandFailed (Proceeds.fails bound) fun _ => meets_ask fun _ _ =>
    meets_orCommandFailed (Proceeds.fails bound) fun _ => .ended fun _ => rfl

theorem openConversationFromCache_proceeds (bound : Nat) (address : UserAddress)
    (username : String) (page : Int) :
    Meets allowed (openConversationFromCache address username page) (Proceeds bound) := by
  have fails := Proceeds.fails bound
  refine meets_ask fun _ _ => meets_orCommandFailed fails fun messages => ?_
  by_cases none : messages.isEmpty
  · simp only [if_pos none]
    exact .ended fun _ => rfl
  · simp only [if_neg none]
    refine meets_withCurrentDevice fails fun device => meets_ask fun log _ => ?_
    exact meets_ask fun _ _ => meets_orCommandFailed fails fun _ => .ended fun _ => rfl

end

/-! ## Message lists -/

/-- Failures to save are reported by the way, each as a failed command. -/
def Recovers (bound : Nat) (signals : List Signal) (calls : List GatewayCall) : Prop :=
  ∃ failures rest, signals = failures ++ rest ∧ (∀ failure ∈ failures, failure.Clears) ∧
    Proceeds bound rest calls

theorem Proceeds.recovers {bound : Nat} {signals : List Signal} {calls : List GatewayCall}
    (proceeds : Proceeds bound signals calls) : Recovers bound signals calls :=
  ⟨[], signals, rfl, List.forall_mem_nil _, proceeds⟩

theorem Recovers.fails (bound : Nat) : Fails (Recovers bound) where
  command error := ((Proceeds.fails bound).command error).recovers
  crypto error := ((Proceeds.fails bound).crypto error).recovers

section

variable {allowed : (question : Question) → question.Answer → Prop}

theorem saveMessages_failures (messages : MessageList) :
    Meets allowed (saveMessages messages) fun signals calls =>
      (∀ signal ∈ signals, signal.Clears) ∧ calls = [] := by
  induction messages with
  | nil => exact ⟨List.forall_mem_nil _, rfl⟩
  | cons message rest ih =>
    refine meets_ask fun saved _ => ?_
    cases saved with
    | error error => exact ⟨List.forall_mem_singleton.mpr fun _ => rfl, rfl⟩
    | ok saved => exact ih

theorem saveAndReconcileMessages_failures (messages : MessageList) (direction : MessageDirection) :
    Meets allowed (saveAndReconcileMessages messages direction) fun signals calls =>
      (∀ signal ∈ signals, signal.Clears) ∧ calls = [] := by
  refine Flow.ensures_bind.mpr (Flow.Ensures.mono (saveMessages_failures messages) ?_)
  rintro signals calls - ⟨clear, rfl⟩
  refine meets_ask fun reconciled _ => ?_
  cases reconciled with
  | error error =>
    exact ⟨List.forall_mem_append.mpr ⟨clear, List.forall_mem_singleton.mpr fun _ => rfl⟩, rfl⟩
  | ok reconciled => exact ⟨by simpa using clear, rfl⟩

theorem meets_saveAndReconcileMessages {bound : Nat} {messages : MessageList}
    {direction : MessageDirection} {next : ServiceFlow Unit}
    (proceeds : Meets allowed next (Proceeds bound)) :
    Meets allowed (do saveAndReconcileMessages messages direction; next) (Recovers bound) := by
  refine Flow.ensures_bind.mpr
    (Flow.Ensures.mono (saveAndReconcileMessages_failures messages direction) ?_)
  rintro failures calls - ⟨clear, rfl⟩
  exact proceeds.weaken fun rest calls ends => ⟨failures, rest, rfl, clear, ends⟩

theorem receivedNext_proceeds (purpose : ListingPurpose) (messages : MessageList) :
    Meets allowed (receivedNext purpose messages) (Proceeds 2) := by
  have fails := Proceeds.fails 2
  cases purpose with
  | list => exact .ended fun _ => rfl
  | unread => exact meets_ask fun _ _ => meets_orCommandFailed fails fun _ => .ended fun _ => rfl
  | conversations => exact .continued rfl (by simp [GatewayCall.rank])
  | read address username page => exact .continued rfl (by simp [GatewayCall.rank])

theorem sentNext_proceeds (bound : Nat) (purpose : ListingPurpose) (messages : MessageList) :
    Meets allowed (sentNext purpose messages) (Proceeds bound) := by
  have fails := Proceeds.fails bound
  cases purpose with
  | list => exact .ended fun _ => rfl
  | unread => exact .ended fun _ => rfl
  | conversations =>
    exact meets_ask fun _ _ => meets_orCommandFailed fails fun _ => .ended fun _ => rfl
  | read address username page => exact openConversationFromCache_proceeds bound address username page

theorem received_recovers (purpose : ListingPurpose) (result : Result MessageList) :
    Meets allowed (received purpose result) (Recovers 2) :=
  meets_orCommandFailed (Recovers.fails 2) fun messages =>
    meets_saveAndReconcileMessages (receivedNext_proceeds purpose messages)

theorem sentListed_recovers (bound : Nat) (purpose : ListingPurpose) (result : Result MessageList) :
    Meets allowed (sentListed purpose result) (Recovers bound) :=
  meets_orCommandFailed (Recovers.fails bound) fun messages =>
    meets_saveAndReconcileMessages (sentNext_proceeds bound purpose messages)

end

/-! ## Sessions and keys -/

/-- No signal of a background upload begins an operation, and only one call follows. -/
def Uploads (bound : Nat) (signals : List Signal) (calls : List GatewayCall) : Prop :=
  (∀ signal ∈ signals, signal.Calm) ∧
    (calls = [] ∨ ∃ call, calls = [call] ∧ call.foreground = false ∧ call.rank < bound)

theorem Uploads.fails (bound : Nat) : Fails (Uploads bound) where
  command _ := ⟨List.forall_mem_singleton.mpr fun _ => nofun, .inl rfl⟩
  crypto _ := ⟨List.forall_mem_singleton.mpr fun _ => nofun, .inl rfl⟩

section

variable {allowed : (question : Question) → question.Answer → Prop} (configuration : Configuration)
  (text : TextLibrary)

theorem uploads_start {bound : Nat} {call : GatewayCall} (background : call.foreground = false)
    (nearer : call.rank < bound) : Meets allowed (start call) (Uploads bound) :=
  ⟨List.forall_mem_nil _, .inr ⟨call, rfl, background, nearer⟩⟩

theorem uploadOneTimePreKeys_uploads :
    Meets allowed uploadOneTimePreKeys (Uploads 2) := by
  have fails := Uploads.fails 2
  refine meets_ask fun loaded _ => ?_
  dsimp only
  split_ifs
  · refine meets_ask fun _ _ => meets_orCryptoOperationFailed fails fun created => ?_
    refine meets_ask fun _ _ => meets_orCommandFailed fails fun _ => ?_
    exact uploads_start rfl (by simp [GatewayCall.rank])
  · exact uploads_start rfl (by simp [GatewayCall.rank])

theorem deviceKeysUpserted_uploads (result : Result Unit) :
    Meets allowed (deviceKeysUpserted configuration result) (Uploads 2) := by
  refine meets_orCommandFailed (Uploads.fails 2) fun _ => ?_
  refine Flow.ensures_bind.mpr (Flow.Ensures.mono uploadOneTimePreKeys_uploads ?_)
  rintro signals calls - ⟨calm, follows⟩
  refine ⟨List.forall_mem_append.mpr ⟨calm, List.forall_mem_singleton.mpr fun _ set => set⟩, ?_⟩
  simpa using follows

theorem oneTimePreKeysUploaded_uploads (bound : Nat) (result : Result Unit) :
    Meets allowed (oneTimePreKeysUploaded text result) (Uploads bound) := by
  cases result with
  | ok uploaded => exact ⟨List.forall_mem_nil _, .inl rfl⟩
  | error error =>
    by_cases known : isAlreadyUploadedPreKeyError text error
    · simp only [oneTimePreKeysUploaded, if_pos known]
      exact ⟨List.forall_mem_nil _, .inl rfl⟩
    · simp only [oneTimePreKeysUploaded, if_neg known]
      exact (Uploads.fails bound).command error

theorem updateTokens_uploads (bound : Nat) (tokens : TokenSet) :
    Meets allowed (updateTokens tokens) (Uploads bound) := by
  refine meets_ask fun session _ => ?_
  cases session with
  | none => exact ⟨List.forall_mem_nil _, .inl rfl⟩
  | some session =>
    refine meets_ask fun _ _ => meets_orCommandFailed (Uploads.fails bound) fun _ => ?_
    exact ⟨List.forall_mem_nil _, .inl rfl⟩

theorem ensureDeviceKeysUploaded_uploads :
    Meets allowed ensureDeviceKeysUploaded (Uploads 3) := by
  have fails := Uploads.fails 3
  refine meets_withSession fails ?_
  refine meets_ask fun _ _ => meets_orCommandFailed fails fun existing => ?_
  refine meets_ask fun _ _ => meets_orCryptoOperationFailed fails fun material => ?_
  refine meets_ask fun _ _ => meets_orCommandFailed fails fun _ => ?_
  exact uploads_start rfl (by simp [GatewayCall.rank])

/-- A login is over when it fails or the session has started; its uploads follow it. -/
def LogsIn (signals : List Signal) (calls : List GatewayCall) : Prop :=
  Uploads 3 signals calls ∧ ∃ signal ∈ signals, signal.Clears

theorem LogsIn.fails : Fails LogsIn where
  command error := ⟨(Uploads.fails 3).command error, _, List.mem_singleton_self _, fun _ => rfl⟩
  crypto error := ⟨(Uploads.fails 3).crypto error, _, List.mem_singleton_self _, fun _ => rfl⟩

theorem sessionStarted_logsIn (user : UserProfile) :
    Meets allowed (sessionStarted user) LogsIn := by
  refine Flow.ensures_bind.mpr (Flow.Ensures.mono ensureDeviceKeysUploaded_uploads ?_)
  rintro signals calls - ⟨calm, follows⟩
  have clears : (Signal.sessionStarted user).Clears := fun _ => rfl
  refine ⟨⟨List.forall_mem_append.mpr ⟨calm, List.forall_mem_singleton.mpr clears.calm⟩, ?_⟩,
    _, List.mem_append_right _ (List.mem_singleton_self _), clears⟩
  simpa using follows

theorem loggedIn_logsIn (result : Result AuthSession) :
    Meets allowed (loggedIn configuration result) LogsIn := by
  refine meets_orCommandFailed LogsIn.fails fun session => ?_
  dsimp only
  split_ifs
  all_goals
    repeat refine meets_ask fun _ _ => meets_orCommandFailed LogsIn.fails fun _ => ?_
    exact sessionStarted_logsIn session.user

end

/-! ## Replies -/

/-- What the reply to a call may signal, and which calls may follow it. -/
structure Answered (call : GatewayCall) (signals : List Signal) (calls : List GatewayCall) : Prop where
  calm : ∀ signal ∈ signals, signal.Calm
  single : calls.length ≤ 1
  nearer : ∀ next ∈ calls, next.rank < call.rank
  background : call.foreground = false → ∀ next ∈ calls, next.foreground = false
  released : call.foreground = true →
    (∃ next ∈ calls, next.foreground = true) ∨ ∃ signal ∈ signals, signal.Clears

theorem Proceeds.answered {call : GatewayCall} {bound : Nat} (within : bound ≤ call.rank)
    (foreground : call.foreground = true) {signals : List Signal} {calls : List GatewayCall} :
    Proceeds bound signals calls → Answered call signals calls
  | .ended clears =>
    { calm := List.forall_mem_singleton.mpr clears.calm
      single := Nat.zero_le 1
      nearer := List.forall_mem_nil _
      background := fun _ => List.forall_mem_nil _
      released := fun _ => .inr ⟨_, List.mem_singleton_self _, clears⟩ }
  | @Proceeds.continued _ next continues nearer =>
    { calm := List.forall_mem_nil _
      single := Nat.le_refl 1
      nearer := List.forall_mem_singleton.mpr (nearer.trans_le within)
      background := fun not => Bool.noConfusion (foreground.symm.trans not)
      released := fun _ => .inl ⟨next, List.mem_singleton_self _, continues⟩ }

theorem Recovers.answered {call : GatewayCall} {bound : Nat} (within : bound ≤ call.rank)
    (foreground : call.foreground = true) {signals : List Signal} {calls : List GatewayCall}
    (recovers : Recovers bound signals calls) : Answered call signals calls := by
  obtain ⟨failures, rest, rfl, clear, proceeds⟩ := recovers
  have answered := proceeds.answered within foreground
  refine { answered with calm := ?_, released := fun _ => ?_ }
  · exact List.forall_mem_append.mpr ⟨fun failure member => (clear failure member).calm, answered.calm⟩
  · exact (answered.released foreground).imp id fun ⟨signal, member, clears⟩ =>
      ⟨signal, List.mem_append_right _ member, clears⟩

theorem Uploads.answered {call : GatewayCall} {bound : Nat} (within : bound ≤ call.rank)
    {signals : List Signal} {calls : List GatewayCall} (uploads : Uploads bound signals calls)
    (clears : call.foreground = true → ∃ signal ∈ signals, signal.Clears) :
    Answered call signals calls := by
  obtain ⟨calm, rfl | ⟨next, rfl, background, nearer⟩⟩ := uploads
  · exact
      { calm
        single := Nat.zero_le 1
        nearer := List.forall_mem_nil _
        background := fun _ => List.forall_mem_nil _
        released := fun foreground => .inr (clears foreground) }
  · exact
      { calm
        single := Nat.le_refl 1
        nearer := List.forall_mem_singleton.mpr (nearer.trans_le within)
        background := fun _ => List.forall_mem_singleton.mpr background
        released := fun foreground => .inr (clears foreground) }

/-- The calls whose reply only goes on with the command, or ends it. -/
def GatewayCall.direct : GatewayCall → Bool
  | .login _ _ | .listReceived _ | .listSent _ => false
  | call => call.foreground

section

variable {allowed : (question : Question) → question.Answer → Prop} (configuration : Configuration)
  (text : TextLibrary)

theorem replied_proceeds (call : GatewayCall) (direct : call.direct = true) (result : call.Reply) :
    Meets allowed (replied configuration text call result) (Proceeds call.rank) := by
  cases call with
  | login | upsertDeviceKeys | uploadOneTimePreKeys | listReceived | listSent => cases direct
  | registerUser => exact userRegistered_proceeds _ result
  | logout => exact loggedOut_proceeds _ result
  | resolveUsername username purpose => exact addressResolved_proceeds purpose result
  | fetchTrustBundle address => exact trustBundleFetched_proceeds _ address result
  | fetchTrustedBundle pin outgoing delivery =>
    exact trustedBundleFetched_proceeds pin outgoing delivery result
  | deliver outgoing => exact delivered_proceeds _ outgoing _ result
  | revokeMessage messageId => exact messageRevoked_proceeds _ messageId result
  | deleteMessage messageId => exact messageDeleted_proceeds _ messageId result
  | fetchMessageAnchor messageId => exact anchorFetched_proceeds messageId result
  | verifyAnchor messageId => exact anchorVerified_proceeds _ messageId result

theorem replied_answered (call : GatewayCall) (result : call.Reply) :
    Meets allowed (replied configuration text call result) (Answered call) := by
  by_cases direct : call.direct
  · have foreground : call.foreground = true := by
      cases call <;> first | rfl | cases direct
    exact (replied_proceeds configuration text call direct result).weaken
      fun _ _ => Proceeds.answered (Nat.le_refl _) foreground
  · cases call with
    | login =>
      exact (loggedIn_logsIn configuration result).weaken
        fun _ _ logsIn => logsIn.1.answered (Nat.le_refl 3) fun _ => logsIn.2
    | upsertDeviceKeys =>
      exact (deviceKeysUpserted_uploads configuration result).weaken
        fun _ _ uploads => uploads.answered (Nat.le_refl 2) nofun
    | uploadOneTimePreKeys =>
      exact (oneTimePreKeysUploaded_uploads text 1 result).weaken
        fun _ _ uploads => uploads.answered (Nat.le_refl 1) nofun
    | listReceived purpose =>
      exact (received_recovers purpose result).weaken
        fun _ _ => Recovers.answered (Nat.le_refl 2) rfl
    | listSent purpose =>
      exact (sentListed_recovers 1 purpose result).weaken
        fun _ _ => Recovers.answered (Nat.le_refl 1) rfl
    | _ => exact absurd rfl direct

end

/-! ## Lines -/

/-- A line that starts a call has signalled that last; one that starts none begins nothing,
or ends what it began. -/
inductive Begun : List Signal → List GatewayCall → Prop where
  | idle {signals : List Signal} (calm : ∀ signal ∈ signals, signal.Calm) : Begun signals []
  | ended {signals : List Signal} {signal : Signal} (clears : signal.Clears) :
      Begun (signals ++ [signal]) []
  | started {signals : List Signal} {call : GatewayCall} (message : Operation)
      (foreground : call.foreground = true) : Begun (signals ++ [.operationStarted message]) [call]

theorem Begun.after {signal : Signal} (calm : signal.Calm) {signals : List Signal}
    {calls : List GatewayCall} : Begun signals calls → Begun (signal :: signals) calls
  | .idle calms => .idle (List.forall_mem_cons.mpr ⟨calm, calms⟩)
  | @Begun.ended signals _ clears => @Begun.ended (signal :: signals) _ clears
  | @Begun.started signals _ message foreground =>
    @Begun.started (signal :: signals) _ message foreground

theorem Proceeds.begun {bound : Nat} (message : Operation) {signals : List Signal}
    {calls : List GatewayCall} :
    Proceeds bound signals calls → Begun (.operationStarted message :: signals) calls
  | .ended clears => @Begun.ended [.operationStarted message] _ clears
  | .continued foreground _ => @Begun.started [] _ message foreground

theorem Begun.single {signals : List Signal} {calls : List GatewayCall}
    (begun : Begun signals calls) : calls.length ≤ 1 := by
  cases begun with
  | idle calm => exact Nat.zero_le 1
  | ended clears => exact Nat.zero_le 1
  | started message foreground => exact Nat.le_refl 1

/-- A line sets the flag only with a call that it starts. -/
theorem Begun.sets {signals : List Signal} {calls : List GatewayCall} (begun : Begun signals calls)
    (router : CommandRouter)
    (set : (signals.foldl CommandRouter.connected router).operationInProgress = true) :
    router.operationInProgress = true ∨ ∃ call ∈ calls, call.foreground = true := by
  cases begun with
  | idle calm => exact .inl (CommandRouter.calm_foldl calm router set)
  | ended clears =>
    rw [List.foldl_concat, clears] at set
    cases set
  | started message foreground => exact .inr ⟨_, List.mem_singleton_self _, foreground⟩

theorem Begun.busy {signals : List Signal} {calls : List GatewayCall} (begun : Begun signals calls)
    (starts : calls ≠ []) (router : CommandRouter) :
    (signals.foldl CommandRouter.connected router).operationInProgress = true := by
  cases begun with
  | idle calm => exact absurd rfl starts
  | ended clears => exact absurd rfl starts
  | started message foreground => rw [List.foldl_concat, CommandRouter.connected]

/-- The router after a line, before any of its signals. -/
structure LineOutcome (router after : CommandRouter) (signals : List Signal)
    (calls : List GatewayCall) : Prop where
  begun : Begun signals calls
  progress : after.operationInProgress = router.operationInProgress
  mode : calls ≠ [] → after.inputMode = .command

section

variable {allowed : (question : Question) → question.Answer → Prop} (configuration : Configuration)
  (text : TextLibrary)

theorem begins_emit {signal : Signal} (clears : signal.Clears) :
    Meets allowed (emit signal) Begun :=
  @Begun.ended [] signal clears

theorem begins_calm {signal : Signal} (calm : signal.Calm) :
    Meets allowed (emit signal) Begun :=
  .idle (List.forall_mem_singleton.mpr calm)

theorem begins_after {signal : Signal} {next : ServiceFlow Unit} (calm : signal.Calm)
    (begins : Meets allowed next Begun) : Meets allowed (do emit signal; next) Begun :=
  meets_emit (begins.weaken fun _ _ => Begun.after calm)

theorem begins_operation (message : Operation) {operation : ServiceFlow Unit}
    (proceeds : Meets allowed operation (Proceeds 4)) :
    Meets allowed (do emit (.operationStarted message); operation) Begun :=
  meets_emit (proceeds.weaken fun _ _ => Proceeds.begun message)

theorem begins_nothing : Meets allowed (pure ()) Begun := .idle (List.forall_mem_nil _)

theorem proceeds_start {call : GatewayCall} (foreground : call.foreground = true) :
    Meets allowed (start call) (Proceeds 4) :=
  .continued foreground (Nat.lt_succ_of_le call.rank_le_three)

theorem proceeds_withSession {call : GatewayCall} (foreground : call.foreground = true) :
    Meets allowed (withSession (start call)) (Proceeds 4) :=
  meets_withSession (Proceeds.fails 4) (proceeds_start foreground)

namespace ClientController

theorem openConversation_begins (username : String) (page : Int) :
    Meets allowed (openConversation username page) Begun :=
  begins_after (fun _ set => set) (begins_operation _ (proceeds_withSession rfl))

theorem sendMessage_begins (recipientUsername body : String) :
    Meets allowed (sendMessage text recipientUsername body) Begun := by
  unfold sendMessage
  split_ifs
  · exact begins_emit fun _ => rfl
  · exact begins_after (fun _ set => set) (begins_operation _ (proceeds_withSession rfl))

theorem withArgument_begins (command : SlashCommand) (message : Operation)
    {operation : String → ServiceFlow Unit}
    (proceeds : ∀ argument, Meets allowed (operation argument) (Proceeds 4)) :
    Meets allowed (withArgument command message operation) Begun := by
  unfold withArgument
  split
  · exact begins_operation message (proceeds _)
  · exact begins_nothing

theorem download_proceeds (messageId : String) :
    Meets allowed (download messageId) (Proceeds 4) := by
  refine meets_withPlaintext (Proceeds.fails 4) fun _ _ => meets_ask fun opened _ => ?_
  split_ifs
  · exact .ended fun _ => rfl
  · exact .ended fun _ => rfl

theorem read_begins (command : SlashCommand) : Meets allowed (read text command) Begun := by
  unfold read
  split
  · exact openConversation_begins _ 1
  · dsimp only
    split
    · split_ifs
      · exact begins_emit fun _ => rfl
      · exact openConversation_begins _ _
    · exact begins_emit fun _ => rfl
  · exact begins_nothing

theorem whoami_begins : Meets allowed whoami Begun := by
  refine meets_ask fun session _ => ?_
  cases session with
  | none => exact begins_emit fun _ => rfl
  | some session => exact begins_emit fun _ => rfl

theorem handleCommand_begins (command : SlashCommand) :
    Meets allowed (handleCommand configuration text command) Begun := by
  unfold handleCommand
  cases command.type with
  | help | status | cancel => exact begins_emit fun _ => rfl
  | whoami => exact whoami_begins
  | logout => exact begins_after (fun _ set => set) (begins_operation _ (proceeds_start rfl))
  | conversations | inbox | sync | sent => exact begins_operation _ (proceeds_withSession rfl)
  | read => exact read_begins text command
  | forward =>
    dsimp only
    split
    · exact begins_operation _ (proceeds_withSession rfl)
    · exact begins_nothing
  | revoke | deleteMessage | verify =>
    exact withArgument_begins command _ fun _ => proceeds_start rfl
  | download => exact withArgument_begins command _ download_proceeds
  | trust => exact withArgument_begins command _ fun _ => proceeds_withSession rfl
  | back => exact begins_after (fun _ set => set) (begins_emit fun _ => rfl)
  | exit => exact begins_calm fun _ set => set
  | register | login | msg | send => exact begins_nothing

end ClientController

namespace CommandRouter

/-- A handled line has the outcomes of a line. -/
abbrev Takes (allowed : (question : Question) → question.Answer → Prop) (router : CommandRouter)
    (handled : Handled) : Prop :=
  Meets allowed handled.2 (LineOutcome router handled.1)

theorem takes_command {router after : CommandRouter} {flow : ServiceFlow Unit}
    (mode : after.inputMode = .command)
    (progress : after.operationInProgress = router.operationInProgress)
    (begins : Meets allowed flow Begun) : Takes allowed router (after, flow) :=
  begins.weaken fun _ _ begun => ⟨begun, progress, fun _ => mode⟩

theorem takes_idle {router after : CommandRouter} {flow : ServiceFlow Unit}
    (progress : after.operationInProgress = router.operationInProgress)
    (rests : Meets allowed flow fun signals calls =>
      (∀ signal ∈ signals, signal.Calm) ∧ calls = []) : Takes allowed router (after, flow) := by
  refine rests.weaken ?_
  rintro signals calls ⟨calm, rfl⟩
  exact ⟨.idle calm, progress, fun started => absurd rfl started⟩

theorem takes_withArgumentCount {router : CommandRouter} {command : SlashCommand} {minimum : Nat}
    {maximum : Option Nat} {accepted : Handled} (mode : router.inputMode = .command)
    (takes : Takes allowed router accepted) :
    Takes allowed router (withArgumentCount router command minimum maximum accepted) := by
  unfold withArgumentCount
  split_ifs
  · exact takes
  · exact takes_command mode rfl (begins_emit fun _ => rfl)

theorem composing_takes (router : CommandRouter) (recipientUsername : String) :
    Takes allowed router (composing configuration router recipientUsername) :=
  takes_idle rfl ⟨List.forall_mem_cons.mpr ⟨fun _ set => set,
    List.forall_mem_singleton.mpr fun _ set => set⟩, rfl⟩

theorem handleMsgCommand_takes {router : CommandRouter} (mode : router.inputMode = .command)
    (command : SlashCommand) : Takes allowed router (handleMsgCommand text router command) := by
  refine takes_withArgumentCount mode (takes_command mode rfl ?_)
  split_ifs
  · exact ClientController.openConversation_begins _ 1
  · exact ClientController.sendMessage_begins text _ _

theorem handleSendCommand_takes {router : CommandRouter} (mode : router.inputMode = .command)
    (command : SlashCommand) :
    Takes allowed router (handleSendCommand configuration text router command) := by
  unfold handleSendCommand
  split_ifs
  · exact composing_takes configuration router _
  · exact takes_command mode rfl (ClientController.sendMessage_begins text _ _)
  · exact takes_withArgumentCount mode
      (takes_command mode rfl (ClientController.sendMessage_begins text _ _))
  · exact takes_withArgumentCount mode (composing_takes configuration router _)

theorem dispatch_takes {router : CommandRouter} (mode : router.inputMode = .command)
    (command : SlashCommand) :
    Takes allowed router (dispatch configuration text router command) := by
  have controlled : Takes allowed router
      (router, ClientController.handleCommand configuration text command) :=
    takes_command mode rfl (ClientController.handleCommand_begins configuration text command)
  have prompted {after : CommandRouter} (message : Status)
      (progress : after.operationInProgress = router.operationInProgress) :
      Takes allowed router (after, emit (.statusMessage message)) :=
    takes_idle progress ⟨List.forall_mem_singleton.mpr fun _ => nofun, rfl⟩
  unfold dispatch
  split
  · exact takes_withArgumentCount mode (prompted _ rfl)
  · exact takes_withArgumentCount mode (prompted _ rfl)
  · exact handleMsgCommand_takes text mode command
  · exact handleSendCommand_takes configuration text mode command
  · exact takes_withArgumentCount mode controlled
  · exact takes_withArgumentCount mode controlled
  · exact takes_withArgumentCount mode controlled
  · dsimp only
    split_ifs
    · exact takes_withArgumentCount mode controlled
    · exact takes_withArgumentCount mode controlled
    · exact controlled

theorem handleCommandMode_takes {router : CommandRouter} (mode : router.inputMode = .command)
    (line : String) :
    Takes allowed router (handleCommandMode configuration text router line) := by
  unfold handleCommandMode
  dsimp only
  split_ifs
  · exact takes_command mode rfl begins_nothing
  · exact takes_command mode rfl (ClientController.sendMessage_begins text _ _)
  · exact takes_command mode rfl begins_nothing
  · split
    · exact takes_command mode rfl (begins_emit fun _ => rfl)
    next command _ =>
      have calm : (Signal.slashCommandReceived command).Calm := fun _ set => set
      refine meets_emit ((dispatch_takes configuration text mode command).weaken ?_)
      exact fun signals calls outcome => { outcome with begun := outcome.begun.after calm }

theorem handleMessageComposition_takes (router : CommandRouter) (line : String) :
    Takes allowed router (handleMessageComposition configuration text router line) := by
  unfold handleMessageComposition
  dsimp only
  split_ifs
  · exact takes_command rfl rfl (ClientController.sendMessage_begins text _ _)
  · exact takes_command rfl rfl (begins_calm fun _ set => set)
  · exact takes_command rfl rfl (ClientController.handleCommand_begins configuration text _)
  · exact takes_idle rfl ⟨List.forall_mem_nil _, rfl⟩
  · exact takes_idle rfl ⟨List.forall_mem_singleton.mpr fun _ set => set, rfl⟩

theorem handleLine_takes {router : CommandRouter} (free : router.commandInputWhileBusy = false)
    (line : String) : Takes allowed router (handleLine configuration text router line) := by
  simp only [handleLine, free, Bool.false_eq_true, if_false]
  cases mode : router.inputMode with
  | command => exact handleCommandMode_takes configuration text mode line
  | registerPassword =>
    exact takes_command rfl rfl (begins_operation _ (proceeds_start rfl))
  | loginPassword =>
    exact takes_command rfl rfl (begins_operation _ (proceeds_start rfl))
  | messageComposition => exact handleMessageComposition_takes configuration text router line

/-- A refused line at most repeats that an operation is in progress. -/
theorem handleLine_busy {router : CommandRouter} (busy : router.commandInputWhileBusy = true)
    (line : String) : (handleLine configuration text router line).1 = router ∧
      Meets allowed (handleLine configuration text router line).2 fun signals calls =>
        calls = [] ∧ ∀ signal ∈ signals, signal = .operationStarted .operationInProgress := by
  simp only [handleLine, busy, if_true]
  refine ⟨trivial, ?_⟩
  split_ifs
  · exact ⟨rfl, List.forall_mem_nil _⟩
  · exact ⟨rfl, List.forall_mem_singleton.mpr rfl⟩

end CommandRouter

end

end EpicKfc.Source.Client
