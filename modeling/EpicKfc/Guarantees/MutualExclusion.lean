import EpicKfc.Source.Client.CommandOutcomes
import Mathlib.Data.List.Perm.Basic

/-!
# One command at a time

The router refuses commands while its flag is set, but the flag belongs to no
command: whatever fails in the background clears it, and so does a message that
cannot be saved half-way through `/conversations` or `/read`. As long as neither
happens no command is dispatched while a call of an earlier one waits; one failed
key upload suffices to let a second command in.
-/

namespace EpicKfc.Guarantees.MutualExclusion
open EpicKfc.Lib EpicKfc.Source.Client ServiceFlow

variable (configuration : Configuration) (text : TextLibrary)

/-- While a call of a command waits, no line dispatches another. -/
def Exclusive (console : Console) : Prop :=
  Occupied console → ∀ line answers started,
    console.step configuration text (.line line, answers) = some started →
      started.waiting = console.waiting

/-! ## The condition on a turn -/

/-- What is stored on the way of another operation is stored. -/
def Saves : (question : Question) → question.Answer → Prop
  | .saveSession _, saved => saved = .ok ()
  | .saveOneTimePreKeys _, saved => saved = .ok ()
  | .saveMessage _, saved => saved = .ok ()
  | .reconcileVisibleMessages _ _, reconciled => reconciled = .ok ()
  | .createOneTimePreKeys, created => created.isOk = true
  | _, _ => True

/-- The backend takes the keys that are uploaded in the background. -/
def Uploaded : (call : GatewayCall) → call.Reply → Prop
  | .upsertDeviceKeys _, result => result = .ok ()
  | .uploadOneTimePreKeys _, .error error => isAlreadyUploadedPreKeyError text error = true
  | _, _ => True

/-- The message list is fetched for a command that goes on to the sent messages. -/
def listsSent : ListingPurpose → Bool
  | .conversations | .read _ _ _ => true
  | .list | .unread => false

/-- Nothing fails beside a command whose call waits, nor on its way to its next call. -/
def Undisturbed (console : Console) (event : ConsoleEvent × ServiceAnswers) : Prop :=
  match event.1 with
  | .line _ => True
  | .tokensUpdated tokens => Occupied console → (updateTokens tokens).Grants Saves event.2 0
  | .reply index result => ∀ call, console.waiting[index]? = some call →
    match call with
    | .listReceived purpose => listsSent purpose = true →
      (replied configuration text call (result call)).Grants Saves event.2 0
    | .upsertDeviceKeys _ | .uploadOneTimePreKeys _ => Occupied console →
      Uploaded text call (result call) ∧
        (replied configuration text call (result call)).Grants Saves event.2 0
    | _ => True

/-! ## What does not clear the flag -/

abbrev Silent (signals : List Signal) : Prop := ∀ signal ∈ signals, signal.Neutral

theorem saveMessages_silent (messages : MessageList) :
    Meets Saves (saveMessages messages) fun signals calls => signals = [] ∧ calls = [] := by
  induction messages with
  | nil => exact ⟨rfl, rfl⟩
  | cons message rest ih =>
    refine meets_ask fun saved succeeded => ?_
    rw [show saved = .ok () from succeeded]
    exact ih

theorem saveAndReconcileMessages_silent (messages : MessageList) (direction : MessageDirection) :
    Meets Saves (saveAndReconcileMessages messages direction) fun signals calls =>
      signals = [] ∧ calls = [] := by
  refine Flow.ensures_bind.mpr (Flow.Ensures.mono (saveMessages_silent messages) ?_)
  rintro signals calls - ⟨rfl, rfl⟩
  refine meets_ask fun reconciled succeeded => ?_
  rw [show reconciled = .ok () from succeeded]
  exact ⟨rfl, rfl⟩

theorem received_proceeds (purpose : ListingPurpose) (result : Result MessageList) :
    Meets Saves (received purpose result) (Proceeds 2) := by
  refine meets_orCommandFailed (Proceeds.fails 2) fun messages => ?_
  refine Flow.ensures_bind.mpr
    (Flow.Ensures.mono (saveAndReconcileMessages_silent messages .received) ?_)
  rintro signals calls - ⟨rfl, rfl⟩
  exact receivedNext_proceeds purpose messages

theorem uploadOneTimePreKeys_silent :
    Meets Saves uploadOneTimePreKeys fun signals _ => signals = [] := by
  refine meets_ask fun loaded _ => ?_
  dsimp only
  split_ifs
  · refine meets_ask fun created succeeded => ?_
    cases created with
    | error error => cases succeeded
    | ok created =>
      refine meets_ask fun saved succeeded => ?_
      rw [show saved = .ok () from succeeded]
      exact rfl
  · exact rfl

theorem deviceKeysUpserted_silent :
    Meets Saves (deviceKeysUpserted configuration (.ok ())) fun signals _ => Silent signals := by
  refine Flow.ensures_bind.mpr (Flow.Ensures.mono uploadOneTimePreKeys_silent ?_)
  rintro signals calls - rfl
  exact List.forall_mem_singleton.mpr fun _ => rfl

theorem oneTimePreKeysUploaded_silent {preKeys : List OneTimePreKey} {result : Result Unit}
    (uploaded : Uploaded text (.uploadOneTimePreKeys preKeys) result) :
    Meets Saves (oneTimePreKeysUploaded text result) fun signals _ => Silent signals := by
  cases result with
  | ok done => exact List.forall_mem_nil _
  | error error =>
    have known : isAlreadyUploadedPreKeyError text error = true := uploaded
    simp only [oneTimePreKeysUploaded, known, if_true]
    exact List.forall_mem_nil _

theorem updateTokens_silent (tokens : TokenSet) :
    Meets Saves (updateTokens tokens) fun signals _ => Silent signals := by
  refine meets_ask fun session _ => ?_
  cases session with
  | none => exact List.forall_mem_nil _
  | some session =>
    refine meets_ask fun saved succeeded => ?_
    rw [show saved = .ok () from succeeded]
    exact List.forall_mem_nil _

/-- A command that goes on to another call is not taken to be over. -/
def Continues (signals : List Signal) (calls : List GatewayCall) : Prop :=
  (∃ next ∈ calls, next.foreground = true) → Silent signals

theorem continues_of_proceeds {bound : Nat} {signals : List Signal} {calls : List GatewayCall} :
    Proceeds bound signals calls → Continues signals calls
  | .ended _ => fun ⟨_, member, _⟩ => absurd member List.not_mem_nil
  | .continued _ _ => fun _ => List.forall_mem_nil _

theorem continues_of_recovers {signals : List Signal} {calls : List GatewayCall}
    (recovers : Recovers 1 signals calls) : Continues signals calls := by
  obtain ⟨failures, rest, rfl, -, proceeds⟩ := recovers
  rintro ⟨next, member, -⟩
  cases proceeds with
  | ended => cases member
  | @continued call _ nearer => exact absurd nearer (Nat.not_lt.mpr call.rank_pos)

theorem continues_of_uploads {bound : Nat} {signals : List Signal} {calls : List GatewayCall}
    (uploads : Uploads bound signals calls) : Continues signals calls := by
  rintro ⟨next, member, foreground⟩
  obtain ⟨-, rfl | ⟨call, rfl, background, -⟩⟩ := uploads
  · cases member
  · rw [List.mem_singleton.mp member, background] at foreground
    cases foreground

theorem received_continues {purpose : ListingPurpose} (ends : listsSent purpose = false)
    (result : Result MessageList) :
    Meets (fun _ _ => True) (received purpose result) Continues := by
  have fails := Recovers.fails 1
  have last (messages : MessageList) :
      Meets (fun _ _ => True) (receivedNext purpose messages) (Proceeds 1) := by
    cases purpose with
    | list => exact .ended fun _ => rfl
    | unread =>
      exact meets_ask fun _ _ => meets_orCommandFailed (Proceeds.fails 1) fun _ =>
        .ended fun _ => rfl
    | conversations | read => cases ends
  refine Meets.weaken (meets_orCommandFailed fails fun messages => ?_) fun _ _ =>
    continues_of_recovers
  exact meets_saveAndReconcileMessages (last messages)

/-- Nothing a granted reply signals ends a command that goes on. -/
theorem replied_continues {call : GatewayCall} (foreground : call.foreground = true)
    (result : call.Reply) {answers : ServiceAnswers}
    (granted : ∀ purpose, call = .listReceived purpose → listsSent purpose = true →
      (replied configuration text call result).Grants Saves answers 0) :
    Continues ((replied configuration text call result).perform answers 0).1
      ((replied configuration text call result).perform answers 0).2 := by
  have any := Flow.grants_any answers (replied configuration text call result) 0
  by_cases direct : call.direct
  · exact continues_of_proceeds ((replied_proceeds configuration text call direct result).performed any)
  · cases call with
    | login =>
      exact continues_of_uploads ((loggedIn_logsIn configuration result).performed any).1
    | listReceived purpose =>
      cases goesOn : listsSent purpose with
      | true =>
        exact continues_of_proceeds
          ((received_proceeds purpose result).performed (granted purpose rfl goesOn))
      | false => exact (received_continues goesOn result).performed any
    | listSent purpose =>
      exact continues_of_recovers ((sentListed_recovers 1 purpose result).performed any)
    | upsertDeviceKeys | uploadOneTimePreKeys => cases foreground
    | _ => exact absurd rfl direct

theorem replied_silent {call : GatewayCall} (background : call.foreground = false)
    (result : call.Reply) (uploaded : Uploaded text call result) :
    Meets Saves (replied configuration text call result) fun signals _ => Silent signals := by
  cases call with
  | upsertDeviceKeys material =>
    have done : result = .ok () := uploaded
    rw [done]
    exact deviceKeysUpserted_silent configuration
  | uploadOneTimePreKeys preKeys => exact oneTimePreKeysUploaded_silent text uploaded
  | _ => cases background

/-! ## The invariant -/

/-- At most one call of a command waits, and commands are refused meanwhile. -/
structure Locked (console : Console) : Prop where
  single : console.waiting.countP GatewayCall.foreground ≤ 1
  busy : Occupied console → console.router.commandInputWhileBusy = true

theorem occupied_iff (console : Console) :
    Occupied console ↔ 0 < console.waiting.countP GatewayCall.foreground :=
  List.countP_pos_iff.symm

theorem commandInputWhileBusy_iff (router : CommandRouter) :
    router.commandInputWhileBusy = true ↔
      router.inputMode = .command ∧ router.operationInProgress = true := by
  rw [CommandRouter.commandInputWhileBusy, Bool.and_eq_true, beq_iff_eq]

/-- A turn that signals nothing about the flag keeps commands refused. -/
theorem busy_silent {signals : List Signal} (silent : Silent signals) {router : CommandRouter}
    (busy : router.commandInputWhileBusy = true) :
    (signals.foldl CommandRouter.connected router).commandInputWhileBusy = true := by
  obtain ⟨mode, set⟩ := (commandInputWhileBusy_iff router).mp busy
  refine (commandInputWhileBusy_iff _).mpr ⟨?_, ?_⟩
  · rw [CommandRouter.inputMode_foldl, mode]
  · rw [CommandRouter.neutral_foldl silent, set]

theorem busy_refused {signals : List Signal}
    (refused : ∀ signal ∈ signals, signal = .operationStarted .operationInProgress) :
    ∀ {router : CommandRouter}, router.commandInputWhileBusy = true →
      (signals.foldl CommandRouter.connected router).commandInputWhileBusy = true := by
  induction signals with
  | nil => exact fun busy => busy
  | cons signal rest ih =>
    obtain ⟨rfl, tail⟩ := List.forall_mem_cons.mp refused
    intro router busy
    refine ih tail ((commandInputWhileBusy_iff _).mpr ⟨?_, rfl⟩)
    exact ((commandInputWhileBusy_iff router).mp busy).1

theorem countP_performed (console : Console) (flow : ServiceFlow Unit) (answers : ServiceAnswers) :
    (console.performed flow answers).waiting.countP GatewayCall.foreground =
      console.waiting.countP GatewayCall.foreground +
        (flow.perform answers 0).2.countP GatewayCall.foreground :=
  List.countP_append

theorem locked_line {console : Console} (locked : Locked console) (line : String)
    (answers : ServiceAnswers) :
    Locked (Console.performed
      { console with router := (console.router.handleLine configuration text line).1 }
      (console.router.handleLine configuration text line).2 answers) := by
  have any := Flow.grants_any answers (console.router.handleLine configuration text line).2 0
  cases busy : console.router.commandInputWhileBusy with
  | true =>
    obtain ⟨same, refuses⟩ := CommandRouter.handleLine_busy configuration text busy line
    obtain ⟨none, refused⟩ := refuses.performed any
    refine ⟨?_, fun _ => ?_⟩
    · rw [countP_performed, none]
      exact locked.single
    · refine busy_refused refused ?_
      rw [same, busy]
  | false =>
    -- No call of a command waits, so the line may dispatch one.
    have free : console.waiting.countP GatewayCall.foreground = 0 := by
      refine Nat.eq_zero_of_not_pos fun occupied => ?_
      exact Bool.false_ne_true (busy.symm.trans (locked.busy ((occupied_iff console).mpr occupied)))
    have outcome := (CommandRouter.handleLine_takes configuration text busy line).performed any
    refine ⟨?_, fun occupied => ?_⟩
    · rw [countP_performed, free, Nat.zero_add]
      exact List.countP_le_length.trans outcome.begun.single
    · rw [occupied_iff, countP_performed, free, Nat.zero_add] at occupied
      have started : ((console.router.handleLine configuration text line).2.perform answers 0).2 ≠ [] := by
        intro none
        rw [none] at occupied
        cases occupied
      refine (commandInputWhileBusy_iff _).mpr ⟨?_, outcome.begun.busy started _⟩
      exact (CommandRouter.inputMode_foldl _ _).trans (outcome.mode started)

theorem locked_reply {console : Console} (locked : Locked console) {index : Nat}
    {call : GatewayCall} (waits : console.waiting[index]? = some call)
    {result : (call : GatewayCall) → call.Reply} {answers : ServiceAnswers}
    (undisturbed : Undisturbed configuration text console (.reply index result, answers)) :
    Locked (Console.performed { console with waiting := console.waiting.eraseIdx index }
      (replied configuration text call (result call)) answers) := by
  have any := Flow.grants_any answers (replied configuration text call (result call)) 0
  have answered := (replied_answered configuration text call (result call)).performed any
  have condition := undisturbed call waits
  obtain ⟨within, rfl⟩ := List.getElem?_eq_some_iff.mp waits
  have removed := (List.getElem_cons_eraseIdx_perm within).countP_eq GatewayCall.foreground
  rw [List.countP_cons] at removed
  have single := locked.single
  cases foreground : console.waiting[index].foreground with
  | true =>
    -- It was the only call of a command, so at most the next one waits now.
    have alone : (console.waiting.eraseIdx index).countP GatewayCall.foreground = 0 := by
      simp only [foreground, if_true] at removed
      omega
    have occupied : Occupied console := ⟨_, List.getElem_mem within, foreground⟩
    refine ⟨?_, fun later => ?_⟩
    · rw [countP_performed, alone, Nat.zero_add]
      exact List.countP_le_length.trans answered.single
    · rw [occupied_iff, countP_performed, alone, Nat.zero_add, List.countP_pos_iff] at later
      refine busy_silent (replied_continues configuration text foreground _ ?_ later)
        (locked.busy occupied)
      intro purpose lists goesOn
      rw [lists] at condition ⊢
      exact condition goesOn
  | false =>
    have none : ((replied configuration text console.waiting[index]
        (result console.waiting[index])).perform answers 0).2.countP GatewayCall.foreground = 0 := by
      refine List.countP_eq_zero.mpr fun next member => ?_
      rw [answered.background foreground next member]
      exact Bool.false_ne_true
    have kept : (console.waiting.eraseIdx index).countP GatewayCall.foreground =
        console.waiting.countP GatewayCall.foreground := by
      simpa only [foreground, Bool.false_eq_true, if_false, Nat.add_zero] using removed
    refine ⟨?_, fun later => ?_⟩
    · rw [countP_performed, none, kept]
      exact single
    · rw [occupied_iff, countP_performed, none, kept, Nat.add_zero, ← occupied_iff] at later
      obtain ⟨uploaded, granted⟩ : Uploaded text console.waiting[index]
          (result console.waiting[index]) ∧ (replied configuration text console.waiting[index]
            (result console.waiting[index])).Grants Saves answers 0 := by
        cases which : console.waiting[index] with
        | upsertDeviceKeys | uploadOneTimePreKeys =>
          rw [which] at condition
          exact condition later
        | _ => rw [which] at foreground; cases foreground
      exact busy_silent ((replied_silent configuration text foreground _ uploaded).performed granted)
        (locked.busy later)

theorem locked_step {console after : Console} {event : ConsoleEvent × ServiceAnswers}
    (locked : Locked console) (undisturbed : Undisturbed configuration text console event)
    (moved : console.step configuration text event = some after) : Locked after := by
  obtain ⟨event, answers⟩ := event
  cases event with
  | line line =>
    rw [Console.step_line, Option.some.injEq] at moved
    rw [← moved]
    exact locked_line configuration text locked line answers
  | reply index result =>
    obtain ⟨⟨before, flow⟩, turned, rfl⟩ := Option.map_eq_some_iff.mp moved
    obtain ⟨call, waits, turned⟩ := Option.map_eq_some_iff.mp turned
    cases turned
    exact locked_reply configuration text locked waits undisturbed
  | tokensUpdated tokens =>
    cases moved
    have uploads := (updateTokens_uploads 1 tokens).performed (Flow.grants_any answers _ 0)
    have none : ((updateTokens tokens).perform answers 0).2 = [] := by
      obtain ⟨-, none | ⟨call, -, -, nearer⟩⟩ := uploads
      · exact none
      · exact absurd nearer (Nat.not_lt.mpr call.rank_pos)
    refine ⟨?_, fun later => ?_⟩
    · rw [countP_performed, none]
      exact locked.single
    · rw [occupied_iff, countP_performed, none, List.countP_nil, Nat.add_zero, ← occupied_iff] at later
      exact busy_silent ((updateTokens_silent tokens).performed (undisturbed later))
        (locked.busy later)

/-! ## Every run -/

theorem locked_reachable {console : Console}
    (reached : Runs.ReachableBy (Console.step configuration text) (· = {})
      (Undisturbed configuration text) console) : Locked console := by
  refine Runs.invariant_of_preserved ?_ ?_ reached
  · rintro _ rfl
    exact ⟨Nat.zero_le 1, fun ⟨_, member, _⟩ => absurd member List.not_mem_nil⟩
  · exact fun _ _ _ locked undisturbed moved => locked_step configuration text locked undisturbed moved

/-- In every state that undisturbed turns reach, at most one call of a command waits, and
while it does no line dispatches another. -/
theorem commands_exclude {console : Console}
    (reached : Runs.ReachableBy (Console.step configuration text) (· = {})
      (Undisturbed configuration text) console) :
    console.waiting.countP GatewayCall.foreground ≤ 1 ∧ Exclusive configuration text console := by
  have locked := locked_reachable configuration text reached
  refine ⟨locked.single, fun occupied line answers started moved => ?_⟩
  rw [Console.step_line, Option.some.injEq] at moved
  obtain ⟨-, refuses⟩ :=
    CommandRouter.handleLine_busy configuration text (locked.busy occupied) line
  have none := (refuses.performed (Flow.grants_any answers _ 0)).1
  rw [← moved, Console.performed, none, List.append_nil]

/-- A backend that lets the user log in and takes the device's keys. -/
def accepting : (call : GatewayCall) → call.Reply
  | .upsertDeviceKeys _ | .uploadOneTimePreKeys _ => .ok ()
  | call => admitting call

def loginAndSync : List (ConsoleEvent × ServiceAnswers) := [
  (.line "/login alice", sampleAnswers),
  (.line "secret", sampleAnswers),
  (.reply 0 accepting, sampleAnswers),
  (.line "/sync", sampleAnswers)]

/-- The keys of a login are uploaded, then its pre-keys, while messages are fetched. -/
def quietUpload : List (ConsoleEvent × ServiceAnswers) :=
  loginAndSync ++ [(.reply 0 accepting, sampleAnswers), (.reply 1 accepting, sampleAnswers)]

theorem quiet_upload_excludes : ∃ console : Console,
    Runs.run (Console.step ⟨1, false⟩ sampleText) {} quietUpload = some console ∧
      console.waiting.countP GatewayCall.foreground = 1 ∧
      Exclusive ⟨1, false⟩ sampleText console := by
  refine ⟨_, rfl, by decide, ?_⟩
  have login : Undisturbed ⟨1, false⟩ sampleText { waiting := [.login "alice" "secret"] }
      (.reply 0 accepting, sampleAnswers) := by
    intro call waits
    obtain rfl := Option.some.inj waits
    trivial
  have keys : Undisturbed ⟨1, false⟩ sampleText
      { waiting := [.upsertDeviceKeys sampleMaterial, .listReceived .list] }
      (.reply 0 accepting, sampleAnswers) := by
    intro call waits
    obtain rfl := Option.some.inj waits
    exact fun _ => ⟨rfl, trivial, rfl, rfl, trivial⟩
  have preKeys : Undisturbed ⟨1, false⟩ sampleText
      { waiting := [.listReceived .list, .uploadOneTimePreKeys []] }
      (.reply 1 accepting, sampleAnswers) := by
    intro call waits
    obtain rfl := Option.some.inj waits
    exact fun _ => ⟨trivial, trivial⟩
  refine (commands_exclude ⟨1, false⟩ sampleText (Runs.reachableBy_of_run quietUpload
    (.start rfl) ?_ rfl)).2
  exact .cons trivial rfl (.cons trivial rfl (.cons login rfl (.cons trivial rfl
    (.cons keys rfl (.cons preKeys rfl trivial)))))

/-- As before, but the upload is refused. -/
def failedUpload : List (ConsoleEvent × ServiceAnswers) :=
  loginAndSync ++ [(.reply 0 refusing, sampleAnswers)]

theorem failed_upload_admits_second_command :
    ¬ ∀ (configuration : Configuration) (text : TextLibrary) (console : Console),
      Runs.Reachable (Console.step configuration text) (· = {}) console →
        Exclusive configuration text console := by
  intro exclusive
  have reached : ∃ console, Runs.run (Console.step ⟨1, false⟩ sampleText) {} failedUpload = some console ∧
      Occupied console ∧ ∃ started,
        console.step ⟨1, false⟩ sampleText (.line "/inbox", sampleAnswers) = some started ∧
          started.waiting.length ≠ console.waiting.length :=
    ⟨_, rfl, ⟨_, List.mem_cons_self, rfl⟩, _, rfl, by decide⟩
  obtain ⟨console, ends, occupied, started, moved, grows⟩ := reached
  have kept := exclusive ⟨1, false⟩ sampleText console (Runs.reachable_of_run rfl ends) occupied
    "/inbox" sampleAnswers started moved
  exact grows (congrArg List.length kept)

end EpicKfc.Guarantees.MutualExclusion
