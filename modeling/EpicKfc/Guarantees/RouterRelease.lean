import EpicKfc.Source.Client.CommandOutcomes
import Mathlib.Algebra.GroupWithZero.Nat
import Mathlib.Data.List.Perm.Basic

/-!
# The router never locks out

The operation-in-progress flag is only ever set while a call of a command waits
for its reply, whatever the services answer and in whatever order replies come. A
command makes at most three calls, so answering each of them ends the run with the
flag cleared.
-/

namespace EpicKfc.Guarantees.RouterRelease
open EpicKfc.Lib EpicKfc.Source.Client

variable (configuration : ServiceFlow.Configuration) (text : TextLibrary)

/-- The flag is set only while a call of a command waits. -/
def Held (console : Console) : Prop := console.router.operationInProgress = true → Occupied console

/-- How many replies can still come. -/
def outstanding (console : Console) : Nat := (console.waiting.map GatewayCall.rank).sum

theorem any_granted (answers : ServiceAnswers) (flow : ServiceFlow Unit) :
    flow.Grants (fun _ _ => True) answers 0 :=
  Flow.grants_any answers flow 0

theorem occupied_performed {console : Console} {flow : ServiceFlow Unit} {answers : ServiceAnswers}
    (before : Occupied console) : Occupied (console.performed flow answers) := by
  obtain ⟨call, member, foreground⟩ := before
  exact ⟨call, List.mem_append_left _ member, foreground⟩

/-! ## One turn -/

theorem held_line {console : Console} (held : Held console) (line : String)
    (answers : ServiceAnswers) :
    Held (Console.performed
      { console with router := (console.router.handleLine configuration text line).1 }
      (console.router.handleLine configuration text line).2 answers) := by
  intro set
  cases busy : console.router.commandInputWhileBusy with
  | true =>
    have inProgress : console.router.operationInProgress = true :=
      ((Bool.and_eq_true _ _).mp busy).2
    exact occupied_performed (held inProgress)
  | false =>
    have outcome := (CommandRouter.handleLine_takes configuration text busy line).performed
      (any_granted answers _)
    obtain before | ⟨call, member, foreground⟩ := outcome.begun.sets _ set
    · exact occupied_performed (held (outcome.progress.symm.trans before))
    · exact ⟨call, List.mem_append_right _ member, foreground⟩

theorem held_reply {console : Console} (held : Held console) {index : Nat} {call : GatewayCall}
    (waits : console.waiting[index]? = some call) (result : call.Reply) (answers : ServiceAnswers) :
    Held (Console.performed { console with waiting := console.waiting.eraseIdx index }
      (ServiceFlow.replied configuration text call result) answers) := by
  intro set
  have answered := (replied_answered configuration text call result).performed
    (any_granted answers _)
  obtain ⟨within, rfl⟩ := List.getElem?_eq_some_iff.mp waits
  obtain ⟨waiting, member, foreground⟩ := held (CommandRouter.calm_foldl answered.calm _ set)
  -- Either another call still waits, or the answered one is followed by the next of its command.
  obtain rfl | other := List.mem_cons.mp
    ((List.getElem_cons_eraseIdx_perm within).mem_iff.mpr member)
  · obtain ⟨next, follows, continues⟩ | clears := answered.released foreground
    · exact ⟨next, List.mem_append_right _ follows, continues⟩
    · have cleared := CommandRouter.cleared_foldl answered.calm clears console.router
      exact absurd (cleared.symm.trans set) Bool.false_ne_true
  · exact ⟨waiting, List.mem_append_left _ other, foreground⟩

theorem held_step {console after : Console} {event : ConsoleEvent × ServiceAnswers}
    (held : Held console) (moved : console.step configuration text event = some after) :
    Held after := by
  obtain ⟨event, answers⟩ := event
  cases event with
  | line line =>
    rw [Console.step_line, Option.some.injEq] at moved
    rw [← moved]
    exact held_line configuration text held line answers
  | reply index result =>
    obtain ⟨⟨before, flow⟩, turned, rfl⟩ := Option.map_eq_some_iff.mp moved
    obtain ⟨call, waits, turned⟩ := Option.map_eq_some_iff.mp turned
    cases turned
    exact held_reply configuration text held waits (result call) answers
  | tokensUpdated tokens =>
    cases moved
    intro set
    have uploads := (updateTokens_uploads 0 tokens).performed (any_granted answers _)
    exact occupied_performed (held (CommandRouter.calm_foldl uploads.1 _ set))

/-- Whatever lines, replies and tokens came in whatever order. -/
theorem set_while_waiting {console : Console}
    (reached : Runs.Reachable (Console.step configuration text) (· = {}) console) :
    Held console := by
  refine Runs.invariant_of_preserved ?_ ?_ reached
  · rintro _ rfl set
    cases set
  · exact fun _ _ _ held _ moved => held_step configuration text held moved

/-! ## How many replies -/

theorem outstanding_performed (console : Console) (flow : ServiceFlow Unit)
    (answers : ServiceAnswers) : outstanding (console.performed flow answers) =
      outstanding console + ((flow.perform answers 0).2.map GatewayCall.rank).sum := by
  simp [outstanding, Console.performed]

theorem sum_rank_lt {calls : List GatewayCall} {bound : Nat} (positive : 0 < bound)
    (single : calls.length ≤ 1) (nearer : ∀ next ∈ calls, next.rank < bound) :
    (calls.map GatewayCall.rank).sum < bound := by
  cases calls with
  | nil => exact positive
  | cons next rest =>
    have none : rest = [] := List.eq_nil_of_length_eq_zero (Nat.le_zero.mp (Nat.le_of_succ_le_succ single))
    subst none
    simpa using nearer next List.mem_cons_self

theorem outstanding_reply {console : Console} {index : Nat} {call : GatewayCall}
    (waits : console.waiting[index]? = some call) (result : call.Reply) (answers : ServiceAnswers) :
    outstanding (Console.performed { console with waiting := console.waiting.eraseIdx index }
      (ServiceFlow.replied configuration text call result) answers) < outstanding console := by
  have answered := (replied_answered configuration text call result).performed
    (any_granted answers _)
  have fewer := sum_rank_lt call.rank_pos answered.single answered.nearer
  obtain ⟨within, rfl⟩ := List.getElem?_eq_some_iff.mp waits
  have removed := ((List.getElem_cons_eraseIdx_perm within).map GatewayCall.rank).sum_nat
  rw [List.map_cons, List.sum_cons] at removed
  rw [outstanding_performed]
  simp only [outstanding]
  omega

def isLine : ConsoleEvent → Bool
  | .line _ => true
  | _ => false

def isReply : ConsoleEvent → Bool
  | .reply _ _ => true
  | _ => false

/-- A reply takes one away from what is outstanding, and tokens add nothing. -/
theorem outstanding_step {console after : Console} {event : ConsoleEvent × ServiceAnswers}
    (lineless : isLine event.1 = false)
    (moved : console.step configuration text event = some after) :
    outstanding after + (if isReply event.1 then 1 else 0) ≤ outstanding console := by
  obtain ⟨event, answers⟩ := event
  cases event with
  | line line => cases lineless
  | reply index result =>
    obtain ⟨⟨before, flow⟩, turned, rfl⟩ := Option.map_eq_some_iff.mp moved
    obtain ⟨call, waits, turned⟩ := Option.map_eq_some_iff.mp turned
    cases turned
    exact outstanding_reply configuration text waits (result call) answers
  | tokensUpdated tokens =>
    cases moved
    have uploads := (updateTokens_uploads 1 tokens).performed (any_granted answers _)
    obtain ⟨-, none | ⟨call, -, -, nearer⟩⟩ := uploads
    · rw [outstanding_performed, none]
      exact Nat.le_refl _
    · exact absurd nearer (Nat.not_lt.mpr call.rank_pos)

theorem outstanding_run {events : List (ConsoleEvent × ServiceAnswers)} :
    ∀ {console after : Console}, (∀ event ∈ events, isLine event.1 = false) →
      Runs.run (Console.step configuration text) console events = some after →
        outstanding after + events.countP (fun event => isReply event.1) ≤ outstanding console := by
  induction events with
  | nil =>
    intro console after _ ends
    cases ends
    exact Nat.le_refl _
  | cons event rest ih =>
    intro console after lineless ends
    obtain ⟨middle, moved, later⟩ := Option.bind_eq_some_iff.mp ends
    obtain ⟨first, tail⟩ := List.forall_mem_cons.mp lineless
    have one := outstanding_step configuration text first moved
    have more := ih tail later
    rw [List.countP_cons]
    omega

theorem outstanding_line {console started : Console} {line : String} {answers : ServiceAnswers}
    (begun : console.step configuration text (.line line, answers) = some started) :
    outstanding started ≤ outstanding console + 3 := by
  rw [Console.step_line, Option.some.injEq] at begun
  rw [← begun, outstanding_performed]
  refine Nat.add_le_add_left ?_ (outstanding console)
  cases busy : console.router.commandInputWhileBusy with
  | true =>
    have refused := ((CommandRouter.handleLine_busy configuration text busy line).2.performed
      (any_granted answers _)).1
    rw [refused]
    exact Nat.zero_le 3
  | false =>
    have outcome := (CommandRouter.handleLine_takes configuration text busy line).performed
      (any_granted answers _)
    exact Nat.le_of_lt_succ (sum_rank_lt (by decide) outcome.begun.single
      fun next _ => Nat.lt_succ_of_le next.rank_le_three)

/-! ## The run of a command -/

/-- Whatever the session, the composition and the answers: at most three more replies
come, each that is still outstanding can come, and once no call of a command waits
the next line is not refused. -/
theorem accepted_line_releases {console started after : Console} {line : String}
    {answers : ServiceAnswers} {events : List (ConsoleEvent × ServiceAnswers)}
    (reached : Runs.Reachable (Console.step configuration text) (· = {}) console)
    (begun : console.step configuration text (.line line, answers) = some started)
    (lineless : ∀ event ∈ events, isLine event.1 = false)
    (ends : Runs.run (Console.step configuration text) started events = some after) :
    events.countP (fun event => isReply event.1) + outstanding after ≤ outstanding console + 3 ∧
      (∀ index result answers, index < after.waiting.length →
        (after.step configuration text (.reply index result, answers)).isSome = true) ∧
      (¬ Occupied after → after.router.operationInProgress = false ∧
        after.router.commandInputWhileBusy = false) := by
  refine ⟨?_, ?_, fun free => ?_⟩
  · have replies := outstanding_run configuration text lineless ends
    have first := outstanding_line configuration text begun
    omega
  · intro index result answers within
    simp [Console.step, Console.turn, within]
  · have later := Runs.reachableBy_of_run events (.next _ reached trivial begun)
      (Runs.everyStep_of_forall (fun _ _ _ => trivial) started) ends
    have cleared : after.router.operationInProgress = false :=
      Bool.eq_false_iff.mpr fun set => free (set_while_waiting configuration text later set)
    exact ⟨cleared, by rw [CommandRouter.commandInputWhileBusy, cleared, Bool.and_false]⟩

/-- Unread senders are asked for, and the backend cannot be reached. -/
theorem inbox_releases : ∃ started after : Console,
    Console.step ⟨1, false⟩ sampleText {} (.line "/inbox", sampleAnswers) = some started ∧
      started.router.commandInputWhileBusy = true ∧
      Runs.run (Console.step ⟨1, false⟩ sampleText) started
        [(.reply 0 refusing, sampleAnswers)] = some after ∧
      after.router.commandInputWhileBusy = false := by
  refine ⟨_, _, rfl, by decide, rfl, ?_⟩
  have releases := @accepted_line_releases ⟨1, false⟩ sampleText {} _ _ "/inbox" sampleAnswers
    [(.reply 0 refusing, sampleAnswers)] (.start rfl) rfl (by simp [isLine]) rfl
  exact (releases.2.2 fun ⟨_, member, _⟩ => by cases member).2

end EpicKfc.Guarantees.RouterRelease
