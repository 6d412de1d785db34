import Mathlib.Data.List.Basic

/-!
# Runs of guarded step functions

`step s e` is `some s'` when event `e` can happen in state `s`. A reachable state
is reached by steps that all meet a condition on the state before the step and
the event; the unconditional case is the condition that always holds. An
invariant of the initial states that such steps preserve holds in all of them.
-/

namespace EpicKfc.Lib.Runs

variable {σ ε : Type} (step : σ → ε → Option σ)

/-- Replay of a list of events; `none` when one of them cannot happen. -/
def run : σ → List ε → Option σ
  | s, [] => some s
  | s, e :: rest => (step s e).bind fun s' => run s' rest

/-- Every event of the list meets the condition in the state before it. -/
def EveryStep (meets : σ → ε → Prop) : σ → List ε → Prop
  | _, [] => True
  | s, e :: rest => meets s e ∧ ∀ s', step s e = some s' → EveryStep meets s' rest

/-- States reached from `init` by steps that meet the condition. -/
inductive ReachableBy (init : σ → Prop) (meets : σ → ε → Prop) : σ → Prop
  | start {s : σ} : init s → ReachableBy init meets s
  | next {s s' : σ} (e : ε) :
      ReachableBy init meets s → meets s e → step s e = some s' → ReachableBy init meets s'

/-- States reached from `init` by any steps. -/
abbrev Reachable (init : σ → Prop) (s : σ) : Prop := ReachableBy step init (fun _ _ => True) s

variable {step}

theorem invariant_of_preserved {init : σ → Prop} {meets : σ → ε → Prop} {holds : σ → Prop}
    (initially : ∀ s, init s → holds s)
    (preserved : ∀ s e s', holds s → meets s e → step s e = some s' → holds s')
    {s : σ} (reached : ReachableBy step init meets s) : holds s := by
  induction reached with
  | start begins => exact initially _ begins
  | next e _ met moved ih => exact preserved _ e _ ih met moved

theorem ReachableBy.mono {init init' : σ → Prop} {meets meets' : σ → ε → Prop}
    (starts : ∀ s, init s → init' s) (weaker : ∀ s e, meets s e → meets' s e) {s : σ}
    (reached : ReachableBy step init meets s) : ReachableBy step init' meets' s := by
  induction reached with
  | start begins => exact .start (starts _ begins)
  | next e _ met moved ih => exact .next e ih (weaker _ _ met) moved

/-- A replayed run whose events all meet the condition ends in a reachable state. -/
theorem reachableBy_of_run {init : σ → Prop} {meets : σ → ε → Prop} (events : List ε) :
    ∀ {s s' : σ}, ReachableBy step init meets s → EveryStep step meets s events →
      run step s events = some s' → ReachableBy step init meets s' := by
  induction events with
  | nil =>
    intro s s' reached _ ends
    cases ends
    exact reached
  | cons e rest ih =>
    intro s s' reached met ends
    cases moved : step s e with
    | none => simp [run, moved] at ends
    | some middle =>
      simp only [run, moved, Option.bind_some] at ends
      exact ih (.next e reached met.1 moved) (met.2 middle moved) ends

theorem EveryStep.cons {meets : σ → ε → Prop} {s s' : σ} {e : ε} {rest : List ε}
    (met : meets s e) (moved : step s e = some s') (later : EveryStep step meets s' rest) :
    EveryStep step meets s (e :: rest) := by
  refine ⟨met, fun other moved' => ?_⟩
  have same : s' = other := Option.some.inj (moved.symm.trans moved')
  exact same ▸ later

theorem run_cons {s s' : σ} {e : ε} {rest : List ε} (moved : step s e = some s') :
    run step s (e :: rest) = run step s' rest := by
  rw [run, moved, Option.bind_some]

theorem everyStep_append {meets : σ → ε → Prop} {events later : List ε} : ∀ {s s' : σ},
    run step s events = some s' → (EveryStep step meets s (events ++ later) ↔
      EveryStep step meets s events ∧ EveryStep step meets s' later) := by
  induction events with
  | nil =>
    intro s s' ends
    cases ends
    simp [EveryStep]
  | cons e rest ih =>
    intro s s' ends
    cases moved : step s e with
    | none => simp [run, moved] at ends
    | some middle =>
      rw [run_cons moved] at ends
      simp [EveryStep, moved, ih ends, and_assoc]

theorem EveryStep.mono {meets meets' : σ → ε → Prop} (weaker : ∀ s e, meets s e → meets' s e) :
    ∀ {events : List ε} {s : σ}, EveryStep step meets s events → EveryStep step meets' s events
  | [], _, _ => trivial
  | _ :: _, _, ⟨met, later⟩ => ⟨weaker _ _ met, fun s' moved => (later s' moved).mono weaker⟩

theorem run_append (events later : List ε) :
    ∀ s : σ, run step s (events ++ later) = (run step s events).bind fun s' => run step s' later := by
  induction events with
  | nil => exact fun _ => rfl
  | cons e rest ih =>
    intro s
    rw [List.cons_append, run, run, Option.bind_assoc]
    exact congrArg _ (funext ih)

/-- Events that meet the condition in every state. -/
theorem everyStep_of_forall {meets : σ → ε → Prop} {events : List ε}
    (each : ∀ e ∈ events, ∀ s, meets s e) : ∀ s : σ, EveryStep step meets s events := by
  induction events with
  | nil => intro s; trivial
  | cons e rest ih =>
    refine fun s => ⟨each e List.mem_cons_self s, fun s' _ => ih ?_ s'⟩
    exact fun later member => each later (List.mem_cons_of_mem _ member)

/-- Evaluates a sufficient check of each event along a run. -/
def checkRun (step : σ → ε → Option σ) (check : σ → ε → Bool) : σ → List ε → Bool
  | _, [] => true
  | s, e :: rest => check s e && (step s e).all fun s' => checkRun step check s' rest

theorem everyStep_of_check {holds : σ → Prop} {meets : σ → ε → Prop} {check : σ → ε → Bool}
    (sound : ∀ s e, holds s → check s e = true → meets s e)
    (preserved : ∀ s e s', holds s → meets s e → step s e = some s' → holds s') (events : List ε) :
    ∀ {s : σ}, holds s → checkRun step check s events = true → EveryStep step meets s events := by
  induction events with
  | nil => exact fun _ _ => trivial
  | cons e rest ih =>
    intro s before checked
    rw [checkRun, Bool.and_eq_true] at checked
    have met := sound s e before checked.1
    refine ⟨met, fun s' moved => ih (preserved s e s' before met moved) ?_⟩
    have later := checked.2
    rwa [moved, Option.all_some] at later

theorem reachable_of_run {init : σ → Prop} {s s' : σ} {events : List ε} (begins : init s)
    (ends : run step s events = some s') : Reachable step init s' :=
  reachableBy_of_run events (.start begins) (everyStep_of_forall (fun _ _ _ => trivial) s) ends

/-- What every step keeps between two states, a run keeps between its ends. -/
theorem related_of_run {meets : σ → ε → Prop} {holds : σ → Prop} {related : σ → σ → Prop}
    (refl : ∀ s, related s s)
    (trans : ∀ first second third, related first second → related second third →
      related first third)
    (preserved : ∀ s e s', holds s → meets s e → step s e = some s' → holds s' ∧ related s s')
    (events : List ε) :
    ∀ {s s' : σ}, holds s → EveryStep step meets s events → run step s events = some s' →
      related s s' := by
  induction events with
  | nil =>
    intro s s' _ _ ends
    cases ends
    exact refl s
  | cons e rest ih =>
    intro s s' before met ends
    cases moved : step s e with
    | none => simp [run, moved] at ends
    | some middle =>
      simp only [run, moved, Option.bind_some] at ends
      obtain ⟨after, one⟩ := preserved s e middle before met.1 moved
      exact trans _ _ _ one (ih after (met.2 middle moved) ends)

/-- What steps keep while they meet a condition, and lose for good with the first that does not,
holds at the end of a run exactly when every step of it met the condition. -/
theorem holds_iff_everyStep {meets allows : σ → ε → Prop} {within holds : σ → Prop}
    (stays : ∀ s e s', within s → allows s e → step s e = some s' → within s')
    (kept : ∀ s e s', within s → allows s e → step s e = some s' →
      (holds s' ↔ holds s ∧ meets s e)) (events : List ε) :
    ∀ {s s' : σ}, within s → EveryStep step allows s events → run step s events = some s' →
      (holds s' ↔ holds s ∧ EveryStep step meets s events) := by
  induction events with
  | nil =>
    intro s s' _ _ ends
    cases ends
    simp [EveryStep]
  | cons e rest ih =>
    intro s s' inside allowed ends
    cases moved : step s e with
    | none => simp [run, moved] at ends
    | some middle =>
      simp only [run, moved, Option.bind_some] at ends
      rw [ih (stays s e middle inside allowed.1 moved) (allowed.2 middle moved) ends,
        kept s e middle inside allowed.1 moved, and_assoc, EveryStep]
      simp [moved]

end EpicKfc.Lib.Runs
