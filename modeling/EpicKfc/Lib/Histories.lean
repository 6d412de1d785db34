import EpicKfc.Lib.Runs

/-!
# Runs with a history

A history is kept beside the state of a guarded step function: each step adds to it
what it did, and no step looks at it. A condition on a step may then speak of what
has happened before.
-/

namespace EpicKfc.Lib.Runs

variable {σ ε η : Type} (step : σ → ε → Option σ) (record : σ → ε → σ → η → η)

structure Recorded (σ η : Type) where
  state : σ
  history : η

/-- The step, with what it did added to the history. -/
def recordedStep (recorded : Recorded σ η) (e : ε) : Option (Recorded σ η) :=
  (step recorded.state e).map fun s' => ⟨s', record recorded.state e s' recorded.history⟩

variable {step} {record}

theorem recordedStep_eq_some {recorded recorded' : Recorded σ η} {e : ε} :
    recordedStep step record recorded e = some recorded' ↔
      step recorded.state e = some recorded'.state ∧
        recorded'.history = record recorded.state e recorded'.state recorded.history := by
  rw [recordedStep, Option.map_eq_some_iff]
  constructor
  · rintro ⟨s', moved, rfl⟩
    exact ⟨moved, rfl⟩
  · rintro ⟨moved, kept⟩
    exact ⟨recorded'.state, moved, by rw [← kept]⟩

/-- Every run has its history. -/
theorem run_recorded (events : List ε) : ∀ {s s' : σ} (history : η), run step s events = some s' →
    ∃ history', run (recordedStep step record) ⟨s, history⟩ events = some ⟨s', history'⟩ := by
  induction events with
  | nil =>
    intro s s' history ends
    cases ends
    exact ⟨history, rfl⟩
  | cons e rest ih =>
    intro s s' history ends
    cases moved : step s e with
    | none => simp [run, moved] at ends
    | some middle =>
      rw [run_cons moved] at ends
      have once : recordedStep step record ⟨s, history⟩ e =
          some ⟨middle, record s e middle history⟩ := recordedStep_eq_some.mpr ⟨moved, rfl⟩
      obtain ⟨history', later⟩ := ih (record s e middle history) ends
      exact ⟨history', (run_cons once).trans later⟩

/-- An invariant of the state and its history, kept by the steps that meet a condition on both. -/
theorem invariant_of_recorded {meets : Recorded σ η → ε → Prop} {holds : Recorded σ η → Prop}
    (preserved : ∀ recorded e recorded', holds recorded → meets recorded e →
      recordedStep step record recorded e = some recorded' → holds recorded')
    {events : List ε} {s s' : σ} {history : η} (begins : holds ⟨s, history⟩)
    (met : EveryStep (recordedStep step record) meets ⟨s, history⟩ events)
    (ends : run step s events = some s') : ∃ history', holds ⟨s', history'⟩ := by
  obtain ⟨history', ran⟩ := run_recorded events history ends
  have reached : ReachableBy (recordedStep step record) (· = ⟨s, history⟩) meets ⟨s', history'⟩ :=
    reachableBy_of_run events (.start rfl) met ran
  exact ⟨history', invariant_of_preserved (fun _ same => same ▸ begins) preserved reached⟩

end EpicKfc.Lib.Runs
