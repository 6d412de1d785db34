import Mathlib.Data.List.Basic
import Mathlib.Data.List.Pairwise
import Mathlib.Logic.Function.Basic
import Mathlib.Order.Basic

/-!
# Entries that expire

A store with one entry a key, where a call reads and writes the entry of its own
key and takes an expired entry for none. Dropping all expired entries before each
call changes no answer, as long as time does not go back.
-/

namespace EpicKfc.Lib.Expiry

/-! ## Runs -/

section Runs
variable {State Call Answer : Type} (step : State → Call → Answer × State)

def after (state : State) (calls : List Call) : State :=
  calls.foldl (fun state made => (step state made).2) state

def answers : State → List Call → List Answer
  | _, [] => []
  | state, made :: rest => (step state made).1 :: answers (step state made).2 rest

/-- The calls whose answer passes a test. -/
def answered (test : Answer → Bool) : State → List Call → List Call
  | _, [] => []
  | state, made :: rest =>
    if test (step state made).1 then made :: answered test (step state made).2 rest
    else answered test (step state made).2 rest

theorem after_snoc (state : State) (calls : List Call) (made : Call) :
    after step state (calls ++ [made]) = (step (after step state calls) made).2 := by
  simp [after]

theorem answers_append (state : State) (first second : List Call) :
    answers step state (first ++ second) =
      answers step state first ++ answers step (after step state first) second := by
  induction first generalizing state with
  | nil => rfl
  | cons made rest ih =>
    rw [List.cons_append, answers, answers, ih, List.cons_append]
    rfl

theorem answered_snoc (test : Answer → Bool) (state : State) (calls : List Call) (made : Call) :
    answered step test state (calls ++ [made]) = answered step test state calls ++
      if test (step (after step state calls) made).1 then [made] else [] := by
  induction calls generalizing state with
  | nil => rfl
  | cons first rest ih =>
    simp only [List.cons_append, answered, ih]
    split
    · rfl
    · rfl

variable {step}

theorem mem_of_mem_answered {test : Answer → Bool} {made : Call} (calls : List Call) :
    ∀ {state : State}, made ∈ answered step test state calls → made ∈ calls := by
  induction calls with
  | nil => exact fun member => member
  | cons first rest ih =>
    intro state member
    rw [answered] at member
    split at member
    · rcases List.mem_cons.mp member with rfl | later
      · exact List.mem_cons_self
      · exact List.mem_cons_of_mem first (ih later)
    · exact List.mem_cons_of_mem first (ih member)

/-- A view that commutes with the steps keeps the answers. -/
theorem answers_of_view {State' : Type} {step' : State' → Call → Answer × State'}
    (view : State → State')
    (commutes : ∀ state made, ((step state made).1, view (step state made).2) =
      step' (view state) made) (calls : List Call) :
    ∀ state, answers step state calls = answers step' (view state) calls := by
  induction calls with
  | nil => exact fun _ => rfl
  | cons made rest ih =>
    intro state
    rw [answers, answers, ih, ← commutes state made]

end Runs

/-! ## The store -/

/-- `ignored` calls are answered without the store. -/
structure Machine (Key Entry Call Answer Time : Type) [Preorder Time] where
  key : Call → Key
  now : Call → Time
  ignored : Call → Option Answer
  expired : Key → Time → Entry → Bool
  answer : Call → Option Entry → Answer
  entry : Call → Option Entry → Option Entry
  persists : ∀ key time later old, time ≤ later → expired key time old = true →
    expired key later old = true
  fresh : ∀ made old, expired (key made) (now made) old = true →
    answer made (some old) = answer made none ∧ entry made (some old) = entry made none

abbrev Store (Key Entry : Type) := Key → Option Entry

variable {Key Entry Call Answer Time : Type} [Preorder Time]
variable (machine : Machine Key Entry Call Answer Time)

/-- The store without its expired entries. -/
def evict (time : Time) (store : Store Key Entry) : Store Key Entry :=
  fun key => (store key).filter fun old => !machine.expired key time old

/-- At a time: the same entry, or none for one that has expired. -/
def Agrees (time : Time) (evicted kept : Store Key Entry) : Prop :=
  ∀ key, evicted key = kept key ∨
    evicted key = none ∧ ∃ old, kept key = some old ∧ machine.expired key time old = true

theorem evict_of_live {time : Time} {store : Store Key Entry} {key : Key} {old : Entry}
    (stored : store key = some old) (live : machine.expired key time old = false) :
    evict machine time store key = some old := by
  simp [evict, stored, Option.filter, live]

variable {machine}

theorem Agrees.later {time later : Time} {evicted kept : Store Key Entry}
    (agrees : Agrees machine time evicted kept) (le : time ≤ later) :
    Agrees machine later evicted kept := by
  intro key
  obtain same | ⟨gone, old, stored, dead⟩ := agrees key
  · exact Or.inl same
  · exact Or.inr ⟨gone, old, stored, machine.persists key time later old le dead⟩

theorem Agrees.evict {time : Time} {evicted kept : Store Key Entry}
    (agrees : Agrees machine time evicted kept) :
    Agrees machine time (evict machine time evicted) kept := by
  intro key
  obtain same | ⟨gone, expired⟩ := agrees key
  · cases stored : kept key with
    | none => simp [Expiry.evict, same, stored]
    | some old =>
      cases dead : machine.expired key time old with
      | false => simp [Expiry.evict, same, stored, Option.filter, dead]
      | true => simp [Expiry.evict, same, stored, Option.filter, dead]
  · exact Or.inr ⟨by simp [Expiry.evict, gone], expired⟩

variable [DecidableEq Key] (machine)

/-- A call on its own entry. -/
def call (store : Store Key Entry) (made : Call) : Answer × Store Key Entry :=
  match machine.ignored made with
  | some answer => (answer, store)
  | none =>
    let old := store (machine.key made)
    (machine.answer made old, Function.update store (machine.key made) (machine.entry made old))

/-- A call after a cleanup of the whole store. -/
def callEvicting (store : Store Key Entry) (made : Call) : Answer × Store Key Entry :=
  match machine.ignored made with
  | some answer => (answer, store)
  | none => call machine (evict machine (machine.now made) store) made

/-- An evicting call leaves the live entries of other keys alone. -/
theorem callEvicting_other {store : Store Key Entry} {made : Call} {key : Key} {old : Entry}
    (other : key ≠ machine.key made) (stored : store key = some old)
    (live : machine.expired key (machine.now made) old = false) :
    (callEvicting machine store made).2 key = some old := by
  unfold callEvicting
  split
  · exact stored
  · next used =>
    simp only [call, used, Function.update_of_ne other]
    exact evict_of_live machine stored live

/-- A call leaves the entries of other keys alone. -/
theorem call_other {store : Store Key Entry} {made : Call} {key : Key}
    (other : key ≠ machine.key made ∨ machine.ignored made ≠ none) :
    (call machine store made).2 key = store key := by
  unfold call
  split
  · rfl
  · next used =>
    obtain other | ignored := other
    · exact Function.update_of_ne other _ _
    · exact absurd used ignored

theorem after_other {store : Store Key Entry} {calls : List Call} {key : Key}
    (others : ∀ made ∈ calls, key ≠ machine.key made ∨ machine.ignored made ≠ none) :
    after (call machine) store calls key = store key := by
  induction calls generalizing store with
  | nil => rfl
  | cons made rest ih =>
    rw [after, List.foldl_cons]
    exact (ih fun later member => others later (List.mem_cons_of_mem made member)).trans
      (call_other machine (others made List.mem_cons_self))

variable {machine}

/-- One call: the answers are equal and the stores agree. -/
theorem Agrees.call {made : Call} {evicted kept : Store Key Entry}
    (agrees : Agrees machine (machine.now made) evicted kept) :
    (callEvicting machine evicted made).1 = (call machine kept made).1 ∧
      Agrees machine (machine.now made) (callEvicting machine evicted made).2
        (call machine kept made).2 := by
  unfold callEvicting Expiry.call
  split
  · exact ⟨rfl, agrees⟩
  · have swept := agrees.evict
    have own : machine.answer made (Expiry.evict machine (machine.now made) evicted (machine.key made)) =
          machine.answer made (kept (machine.key made)) ∧
        machine.entry made (Expiry.evict machine (machine.now made) evicted (machine.key made)) =
          machine.entry made (kept (machine.key made)) := by
      obtain same | ⟨gone, old, stored, dead⟩ := swept (machine.key made)
      · rw [same]
        exact ⟨rfl, rfl⟩
      · obtain ⟨answer, entry⟩ := machine.fresh made old dead
        rw [gone, stored, answer, entry]
        exact ⟨rfl, rfl⟩
    constructor
    · exact own.1
    · intro key
      by_cases same : key = machine.key made
      · subst same
        simp [own.2]
      · simpa [Function.update_of_ne same] using swept key

/-- Over a run the evicting machine gives the same answers. -/
theorem answers_callEvicting {calls : List Call}
    (ordered : calls.Pairwise fun first second => machine.now first ≤ machine.now second) :
    ∀ {time : Time} {evicted kept : Store Key Entry}, Agrees machine time evicted kept →
      (∀ made ∈ calls, time ≤ machine.now made) →
      answers (callEvicting machine) evicted calls = answers (call machine) kept calls := by
  induction ordered with
  | nil => exact fun _ _ => rfl
  | @cons made rest least _ ih =>
    intro time evicted kept agrees later
    obtain ⟨same, next⟩ := (agrees.later (later made List.mem_cons_self)).call
    rw [answers, answers, same, ih next least]

end EpicKfc.Lib.Expiry
