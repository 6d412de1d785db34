import Mathlib.Data.List.Basic

/-!
# Flows of an event loop

A flow emits signals, asks questions that are answered at once, and starts calls
whose replies other flows handle later. What it does depends on the answers;
`Ensures` says what holds of the signals and calls however allowed answers come.
-/

namespace EpicKfc.Lib

/-- What flows of a program can do. -/
structure FlowInterface where
  Signal : Type
  Question : Type
  Answer : Question → Type
  Call : Type

/-- A program run by the event loop until it returns a value. -/
inductive Flow (I : FlowInterface) (α : Type) : Type where
  | done (value : α)
  | emitting (signal : I.Signal) (rest : Flow I α)
  | asking (question : I.Question) (rest : I.Answer question → Flow I α)
  | starting (call : I.Call) (rest : Flow I α)

namespace Flow

variable {I : FlowInterface} {α β : Type}

protected def bind : Flow I α → (α → Flow I β) → Flow I β
  | done value, next => next value
  | emitting signal rest, next => emitting signal (rest.bind next)
  | asking question rest, next => asking question fun answer => (rest answer).bind next
  | starting call rest, next => starting call (rest.bind next)

instance : Monad (Flow I) where
  pure := done
  bind := Flow.bind

def emit (signal : I.Signal) : Flow I Unit := emitting signal (done ())

def ask (question : I.Question) : Flow I (I.Answer question) := asking question done

def start (call : I.Call) : Flow I Unit := starting call (done ())

/-- The answers to the questions of one run, by their position in it. -/
abbrev Answers (I : FlowInterface) := Nat → (question : I.Question) → I.Answer question

/-- The signals and the calls of one run, each in order. -/
def perform (answers : Answers I) : Nat → Flow I α → List I.Signal × List I.Call
  | _, done _ => ([], [])
  | asked, emitting signal rest =>
    (signal :: (perform answers asked rest).1, (perform answers asked rest).2)
  | asked, asking question rest => perform answers (asked + 1) (rest (answers asked question))
  | asked, starting call rest =>
    ((perform answers asked rest).1, call :: (perform answers asked rest).2)

/-- Whatever the allowed answers, the signals, the calls and the value are as stated. -/
def Ensures (allowed : (question : I.Question) → I.Answer question → Prop) :
    Flow I α → (List I.Signal → List I.Call → α → Prop) → Prop
  | done value, post => post [] [] value
  | emitting signal rest, post => rest.Ensures allowed fun signals => post (signal :: signals)
  | asking question rest, post => ∀ answer, allowed question answer → (rest answer).Ensures allowed post
  | starting call rest, post =>
    rest.Ensures allowed fun signals calls => post signals (call :: calls)

variable {allowed : (question : I.Question) → I.Answer question → Prop}

/-- Every answer that the run asks for is an allowed one. -/
def Grants (allowed : (question : I.Question) → I.Answer question → Prop) (answers : Answers I) :
    Nat → Flow I α → Prop
  | _, done _ => True
  | asked, emitting _ rest => rest.Grants allowed answers asked
  | asked, asking question rest =>
    allowed question (answers asked question) ∧
      (rest (answers asked question)).Grants allowed answers (asked + 1)
  | asked, starting _ rest => rest.Grants allowed answers asked

theorem grants_any (answers : Answers I) (flow : Flow I α) :
    ∀ asked, flow.Grants (fun _ _ => True) answers asked := by
  induction flow with
  | done value => exact fun _ => trivial
  | emitting signal rest ih => exact ih
  | asking question rest ih => exact fun asked => ⟨trivial, ih _ (asked + 1)⟩
  | starting call rest ih => exact ih

/-- What is ensured holds of every run that is granted its answers. -/
theorem ensures_perform {answers : Answers I} (flow : Flow I α) :
    ∀ {post : List I.Signal → List I.Call → Prop} {asked : Nat},
      flow.Grants allowed answers asked →
        flow.Ensures allowed (fun signals calls _ => post signals calls) →
          post (flow.perform answers asked).1 (flow.perform answers asked).2 := by
  induction flow with
  | done value => exact fun _ ensured => ensured
  | emitting signal rest ih => exact fun granted ensured => ih granted ensured
  | asking question rest ih =>
    exact fun granted ensured => ih _ granted.2 (ensured _ granted.1)
  | starting call rest ih => exact fun granted ensured => ih granted ensured

theorem Ensures.mono {flow : Flow I α} : ∀ {post post' : List I.Signal → List I.Call → α → Prop},
    flow.Ensures allowed post → (∀ signals calls value, post signals calls value →
      post' signals calls value) → flow.Ensures allowed post' := by
  induction flow with
  | done value => exact fun ensured weaker => weaker _ _ _ ensured
  | emitting signal rest ih =>
    exact fun ensured weaker => ih ensured fun signals => weaker (signal :: signals)
  | asking question rest ih =>
    exact fun ensured weaker answer permitted => ih answer (ensured answer permitted) weaker
  | starting call rest ih =>
    exact fun ensured weaker => ih ensured fun signals calls => weaker signals (call :: calls)

theorem ensures_bind {flow : Flow I α} {next : α → Flow I β} :
    ∀ {post : List I.Signal → List I.Call → β → Prop},
      (flow >>= next).Ensures allowed post ↔ flow.Ensures allowed fun signals calls value =>
        (next value).Ensures allowed fun signals' calls' =>
          post (signals ++ signals') (calls ++ calls') := by
  induction flow with
  | done value => exact Iff.rfl
  | emitting signal rest ih => exact ih
  | asking question rest ih => exact forall_congr' fun answer => forall_congr' fun _ => ih answer
  | starting call rest ih => exact ih

@[simp] theorem ensures_pure (value : α) (post : List I.Signal → List I.Call → α → Prop) :
    (pure value : Flow I α).Ensures allowed post ↔ post [] [] value :=
  Iff.rfl

@[simp] theorem ensures_emit (signal : I.Signal) (post : List I.Signal → List I.Call → Unit → Prop) :
    (emit signal).Ensures allowed post ↔ post [signal] [] () :=
  Iff.rfl

@[simp] theorem ensures_start (call : I.Call) (post : List I.Signal → List I.Call → Unit → Prop) :
    (start call).Ensures allowed post ↔ post [] [call] () :=
  Iff.rfl

@[simp] theorem ensures_ask (question : I.Question)
    (post : List I.Signal → List I.Call → I.Answer question → Prop) :
    (ask question).Ensures allowed post ↔ ∀ answer, allowed question answer → post [] [] answer :=
  Iff.rfl

end Flow

end EpicKfc.Lib
