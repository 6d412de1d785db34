import EpicKfc.Lib.Json
import Mathlib.Data.List.Forall2

/-!
# Strict models

Readers of JSON objects by declared fields. A reading reports the faults of all fields, each
with its location, and every member that no field declares.
-/

namespace EpicKfc.Lib.StrictModels

inductive Step where
  | name (key : String)
  | index (position : Nat)
deriving DecidableEq, Repr

structure Fault where
  type : String
  loc : List Step
  msg : String
deriving DecidableEq, Repr

abbrev Checked (α : Type) := Except (List Fault) α

abbrev Reader (α : Type) := Json → Checked α

variable {α β : Type}

def fail (type msg : String) : Checked α := .error [⟨type, [], msg⟩]

/-- A reading inside a field or an item. -/
def inside (step : Step) : Checked α → Checked α
  | .ok value => .ok value
  | .error faults => .error (faults.map fun fault => { fault with loc := step :: fault.loc })

/-- Two readings, with the faults of both. -/
def both : Checked α → Checked β → Checked (α × β)
  | .ok first, .ok second => .ok (first, second)
  | .ok _, .error faults => .error faults
  | .error faults, .ok _ => .error faults
  | .error faults, .error faults' => .error (faults ++ faults')

def required (name : String) (read : Reader α) (members : Json.Members) : Checked α :=
  inside (.name name) (match Json.lookup members name with
    | none => fail "missing" "Field required"
    | some item => read item)

def defaulted (name : String) (default : α) (read : Reader α) (members : Json.Members) : Checked α :=
  match Json.lookup members name with
  | none => .ok default
  | some item => inside (.name name) (read item)

def orNull (read : Reader α) : Reader (Option α)
  | .null => .ok none
  | item => (read item).map some

/-- A reader whose value is then checked. -/
def andThen (read : Reader α) (check : α → Checked β) : Reader β := fun item => (read item).bind check

/-- The items of a list, from a position on. -/
def items (read : Reader α) : Nat → List Json → Checked (List α)
  | _, [] => .ok []
  | position, item :: rest =>
    (both (inside (.index position) (read item)) (items read (position + 1) rest)).map
      fun (first, others) => first :: others

def noOthers (fields : List String) (members : Json.Members) : Checked Unit :=
  let others := members.filter fun member => member.1 ∉ fields
  if others.isEmpty then .ok ()
  else .error (others.map fun member =>
    ⟨"extra_forbidden", [.name member.1], "Extra inputs are not permitted"⟩)

def strictModel (fields : List String) (read : Json.Members → Checked α) : Reader α
  | .object members => (both (read members) (noOthers fields members)).map Prod.fst
  | _ => fail "model_attributes_type"
      "Input should be a valid dictionary or object to extract fields from"

/-! ## What is accepted -/

theorem map_eq_ok {ε : Type} {read : Except ε α} {change : α → β} {value : β} :
    read.map change = .ok value ↔ ∃ before, read = .ok before ∧ change before = value := by
  cases read <;> simp [Except.map]

@[simp] theorem inside_eq_ok {step : Step} {read : Checked α} {value : α} :
    inside step read = .ok value ↔ read = .ok value := by
  cases read <;> simp [inside]

@[simp] theorem both_eq_ok {first : Checked α} {second : Checked β} {values : α × β} :
    both first second = .ok values ↔ first = .ok values.1 ∧ second = .ok values.2 := by
  obtain ⟨value, value'⟩ := values
  cases first <;> cases second <;> simp [both]

theorem required_eq_ok {name : String} {read : Reader α} {members : Json.Members} {value : α} :
    required name read members = .ok value ↔
      ∃ item, Json.lookup members name = some item ∧ read item = .ok value := by
  rw [required, inside_eq_ok]
  cases Json.lookup members name <;> simp [fail]

theorem defaulted_eq_ok {name : String} {default : α} {read : Reader α} {members : Json.Members}
    {value : α} : defaulted name default read members = .ok value ↔
      (Json.lookup members name = none ∧ value = default) ∨
        ∃ item, Json.lookup members name = some item ∧ read item = .ok value := by
  unfold defaulted
  cases Json.lookup members name with
  | none => simp [eq_comm]
  | some item => simp

theorem andThen_eq_ok {read : Reader α} {check : α → Checked β} {item : Json} {value : β} :
    andThen read check item = .ok value ↔
      ∃ before, read item = .ok before ∧ check before = .ok value := by
  unfold andThen
  cases read item <;> simp [Except.bind]

theorem items_eq_ok {read : Reader α} {position : Nat} {list : List Json} {values : List α} :
    items read position list = .ok values ↔
      List.Forall₂ (fun item value => read item = .ok value) list values := by
  induction list generalizing position values with
  | nil => simp [items, List.forall₂_nil_left_iff, eq_comm]
  | cons item rest ih =>
    rw [items, map_eq_ok]
    cases values with
    | nil => simp [List.forall₂_nil_right_iff]
    | cons value others => simp [ih]

/-- What is read comes from an item that is listed. -/
theorem exists_item {γ : Type} {relates : γ → α → Prop} {list : List γ} {values : List α}
    (read : List.Forall₂ relates list values) {value : α} (member : value ∈ values) :
    ∃ item ∈ list, relates item value := by
  induction read with
  | nil => cases member
  | cons first rest ih =>
    obtain rfl | later := List.mem_cons.mp member
    · exact ⟨_, List.mem_cons_self, first⟩
    · obtain ⟨item, listed, related⟩ := ih later
      exact ⟨item, List.mem_cons_of_mem _ listed, related⟩

/-- Items that can be read one by one can be read as a list. -/
theorem exists_values {γ : Type} {relates : γ → α → Prop} {list : List γ}
    (each : ∀ item ∈ list, ∃ value, relates item value) : ∃ values, List.Forall₂ relates list values := by
  induction list with
  | nil => exact ⟨[], .nil⟩
  | cons item rest ih =>
    obtain ⟨value, read⟩ := each item List.mem_cons_self
    obtain ⟨values, others⟩ := ih fun later member => each later (List.mem_cons_of_mem _ member)
    exact ⟨value :: values, .cons read others⟩

theorem map_eq_of_forall₂ {γ δ : Type} {relates : γ → α → Prop} {list : List γ} {values : List α}
    {first : γ → δ} {second : α → δ} (read : List.Forall₂ relates list values)
    (same : ∀ item value, relates item value → first item = second value) :
    list.map first = values.map second := by
  induction read with
  | nil => rfl
  | cons related rest ih => rw [List.map_cons, List.map_cons, same _ _ related, ih]

theorem noOthers_eq_ok {fields : List String} {members : Json.Members} :
    noOthers fields members = .ok () ↔ ∀ member ∈ members, member.1 ∈ fields := by
  simp only [noOthers]
  split
  · next none => simpa [List.filter_eq_nil_iff] using none
  · next some => simpa [List.filter_eq_nil_iff] using some

theorem strictModel_eq_ok {fields : List String} {read : Json.Members → Checked α}
    {members : Json.Members} {value : α} :
    strictModel fields read (.object members) = .ok value ↔
      read members = .ok value ∧ ∀ member ∈ members, member.1 ∈ fields := by
  rw [strictModel, map_eq_ok, ← noOthers_eq_ok]
  constructor
  · rintro ⟨⟨first, _⟩, accepted, rfl⟩
    exact both_eq_ok.mp accepted
  · intro accepted
    exact ⟨(value, ()), both_eq_ok.mpr accepted, rfl⟩

end EpicKfc.Lib.StrictModels
