import EpicKfc.Lib.KeyedList

/-!
# Rows under transactions

A table with a unique key, as concurrent transactions see it. A row has the value
committed last and, while a transaction holds the row, the value it would commit;
a held row without a committed value is an insert nobody else sees. Keys are
neither changed nor deleted, so a committed row conflicts with every insert of
its key.
-/

namespace EpicKfc.Lib.RowTable

structure Row (τ α : Type) where
  committed : Option α
  held : Option (τ × α)
deriving DecidableEq

abbrev Table (κ τ α : Type) := List (κ × Row τ α)

variable {κ τ α : Type} [DecidableEq κ]

def row (k : κ) (table : Table κ τ α) : Row τ α :=
  ((KeyedList.find Prod.fst k table).map Prod.snd).getD ⟨none, none⟩

def put (k : κ) (value : Row τ α) (table : Table κ τ α) : Table κ τ α :=
  KeyedList.upsert Prod.fst (k, value) table

theorem row_nil (k : κ) : row k ([] : Table κ τ α) = ⟨none, none⟩ := rfl

theorem row_put (k k' : κ) (value : Row τ α) (table : Table κ τ α) :
    row k' (put k value table) = if k = k' then value else row k' table := by
  unfold row put
  rw [KeyedList.find_upsert]
  split <;> rfl

/-- A key that has a row occurs in the table with it. -/
theorem mem_of_row {k : κ} {table : Table κ τ α} (present : row k table ≠ ⟨none, none⟩) :
    (k, row k table) ∈ table := by
  unfold row at present ⊢
  cases found : KeyedList.find Prod.fst k table with
  | none =>
    rw [found] at present
    exact absurd rfl present
  | some entry =>
    obtain ⟨member, rfl⟩ := KeyedList.find_some found
    exact member

/-- The rows a statement of another transaction reads. -/
def committedRows (table : Table κ τ α) : List α :=
  table.filterMap fun entry => (row entry.1 table).committed

theorem mem_committedRows {value : α} {table : Table κ τ α} :
    value ∈ committedRows table ↔ ∃ k, (row k table).committed = some value := by
  rw [committedRows, List.mem_filterMap]
  constructor
  · rintro ⟨entry, -, stored⟩
    exact ⟨entry.1, stored⟩
  · rintro ⟨k, stored⟩
    refine ⟨(k, row k table), mem_of_row ?_, stored⟩
    intro empty
    rw [empty] at stored
    cases stored

variable [DecidableEq τ]

/-! ## Ends of transactions -/

def Row.commit (transaction : τ) (row : Row τ α) : Row τ α :=
  match row.held with
  | some (holder, value) => if holder = transaction then ⟨some value, none⟩ else row
  | none => row

def Row.rollback (transaction : τ) (row : Row τ α) : Row τ α :=
  match row.held with
  | some (holder, _) => if holder = transaction then ⟨row.committed, none⟩ else row
  | none => row

def commit (transaction : τ) (table : Table κ τ α) : Table κ τ α :=
  table.map fun entry => (entry.1, entry.2.commit transaction)

def rollback (transaction : τ) (table : Table κ τ α) : Table κ τ α :=
  table.map fun entry => (entry.1, entry.2.rollback transaction)

theorem row_commit (transaction : τ) (k : κ) (table : Table κ τ α) :
    row k (commit transaction table) = (row k table).commit transaction := by
  unfold row commit
  rw [KeyedList.find_map]
  · cases KeyedList.find Prod.fst k table <;> rfl
  · exact fun _ => rfl

theorem row_rollback (transaction : τ) (k : κ) (table : Table κ τ α) :
    row k (rollback transaction table) = (row k table).rollback transaction := by
  unfold row rollback
  rw [KeyedList.find_map]
  · cases KeyedList.find Prod.fst k table <;> rfl
  · exact fun _ => rfl

/-! ## Statements of a transaction -/

/-- A statement goes through, breaks the unique key, or waits for another transaction. -/
inductive Attempt (β : Type) where
  | done (result : β)
  | conflict
  | waits

def insert (transaction : τ) (k : κ) (value : α) (table : Table κ τ α) :
    Attempt (Table κ τ α) :=
  match row k table with
  | ⟨some _, _⟩ => .conflict
  | ⟨none, none⟩ => .done (put k ⟨none, some (transaction, value)⟩ table)
  | ⟨none, some (holder, _)⟩ => if holder = transaction then .conflict else .waits

/-- `FOR UPDATE SKIP LOCKED` on one row: its committed value, when nobody holds it. -/
def lockFree (transaction : τ) (k : κ) (table : Table κ τ α) : Option (α × Table κ τ α) :=
  match row k table with
  | ⟨some value, none⟩ => some (value, put k ⟨some value, some (transaction, value)⟩ table)
  | _ => none

def update (transaction : τ) (k : κ) (change : α → α) (table : Table κ τ α) :
    Option (Table κ τ α) :=
  match row k table with
  | ⟨committed, some (holder, value)⟩ =>
    if holder = transaction then some (put k ⟨committed, some (transaction, change value)⟩ table)
    else none
  | ⟨some value, none⟩ => some (put k ⟨some value, some (transaction, change value)⟩ table)
  | ⟨none, none⟩ => none

theorem insert_done {transaction : τ} {k : κ} {value : α} {table table' : Table κ τ α}
    (inserted : insert transaction k value table = .done table') :
    row k table = ⟨none, none⟩ ∧ table' = put k ⟨none, some (transaction, value)⟩ table := by
  unfold insert at inserted
  split at inserted
  · cases inserted
  · next free =>
    cases inserted
    exact ⟨free, rfl⟩
  · split at inserted <;> cases inserted

omit [DecidableEq τ] in
theorem lockFree_some {transaction : τ} {k : κ} {value : α} {table table' : Table κ τ α}
    (locked : lockFree transaction k table = some (value, table')) :
    row k table = ⟨some value, none⟩ ∧
      table' = put k ⟨some value, some (transaction, value)⟩ table := by
  unfold lockFree at locked
  split at locked
  · next free =>
    cases locked
    exact ⟨free, rfl⟩
  · cases locked

theorem update_some {transaction : τ} {k : κ} {change : α → α} {table table' : Table κ τ α}
    (updated : update transaction k change table = some table') :
    ∃ value, ((row k table).held = some (transaction, value) ∨
        (row k table).held = none ∧ (row k table).committed = some value) ∧
      table' = put k ⟨(row k table).committed, some (transaction, change value)⟩ table := by
  unfold update at updated
  split at updated
  · next committed holder value held =>
    split at updated
    · next same =>
      cases updated
      exact ⟨value, Or.inl (by rw [held, same]), by rw [held]⟩
    · cases updated
  · next value free =>
    cases updated
    exact ⟨value, Or.inr (by rw [free]; exact ⟨rfl, rfl⟩), by rw [free]⟩
  · cases updated

theorem update_of_held {transaction : τ} {k : κ} {change : α → α} {committed : Option α} {value : α}
    {table : Table κ τ α} (mine : row k table = ⟨committed, some (transaction, value)⟩) :
    update transaction k change table =
      some (put k ⟨committed, some (transaction, change value)⟩ table) := by
  unfold update
  rw [mine]
  exact if_pos rfl

theorem update_holder {transaction holder : τ} {k : κ} {change : α → α} {held : α}
    {table table' : Table κ τ α} (updated : update transaction k change table = some table')
    (holds : (row k table).held = some (holder, held)) : holder = transaction := by
  obtain ⟨value, mine | ⟨free, -⟩, -⟩ := update_some updated
  · rw [mine] at holds
    cases holds
    rfl
  · rw [free] at holds
    cases holds

/-! ## What others see -/

/-- Between the two tables `transaction` alone has worked, and has not committed. -/
structure Uncommitted (transaction : τ) (table table' : Table κ τ α) : Prop where
  committed : ∀ k, (row k table').committed = (row k table).committed
  others : ∀ k holder value, holder ≠ transaction →
    ((row k table').held = some (holder, value) ↔ (row k table).held = some (holder, value))

omit [DecidableEq τ] in
theorem Uncommitted.refl (transaction : τ) (table : Table κ τ α) :
    Uncommitted transaction table table := ⟨fun _ => rfl, fun _ _ _ _ => Iff.rfl⟩

omit [DecidableEq τ] in
/-- Rewriting a row that no other transaction holds. -/
theorem Uncommitted.put {transaction : τ} {k : κ} {committed : Option α} {value : α}
    {table : Table κ τ α} (same : (row k table).committed = committed)
    (free : ∀ holder held, (row k table).held = some (holder, held) → holder = transaction) :
    Uncommitted transaction table (put k ⟨committed, some (transaction, value)⟩ table) := by
  constructor
  · intro k'
    rw [row_put]
    split
    · next here => rw [← here, same]
    · rfl
  · intro k' holder held other
    rw [row_put]
    split
    · next here =>
      subst here
      constructor
      · intro mine
        cases mine
        exact absurd rfl other
      · exact fun theirs => absurd (free holder held theirs) other
    · rfl

theorem insert_uncommitted {transaction : τ} {k : κ} {value : α} {table table' : Table κ τ α}
    (inserted : insert transaction k value table = .done table') :
    Uncommitted transaction table table' := by
  obtain ⟨free, rfl⟩ := insert_done inserted
  exact .put (by rw [free]) (by simp [free])

theorem update_uncommitted {transaction : τ} {k : κ} {change : α → α} {table table' : Table κ τ α}
    (updated : update transaction k change table = some table') :
    Uncommitted transaction table table' := by
  obtain ⟨value, -, rfl⟩ := update_some updated
  exact .put rfl fun holder held holds => update_holder updated holds

theorem rollback_uncommitted (transaction : τ) (table : Table κ τ α) :
    Uncommitted transaction table (rollback transaction table) := by
  constructor
  · intro k
    rw [row_rollback, Row.rollback]
    split
    · split <;> rfl
    · rfl
  · intro k holder value other
    rw [row_rollback, Row.rollback]
    split
    · next theirs _ held =>
      by_cases same : theirs = transaction
      · simp [same, held, other.symm]
      · simp [same, held]
    · rfl

/-- After a rollback the transaction holds nothing. -/
theorem rollback_releases (transaction : τ) (k : κ) (value : α) (table : Table κ τ α) :
    (row k (rollback transaction table)).held ≠ some (transaction, value) := by
  rw [row_rollback, Row.rollback]
  split
  · split
    · nofun
    · next other =>
      intro mine
      simp_all
  · simp_all

/-- A commit changes exactly the rows its transaction holds. -/
theorem row_commit_cases (transaction : τ) (k : κ) (table : Table κ τ α) :
    (∃ value, (row k table).held = some (transaction, value) ∧
      row k (commit transaction table) = ⟨some value, none⟩) ∨
    ((∀ value, (row k table).held ≠ some (transaction, value)) ∧
      row k (commit transaction table) = row k table) := by
  rw [row_commit, Row.commit]
  cases held : (row k table).held with
  | none => exact Or.inr ⟨nofun, rfl⟩
  | some entry =>
    obtain ⟨holder, value⟩ := entry
    by_cases same : holder = transaction
    · subst same
      exact Or.inl ⟨value, rfl, if_pos rfl⟩
    · refine Or.inr ⟨fun value mine => ?_, if_neg same⟩
      cases mine
      exact same rfl

omit [DecidableEq τ] in
/-- A row that others hold is the same before and after. -/
theorem Uncommitted.row_eq {transaction : τ} {table table' : Table κ τ α}
    (work : Uncommitted transaction table table') {k : κ} {holder : τ} {value : α}
    (other : holder ≠ transaction) (held : (row k table').held = some (holder, value)) :
    row k table' = row k table := by
  have before := (work.others k holder value other).mp held
  have committed := work.committed k
  cases now : row k table'
  cases earlier : row k table
  simp_all

/-- Between the two tables `transaction` alone has worked: rows that others hold are the same. -/
structure OwnWork (transaction : τ) (table table' : Table κ τ α) : Prop where
  before : ∀ k holder value, holder ≠ transaction → (row k table).held = some (holder, value) →
    row k table' = row k table
  after : ∀ k holder value, holder ≠ transaction → (row k table').held = some (holder, value) →
    row k table' = row k table

omit [DecidableEq τ] in
theorem OwnWork.refl (transaction : τ) (table : Table κ τ α) : OwnWork transaction table table :=
  ⟨fun _ _ _ _ _ => rfl, fun _ _ _ _ _ => rfl⟩

omit [DecidableEq τ] in
theorem Uncommitted.ownWork {transaction : τ} {table table' : Table κ τ α}
    (work : Uncommitted transaction table table') : OwnWork transaction table table' := by
  constructor
  · intro k holder value other held
    exact work.row_eq other ((work.others k holder value other).mpr held)
  · exact fun k holder value other held => work.row_eq other held

theorem commit_ownWork (transaction : τ) (table : Table κ τ α) :
    OwnWork transaction table (commit transaction table) := by
  constructor
  · intro k holder value other held
    obtain ⟨own, mine, -⟩ | ⟨-, same⟩ := row_commit_cases transaction k table
    · rw [mine] at held
      cases held
      exact absurd rfl other
    · exact same
  · intro k holder value other held
    obtain ⟨own, -, now⟩ | ⟨-, same⟩ := row_commit_cases transaction k table
    · rw [now] at held
      cases held
    · exact same

/-! ## Properties of every value -/

/-- Every value of the table has the property under its key, committed or held. -/
def Every (property : κ → α → Prop) (table : Table κ τ α) : Prop :=
  ∀ k value, ((row k table).committed = some value ∨
    ∃ holder, (row k table).held = some (holder, value)) → property k value

variable {property : κ → α → Prop} {table : Table κ τ α}

omit [DecidableEq τ] in
theorem every_nil : Every property ([] : Table κ τ α) := by
  intro k value present
  simp [row_nil] at present

omit [DecidableEq τ] in
/-- A row is rewritten: its committed value stays, and the held one has the property. -/
theorem Every.put (before : Every property table) {transaction : τ} {k : κ} {value : α}
    (fits : property k value) :
    Every property (RowTable.put k ⟨(row k table).committed, some (transaction, value)⟩ table) := by
  intro k' value' present
  rw [row_put] at present
  split at present
  · next here =>
    subst here
    obtain stored | ⟨holder, held⟩ := present
    · exact before k value' (Or.inl stored)
    · cases held
      exact fits
  · exact before k' value' present

theorem Every.insert (before : Every property table) {transaction : τ} {k : κ} {value : α}
    {table' : Table κ τ α} (inserted : RowTable.insert transaction k value table = .done table')
    (fits : property k value) : Every property table' := by
  obtain ⟨free, rfl⟩ := insert_done inserted
  have kept := @Every.put _ _ _ _ _ _ before transaction _ _ fits
  rwa [free] at kept

omit [DecidableEq τ] in
theorem Every.lockFree (before : Every property table) {transaction : τ} {k : κ} {value : α}
    {table' : Table κ τ α} (locked : RowTable.lockFree transaction k table = some (value, table')) :
    Every property table' := by
  obtain ⟨free, rfl⟩ := lockFree_some locked
  have kept := @Every.put _ _ _ _ _ _ before transaction _ _ (before k value (Or.inl (by rw [free])))
  rwa [free] at kept

theorem Every.update (before : Every property table) {transaction : τ} {k : κ} {change : α → α}
    {table' : Table κ τ α} (updated : RowTable.update transaction k change table = some table')
    (fits : ∀ value, property k value → property k (change value)) : Every property table' := by
  obtain ⟨value, held, rfl⟩ := update_some updated
  refine before.put (fits value (before k value ?_))
  obtain mine | ⟨-, stored⟩ := held
  · exact Or.inr ⟨transaction, mine⟩
  · exact Or.inl stored

theorem Every.commit (before : Every property table) (transaction : τ) :
    Every property (RowTable.commit transaction table) := by
  intro k value present
  obtain ⟨held, mine, now⟩ | ⟨-, same⟩ := row_commit_cases transaction k table
  · rw [now] at present
    obtain stored | ⟨holder, other⟩ := present
    · cases stored
      exact before k value (Or.inr ⟨transaction, mine⟩)
    · cases other
  · exact before k value (same ▸ present)

theorem Every.rollback (before : Every property table) (transaction : τ) :
    Every property (RowTable.rollback transaction table) := by
  intro k value present
  rw [row_rollback, Row.rollback] at present
  split at present
  · split at present
    · exact before k value (Or.inl (present.resolve_right (by simp)))
    · exact before k value present
  · exact before k value present

end EpicKfc.Lib.RowTable
