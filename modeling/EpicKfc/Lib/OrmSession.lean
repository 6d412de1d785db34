import Mathlib.Logic.Function.Basic

/-!
# Sessions of an object mapper

A session works on the database inside a transaction and keeps an instance of
every row it has read. A commit makes the writes of the transaction durable and
leaves the instances alone; a rollback drops the writes and expires every
instance. The attributes of an expired instance cannot be read before the
instance is loaded again.
-/

namespace EpicKfc.Lib.OrmSession

inductive Instance (α : Type) where
  | loaded (row : α)
  | expired

/-- Rows are named by keys, and a key says what its row holds. -/
structure Session (δ κ : Type) (ρ : κ → Type) where
  committed : δ
  working : δ
  instances : (k : κ) → Option (Instance (ρ k))

namespace Session

variable {δ κ : Type} {ρ : κ → Type}

def start (database : δ) : Session δ κ ρ := ⟨database, database, fun _ => none⟩

def write (change : δ → δ) (session : Session δ κ ρ) : Session δ κ ρ :=
  { session with working := change session.working }

def load [DecidableEq κ] (k : κ) (row : ρ k) (session : Session δ κ ρ) : Session δ κ ρ :=
  { session with instances := Function.update session.instances k (some (.loaded row)) }

/-- A commit that expires nothing. -/
def commit (session : Session δ κ ρ) : Session δ κ ρ :=
  { session with committed := session.working }

def rollback (session : Session δ κ ρ) : Session δ κ ρ where
  committed := session.committed
  working := session.committed
  instances k := (session.instances k).map fun _ => .expired

/-- What can be read of an instance without loading it. -/
def attributes (k : κ) (session : Session δ κ ρ) : Option (ρ k) :=
  match session.instances k with
  | some (.loaded row) => some row
  | _ => none

variable (session : Session δ κ ρ)

@[simp] theorem attributes_write (change : δ → δ) (k : κ) :
    (session.write change).attributes k = session.attributes k := rfl

@[simp] theorem attributes_commit (k : κ) : session.commit.attributes k = session.attributes k := rfl

@[simp] theorem attributes_load [DecidableEq κ] (k : κ) (row : ρ k) :
    (session.load k row).attributes k = some row := by
  simp [attributes, load]

theorem attributes_load_of_ne [DecidableEq κ] {k other : κ} (row : ρ k) (different : other ≠ k) :
    (session.load k row).attributes other = session.attributes other := by
  simp [attributes, load, Function.update_of_ne different]

/-- After a rollback nothing can be read before it is loaded again. -/
@[simp] theorem attributes_rollback (k : κ) : session.rollback.attributes k = none := by
  cases held : session.instances k with
  | none => simp [attributes, rollback, held]
  | some kept => simp [attributes, rollback, held]

@[simp] theorem working_write (change : δ → δ) :
    (session.write change).working = change session.working := rfl

@[simp] theorem working_load [DecidableEq κ] (k : κ) (row : ρ k) :
    (session.load k row).working = session.working := rfl

@[simp] theorem working_commit : session.commit.working = session.working := rfl

@[simp] theorem working_rollback : session.rollback.working = session.committed := rfl

@[simp] theorem working_start (database : δ) : (start database : Session δ κ ρ).working = database :=
  rfl

@[simp] theorem committed_write (change : δ → δ) :
    (session.write change).committed = session.committed := rfl

@[simp] theorem committed_load [DecidableEq κ] (k : κ) (row : ρ k) :
    (session.load k row).committed = session.committed := rfl

@[simp] theorem committed_commit : session.commit.committed = session.working := rfl

@[simp] theorem committed_rollback : session.rollback.committed = session.committed := rfl

@[simp] theorem committed_start (database : δ) :
    (start database : Session δ κ ρ).committed = database := rfl

end Session

end EpicKfc.Lib.OrmSession
