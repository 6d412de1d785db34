import Mathlib.Data.List.Basic

/-!
# Look-ups with one answer

Entries may answer to several identifiers. When no two of them answer to the same
one, a look-up that fails on several matches never fails, and it goes on finding
what it has found when more entries are added under the same condition.
-/

namespace EpicKfc.Lib.SoleMatches

variable {α ι : Type} (answers : ι → α → Prop)

/-- No two entries answer to one identifier. -/
def Exclusive (entries : List α) : Prop :=
  entries.Pairwise fun first second => ∀ i, ¬ (answers i first ∧ answers i second)

/-- Raised for a result of more than one entry. -/
inductive MultipleResults where
  | found
deriving DecidableEq, Repr

/-- The entry of a result that has at most one. -/
def oneOrNone : List α → Except MultipleResults (Option α)
  | [] => .ok none
  | [entry] => .ok (some entry)
  | _ :: _ :: _ => .error .found

def lookup [∀ i, DecidablePred (answers i)] (i : ι) (entries : List α) :
    Except MultipleResults (Option α) :=
  oneOrNone (entries.filter fun entry => answers i entry)

variable {answers} {entries : List α}

variable [∀ i, DecidablePred (answers i)]

theorem Exclusive.length_matches (exclusive : Exclusive answers entries) (i : ι) :
    (entries.filter fun entry => answers i entry).length ≤ 1 := by
  have apart := exclusive.sublist (List.filter_sublist (p := fun entry => decide (answers i entry)))
  have matching : ∀ entry ∈ entries.filter (fun entry => decide (answers i entry)), answers i entry :=
    fun entry member => of_decide_eq_true (List.mem_filter.mp member).2
  generalize entries.filter (fun entry => decide (answers i entry)) = results at apart matching
  match results with
  | [] => simp
  | [entry] => simp
  | first :: second :: rest =>
    have both : answers i first ∧ answers i second := ⟨matching first (by simp), matching second (by simp)⟩
    exact absurd both ((List.pairwise_cons.mp apart).1 second (by simp) i)

theorem oneOrNone_of_short {results : List α} (short : results.length ≤ 1) :
    oneOrNone results = .ok results.head? := by
  match results with
  | [] => rfl
  | [entry] => rfl
  | first :: second :: rest => simp at short

/-- A look-up among exclusive entries does not fail. -/
theorem Exclusive.lookup_ok (exclusive : Exclusive answers entries) (i : ι) :
    ∃ result, lookup answers i entries = .ok result :=
  ⟨_, oneOrNone_of_short (exclusive.length_matches i)⟩

theorem Exclusive.lookup_eq_some (exclusive : Exclusive answers entries) {i : ι} {entry : α} :
    lookup answers i entries = .ok (some entry) ↔ entry ∈ entries ∧ answers i entry := by
  have short := exclusive.length_matches i
  have listed : entry ∈ entries.filter (fun entry => decide (answers i entry)) ↔
      entry ∈ entries ∧ answers i entry := by
    rw [List.mem_filter, decide_eq_true_eq]
  rw [lookup, oneOrNone_of_short short, ← listed, Except.ok.injEq]
  generalize entries.filter (fun entry => decide (answers i entry)) = results at short
  match results with
  | [] => simp
  | [found] => simp [eq_comm]
  | first :: second :: rest => simp at short

/-- What is found stays found when the entries grow and remain exclusive. -/
theorem lookup_of_subset {later : List α} (exclusive : Exclusive answers entries)
    (exclusive' : Exclusive answers later) (grow : entries ⊆ later) {i : ι} {entry : α}
    (found : lookup answers i entries = .ok (some entry)) :
    lookup answers i later = .ok (some entry) := by
  obtain ⟨member, meets⟩ := exclusive.lookup_eq_some.mp found
  exact exclusive'.lookup_eq_some.mpr ⟨grow member, meets⟩

end EpicKfc.Lib.SoleMatches
