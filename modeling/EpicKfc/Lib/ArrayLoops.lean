import Mathlib.Data.List.FinRange
import Mathlib.Data.Vector.Basic

/-!
# Counting loops over fixed-size arrays

A `for (int i = 0; i < n; ++i)` loop is a left fold over `List.finRange n`. The
two facts needed about such loops are the same for every body that writes one
cell per iteration: a cell hit by iteration `p` ends with what iteration `p` made
of its old contents, provided no two iterations hit the same cell, and a cell no
iteration hits keeps its contents.
-/

namespace EpicKfc.Lib.ArrayLoops

variable {σ α ι : Type} {n : Nat}

/-- `for (int i = 0; i < n; ++i) body` on a loop state. -/
def forEach (n : Nat) (body : σ → Fin n → σ) (init : σ) : σ :=
  (List.finRange n).foldl body init

/-- Two nested counting loops, the first index outermost. -/
def forEach₂ (n m : Nat) (body : σ → Fin n → Fin m → σ) (init : σ) : σ :=
  forEach n (fun s i => forEach m (fun s j => body s i j) s) init

/-- The iterations of a nested loop in execution order. -/
def iterations (n m : Nat) : List (Fin n × Fin m) :=
  (List.finRange n).flatMap fun i => (List.finRange m).map fun j => (i, j)

theorem mem_iterations {n m : Nat} (p : Fin n × Fin m) : p ∈ iterations n m := by
  simp [iterations]

theorem iterations_nodup (n m : Nat) : (iterations n m).Nodup := by
  rw [iterations, List.nodup_flatMap]
  refine ⟨fun i _ => ?_, ?_⟩
  · exact (List.nodup_finRange m).map (fun _ _ h => (Prod.mk.inj h).2)
  · refine (List.nodup_finRange n).imp ?_
    intro i i' different p hp hp'
    simp only [List.mem_map, List.mem_finRange, true_and] at hp hp'
    obtain ⟨j, rfl⟩ := hp
    obtain ⟨j', equal⟩ := hp'
    exact different (Prod.mk.inj equal).1.symm

theorem forEach₂_eq_foldl {n m : Nat} (body : σ → Fin n → Fin m → σ) (init : σ) :
    forEach₂ n m body init =
      (iterations n m).foldl (fun s p => body s p.1 p.2) init := by
  simp only [forEach₂, forEach, iterations, List.foldl_flatMap, List.foldl_map]

/-- One loop iteration that rewrites the cell `cell p` from its own contents. -/
def writeCell (cell : ι → Fin n) (value : ι → α → α) (v : Vector α n) (p : ι) : Vector α n :=
  v.set (cell p) (value p v[cell p])

theorem writeCell_same (cell : ι → Fin n) (value : ι → α → α) (v : Vector α n) (p : ι) :
    (writeCell cell value v p)[cell p] = value p v[cell p] := by
  simp [writeCell]

theorem writeCell_other (cell : ι → Fin n) (value : ι → α → α) (v : Vector α n) (p : ι)
    (k : Fin n) (different : cell p ≠ k) :
    (writeCell cell value v p)[k] = v[k] := by
  have indices : (cell p).val ≠ k.val := fun equal => different (Fin.ext equal)
  simp [writeCell, indices]

/-- A cell that no iteration targets is left alone. -/
theorem foldl_writeCell_frame (cell : ι → Fin n) (value : ι → α → α) (loop : List ι) (k : Fin n) :
    ∀ v : Vector α n, (∀ p ∈ loop, cell p ≠ k) →
      (loop.foldl (writeCell cell value) v)[k] = v[k] := by
  induction loop with
  | nil => intro v _; rfl
  | cons p rest ih =>
    intro v untouched
    rw [List.foldl_cons, ih _ (fun q hq => untouched q (List.mem_cons_of_mem p hq))]
    exact writeCell_other cell value v p k (untouched p List.mem_cons_self)

/-- A cell targeted by exactly one iteration holds what that iteration wrote. -/
theorem foldl_writeCell_hit (cell : ι → Fin n) (value : ι → α → α)
    (injective : Function.Injective cell) (loop : List ι) :
    ∀ v : Vector α n, loop.Nodup → ∀ p ∈ loop,
      (loop.foldl (writeCell cell value) v)[cell p] = value p v[cell p] := by
  induction loop with
  | nil => intro v _ p member; cases member
  | cons q rest ih =>
    intro v unique p member
    have fresh := (List.nodup_cons.mp unique).1
    rw [List.foldl_cons]
    rcases List.mem_cons.mp member with rfl | later
    · rw [foldl_writeCell_frame cell value rest (cell p)]
      · exact writeCell_same cell value v p
      · intro r hr equal
        exact fresh (injective equal ▸ hr)
    · have different : cell q ≠ cell p := fun equal => fresh (injective equal ▸ later)
      rw [ih _ (List.nodup_cons.mp unique).2 p later,
        writeCell_other cell value v q (cell p) different]

theorem forEach_get {m : Nat} (cell : Fin m → Fin n) (value : Fin m → α → α)
    (injective : Function.Injective cell) (v : Vector α n) (i : Fin m) :
    (forEach m (fun v i => v.set (cell i) (value i v[cell i])) v)[cell i] = value i v[cell i] :=
  foldl_writeCell_hit cell value injective _ v (List.nodup_finRange m) i (List.mem_finRange i)

theorem forEach_get_frame {m : Nat} (cell : Fin m → Fin n) (value : Fin m → α → α)
    (v : Vector α n) (k : Fin n) (untouched : ∀ i, cell i ≠ k) :
    (forEach m (fun v i => v.set (cell i) (value i v[cell i])) v)[k] = v[k] :=
  foldl_writeCell_frame cell value _ k v fun i _ => untouched i

theorem forEach₂_get {a b : Nat} (cell : Fin a → Fin b → Fin n) (value : Fin a → Fin b → α → α)
    (injective : Function.Injective fun p : Fin a × Fin b => cell p.1 p.2)
    (v : Vector α n) (i : Fin a) (j : Fin b) :
    (forEach₂ a b (fun v i j => v.set (cell i j) (value i j v[cell i j])) v)[cell i j] =
      value i j v[cell i j] := by
  rw [forEach₂_eq_foldl]
  exact foldl_writeCell_hit (fun p => cell p.1 p.2) (fun p => value p.1 p.2) injective _ v
    (iterations_nodup a b) (i, j) (mem_iterations _)

end EpicKfc.Lib.ArrayLoops
