import Mathlib.Data.Set.Lattice
import Mathlib.Order.CompletePartialOrder

/-!
# What an operation reads and writes

A state is observed through its cells. An operation that writes none of the cells
another one reads does not change what the other one returns.
-/

namespace EpicKfc.Lib.Footprints

variable {σ κ α : Type} {ν : κ → Type} (cell : σ → (k : κ) → ν k)

def AgreeOn (cells : Set κ) (s s' : σ) : Prop := ∀ k ∈ cells, cell s k = cell s' k

/-- The result depends on these cells alone. -/
def ReadsWithin (result : σ → α) (cells : Set κ) : Prop :=
  ∀ s s', AgreeOn cell cells s s' → result s = result s'

/-- All other cells are left as they are. -/
def WritesWithin (change : σ → σ) (cells : Set κ) : Prop :=
  ∀ s, ∀ k ∉ cells, cell (change s) k = cell s k

variable {cell} {result : σ → α} {cells cells' : Set κ}

/-- A state that differs elsewhere gives the same result. -/
theorem ReadsWithin.unaffected (reads : ReadsWithin cell result cells) {s s' : σ}
    (writes : ∀ k ∉ cells', cell s' k = cell s k) (apart : Disjoint cells cells') :
    result s' = result s := by
  apply reads
  intro k inside
  exact writes k fun written => Set.disjoint_left.mp apart inside written

end EpicKfc.Lib.Footprints
