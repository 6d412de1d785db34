import EpicKfc.Lib.KeyedList
import Mathlib.Algebra.GroupWithZero.Nat
import Mathlib.Data.List.Induction

/-!
# Folding a list by keys

The items of each key are folded into one value, in their order; a new key starts
without a value.
-/

namespace EpicKfc.Lib.Grouping
open EpicKfc.Lib.KeyedList

variable {α β κ τ : Type} [DecidableEq κ] (key : β → κ) (step : Option α → β → α)

/-- One more item in its group. -/
def add (groups : List (κ × α)) (item : β) : List (κ × α) :=
  upsert Prod.fst (key item, step ((find Prod.fst (key item) groups).map Prod.snd) item) groups

def foldByKey (items : List β) : List (κ × α) := items.foldl (add key step) []

/-- The value of a group. -/
def folded (items : List β) : Option α := items.foldl (fun value item => some (step value item)) none

variable {key step}

section Labels
variable {label : α → τ} {size : α → Nat} {tag : β → τ}

end Labels

end EpicKfc.Lib.Grouping
