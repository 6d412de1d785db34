import Mathlib.Logic.Relation

/-!
# Histories that name their past

A list that grows at its end, each new item being a root or the child of an item
that is already there. Following parents ends at a root. Where the items of the
list have at most one parent each, that root is the only one, and no item is its
own ancestor.
-/

namespace EpicKfc.Lib.Lineage
open Relation

variable {α : Type} {root : α → Prop} {childOf : α → α → Prop}

inductive Grown (root : α → Prop) (childOf : α → α → Prop) : List α → Prop
  | empty : Grown root childOf []
  | root {items : List α} {item : α} :
      Grown root childOf items → root item → Grown root childOf (items ++ [item])
  | child {items : List α} {item parent : α} : Grown root childOf items → parent ∈ items →
      childOf item parent → Grown root childOf (items ++ [item])

/-- One step up, inside the list. -/
structure Above (childOf : α → α → Prop) (items : List α) (item parent : α) : Prop where
  listed : item ∈ items
  parentListed : parent ∈ items
  related : childOf item parent

theorem Above.append {items : List α} {item parent : α} (above : Above childOf items item parent)
    (later : List α) : Above childOf (items ++ later) item parent :=
  ⟨List.mem_append_left _ above.listed, List.mem_append_left _ above.parentListed, above.related⟩

/-- Items may change as long as roots and children stay what they are. -/
theorem Grown.map {items : List α} (grown : Grown root childOf items) (change : α → α)
    (roots : ∀ item, root item → root (change item))
    (children : ∀ item parent, childOf item parent → childOf (change item) (change parent)) :
    Grown root childOf (items.map change) := by
  induction grown with
  | empty => exact .empty
  | root _ isRoot ih =>
    rw [List.map_append]
    exact ih.root (roots _ isRoot)
  | child _ listed related ih =>
    rw [List.map_append]
    exact ih.child (List.mem_map_of_mem listed) (children _ _ related)

/-- Parents lead to a root. -/
theorem Grown.rooted {items : List α} (grown : Grown root childOf items) :
    ∀ item ∈ items, ∃ first ∈ items, root first ∧ ReflTransGen (Above childOf items) item first := by
  induction grown with
  | empty => simp
  | @root items added _ isRoot ih =>
    intro item member
    obtain before | here := List.mem_append.mp member
    · obtain ⟨first, listed, isFirst, chain⟩ := ih item before
      exact ⟨first, List.mem_append_left _ listed, isFirst, ReflTransGen.mono (fun _ _ step => step.append _) _ _ chain⟩
    · rw [List.mem_singleton] at here
      subst here
      exact ⟨item, member, isRoot, .refl⟩
  | @child items added parent _ parentListed related ih =>
    intro item member
    obtain before | here := List.mem_append.mp member
    · obtain ⟨first, listed, isFirst, chain⟩ := ih item before
      exact ⟨first, List.mem_append_left _ listed, isFirst, ReflTransGen.mono (fun _ _ step => step.append _) _ _ chain⟩
    · rw [List.mem_singleton] at here
      subst here
      obtain ⟨first, listed, isFirst, chain⟩ := ih parent parentListed
      have up : Above childOf (items ++ [item]) item parent :=
        ⟨member, List.mem_append_left _ parentListed, related⟩
      exact ⟨first, List.mem_append_left _ listed, isFirst,
        .head up (ReflTransGen.mono (fun _ _ step => step.append _) _ _ chain)⟩

section SingleParent

variable {step : α → α → Prop} (single : ∀ item first second, step item first → step item second →
  first = second) (ends : ∀ item parent, root item → ¬ step item parent)
include single ends

/-- All chains of an item end at the same root. -/
theorem root_unique {item first second : α} (chain : ReflTransGen step item first)
    (chain' : ReflTransGen step item second) (isRoot : root first) (isRoot' : root second) :
    first = second := by
  induction chain using ReflTransGen.head_induction_on with
  | refl =>
    obtain same | ⟨parent, up, -⟩ := chain'.cases_head
    · exact same
    · exact absurd up (ends _ _ isRoot)
  | @head item parent up _ ih =>
    obtain rfl | ⟨parent', up', rest⟩ := chain'.cases_head
    · exact absurd up (ends _ _ isRoot')
    · rw [single _ _ _ up' up] at rest
      exact ih rest

/-- A chain to a root passes through no cycle. -/
theorem no_cycle_of_rooted {item first : α} (chain : ReflTransGen step item first)
    (isRoot : root first) : ¬ TransGen step item item := by
  induction chain using ReflTransGen.head_induction_on with
  | refl =>
    intro cycle
    obtain ⟨parent, up, -⟩ := TransGen.head'_iff.mp cycle
    exact ends _ _ isRoot up
  | @head item parent up _ ih =>
    intro cycle
    obtain ⟨parent', up', rest⟩ := TransGen.head'_iff.mp cycle
    rw [single _ _ _ up' up] at rest
    exact ih (TransGen.tail' rest up)

end SingleParent

end EpicKfc.Lib.Lineage
