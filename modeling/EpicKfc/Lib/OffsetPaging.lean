import Mathlib.Data.List.Basic
import Mathlib.Data.List.Nodup
import Mathlib.Data.List.Perm.Subperm

/-!
# Offset paging over an ordered list

Pages cut a list that is strictly ordered by an asymmetric relation. The position
of an element is the number of elements before it, so it is known from the set of
elements alone. Between two requests the list may change: as long as nothing
before the next offset leaves, an element at or past that offset stays there,
whatever is inserted.
-/

namespace EpicKfc.Lib.OffsetPaging

variable {α : Type} {before : α → α → Prop} [DecidableRel before]

def page (limit offset : Nat) (list : List α) : List α := (list.drop offset).take limit

/-- How many elements of the list come before `x`. -/
def position (before : α → α → Prop) [DecidableRel before] (x : α) (list : List α) : Nat :=
  list.countP fun y => before y x

/-- A page and what comes after it. -/
theorem page_append_drop (limit offset : Nat) (list : List α) :
    page limit offset list ++ list.drop (offset + limit) = list.drop offset := by
  rw [page, ← List.drop_drop, List.take_append_drop]

/-- How many pages a list has. -/
def pageCount (limit : Nat) (list : List α) : Nat := (list.length + limit - 1) / limit

variable (asymmetric : ∀ x y, before x y → ¬ before y x)
include asymmetric

/-- An element splits an ordered list at its position. -/
theorem split_at_position {list : List α} (sorted : list.Pairwise before) {x : α}
    (member : x ∈ list) :
    ∃ earlier later, list = earlier ++ x :: later ∧ earlier.length = position before x list ∧
      (∀ y ∈ earlier, before y x) ∧ ∀ y ∈ later, before x y := by
  obtain ⟨earlier, later, rfl⟩ := List.append_of_mem member
  rw [List.pairwise_append, List.pairwise_cons] at sorted
  obtain ⟨_, ⟨after, _⟩, crossing⟩ := sorted
  have ahead : ∀ y ∈ earlier, before y x := fun y belongs => crossing y belongs x List.mem_cons_self
  have irreflexive : ¬ before x x := fun reflexive => asymmetric x x reflexive reflexive
  have counted : earlier.countP (fun y => before y x) = earlier.length :=
    List.countP_eq_length.mpr fun y belongs => by simp [ahead y belongs]
  have uncounted : later.countP (fun y => before y x) = 0 :=
    List.countP_eq_zero.mpr fun y belongs => by simp [asymmetric x y (after y belongs)]
  refine ⟨earlier, later, rfl, ?_, ahead, after⟩
  rw [position, List.countP_append, List.countP_cons, counted, uncounted]
  simp [irreflexive]

omit [DecidableRel before] in
theorem nodup_of_sorted {list : List α} (sorted : list.Pairwise before) : list.Nodup :=
  sorted.imp fun {x y} ordered equal => by
    subst equal
    exact asymmetric x x ordered ordered

/-- A page shows exactly the elements whose position it covers. -/
theorem mem_page_of_position {list : List α} (sorted : list.Pairwise before) {x : α}
    (member : x ∈ list) {limit offset : Nat} (reached : offset ≤ position before x list)
    (covered : position before x list < offset + limit) : x ∈ page limit offset list := by
  obtain ⟨earlier, later, rfl, place, _, _⟩ := split_at_position asymmetric sorted member
  rw [page, List.mem_iff_getElem?]
  refine ⟨earlier.length - offset, ?_⟩
  rw [List.getElem?_take_of_lt (by omega), List.getElem?_drop,
    Nat.add_sub_of_le (by omega), List.getElem?_append_right (Nat.le_refl _), Nat.sub_self]
  rfl

theorem position_lt_length {list : List α} (sorted : list.Pairwise before) {x : α}
    (member : x ∈ list) : position before x list < list.length := by
  obtain ⟨earlier, later, rfl, place, _, _⟩ := split_at_position asymmetric sorted member
  rw [← place, List.length_append, List.length_cons]
  omega

/-- What lies before an offset that `x` has reached comes before `x`. -/
theorem before_of_mem_take {list : List α} (sorted : list.Pairwise before) {x : α}
    (member : x ∈ list) {offset : Nat} (reached : offset ≤ position before x list) :
    ∀ y ∈ list.take offset, before y x := by
  obtain ⟨earlier, later, rfl, place, ahead, _⟩ := split_at_position asymmetric sorted member
  intro y belongs
  rw [List.take_append_of_le_length (by omega)] at belongs
  exact ahead y (List.mem_of_mem_take belongs)

/-- Insertions and later departures never move an element back across an offset. -/
theorem position_kept {list list' : List α} (sorted : list.Pairwise before) {x : α}
    (member : x ∈ list) {offset : Nat}
    (kept : ∀ y ∈ list.take offset, y ∈ list') (reached : offset ≤ position before x list) :
    offset ≤ position before x list' := by
  have ahead := before_of_mem_take asymmetric sorted member reached
  have length : (list.take offset).length = offset := by
    have bound := position_lt_length asymmetric sorted member
    rw [List.length_take]
    omega
  have distinct : (list.take offset).Nodup :=
    (nodup_of_sorted asymmetric sorted).sublist (List.take_sublist offset list)
  have still : list.take offset ⊆ list'.filter fun y => before y x := by
    intro y belongs
    rw [List.mem_filter]
    exact ⟨kept y belongs, by simp [ahead y belongs]⟩
  calc offset = (list.take offset).length := length.symm
    _ ≤ (list'.filter fun y => before y x).length := (distinct.subperm still).length_le
    _ = position before x list' := by rw [position, List.countP_eq_length_filter]

end EpicKfc.Lib.OffsetPaging
