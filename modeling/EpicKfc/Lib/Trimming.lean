import Mathlib.Data.List.DropRight

/-!
# Trimming

A list without the entries of a kind at its two ends.
-/

namespace EpicKfc.Lib.Trimming

variable {α : Type} {drops : α → Bool} {entries : List α}

def trim (drops : α → Bool) (entries : List α) : List α :=
  (entries.dropWhile drops).rdropWhile drops

/-- There is nothing to drop at either end. -/
structure Trimmed (drops : α → Bool) (entries : List α) : Prop where
  starts : ∀ entry ∈ entries.head?, drops entry = false
  ends : ∀ entry ∈ entries.getLast?, drops entry = false

theorem dropWhile_of_head (kept : ∀ entry ∈ entries.head?, drops entry = false) :
    entries.dropWhile drops = entries := by
  cases entries with
  | nil => rfl
  | cons entry rest => rw [List.dropWhile_cons_of_neg (by simp [kept entry rfl])]

theorem head_dropWhile : ∀ entry ∈ (entries.dropWhile drops).head?, drops entry = false := by
  intro entry member
  have first := List.head?_dropWhile_not drops entries
  rw [Option.mem_def] at member
  rw [member] at first
  exact first

theorem trim_eq (trimmed : Trimmed drops entries) : trim drops entries = entries := by
  have last : ∀ entry ∈ entries.reverse.head?, drops entry = false := by
    simpa using trimmed.ends
  rw [trim, dropWhile_of_head trimmed.starts, List.rdropWhile, dropWhile_of_head last,
    List.reverse_reverse]

theorem trimmed_trim : Trimmed drops (trim drops entries) := by
  constructor
  · intro entry member
    obtain ⟨back, same⟩ := List.rdropWhile_prefix drops (entries.dropWhile drops)
    apply @head_dropWhile α drops entries
    rw [Option.mem_def] at member ⊢
    rw [← same, List.head?_append]
    unfold trim at member
    rw [member]
    rfl
  · intro entry member
    rw [trim, List.rdropWhile, List.getLast?_reverse] at member
    exact head_dropWhile entry member

theorem mem_of_mem_trim {entry : α} (member : entry ∈ trim drops entries) : entry ∈ entries :=
  (List.dropWhile_suffix drops).subset ((List.rdropWhile_prefix drops _).subset member)

/-- Trimming loses entries of the kind only. -/
theorem mem_trim_of_mem {entry : α} (member : entry ∈ entries) (kept : drops entry = false) :
    entry ∈ trim drops entries := by
  have stays (list : List α) (present : entry ∈ list) : entry ∈ list.dropWhile drops := by
    rw [← List.takeWhile_append_dropWhile (p := drops) (l := list), List.mem_append] at present
    rcases present with taken | left
    · have dropped := List.mem_takeWhile_imp taken
      rw [kept] at dropped
      cases dropped
    · exact left
  rw [trim, List.rdropWhile, List.mem_reverse]
  exact stays _ (List.mem_reverse.mpr (stays entries member))

end EpicKfc.Lib.Trimming
