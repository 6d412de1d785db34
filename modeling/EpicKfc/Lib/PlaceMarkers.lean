import Mathlib.Data.List.Basic

/-!
# Numbered place markers

Qt's `QString::arg`: a percent sign, perhaps an L, and one or two digits are a place
marker; an argument takes the places of the lowest number that is left, also where an
earlier argument brought the marker in.
-/

namespace EpicKfc.Lib.PlaceMarkers

def digit (char : Char) : Nat := char.toNat - '0'.toNat

/-- The number that the digits at the start give, and how many they are. -/
def digits : List Char → Option (Nat × Nat)
  | first :: rest =>
    if first.isDigit then
      match rest with
      | second :: _ =>
        if second.isDigit then some (10 * digit first + digit second, 2) else some (digit first, 1)
      | [] => some (digit first, 1)
    else none
  | [] => none

/-- The number of a place marker at the start, and how many characters follow its percent sign. -/
def marker : List Char → Option (Nat × Nat)
  | '%' :: 'L' :: rest => (digits rest).map fun (number, count) => (number, count + 1)
  | '%' :: rest => digits rest
  | _ => none

/-- The lowest number of a place marker. -/
def lowest : List Char → Option Nat
  | [] => none
  | char :: rest =>
    match marker (char :: rest), lowest rest with
    | some (number, _), some other => some (min number other)
    | some (number, _), none => some number
    | none, other => other

/-- The text with an argument in the places of one number; the first characters may be passed over. -/
def replaced (number : Nat) (argument : List Char) : Nat → List Char → List Char
  | _, [] => []
  | passed + 1, _ :: rest => replaced number argument passed rest
  | 0, char :: rest =>
    match marker (char :: rest) with
    | some (found, count) =>
      if found = number then argument ++ replaced number argument count rest
      else char :: replaced number argument 0 rest
    | none => char :: replaced number argument 0 rest

def arg (text argument : List Char) : List Char :=
  match lowest text with
  | none => text
  | some number => replaced number argument 0 text

/-! ## Text without place markers -/

theorem marker_of_plain {char : Char} (plain : char ≠ '%') (rest : List Char) :
    marker (char :: rest) = none := by
  unfold marker
  split
  · next same => exact absurd (List.cons.inj same).1 plain
  · next same => exact absurd (List.cons.inj same).1 plain
  · rfl

theorem lowest_append {plain : List Char} (free : '%' ∉ plain) (rest : List Char) :
    lowest (plain ++ rest) = lowest rest := by
  induction plain with
  | nil => rfl
  | cons char plain ih =>
    rw [List.mem_cons, not_or] at free
    rw [List.cons_append, lowest, marker_of_plain (Ne.symm free.1), ih free.2]

theorem replaced_append (number : Nat) (argument : List Char) {plain : List Char}
    (free : '%' ∉ plain) (rest : List Char) :
    replaced number argument 0 (plain ++ rest) = plain ++ replaced number argument 0 rest := by
  induction plain with
  | nil => rfl
  | cons char plain ih =>
    rw [List.mem_cons, not_or] at free
    rw [List.cons_append, replaced, marker_of_plain (Ne.symm free.1)]
    exact congrArg (char :: ·) (ih free.2)

/-- A pair with a colon between, where the first part holds no percent sign. -/
theorem arg_pair {first : List Char} (free : '%' ∉ first) (second : List Char) :
    arg (arg ['%', '1', ':', '%', '2'] first) second = first ++ ':' :: second := by
  have once : arg ['%', '1', ':', '%', '2'] first = first ++ [':', '%', '2'] := rfl
  have left : lowest (first ++ [':', '%', '2']) = some 2 := lowest_append free _
  rw [once, arg, left]
  refine (replaced_append 2 second free _).trans ?_
  have last : replaced 2 second 0 [':', '%', '2'] = ':' :: (second ++ []) := rfl
  rw [last, List.append_nil]

/-- The last of some separators splits a text. -/
theorem append_cons_inj {α : Type} {separator : α} {first first' second second' : List α}
    (free : separator ∉ second) (free' : separator ∉ second')
    (same : first ++ separator :: second = first' ++ separator :: second') : first = first' := by
  induction first generalizing first' with
  | nil =>
    cases first' with
    | nil => rfl
    | cons head rest =>
      rw [List.nil_append, List.cons_append] at same
      exact absurd (by rw [(List.cons.inj same).2]; simp) free
  | cons head rest ih =>
    cases first' with
    | nil =>
      rw [List.nil_append, List.cons_append] at same
      exact absurd (by rw [← (List.cons.inj same).2]; simp) free'
    | cons head' rest' =>
      rw [List.cons_append, List.cons_append] at same
      obtain ⟨rfl, later⟩ := List.cons.inj same
      rw [ih later]

end EpicKfc.Lib.PlaceMarkers
