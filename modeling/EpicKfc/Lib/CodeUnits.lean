import Mathlib.Data.List.Basic

/-!
# Strings as UTF-16 code units

The strings of a language with UTF-16 strings, and their order by code units from
the left. A character outside the first plane is a pair of surrogates, so the
order is not that of the characters, but it is total.
-/

namespace EpicKfc.Lib.CodeUnits

/-- The code units of one character. -/
def units (char : Char) : List Nat :=
  if char.toNat < 0x10000 then [char.toNat]
  else [0xd800 + (char.toNat - 0x10000) / 0x400, 0xdc00 + (char.toNat - 0x10000) % 0x400]

def codeUnits (text : List Char) : List Nat := text.flatMap units

/-- Before in the order of code units. -/
def Before (first second : List Char) : Prop :=
  List.Lex (fun unit unit' => unit < unit') (codeUnits first) (codeUnits second)

instance : DecidableRel Before := fun first second =>
  inferInstanceAs (Decidable (List.Lex _ (codeUnits first) (codeUnits second)))

theorem codeUnits_cons (char : Char) (rest : List Char) :
    codeUnits (char :: rest) = units char ++ codeUnits rest := rfl

/-- Text of the first plane, without surrogates, is its own code units. -/
theorem codeUnits_of_small {text : List Char} (small : ∀ char ∈ text, char.toNat < 0x10000) :
    codeUnits text = text.map Char.toNat := by
  induction text with
  | nil => rfl
  | cons char rest ih =>
    rw [codeUnits_cons, units, if_pos (small char List.mem_cons_self),
      ih fun other member => small other (List.mem_cons_of_mem _ member)]
    rfl

theorem toNat_valid (char : Char) :
    char.toNat < 0xd800 ∨ 0xdfff < char.toNat ∧ char.toNat < 0x110000 := char.valid

/-- The first code units tell the first character and where the rest begins. -/
theorem units_append_inj {first second : Char} {rest rest' : List Nat}
    (same : units first ++ rest = units second ++ rest') : first = second ∧ rest = rest' := by
  have valid := toNat_valid first
  have valid' := toNat_valid second
  have equal (codes : first.toNat = second.toNat) : first = second := Char.toNat_inj.mp codes
  unfold units at same
  split at same <;> split at same <;>
    simp only [List.cons_append, List.nil_append, List.cons.injEq] at same
  · exact ⟨equal same.1, same.2⟩
  · omega
  · omega
  · exact ⟨equal (by omega), same.2.2⟩

theorem codeUnits_injective : Function.Injective codeUnits := by
  have nonempty (char : Char) (rest : List Char) : codeUnits (char :: rest) ≠ [] := by
    rw [codeUnits_cons, units]
    split <;> simp
  intro first
  induction first with
  | nil =>
    intro second same
    cases second with
    | nil => rfl
    | cons char rest => exact absurd same.symm (nonempty char rest)
  | cons char rest ih =>
    intro second same
    cases second with
    | nil => exact absurd same (nonempty char rest)
    | cons char' rest' =>
      obtain ⟨rfl, later⟩ := units_append_inj same
      rw [ih later]

/-! ## A strict total order -/

theorem lex_asymm {first second : List Nat} (before : List.Lex (fun unit unit' => unit < unit') first second) :
    ¬ List.Lex (fun unit unit' => unit < unit') second first := by
  induction before with
  | nil => exact List.not_lex_nil
  | rel less =>
    rw [List.cons_lex_cons_iff]
    omega
  | cons _ ih =>
    rw [List.cons_lex_cons_iff]
    rintro (less | ⟨-, later⟩)
    · omega
    · exact ih later

theorem lex_total (first second : List Nat) :
    List.Lex (fun unit unit' => unit < unit') first second ∨ first = second ∨
      List.Lex (fun unit unit' => unit < unit') second first := by
  induction first generalizing second with
  | nil => cases second <;> simp
  | cons a rest ih =>
    cases second with
    | nil => simp
    | cons b rest' =>
      rw [List.cons_lex_cons_iff, List.cons_lex_cons_iff]
      rcases Nat.lt_trichotomy a b with less | same | more
      · exact Or.inl (Or.inl less)
      · subst same
        rcases ih rest' with before | equal | after
        · exact Or.inl (Or.inr ⟨rfl, before⟩)
        · exact Or.inr (Or.inl (by rw [equal]))
        · exact Or.inr (Or.inr (Or.inr ⟨rfl, after⟩))
      · exact Or.inr (Or.inr (Or.inl more))

theorem Before.asymm {first second : List Char} (before : Before first second) :
    ¬ Before second first := lex_asymm before

theorem Before.trans {first second third : List Char} (before : Before first second)
    (before' : Before second third) : Before first third :=
  List.lex_trans Nat.lt_trans before before'

theorem before_total (first second : List Char) :
    Before first second ∨ first = second ∨ Before second first := by
  rcases lex_total (codeUnits first) (codeUnits second) with before | same | after
  · exact Or.inl before
  · exact Or.inr (Or.inl (codeUnits_injective same))
  · exact Or.inr (Or.inr after)

end EpicKfc.Lib.CodeUnits
