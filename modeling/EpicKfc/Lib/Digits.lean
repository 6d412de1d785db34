import Mathlib.Data.List.Basic
import Mathlib.Data.List.Induction
import Mathlib.Tactic.Ring

/-!
# Fixed-width positional notation

`digits base width value` are the last `width` digits of `value`, most
significant first. They determine every value below `base ^ width`, and values
of one width compare as their digits do from the left.
-/

namespace EpicKfc.Lib.Digits

variable {base width : Nat}

def digits (base : Nat) : Nat → Nat → List Nat
  | 0, _ => []
  | width + 1, value => digits base width (value / base) ++ [value % base]

/-- Lower-case digits, enough for base sixteen. -/
def render (base width value : Nat) : List Char := (digits base width value).map Nat.digitChar

@[simp] theorem length_digits (width value : Nat) : (digits base width value).length = width := by
  induction width generalizing value with
  | zero => rfl
  | succ width ih => simp [digits, ih]

@[simp] theorem length_render (width value : Nat) : (render base width value).length = width := by
  simp [render]

theorem digits_lt (positive : 0 < base) (width value : Nat) :
    ∀ digit ∈ digits base width value, digit < base := by
  induction width generalizing value with
  | zero => simp [digits]
  | succ width ih =>
    intro digit member
    simp only [digits, List.mem_append, List.mem_singleton] at member
    rcases member with earlier | rfl
    · exact ih _ digit earlier
    · exact Nat.mod_lt _ positive

/-- Reading the digits back loses only what the width cannot hold. -/
theorem foldl_digits (width value : Nat) :
    (digits base width value).foldl (fun read digit => read * base + digit) 0 =
      value % base ^ width := by
  induction width generalizing value with
  | zero => simp [digits, Nat.mod_one]
  | succ width ih =>
    rw [digits, List.foldl_append, ih, List.foldl_cons, List.foldl_nil, Nat.pow_succ,
      Nat.mul_comm (base ^ width) base, Nat.mod_mul]
    ring

theorem digits_injective {first second : Nat} (fits : first < base ^ width)
    (fits' : second < base ^ width) (same : digits base width first = digits base width second) :
    first = second := by
  have read := congrArg (List.foldl (fun read digit => read * base + digit) 0) same
  rwa [foldl_digits, foldl_digits, Nat.mod_eq_of_lt fits, Nat.mod_eq_of_lt fits'] at read

theorem digitChar_injective : ∀ first < 16, ∀ second < 16,
    Nat.digitChar first = Nat.digitChar second → first = second := by decide

theorem render_injective (positive : 0 < base) (hex : base ≤ 16) {first second : Nat}
    (fits : first < base ^ width) (fits' : second < base ^ width)
    (same : render base width first = render base width second) : first = second := by
  apply digits_injective fits fits'
  have below (value : Nat) : ∀ digit ∈ digits base width value, digit < 16 :=
    fun digit member => lt_of_lt_of_le (digits_lt positive width value digit member) hex
  refine List.ext_getElem (by simp) fun i left right => ?_
  have char := congrArg (fun chars : List Char => chars[i]?) same
  simp only [render, List.getElem?_map, List.getElem?_eq_getElem left,
    List.getElem?_eq_getElem right, Option.map_some, Option.some.injEq] at char
  exact digitChar_injective _ (below first _ (List.getElem_mem left)) _
    (below second _ (List.getElem_mem right)) char

/-! ## Reading digits -/

def ofDigits (base : Nat) (read : List Nat) : Nat :=
  read.foldl (fun read digit => read * base + digit) 0

theorem ofDigits_digits (width value : Nat) :
    ofDigits base (digits base width value) = value % base ^ width := foldl_digits width value

theorem ofDigits_concat (read : List Nat) (last : Nat) :
    ofDigits base (read ++ [last]) = ofDigits base read * base + last := by
  rw [ofDigits, List.foldl_append]
  rfl

theorem ofDigits_cons (first : Nat) (rest : List Nat) :
    ofDigits base (first :: rest) = first * base ^ rest.length + ofDigits base rest := by
  induction rest using List.reverseRecOn with
  | nil => simp [ofDigits]
  | append_singleton rest last ih =>
    rw [← List.cons_append, ofDigits_concat, ih, ofDigits_concat, List.length_append,
      List.length_singleton, Nat.pow_succ]
    ring

theorem ofDigits_lt {read : List Nat} (small : ∀ digit ∈ read, digit < base) :
    ofDigits base read < base ^ read.length := by
  induction read with
  | nil => simp [ofDigits]
  | cons first rest ih =>
    have below := ih fun digit member => small digit (List.mem_cons_of_mem _ member)
    have first_lt := small first List.mem_cons_self
    have scaled : (first + 1) * base ^ rest.length ≤ base * base ^ rest.length :=
      Nat.mul_le_mul_right _ first_lt
    rw [ofDigits_cons, List.length_cons, Nat.pow_succ, Nat.mul_comm (base ^ rest.length) base]
    rw [Nat.add_mul, Nat.one_mul] at scaled
    omega

theorem digits_ofDigits {read : List Nat} (small : ∀ digit ∈ read, digit < base) :
    digits base read.length (ofDigits base read) = read := by
  induction read using List.reverseRecOn with
  | nil => rfl
  | append_singleton rest last ih =>
    have last_lt : last < base := small last (by simp)
    have quotient : (ofDigits base rest * base + last) / base = ofDigits base rest := by
      rw [Nat.mul_comm, Nat.mul_add_div (by omega), Nat.div_eq_of_lt last_lt, Nat.add_zero]
    have remainder : (ofDigits base rest * base + last) % base = last := by
      rw [Nat.mul_comm, Nat.mul_add_mod, Nat.mod_eq_of_lt last_lt]
    rw [ofDigits_concat, List.length_append, List.length_singleton, digits, quotient, remainder,
      ih fun digit member => small digit (List.mem_append_left _ member)]

/-! ## Order -/

/-- Digit lists of one length compare from the left as their values do. -/
theorem ofDigits_lt_iff {first second : List Nat} (sized : first.length = second.length)
    (small : ∀ digit ∈ first, digit < base) (small' : ∀ digit ∈ second, digit < base) :
    List.Lex (· < ·) first second ↔ ofDigits base first < ofDigits base second := by
  induction first generalizing second with
  | nil =>
    rw [List.length_nil] at sized
    rw [List.length_eq_zero_iff.mp sized.symm]
    simp
  | cons a rest ih =>
    cases second with
    | nil => cases sized
    | cons b rest' =>
      have sized' : rest.length = rest'.length := Nat.succ.inj sized
      have small_rest : ∀ digit ∈ rest, digit < base :=
        fun digit member => small digit (List.mem_cons_of_mem _ member)
      have small_rest' : ∀ digit ∈ rest', digit < base :=
        fun digit member => small' digit (List.mem_cons_of_mem _ member)
      have below := ofDigits_lt small_rest
      have below' := ofDigits_lt small_rest'
      rw [List.cons_lex_cons_iff, ih sized' small_rest small_rest', ofDigits_cons, ofDigits_cons,
        sized']
      rw [sized'] at below
      rcases Nat.lt_trichotomy a b with less | same | more
      · have scaled : (a + 1) * base ^ rest'.length ≤ b * base ^ rest'.length :=
          Nat.mul_le_mul_right _ less
        rw [Nat.add_mul, Nat.one_mul] at scaled
        exact ⟨fun _ => by omega, fun _ => Or.inl less⟩
      · subst same
        simp
      · have scaled : (b + 1) * base ^ rest'.length ≤ a * base ^ rest'.length :=
          Nat.mul_le_mul_right _ more
        rw [Nat.add_mul, Nat.one_mul] at scaled
        constructor
        · rintro (less | ⟨same, -⟩) <;> omega
        · omega

/-- Values of one width compare as their digits. -/
theorem digits_lt_iff (positive : 0 < base) {first second : Nat} (fits : first < base ^ width)
    (fits' : second < base ^ width) :
    List.Lex (· < ·) (digits base width first) (digits base width second) ↔ first < second := by
  rw [ofDigits_lt_iff (by simp) (digits_lt positive width first) (digits_lt positive width second),
    ofDigits_digits, ofDigits_digits, Nat.mod_eq_of_lt fits, Nat.mod_eq_of_lt fits']

theorem digitChar_lt_iff : ∀ first < 16, ∀ second < 16,
    ((Nat.digitChar first).toNat < (Nat.digitChar second).toNat ↔ first < second) := by decide

end EpicKfc.Lib.Digits
