import EpicKfc.Lib.CodeUnits
import EpicKfc.Source.Blockchain.Bytes32

/-!
# 32-byte words as hexadecimal texts

`Hex32` of `blockchain/src/merkle.ts`: `0x` and 64 digits, of either case. The
libraries return lower case, and the code lowers the case of what it compares.
On lower-case texts the comparison of strings is the comparison of the words.
-/

namespace EpicKfc.Source.Blockchain
open EpicKfc.Lib

/-- The value of a hexadecimal digit of either case. -/
def hexValue (digit : Char) : Option Nat :=
  (List.range 16).find? fun value => Nat.digitChar value = digit.toLower

theorem hexValue_some {digit : Char} {value : Nat} (read : hexValue digit = some value) :
    value < 16 ∧ digit.toLower = Nat.digitChar value := by
  have meets := List.find?_some read
  rw [decide_eq_true_eq] at meets
  exact ⟨List.mem_range.mp (List.mem_of_find?_eq_some read), meets.symm⟩

theorem hexValue_digitChar : ∀ value < 16, hexValue (Nat.digitChar value) = some value := by decide

theorem hexValue_toLower {digit : Char} {value : Nat} (read : hexValue digit = some value) :
    hexValue digit.toLower = some value := by
  obtain ⟨small, lower⟩ := hexValue_some read
  rw [lower, hexValue_digitChar value small]

theorem hex_of_all {digits : List Char}
    (read : (digits.all fun digit => (hexValue digit).isSome) = true) :
    ∀ digit ∈ digits, ∃ value, hexValue digit = some value :=
  fun digit member => Option.isSome_iff_exists.mp (List.all_eq_true.mp read digit member)

structure Hex32 where
  digits : List Char
  length_eq : digits.length = 64
  hex : ∀ digit ∈ digits, ∃ value, hexValue digit = some value

namespace Hex32

@[ext] theorem ext {first second : Hex32} (same : first.digits = second.digits) : first = second := by
  cases first
  cases second
  cases same
  rfl

instance : DecidableEq Hex32 := fun first second =>
  decidable_of_iff (first.digits = second.digits) ⟨ext, fun same => by rw [same]⟩

/-- The characters of the text. -/
def chars (text : Hex32) : List Char := '0' :: 'x' :: text.digits

def digitValues (text : Hex32) : List Nat := text.digits.map fun digit => (hexValue digit).getD 0

/-- The word a library reads from the text. -/
def value (text : Hex32) : Bytes32 := BitVec.ofNat 256 (Digits.ofDigits 16 text.digitValues)

theorem hex_toLower {digits : List Char} (hex : ∀ digit ∈ digits, ∃ value, hexValue digit = some value) :
    ∀ digit ∈ digits.map Char.toLower, ∃ value, hexValue digit = some value := by
  intro digit member
  obtain ⟨original, belongs, rfl⟩ := List.mem_map.mp member
  obtain ⟨value, read⟩ := hex original belongs
  exact ⟨value, hexValue_toLower read⟩

/-- `toLowerCase`. -/
def toLowerCase (text : Hex32) : Hex32 where
  digits := text.digits.map Char.toLower
  length_eq := (List.length_map _).trans text.length_eq
  hex := hex_toLower text.hex

theorem hex_render (width value : Nat) :
    ∀ digit ∈ Digits.render 16 width value, ∃ value, hexValue digit = some value := by
  intro digit member
  obtain ⟨value, belongs, rfl⟩ := List.mem_map.mp member
  exact ⟨value, hexValue_digitChar value (Digits.digits_lt (by decide) _ _ value belongs)⟩

/-- The text a library makes of a word. -/
def hexlify (word : Bytes32) : Hex32 where
  digits := Digits.render 16 64 word.toNat
  length_eq := Digits.length_render 64 word.toNat
  hex := hex_render 64 word.toNat

/-- A text of that form, as the ABI encoders read it. -/
def parse (text : String) : Option Hex32 :=
  match text.toList with
  | '0' :: 'x' :: digits =>
    if sized : digits.length = 64 then
      if read : (digits.all fun digit => (hexValue digit).isSome) = true then
        some ⟨digits, sized, hex_of_all read⟩
      else none
    else none
  | _ => none

/-- JavaScript's `<=`. -/
def lte (first second : Hex32) : Bool := ¬ CodeUnits.Before second.chars first.chars

/-! ## Texts and words -/

theorem word_fits (word : Bytes32) : word.toNat < 16 ^ 64 := by
  have bound := word.isLt
  norm_num at bound ⊢
  exact bound

theorem digitValues_lt (text : Hex32) : ∀ value ∈ text.digitValues, value < 16 := by
  intro value member
  obtain ⟨digit, belongs, rfl⟩ := List.mem_map.mp member
  obtain ⟨read, found⟩ := text.hex digit belongs
  rw [found, Option.getD_some]
  exact (hexValue_some found).1

theorem length_digitValues (text : Hex32) : text.digitValues.length = 64 :=
  (List.length_map _).trans text.length_eq

theorem toNat_value (text : Hex32) : text.value.toNat = Digits.ofDigits 16 text.digitValues := by
  have bound := Digits.ofDigits_lt text.digitValues_lt
  rw [text.length_digitValues] at bound
  rw [value, BitVec.toNat_ofNat]
  apply Nat.mod_eq_of_lt
  norm_num at bound ⊢
  exact bound

theorem digits_toLowerCase (text : Hex32) :
    text.toLowerCase.digits = text.digits.map Char.toLower := rfl

theorem digits_hexlify (word : Bytes32) :
    (hexlify word).digits = Digits.render 16 64 word.toNat := by
  simp only [hexlify]

/-- Lower case is the text of the word. -/
theorem toLowerCase_eq (text : Hex32) : text.toLowerCase = hexlify text.value := by
  apply Hex32.ext
  have digits := Digits.digits_ofDigits text.digitValues_lt
  rw [text.length_digitValues] at digits
  rw [digits_toLowerCase, digits_hexlify, Digits.render, toNat_value, digits, digitValues,
    List.map_map]
  apply List.map_congr_left
  intro digit member
  obtain ⟨read, found⟩ := text.hex digit member
  rw [Function.comp_apply, found, Option.getD_some]
  exact (hexValue_some found).2

@[simp] theorem value_hexlify (word : Bytes32) : (hexlify word).value = word := by
  apply BitVec.eq_of_toNat_eq
  have small := Digits.digits_lt (by decide : 0 < 16) 64 word.toNat
  have values : (hexlify word).digitValues = Digits.digits 16 64 word.toNat := by
    rw [digitValues, digits_hexlify, Digits.render, List.map_map]
    refine (List.map_congr_left fun value member => ?_).trans (List.map_id _)
    rw [Function.comp_apply, hexValue_digitChar value (small value member)]
    rfl
  rw [toNat_value, values, Digits.ofDigits_digits, Nat.mod_eq_of_lt (word_fits word)]

@[simp] theorem toLowerCase_hexlify (word : Bytes32) : (hexlify word).toLowerCase = hexlify word := by
  rw [toLowerCase_eq, value_hexlify]

@[simp] theorem value_toLowerCase (text : Hex32) : text.toLowerCase.value = text.value := by
  rw [toLowerCase_eq, value_hexlify]

theorem hexlify_injective : Function.Injective hexlify :=
  Function.LeftInverse.injective value_hexlify

@[simp] theorem hexlify_inj {first second : Bytes32} :
    hexlify first = hexlify second ↔ first = second := hexlify_injective.eq_iff

theorem codeUnits_chars_hexlify (word : Bytes32) : CodeUnits.codeUnits (hexlify word).chars =
    48 :: 120 :: (Digits.digits 16 64 word.toNat).map fun digit => (Nat.digitChar digit).toNat := by
  have small : ∀ digit < 16, (Nat.digitChar digit).toNat < 0x10000 := by decide
  have plain : ∀ char ∈ (hexlify word).chars, char.toNat < 0x10000 := by
    intro char member
    rw [chars, digits_hexlify, List.mem_cons, List.mem_cons] at member
    obtain rfl | rfl | member := member
    · decide
    · decide
    · obtain ⟨digit, belongs, rfl⟩ := List.mem_map.mp member
      exact small digit (Digits.digits_lt (by decide) _ _ digit belongs)
  rw [CodeUnits.codeUnits_of_small plain, chars, digits_hexlify, Digits.render, List.map_cons,
    List.map_cons, List.map_map]
  rfl

/-- Digits below sixteen compare as their characters. -/
theorem lex_digitChars {first second : List Nat} (small : ∀ digit ∈ first, digit < 16)
    (small' : ∀ digit ∈ second, digit < 16) :
    List.Lex (· < ·) (first.map fun digit => (Nat.digitChar digit).toNat)
      (second.map fun digit => (Nat.digitChar digit).toNat) ↔ List.Lex (· < ·) first second := by
  induction first generalizing second with
  | nil => cases second <;> simp
  | cons a rest ih =>
    cases second with
    | nil => simp
    | cons b rest' =>
      have a_lt := small a List.mem_cons_self
      have b_lt := small' b List.mem_cons_self
      have order := Digits.digitChar_lt_iff a a_lt b b_lt
      have order' := Digits.digitChar_lt_iff b b_lt a a_lt
      have equal : (Nat.digitChar a).toNat = (Nat.digitChar b).toNat ↔ a = b := by
        constructor
        · intro same
          omega
        · intro same
          rw [same]
      rw [List.map_cons, List.map_cons, List.cons_lex_cons_iff, List.cons_lex_cons_iff, order, equal,
        ih (fun digit member => small digit (List.mem_cons_of_mem _ member))
          fun digit member => small' digit (List.mem_cons_of_mem _ member)]

/-- Lower-case texts compare as the words do. -/
theorem lte_hexlify (first second : Bytes32) :
    lte (hexlify first) (hexlify second) = decide (first ≤ second) := by
  have small (word : Bytes32) := Digits.digits_lt (by decide : 0 < 16) 64 word.toNat
  have order : CodeUnits.Before (hexlify second).chars (hexlify first).chars ↔
      second.toNat < first.toNat := by
    rw [CodeUnits.Before, codeUnits_chars_hexlify, codeUnits_chars_hexlify, List.cons_lex_cons_iff,
      List.cons_lex_cons_iff, lex_digitChars (small second) (small first),
      Digits.digits_lt_iff (by decide) (word_fits second) (word_fits first)]
    simp
  rw [lte, decide_eq_decide, order, BitVec.le_def, Nat.not_lt]

end Hex32

/-- The ABI encoding of a text as a `bytes32`. -/
def encodeHex (text : String) : Option Bytes32 := (Hex32.parse text).map Hex32.value

end EpicKfc.Source.Blockchain
