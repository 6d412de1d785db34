import Mathlib.Data.List.Basic
import Mathlib.Data.String.Basic

/-!
# Base64

Three bytes as four digits, with padding at the end. The decoder skips every
character that is no digit, padding included, and drops bits that fill no byte.
-/

namespace EpicKfc.Lib.Base64

abbrev Byte := BitVec 8

def digit (value : Nat) : Char :=
  if value < 26 then Char.ofNat (65 + value)
  else if value < 52 then Char.ofNat (71 + value)
  else if value < 62 then Char.ofNat (value - 4)
  else if value = 62 then '+'
  else '/'

def digitValue (char : Char) : Option Nat :=
  let code := char.toNat
  if 65 ≤ code ∧ code ≤ 90 then some (code - 65)
  else if 97 ≤ code ∧ code ≤ 122 then some (code - 71)
  else if 48 ≤ code ∧ code ≤ 57 then some (code + 4)
  else if code = 43 then some 62
  else if code = 47 then some 63
  else none

def encode : List Byte → List Char
  | [] => []
  | [first] => [digit (first.toNat / 4), digit (first.toNat % 4 * 16), '=', '=']
  | [first, second] =>
    [digit (first.toNat / 4), digit (first.toNat % 4 * 16 + second.toNat / 16),
      digit (second.toNat % 16 * 4), '=']
  | first :: second :: third :: rest =>
    digit (first.toNat / 4) :: digit (first.toNat % 4 * 16 + second.toNat / 16) ::
      digit (second.toNat % 16 * 4 + third.toNat / 64) :: digit (third.toNat % 64) :: encode rest

/-- Six bits a digit, a byte as soon as eight have arrived; `buffer` holds the others. -/
def decodeFrom (buffer bits : Nat) : List Char → List Byte
  | [] => []
  | char :: rest =>
    match digitValue char with
    | none => decodeFrom buffer bits rest
    | some value =>
      let filled := buffer * 64 + value
      if bits < 2 then decodeFrom filled (bits + 6) rest
      else BitVec.ofNat 8 (filled / 2 ^ (bits - 2)) ::
        decodeFrom (filled % 2 ^ (bits - 2)) (bits - 2) rest

def decode (text : List Char) : List Byte := decodeFrom 0 0 text

def isDigit (char : Char) : Bool := (digitValue char).isSome

/-- Whole groups of four digits, the last one padded where it lacks digits. -/
def isPadded : List Char → Bool
  | [] => true
  | [first, second, third, '='] => isDigit first && isDigit second && (third = '=' || isDigit third)
  | first :: second :: third :: fourth :: rest =>
    isDigit first && isDigit second && isDigit third && isDigit fourth && isPadded rest
  | _ => false

/-! ## Round trip -/

theorem digitValue_digit {value : Nat} (small : value < 64) : digitValue (digit value) = some value := by
  decide +revert

theorem digitValue_padding : digitValue '=' = none := by decide

theorem decodeFrom_digit {value : Nat} (small : value < 64) (buffer bits : Nat)
    (rest : List Char) :
    decodeFrom buffer bits (digit value :: rest) =
      if bits < 2 then decodeFrom (buffer * 64 + value) (bits + 6) rest
      else BitVec.ofNat 8 ((buffer * 64 + value) / 2 ^ (bits - 2)) ::
        decodeFrom ((buffer * 64 + value) % 2 ^ (bits - 2)) (bits - 2) rest := by
  rw [decodeFrom, digitValue_digit small]

theorem decodeFrom_padding (buffer bits : Nat) (rest : List Char) :
    decodeFrom buffer bits ('=' :: rest) = decodeFrom buffer bits rest := by
  rw [decodeFrom, digitValue_padding]

/-- Two, three and four digits from an empty buffer. -/
theorem decodeFrom_two {a b : Nat} (small : a < 64) (small' : b < 64) (rest : List Char) :
    decodeFrom 0 0 (digit a :: digit b :: rest) =
      BitVec.ofNat 8 (a * 4 + b / 16) :: decodeFrom (b % 16) 4 rest := by
  have byte : (a * 64 + b) / 16 = a * 4 + b / 16 := by omega
  have buffer : (a * 64 + b) % 16 = b % 16 := by omega
  rw [decodeFrom_digit small, if_pos (by decide), decodeFrom_digit small', if_neg (by decide)]
  simp [byte, buffer]

theorem decodeFrom_three {a b c : Nat} (small : a < 64) (small' : b < 64) (smallC : c < 64)
    (rest : List Char) :
    decodeFrom 0 0 (digit a :: digit b :: digit c :: rest) =
      BitVec.ofNat 8 (a * 4 + b / 16) :: BitVec.ofNat 8 (b % 16 * 16 + c / 4) ::
        decodeFrom (c % 4) 2 rest := by
  have byte : (b % 16 * 64 + c) / 4 = b % 16 * 16 + c / 4 := by omega
  have buffer : (b % 16 * 64 + c) % 4 = c % 4 := by omega
  rw [decodeFrom_two small small', decodeFrom_digit smallC, if_neg (by decide)]
  simp [byte, buffer]

theorem decodeFrom_four {a b c d : Nat} (small : a < 64) (small' : b < 64) (smallC : c < 64)
    (smallD : d < 64) (rest : List Char) :
    decodeFrom 0 0 (digit a :: digit b :: digit c :: digit d :: rest) =
      BitVec.ofNat 8 (a * 4 + b / 16) :: BitVec.ofNat 8 (b % 16 * 16 + c / 4) ::
        BitVec.ofNat 8 (c % 4 * 64 + d) :: decodeFrom 0 0 rest := by
  rw [decodeFrom_three small small' smallC, decodeFrom_digit smallD, if_neg (by decide)]
  simp [Nat.mod_one]

/-- A byte put together from its bits. -/
theorem ofNat_of_toNat_eq {byte : Byte} {value : Nat} (same : value = byte.toNat) :
    BitVec.ofNat 8 value = byte := by
  rw [same, BitVec.ofNat_toNat, BitVec.setWidth_eq]

theorem decode_encode (bytes : List Byte) : decode (encode bytes) = bytes := by
  unfold decode
  fun_induction encode bytes with
  | case1 => rfl
  | case2 first =>
    have bound := first.isLt
    rw [decodeFrom_two (by omega) (by omega), decodeFrom_padding, decodeFrom_padding,
      @ofNat_of_toNat_eq first _ (by omega)]
    rfl
  | case3 first second =>
    have bound := first.isLt
    have bound' := second.isLt
    rw [decodeFrom_three (by omega) (by omega) (by omega), decodeFrom_padding,
      @ofNat_of_toNat_eq first _ (by omega), @ofNat_of_toNat_eq second _ (by omega)]
    rfl
  | case4 first second third rest ih =>
    have bound := first.isLt
    have boundSecond := second.isLt
    have boundThird := third.isLt
    rw [decodeFrom_four (by omega) (by omega) (by omega) (by omega), ih,
      @ofNat_of_toNat_eq first _ (by omega), @ofNat_of_toNat_eq second _ (by omega),
      @ofNat_of_toNat_eq third _ (by omega)]

/-! ## Padding -/

theorem isDigit_digit {value : Nat} (small : value < 64) : isDigit (digit value) = true := by
  simp [isDigit, digitValue_digit small]

theorem digit_ne_padding {value : Nat} (small : value < 64) : digit value ≠ '=' := by
  decide +revert

theorem isPadded_encode (bytes : List Byte) : isPadded (encode bytes) = true := by
  fun_induction encode bytes with
  | case1 => rfl
  | case2 first =>
    have bound := first.isLt
    simp [isPadded, @isDigit_digit (first.toNat / 4) (by omega),
      @isDigit_digit (first.toNat % 4 * 16) (by omega)]
  | case3 first second =>
    have bound := first.isLt
    have bound' := second.isLt
    simp [isPadded, @isDigit_digit (first.toNat / 4) (by omega),
      @isDigit_digit (first.toNat % 4 * 16 + second.toNat / 16) (by omega),
      @isDigit_digit (second.toNat % 16 * 4) (by omega)]
  | case4 first second third rest ih =>
    have bound := first.isLt
    have boundSecond := second.isLt
    have boundThird := third.isLt
    have last := @digit_ne_padding (third.toNat % 64) (by omega)
    unfold isPadded
    split
    · next heads => cases heads
    · next heads =>
      simp only [List.cons.injEq] at heads
      exact absurd heads.2.2.2.1 last
    · next heads =>
      simp only [List.cons.injEq] at heads
      obtain ⟨rfl, rfl, rfl, rfl, rfl⟩ := heads
      simp [@isDigit_digit (first.toNat / 4) (by omega),
        @isDigit_digit (first.toNat % 4 * 16 + second.toNat / 16) (by omega),
        @isDigit_digit (second.toNat % 16 * 4 + third.toNat / 64) (by omega),
        @isDigit_digit (third.toNat % 64) (by omega), ih]
    · next other => exact absurd rfl (other _ _ _ _ _)

/-- What holds of padding and of every digit holds of the text. -/
theorem forall_mem_encode {holds : Char → Prop} (padding : holds '=')
    (digits : ∀ value < 64, holds (digit value)) (bytes : List Byte) :
    ∀ char ∈ encode bytes, holds char := by
  fun_induction encode bytes with
  | case1 => simp
  | case2 first =>
    have bound := first.isLt
    have high := digits (first.toNat / 4) (by omega)
    have low := digits (first.toNat % 4 * 16) (by omega)
    simp [high, low, padding]
  | case3 first second =>
    have bound := first.isLt
    have bound' := second.isLt
    have high := digits (first.toNat / 4) (by omega)
    have middle := digits (first.toNat % 4 * 16 + second.toNat / 16) (by omega)
    have low := digits (second.toNat % 16 * 4) (by omega)
    simp [high, middle, low, padding]
  | case4 first second third rest ih =>
    have bound := first.isLt
    have boundSecond := second.isLt
    have boundThird := third.isLt
    have digit₁ := digits (first.toNat / 4) (by omega)
    have digit₂ := digits (first.toNat % 4 * 16 + second.toNat / 16) (by omega)
    have digit₃ := digits (second.toNat % 16 * 4 + third.toNat / 64) (by omega)
    have digit₄ := digits (third.toNat % 64) (by omega)
    simp only [List.forall_mem_cons]
    exact ⟨digit₁, digit₂, digit₃, digit₄, ih⟩

theorem length_encode (bytes : List Byte) :
    (encode bytes).length = 4 * ((bytes.length + 2) / 3) := by
  fun_induction encode bytes with
  | case1 => rfl
  | case2 first => simp
  | case3 first second => simp
  | case4 first second third rest ih =>
    simp only [List.length_cons, ih]
    omega

end EpicKfc.Lib.Base64
