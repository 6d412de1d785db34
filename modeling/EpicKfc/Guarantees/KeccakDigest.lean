import EpicKfc.Lib.KeccakEval
import EpicKfc.Source.Client.Keccak256Correspondence

/-!
# The client's Keccak-256 against the reference

`keccak256` is the reference function on every input that leaves more than one
byte of its last block free and whose padded length an `int` can count. At one
free byte the source opens a second block where the reference merges the two
padding bytes into `0x81`, so the sponge absorbs a different string there.
-/

namespace EpicKfc.Guarantees.KeccakDigest
open EpicKfc.Lib
open EpicKfc.Lib.Keccak (Byte)
open EpicKfc.Source.Client.Keccak256

/-- The longest input whose padded form the block loop can count. -/
def maxCountedInput : Nat := 2147483519

/-- The inputs on which the source pads as the reference does and does not overflow. -/
def HashesLikeReference (input : List Byte) : Prop :=
  input.length % 136 ≠ 135 ∧ input.length ≤ maxCountedInput

theorem dvd_length_paddedInput (input : List Byte) :
    keccakRateBytes ∣ (paddedInput input).length := by
  rw [paddedInput_eq]
  simp only [List.length_append, List.length_cons, List.length_replicate, List.length_nil,
    keccakRateBytes]
  omega

theorem padded_length_le_intMax_iff (input : List Byte)
    (free : input.length % keccakRateBytes ≠ keccakRateBytes - 1) :
    (paddedInput input).length ≤ intMax ↔ input.length ≤ maxCountedInput := by
  rw [(paddedInput_eq_iff input).mpr free, List.length_append,
    Keccak.length_padding (by decide)]
  simp only [keccakRateBytes, intMax, maxCountedInput] at free ⊢
  omega

/-- A countable padded input is absorbed as the reference absorbs that string. -/
theorem keccak256_of_counted (input : List Byte) (fits : (paddedInput input).length ≤ intMax) :
    keccak256 input = some (Keccak.squeeze 32 (Keccak.absorb 136 (paddedInput input))) := by
  obtain ⟨count, total⟩ := dvd_length_paddedInput input
  have blocks : (paddedInput input).length / 136 = count := by
    rw [total]
    exact Nat.mul_div_cancel_left count (by decide)
  have counted := blockLoop_eq (paddedInput input) count total fits count 0
    (Vector.replicate 25 0) (Nat.zero_add count)
  rw [Nat.mul_zero] at counted
  rw [keccak256, counted, Option.map_some, outputLoop_eq, Keccak.absorb, Keccak.blocks, blocks,
    List.range_eq_range']
  rfl

/-- A padded input past `INT_MAX` has no digest. -/
theorem keccak256_of_uncounted (input : List Byte) (long : intMax < (paddedInput input).length) :
    keccak256 input = none := by
  rw [keccak256, blockLoop_overflow _ long 0 _ (Nat.zero_le _)]
  rfl

/-- The client hash is the reference on every input that pads alike; on any other
input agreement needs a sponge collision between the two padded strings. -/
theorem keccak256_eq_reference_iff (input : List Byte) :
    (HashesLikeReference input → keccak256 input = some (Keccak.keccak256 input)) ∧
    (keccak256 input = some (Keccak.keccak256 input) →
      HashesLikeReference input ∨
      Keccak.SpongeCollision 136 32 (input ++ 0x01 :: List.replicate 135 0 ++ [0x80])
        (input ++ [0x81])) := by
  refine ⟨?_, ?_⟩
  · rintro ⟨free, short⟩
    rw [keccak256_of_counted input ((padded_length_le_intMax_iff input free).mpr short),
      (paddedInput_eq_iff input).mpr free]
    rfl
  · intro agree
    have fits : (paddedInput input).length ≤ intMax := by
      by_contra long
      rw [keccak256_of_uncounted input (by omega)] at agree
      exact absurd agree (by simp)
    by_cases merged : input.length % 136 = 135
    · right
      have source : paddedInput input = input ++ 0x01 :: List.replicate 135 0 ++ [0x80] := by
        rw [paddedInput_eq]
        simp [merged, keccakRateBytes, keccakPaddingStart, keccakPaddingEnd]
      have reference : Keccak.padding 136 0x01 input.length = [0x81] := by
        simp [Keccak.padding, merged]
      rw [keccak256_of_counted input fits, source, Keccak.keccak256, Keccak.hash, reference] at agree
      refine ⟨?_, Option.some.inj agree⟩
      intro equal
      have lengths := congrArg List.length equal
      simp at lengths
    · exact Or.inl ⟨merged, (padded_length_le_intMax_iff input merged).mp fits⟩

/-- Two whole blocks, and 28 bytes of a third. -/
def threeBlocks : List Byte := (List.range 300).map (BitVec.ofNat 8)

theorem keccak256_eq_reference_iff_blocks :
    keccak256 threeBlocks = some (Keccak.keccak256 threeBlocks) := by
  have length : threeBlocks.length = 300 := by
    rw [threeBlocks, List.length_map, List.length_range]
  refine (keccak256_eq_reference_iff threeBlocks).1 ⟨?_, ?_⟩
  · rw [length]
    decide
  · rw [length]
    decide

set_option maxRecDepth 4000 in
/-- One free byte: 135 zero bytes do not hash to their Keccak-256. -/
theorem keccak256_ne_reference_at_135 :
    keccak256 (List.replicate 135 0) ≠ some (Keccak.keccak256 (List.replicate 135 0)) := by
  intro agree
  have padded : paddedInput (List.replicate 135 0) =
      List.replicate 135 0 ++ [0x01] ++ List.replicate 135 0 ++ [0x80] := by
    rw [paddedInput_eq]
    decide
  have fits : (paddedInput (List.replicate 135 0)).length ≤ intMax := by
    rw [padded]
    decide
  rw [keccak256_of_counted _ fits, Keccak.keccak256, Keccak.hash, padded, KeccakEval.absorb_eq,
    KeccakEval.absorb_eq] at agree
  revert agree
  decide

end EpicKfc.Guarantees.KeccakDigest
