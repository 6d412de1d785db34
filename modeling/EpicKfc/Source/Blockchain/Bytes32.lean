import EpicKfc.Lib.Digits
import EpicKfc.Lib.KeccakEval

/-!
# 32-byte words

The `bytes32` of the contract, as an unsigned number of 256 bits; its comparison
is that of the numbers and its packed encoding is big-endian.
-/

namespace EpicKfc.Source.Blockchain
open EpicKfc.Lib
open EpicKfc.Lib.Keccak (Byte)

abbrev Bytes32 := BitVec 256

namespace Bytes32

def toBytes (word : Bytes32) : List Byte :=
  (Digits.digits 256 32 word.toNat).map (BitVec.ofNat 8)

def ofBytes (bytes : List Byte) : Bytes32 :=
  BitVec.ofNat 256 (bytes.foldl (fun read byte => read * 256 + byte.toNat) 0)

/-- The digest of Ethereum as a word. -/
def keccak256 (input : List Byte) : Bytes32 := ofBytes (Keccak.keccak256 input)

/-- The digest as the kernel evaluates it. -/
def evaluated (input : List Byte) : Bytes32 := ofBytes (KeccakEval.keccak256 input)

theorem keccak256_eq_evaluated : keccak256 = evaluated := by
  funext input
  rw [keccak256, KeccakEval.keccak256_eq, evaluated]

@[simp] theorem length_toBytes (word : Bytes32) : word.toBytes.length = 32 := by
  rw [toBytes, List.length_map, Digits.length_digits]

theorem toBytes_injective : Function.Injective toBytes := by
  intro first second same
  apply BitVec.eq_of_toNat_eq
  have fits (word : Bytes32) : word.toNat < 256 ^ 32 := by
    have bound := word.isLt
    norm_num at bound ⊢
    exact bound
  apply Digits.digits_injective (fits first) (fits second)
  have read (word : Bytes32) : word.toBytes.map BitVec.toNat = Digits.digits 256 32 word.toNat := by
    rw [toBytes, List.map_map]
    apply (List.map_congr_left _).trans (List.map_id _)
    intro digit member
    have small := Digits.digits_lt (by decide) 32 word.toNat digit member
    exact Nat.mod_eq_of_lt small
  rw [← read first, ← read second, same]

theorem toBytes_inj {first second : Bytes32} : first.toBytes = second.toBytes ↔ first = second :=
  toBytes_injective.eq_iff

end Bytes32

end EpicKfc.Source.Blockchain
