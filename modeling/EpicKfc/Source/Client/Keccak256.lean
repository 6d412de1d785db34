import EpicKfc.Lib.ArrayLoops
import EpicKfc.Lib.Keccak

/-!
# The client's hand-written Keccak-256

`client/src/support/EthereumHash.cpp`, lines 10-119. The state is the source's
`std::array<quint64, 25>`; every loop is the source's loop. Bytes and words are
bit vectors of the source's widths. The block loop counts with a 32-bit `int`
while `padded.size()` is 64-bit, so stepping past `INT_MAX` is signed overflow:
that outcome is `none`.
-/

namespace EpicKfc.Source.Client.Keccak256
open EpicKfc.Lib.ArrayLoops
open EpicKfc.Lib.Keccak (Byte Lane laneIndex)

def keccakRateBytes : Nat := 136
def keccakDigestBytes : Nat := 32
def keccakPaddingStart : Byte := 0x01
def keccakPaddingEnd : Byte := 0x80

/-- Largest value of the `int` that holds the block offset. -/
def intMax : Nat := 2 ^ 31 - 1

def rotationOffsets : Vector Nat 25 :=
  #v[0, 1, 62, 28, 27,
     36, 44, 6, 55, 20,
     3, 10, 43, 25, 39,
     41, 45, 15, 21, 8,
     18, 2, 61, 56, 14]

def roundConstants : List Lane := [
  0x0000000000000001, 0x0000000000008082, 0x800000000000808a,
  0x8000000080008000, 0x000000000000808b, 0x0000000080000001,
  0x8000000080008081, 0x8000000000008009, 0x000000000000008a,
  0x0000000000000088, 0x0000000080008009, 0x000000008000000a,
  0x000000008000808b, 0x800000000000008b, 0x8000000000008089,
  0x8000000000008003, 0x8000000000008002, 0x8000000000000080,
  0x000000000000800a, 0x800000008000000a, 0x8000000080008081,
  0x8000000000008080, 0x0000000080000001, 0x8000000080008008]

def rotateLeft (value : Lane) (shift : Nat) : Lane :=
  if shift = 0 then value else (value <<< shift) ||| (value >>> (64 - shift))

/-- `block.at(offset + index)`; every caller stays inside the array. -/
def readLittleEndianWord (block : List Byte) (offset : Nat) : Lane :=
  (List.range 8).foldl
    (fun value index => value ||| ((block.getD (offset + index) 0).setWidth 64 <<< (8 * index))) 0

def appendLittleEndianWord (output : List Byte) (value : Lane) : List Byte :=
  (List.range 8).foldl
    (fun output index => output ++ [((value >>> (8 * index)) &&& 0xff).setWidth 8]) output

/-- The source writes cell `x + 5 * y` as `state[x + 5 * y]`; indices reduced
modulo five are sums in `Fin 5`. -/
def columnParityLoop (state : Vector Lane 25) : Vector Lane 5 :=
  forEach 5 (fun columnParity x => columnParity.set x
    (state[laneIndex x 0] ^^^ state[laneIndex x 1] ^^^ state[laneIndex x 2] ^^^
      state[laneIndex x 3] ^^^ state[laneIndex x 4])) (Vector.replicate 5 0)

def thetaLoop (columnParity : Vector Lane 5) : Vector Lane 5 :=
  forEach 5 (fun theta x => theta.set x
    (columnParity[x + 4] ^^^ rotateLeft columnParity[x + 1] 1)) (Vector.replicate 5 0)

def applyThetaLoop (theta : Vector Lane 5) (state : Vector Lane 25) : Vector Lane 25 :=
  forEach₂ 5 5 (fun state x y => state.set (laneIndex x y)
    (state[laneIndex x y] ^^^ theta[x])) state

def rotatedLoop (state : Vector Lane 25) : Vector Lane 25 :=
  forEach₂ 5 5 (fun rotated x y => rotated.set (laneIndex y (2 * x + 3 * y))
    (rotateLeft state[laneIndex x y] rotationOffsets[laneIndex x y])) (Vector.replicate 25 0)

def chiLoop (rotated state : Vector Lane 25) : Vector Lane 25 :=
  forEach₂ 5 5 (fun state x y => state.set (laneIndex x y)
    (rotated[laneIndex x y] ^^^ (~~~ rotated[laneIndex (x + 1) y] &&& rotated[laneIndex (x + 2) y])))
    state

/-- The body of the loop over `RoundConstants`. -/
def keccakRound (state : Vector Lane 25) (roundConstant : Lane) : Vector Lane 25 :=
  let columnParity := columnParityLoop state
  let theta := thetaLoop columnParity
  let state := applyThetaLoop theta state
  let rotated := rotatedLoop state
  let state := chiLoop rotated state
  state.set 0 (state[0] ^^^ roundConstant)

def keccakPermutation (state : Vector Lane 25) : Vector Lane 25 :=
  roundConstants.foldl keccakRound state

/-- `while ((padded.size() % KeccakRateBytes) != KeccakRateBytes - 1) padded.append('\0')`. -/
def appendZeros (padded : List Byte) : List Byte :=
  if padded.length % keccakRateBytes = keccakRateBytes - 1 then padded
  else appendZeros (padded ++ [0])
termination_by keccakRateBytes - 1 - padded.length % keccakRateBytes
decreasing_by
  simp only [List.length_append, List.length_cons, List.length_nil, keccakRateBytes] at *
  omega

def paddedInput (input : List Byte) : List Byte :=
  appendZeros (input ++ [keccakPaddingStart]) ++ [keccakPaddingEnd]

/-- The rate covers the first 17 lanes of the state. -/
def rateLane (lane : Fin (keccakRateBytes / 8)) : Fin 25 := lane.castLE (by decide)

def absorbLoop (padded : List Byte) (offset : Nat) (state : Vector Lane 25) : Vector Lane 25 :=
  forEach (keccakRateBytes / 8) (fun state lane => state.set (rateLane lane)
    (state[rateLane lane] ^^^ readLittleEndianWord padded (offset + lane.val * 8))) state

/-- `for (int offset = 0; offset < padded.size(); offset += KeccakRateBytes)`. -/
def blockLoop (padded : List Byte) (offset : Nat) (state : Vector Lane 25) :
    Option (Vector Lane 25) :=
  if offset < padded.length then
    let state := keccakPermutation (absorbLoop padded offset state)
    if offset + keccakRateBytes ≤ intMax then
      blockLoop padded (offset + keccakRateBytes) state
    else none
  else some state
termination_by padded.length - offset
decreasing_by
  simp only [keccakRateBytes]
  omega

/-- `for (int lane = 0; output.size() < KeccakDigestBytes; ++lane)`. -/
def outputLoop (state : Vector Lane 25) (lane : Nat) (output : List Byte) : List Byte :=
  if output.length < keccakDigestBytes then
    let word := appendLittleEndianWord [] (state.getD lane 0)
    outputLoop state (lane + 1) (output ++ word.take (keccakDigestBytes - output.length))
  else output
termination_by keccakDigestBytes - output.length
decreasing_by
  have progress : 0 < (appendLittleEndianWord [] (state.getD lane 0)).length := by
    simp [appendLittleEndianWord, List.range_succ]
  simp only [List.length_append, List.length_take]
  omega

def keccak256 (input : List Byte) : Option (List Byte) :=
  (blockLoop (paddedInput input) 0 (Vector.replicate 25 0)).map fun state => outputLoop state 0 []

end EpicKfc.Source.Client.Keccak256
