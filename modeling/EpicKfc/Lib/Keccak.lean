import Mathlib.Algebra.GroupWithZero.Nat
import Mathlib.Data.List.Basic
import Mathlib.Data.Vector.Basic

/-!
# The Keccak sponge on bytes

The reference function of the FIPS 202 family over 64-bit lanes, written from the
standard's description and not from any implementation: rotation offsets come
from the rho walk and round constants from the LFSR, so no table is copied. The
sponge takes the rate in bytes and the domain byte as parameters; `keccak256` is
the instance with rate 136, capacity 512 bits and domain byte `0x01`.
-/

namespace EpicKfc.Lib.Keccak

abbrev Byte := BitVec 8
abbrev Lane := BitVec 64

/-- The 25 lanes of keccak-f[1600]; lane `(x, y)` sits at `x + 5y`. -/
abbrev State := Vector Lane 25

instance neZeroFive : NeZero 5 := ⟨by decide⟩

def laneIndex (x y : Fin 5) : Fin 25 := ⟨x.val + 5 * y.val, by omega⟩

def State.lane (A : State) (x y : Fin 5) : Lane := A.get (laneIndex x y)

def State.ofLanes (f : Fin 5 → Fin 5 → Lane) : State :=
  Vector.ofFn fun i => f ⟨i.val % 5, by omega⟩ ⟨i.val / 5, by omega⟩

theorem laneIndex_injective : Function.Injective fun p : Fin 5 × Fin 5 => laneIndex p.1 p.2 := by
  rintro ⟨x, y⟩ ⟨x', y'⟩ equal
  have indices : x.val + 5 * y.val = x'.val + 5 * y'.val := congrArg Fin.val equal
  have first : x = x' := Fin.ext (by omega)
  have second : y = y' := Fin.ext (by omega)
  rw [first, second]

/-- Every cell is the lane of its coordinates. -/
theorem laneIndex_surjective (i : Fin 25) :
    laneIndex ⟨i.val % 5, by omega⟩ ⟨i.val / 5, by omega⟩ = i := by
  apply Fin.ext
  simp only [laneIndex]
  omega

@[simp] theorem State.lane_ofLanes (f : Fin 5 → Fin 5 → Lane) (x y : Fin 5) :
    (State.ofLanes f).lane x y = f x y := by
  have column : (x.val + 5 * y.val) % 5 = x.val := by omega
  have row : (x.val + 5 * y.val) / 5 = y.val := by omega
  exact (Vector.getElem_ofFn (laneIndex x y).isLt).trans
    (congrArg₂ f (Fin.ext column) (Fin.ext row))

/-- Two states with the same lanes are equal. -/
theorem State.ext_lane {A B : State} (same : ∀ x y, A.lane x y = B.lane x y) : A = B := by
  apply Vector.ext
  intro i hi
  have cell := same ⟨i % 5, by omega⟩ ⟨i / 5, by omega⟩
  simp only [State.lane, laneIndex_surjective ⟨i, hi⟩] at cell
  exact cell

/-! ## The step mappings -/

def columnParity (A : State) (x : Fin 5) : Lane :=
  A.lane x 0 ^^^ A.lane x 1 ^^^ A.lane x 2 ^^^ A.lane x 3 ^^^ A.lane x 4

def theta (A : State) : State :=
  State.ofLanes fun x y =>
    A.lane x y ^^^ (columnParity A (x - 1) ^^^ (columnParity A (x + 1)).rotateLeft 1)

/-- The positions visited by the rho walk: `(x, y)` goes to `(y, 2x + 3y)`. -/
def rhoWalk : Nat → Fin 5 × Fin 5
  | 0 => (1, 0)
  | t + 1 => ((rhoWalk t).2, 2 * (rhoWalk t).1 + 3 * (rhoWalk t).2)

/-- The lane visited at time `t` is rotated by the triangular number `(t+1)(t+2)/2`;
lane `(0, 0)` is never visited and not rotated. -/
def rhoOffset (x y : Fin 5) : Nat :=
  match (List.range 24).find? fun t => rhoWalk t = (x, y) with
  | some t => (t + 1) * (t + 2) / 2 % 64
  | none => 0

theorem rhoOffset_lt : ∀ x y : Fin 5, rhoOffset x y < 64 := by decide

def rho (A : State) : State :=
  State.ofLanes fun x y => (A.lane x y).rotateLeft (rhoOffset x y)

def pi (A : State) : State :=
  State.ofLanes fun x y => A.lane (x + 3 * y) x

def chi (A : State) : State :=
  State.ofLanes fun x y => A.lane x y ^^^ (~~~ A.lane (x + 1) y &&& A.lane (x + 2) y)

/-- One step of the LFSR with feedback at positions 0, 4, 5 and 6. -/
def lfsrStep (r : Nat) : Nat :=
  if 2 * r < 256 then 2 * r else (2 * r - 256) ^^^ 0x71

def lfsr : Nat → Nat
  | 0 => 1
  | t + 1 => lfsrStep (lfsr t)

/-- Round constant `i` has bit `2^j - 1` set when the LFSR output at time `j + 7i` is one. -/
def roundConstant (i : Nat) : Lane :=
  BitVec.ofNat 64 <| ((List.range 7).map fun j => lfsr (j + 7 * i) % 2 * 2 ^ (2 ^ j - 1)).sum

def iota (constant : Lane) (A : State) : State :=
  State.ofLanes fun x y => if x = 0 ∧ y = 0 then A.lane 0 0 ^^^ constant else A.lane x y

def round (A : State) (constant : Lane) : State :=
  iota constant (chi (pi (rho (theta A))))

/-- keccak-f[1600]: 24 rounds. -/
def permutation (A : State) : State :=
  ((List.range 24).map roundConstant).foldl round A

/-! ## The sponge -/

/-- Eight bytes as a lane, the first byte least significant. -/
def laneOfBytes (bytes : List Byte) : Lane :=
  bytes.foldr (fun byte lane => lane <<< 8 ||| byte.setWidth 64) 0

def bytesOfLane (lane : Lane) : List Byte :=
  (List.range 8).map fun k => lane.extractLsb' (8 * k) 8

/-- Multi-rate padding of a message of `length` bytes. The domain byte opens the
padding and `0x80` closes it; the two are one byte when only one is free. -/
def padding (rate : Nat) (domain : Byte) (length : Nat) : List Byte :=
  let free := rate - length % rate
  if free = 1 then [domain ||| 0x80]
  else domain :: List.replicate (free - 2) 0 ++ [0x80]

def blocks (rate : Nat) (message : List Byte) : List (List Byte) :=
  (List.range (message.length / rate)).map fun i => (message.drop (rate * i)).take rate

/-- XOR a block into the first `rate / 8` lanes. -/
def absorbBlock (rate : Nat) (A : State) (block : List Byte) : State :=
  State.ofLanes fun x y =>
    if (laneIndex x y).val < rate / 8 then
      A.lane x y ^^^ laneOfBytes ((block.drop (8 * (laneIndex x y).val)).take 8)
    else A.lane x y

def absorb (rate : Nat) (message : List Byte) : State :=
  (blocks rate message).foldl (fun A block => permutation (absorbBlock rate A block))
    (Vector.replicate 25 0)

/-- The first `count` bytes of the state; one squeeze is enough below the rate. -/
def squeeze (count : Nat) (A : State) : List Byte :=
  (A.toList.flatMap bytesOfLane).take count

def hash (rate : Nat) (domain : Byte) (count : Nat) (message : List Byte) : List Byte :=
  squeeze count (absorb rate (message ++ padding rate domain message.length))

/-- Keccak-256 as Ethereum uses it. -/
def keccak256 (message : List Byte) : List Byte := hash 136 0x01 32 message

/-- Two different byte strings with one hash. -/
def Collision (hash : List Byte → List Byte) (first second : List Byte) : Prop :=
  first ≠ second ∧ hash first = hash second

/-- Two different padded strings that squeeze to the same digest. -/
def SpongeCollision (rate count : Nat) (first second : List Byte) : Prop :=
  Collision (fun padded => squeeze count (absorb rate padded)) first second

/-- Rate and capacity make up the 1600-bit state. -/
example : 8 * 136 + 512 = 25 * 64 := rfl

/-! ## Words -/

/-- A byte appended at the most significant end. -/
theorem laneOfBytes_concat (bytes : List Byte) (last : Byte) :
    laneOfBytes (bytes ++ [last]) = laneOfBytes bytes ||| last.setWidth 64 <<< (8 * bytes.length) := by
  induction bytes with
  | nil => simp [laneOfBytes]
  | cons byte rest ih =>
    have step (tail : List Byte) :
        laneOfBytes (byte :: tail) = laneOfBytes tail <<< 8 ||| byte.setWidth 64 := rfl
    rw [List.cons_append, step, step, ih, BitVec.shiftLeft_or_distrib, ← BitVec.shiftLeft_add,
      List.length_cons, Nat.mul_add, BitVec.or_assoc, BitVec.or_assoc]
    congr 1
    exact BitVec.or_comm _ _

/-- Assembling a word byte by byte, each byte shifted into its place. -/
theorem foldl_shifted_bytes (byte : Nat → Byte) (count : Nat) :
    (List.range count).foldl (fun word k => word ||| (byte k).setWidth 64 <<< (8 * k)) 0 =
      laneOfBytes ((List.range count).map byte) := by
  induction count with
  | zero => rfl
  | succ count ih =>
    rw [List.range_succ, List.foldl_append, ih, List.map_append, List.map_cons, List.map_nil,
      laneOfBytes_concat, List.length_map, List.length_range]
    rfl

/-! ## Facts about padding and blocks -/

variable {rate : Nat} {domain : Byte}

/-- Padding fills the last block exactly, and is never empty. -/
theorem length_padding (positive : 0 < rate) (length : Nat) :
    (padding rate domain length).length = rate - length % rate := by
  have remainder := Nat.mod_lt length positive
  simp only [padding]
  split <;> simp <;> omega

end EpicKfc.Lib.Keccak
