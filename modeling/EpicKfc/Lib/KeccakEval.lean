import EpicKfc.Lib.Keccak

/-!
# Evaluating the Keccak sponge

The step mappings unrolled over a list of 25 natural numbers, one plane a line,
which the kernel evaluates quickly, and the theorem that they compute the sponge.
Only digests of fixed messages need this form.
-/

namespace EpicKfc.Lib.KeccakEval
open EpicKfc.Lib.Keccak

def rotate (lane shift : Nat) : Nat :=
  Nat.lor (Nat.mod (Nat.shiftLeft lane shift) 18446744073709551616)
    (Nat.shiftRight lane (Nat.sub 64 shift))

def parity (first second third fourth fifth : Nat) : Nat :=
  Nat.xor (Nat.xor (Nat.xor (Nat.xor first second) third) fourth) fifth

/-- What theta adds to a column, from the parities of its neighbours. -/
def effect (previous next : Nat) : Nat := Nat.xor previous (rotate next 1)

/-- The five effects, bound before the lanes that use them. -/
def withEffects (p0 p1 p2 p3 p4 : Nat) (lanes : Nat → Nat → Nat → Nat → Nat → List Nat) :
    List Nat :=
  lanes (effect p4 p1) (effect p0 p2) (effect p1 p3) (effect p2 p4) (effect p3 p0)

def thetaLanes : List Nat → List Nat
  | [a0, a1, a2, a3, a4,
     b0, b1, b2, b3, b4,
     c0, c1, c2, c3, c4,
     d0, d1, d2, d3, d4,
     e0, e1, e2, e3, e4] =>
    withEffects (parity a0 b0 c0 d0 e0) (parity a1 b1 c1 d1 e1) (parity a2 b2 c2 d2 e2)
      (parity a3 b3 c3 d3 e3) (parity a4 b4 c4 d4 e4) fun t0 t1 t2 t3 t4 =>
      [Nat.xor a0 t0, Nat.xor a1 t1, Nat.xor a2 t2, Nat.xor a3 t3, Nat.xor a4 t4,
       Nat.xor b0 t0, Nat.xor b1 t1, Nat.xor b2 t2, Nat.xor b3 t3, Nat.xor b4 t4,
       Nat.xor c0 t0, Nat.xor c1 t1, Nat.xor c2 t2, Nat.xor c3 t3, Nat.xor c4 t4,
       Nat.xor d0 t0, Nat.xor d1 t1, Nat.xor d2 t2, Nat.xor d3 t3, Nat.xor d4 t4,
       Nat.xor e0 t0, Nat.xor e1 t1, Nat.xor e2 t2, Nat.xor e3 t3, Nat.xor e4 t4]
  | lanes => lanes

/-- Rho and pi together. -/
def rhoPiLanes : List Nat → List Nat
  | [a0, a1, a2, a3, a4,
     b0, b1, b2, b3, b4,
     c0, c1, c2, c3, c4,
     d0, d1, d2, d3, d4,
     e0, e1, e2, e3, e4] =>
    [rotate a0 0, rotate b1 44, rotate c2 43, rotate d3 21, rotate e4 14,
     rotate a3 28, rotate b4 20, rotate c0 3, rotate d1 45, rotate e2 61,
     rotate a1 1, rotate b2 6, rotate c3 25, rotate d4 8, rotate e0 18,
     rotate a4 27, rotate b0 36, rotate c1 10, rotate d2 15, rotate e3 56,
     rotate a2 62, rotate b3 55, rotate c4 39, rotate d0 41, rotate e1 2]
  | lanes => lanes

def chiLane (lane next last : Nat) : Nat :=
  Nat.xor lane (Nat.land (Nat.sub 18446744073709551615 next) last)

/-- Chi, and iota on lane `(0, 0)`. -/
def chiIotaLanes (constant : Nat) : List Nat → List Nat
  | [a0, a1, a2, a3, a4,
     b0, b1, b2, b3, b4,
     c0, c1, c2, c3, c4,
     d0, d1, d2, d3, d4,
     e0, e1, e2, e3, e4] =>
    [Nat.xor (chiLane a0 a1 a2) constant, chiLane a1 a2 a3, chiLane a2 a3 a4, chiLane a3 a4 a0, chiLane a4 a0 a1,
     chiLane b0 b1 b2, chiLane b1 b2 b3, chiLane b2 b3 b4, chiLane b3 b4 b0, chiLane b4 b0 b1,
     chiLane c0 c1 c2, chiLane c1 c2 c3, chiLane c2 c3 c4, chiLane c3 c4 c0, chiLane c4 c0 c1,
     chiLane d0 d1 d2, chiLane d1 d2 d3, chiLane d2 d3 d4, chiLane d3 d4 d0, chiLane d4 d0 d1,
     chiLane e0 e1 e2, chiLane e1 e2 e3, chiLane e2 e3 e4, chiLane e3 e4 e0, chiLane e4 e0 e1]
  | lanes => lanes

def roundLanes (lanes : List Nat) (constant : Nat) : List Nat :=
  chiIotaLanes constant (rhoPiLanes (thetaLanes lanes))

def permutationLanes (lanes : List Nat) : List Nat :=
  ((List.range 24).map fun i => (roundConstant i).toNat).foldl roundLanes lanes

/-- The words a block adds to the lanes; the capacity lanes get zero. -/
def blockLanes (rate : Nat) (block : List Byte) : List Nat :=
  (List.range 25).map fun i =>
    if i < rate / 8 then (laneOfBytes ((block.drop (8 * i)).take 8)).toNat else 0

def absorbLanes (rate : Nat) (message : List Byte) : List Nat :=
  (blocks rate message).foldl
    (fun lanes block => permutationLanes (List.zipWith Nat.xor lanes (blockLanes rate block)))
    (List.replicate 25 0)

def stateOf (lanes : List Nat) : State :=
  State.ofLanes fun x y => BitVec.ofNat 64 (lanes.getD (x.val + 5 * y.val) 0)

/-! ## Correspondence -/

/-- The lanes of a state as numbers, in index order. -/
def lanesOf (A : State) : List Nat :=
  [(A.lane 0 0).toNat, (A.lane 1 0).toNat, (A.lane 2 0).toNat, (A.lane 3 0).toNat, (A.lane 4 0).toNat,
   (A.lane 0 1).toNat, (A.lane 1 1).toNat, (A.lane 2 1).toNat, (A.lane 3 1).toNat, (A.lane 4 1).toNat,
   (A.lane 0 2).toNat, (A.lane 1 2).toNat, (A.lane 2 2).toNat, (A.lane 3 2).toNat, (A.lane 4 2).toNat,
   (A.lane 0 3).toNat, (A.lane 1 3).toNat, (A.lane 2 3).toNat, (A.lane 3 3).toNat, (A.lane 4 3).toNat,
   (A.lane 0 4).toNat, (A.lane 1 4).toNat, (A.lane 2 4).toNat, (A.lane 3 4).toNat, (A.lane 4 4).toNat]

theorem rotate_eq (lane : Lane) (shift : Nat) (small : shift < 64) :
    (lane.rotateLeft shift).toNat = rotate lane.toNat shift := by
  rw [BitVec.toNat_rotateLeft, Nat.mod_eq_of_lt small]
  rfl

theorem parity_eq (A : State) (x : Fin 5) :
    (columnParity A x).toNat = parity (A.lane x 0).toNat (A.lane x 1).toNat (A.lane x 2).toNat
      (A.lane x 3).toNat (A.lane x 4).toNat := by
  simp only [columnParity, BitVec.toNat_xor]
  rfl

theorem theta_toNat (A : State) (x y : Fin 5) :
    ((theta A).lane x y).toNat = Nat.xor (A.lane x y).toNat
      (effect (columnParity A (x - 1)).toNat (columnParity A (x + 1)).toNat) := by
  rw [theta, State.lane_ofLanes, BitVec.toNat_xor, BitVec.toNat_xor, rotate_eq _ 1 (by decide)]
  rfl

theorem lanesOf_theta (A : State) : lanesOf (theta A) = thetaLanes (lanesOf A) := by
  simp only [lanesOf, theta_toNat, parity_eq]
  rfl

theorem rhoPi_toNat (A : State) (x y : Fin 5) :
    ((pi (rho A)).lane x y).toNat =
      rotate (A.lane (x + 3 * y) x).toNat (rhoOffset (x + 3 * y) x) := by
  rw [pi, State.lane_ofLanes, rho, State.lane_ofLanes, rotate_eq _ _ (rhoOffset_lt _ _)]

theorem lanesOf_rhoPi (A : State) : lanesOf (pi (rho A)) = rhoPiLanes (lanesOf A) := by
  simp only [lanesOf, rhoPi_toNat]
  rfl

theorem chi_toNat (A : State) (x y : Fin 5) :
    ((chi A).lane x y).toNat =
      chiLane (A.lane x y).toNat (A.lane (x + 1) y).toNat (A.lane (x + 2) y).toNat := by
  rw [chi, State.lane_ofLanes, BitVec.toNat_xor, BitVec.toNat_and, BitVec.toNat_not]
  rfl

theorem iota_toNat (A : State) (constant : Lane) (x y : Fin 5) :
    ((iota constant A).lane x y).toNat =
      if x = 0 ∧ y = 0 then Nat.xor (A.lane 0 0).toNat constant.toNat else (A.lane x y).toNat := by
  rw [iota, State.lane_ofLanes]
  split
  · exact BitVec.toNat_xor ..
  · rfl

theorem lanesOf_chiIota (A : State) (constant : Lane) :
    lanesOf (iota constant (chi A)) = chiIotaLanes constant.toNat (lanesOf A) := by
  simp only [lanesOf, iota_toNat, chi_toNat]
  rfl

theorem lanesOf_round (A : State) (constant : Lane) :
    lanesOf (Keccak.round A constant) = roundLanes (lanesOf A) constant.toNat := by
  rw [Keccak.round, lanesOf_chiIota, lanesOf_rhoPi, lanesOf_theta, roundLanes]

theorem lanesOf_permutation (A : State) :
    lanesOf (permutation A) = permutationLanes (lanesOf A) := by
  have folded (constants : List Lane) : ∀ A : State,
      lanesOf (constants.foldl Keccak.round A) =
        (constants.map BitVec.toNat).foldl roundLanes (lanesOf A) := by
    induction constants with
    | nil => intro A; rfl
    | cons constant rest ih =>
      intro A
      rw [List.foldl_cons, ih, lanesOf_round, List.map_cons, List.foldl_cons]
  rw [permutation, folded, List.map_map]
  rfl

theorem lanesOf_absorbBlock (rate : Nat) (A : State) (block : List Byte) :
    lanesOf (absorbBlock rate A block) =
      List.zipWith Nat.xor (lanesOf A) (blockLanes rate block) := by
  have lane (x y : Fin 5) : ((absorbBlock rate A block).lane x y).toNat =
      Nat.xor (A.lane x y).toNat
        (if x.val + 5 * y.val < rate / 8 then
          (laneOfBytes ((block.drop (8 * (x.val + 5 * y.val))).take 8)).toNat else 0) := by
    rw [absorbBlock, State.lane_ofLanes]
    by_cases inRate : x.val + 5 * y.val < rate / 8
    · simp only [laneIndex, inRate, if_true, BitVec.toNat_xor]
      rfl
    · simp only [laneIndex, inRate, if_false]
      exact (Nat.xor_zero _).symm
  simp only [lanesOf, lane]
  rfl

theorem lanesOf_absorb (rate : Nat) (message : List Byte) :
    lanesOf (absorb rate message) = absorbLanes rate message := by
  have folded (blocks : List (List Byte)) : ∀ A : State,
      lanesOf (blocks.foldl (fun A block => permutation (absorbBlock rate A block)) A) =
        blocks.foldl (fun lanes block =>
          permutationLanes (List.zipWith Nat.xor lanes (blockLanes rate block))) (lanesOf A) := by
    induction blocks with
    | nil => intro A; rfl
    | cons block rest ih =>
      intro A
      rw [List.foldl_cons, ih, lanesOf_permutation, lanesOf_absorbBlock, List.foldl_cons]
  rw [absorb, folded]
  rfl

theorem stateOf_lanesOf (A : State) : stateOf (lanesOf A) = A := by
  apply State.ext_lane
  intro x y
  have cell : ∀ x y : Fin 5, (lanesOf A).getD (x.val + 5 * y.val) 0 = (A.lane x y).toNat := by
    intro x y
    match x, y with
    | 0, 0 | 1, 0 | 2, 0 | 3, 0 | 4, 0 | 0, 1 | 1, 1 | 2, 1 | 3, 1 | 4, 1 | 0, 2 | 1, 2 | 2, 2
    | 3, 2 | 4, 2 | 0, 3 | 1, 3 | 2, 3 | 3, 3 | 4, 3 | 0, 4 | 1, 4 | 2, 4 | 3, 4 | 4, 4 => rfl
  rw [stateOf, State.lane_ofLanes, cell, BitVec.ofNat_toNat, BitVec.setWidth_eq]

/-- The sponge's state after a message, by evaluation. -/
theorem absorb_eq (rate : Nat) (message : List Byte) :
    absorb rate message = stateOf (absorbLanes rate message) := by
  rw [← lanesOf_absorb, stateOf_lanesOf]

/-- Keccak-256 by evaluation. -/
def keccak256 (message : List Byte) : List Byte :=
  squeeze 32 (stateOf (absorbLanes 136 (message ++ padding 136 0x01 message.length)))

theorem keccak256_eq (message : List Byte) : Keccak.keccak256 message = keccak256 message := by
  rw [Keccak.keccak256, Keccak.hash, absorb_eq, keccak256]

end EpicKfc.Lib.KeccakEval
