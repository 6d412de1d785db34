import EpicKfc.Source.Client.Keccak256

/-!
# The client's Keccak loops against the reference sponge

Each loop of `keccakPermutation` is one step mapping of the reference, the word
loops are the reference's byte order, and the block loop is the reference's
absorption as long as the `int` offset can count the padded input. Padding is
the only place where the two can differ, and `paddedInput_eq_iff` says when.
-/

namespace EpicKfc.Source.Client.Keccak256
open EpicKfc.Lib
open EpicKfc.Lib.ArrayLoops
open EpicKfc.Lib.Keccak (Byte Lane State laneIndex laneIndex_injective)

/-! ## The permutation -/

theorem rotateLeft_eq (value : Lane) (shift : Nat) (small : shift < 64) :
    rotateLeft value shift = value.rotateLeft shift := by
  rw [rotateLeft, BitVec.rotateLeft_def, Nat.mod_eq_of_lt small]
  split
  · rename_i zero
    subst zero
    have cleared : value >>> 64 = 0#64 := BitVec.ushiftRight_eq_zero (Nat.le_refl 64)
    simp only [BitVec.shiftLeft_zero, Nat.sub_zero, cleared, BitVec.or_zero]
  · rfl

theorem columnParityLoop_get (state : State) (x : Fin 5) :
    (columnParityLoop state).get x = Keccak.columnParity state x := by
  exact forEach_get id (fun x _ => Keccak.columnParity state x) Function.injective_id _ x

theorem thetaLoop_get (state : State) (x : Fin 5) :
    (thetaLoop (columnParityLoop state)).get x =
      Keccak.columnParity state (x - 1) ^^^ (Keccak.columnParity state (x + 1)).rotateLeft 1 := by
  have written := forEach_get id (fun x _ => (columnParityLoop state).get (x + 4) ^^^
    rotateLeft ((columnParityLoop state).get (x + 1)) 1) Function.injective_id (Vector.replicate 5 0) x
  have previous : x + 4 = x - 1 := by omega
  rw [columnParityLoop_get, columnParityLoop_get, rotateLeft_eq _ 1 (by decide), previous] at written
  exact written

theorem applyThetaLoop_eq (state : State) :
    applyThetaLoop (thetaLoop (columnParityLoop state)) state = Keccak.theta state := by
  apply State.ext_lane
  intro x y
  have written := forEach₂_get laneIndex
    (fun x _ (lane : Lane) => lane ^^^ (thetaLoop (columnParityLoop state)).get x)
    laneIndex_injective state x y
  rw [thetaLoop_get] at written
  rw [Keccak.theta, Keccak.State.lane_ofLanes]
  exact written

theorem rotationOffsets_get :
    ∀ x y : Fin 5, rotationOffsets.get (laneIndex x y) = Keccak.rhoOffset x y := by decide

/-- Rho and pi are one loop in the source; its destination `(y, 2x + 3y)` is the
place from which pi reads lane `(x, y)`. -/
theorem rotatedLoop_eq (state : State) : rotatedLoop state = Keccak.pi (Keccak.rho state) := by
  apply State.ext_lane
  intro x y
  have destination : Function.Injective fun p : Fin 5 × Fin 5 => laneIndex p.2 (2 * p.1 + 3 * p.2) := by
    intro p q equal
    have coordinates : (p.2, 2 * p.1 + 3 * p.2) = (q.2, 2 * q.1 + 3 * q.2) :=
      laneIndex_injective equal
    have second : p.2 = q.2 := congrArg Prod.fst coordinates
    have combined : 2 * p.1 + 3 * p.2 = 2 * q.1 + 3 * q.2 := congrArg Prod.snd coordinates
    exact Prod.ext (by omega) second
  have written := forEach₂_get (fun x y => laneIndex y (2 * x + 3 * y))
    (fun x y (_ : Lane) => rotateLeft (state.get (laneIndex x y)) (rotationOffsets.get (laneIndex x y)))
    destination (Vector.replicate 25 0) (x + 3 * y) x
  have place : 2 * (x + 3 * y) + 3 * x = y := by omega
  rw [rotationOffsets_get, rotateLeft_eq _ _ (Keccak.rhoOffset_lt _ _)] at written
  simp only [place] at written
  rw [Keccak.pi, Keccak.rho, Keccak.State.lane_ofLanes, Keccak.State.lane_ofLanes]
  exact written

theorem chiLoop_eq (rotated state : State) : chiLoop rotated state = Keccak.chi rotated := by
  apply State.ext_lane
  intro x y
  have written := forEach₂_get laneIndex (fun x y (_ : Lane) => rotated[laneIndex x y] ^^^
    (~~~ rotated[laneIndex (x + 1) y] &&& rotated[laneIndex (x + 2) y])) laneIndex_injective state x y
  rw [Keccak.chi, Keccak.State.lane_ofLanes]
  exact written

theorem set_zero_eq_iota (inside : 0 < 25) (state : State) (constant : Lane) :
    state.set 0 (state[0] ^^^ constant) = Keccak.iota constant state := by
  apply State.ext_lane
  intro x y
  rw [Keccak.iota, Keccak.State.lane_ofLanes]
  by_cases origin : x = 0 ∧ y = 0
  · obtain ⟨rfl, rfl⟩ := origin
    exact Vector.getElem_set_self inside
  · have index : (0 : Nat) ≠ (laneIndex x y).val := by
      simp only [laneIndex]
      omega
    rw [if_neg origin]
    exact Vector.getElem_set_ne inside (laneIndex x y).isLt index

theorem keccakRound_eq (state : State) (constant : Lane) :
    keccakRound state constant = Keccak.round state constant := by
  simp only [keccakRound, Keccak.round, applyThetaLoop_eq, rotatedLoop_eq, chiLoop_eq]
  exact set_zero_eq_iota (by decide) _ constant

theorem roundConstants_eq : roundConstants = (List.range 24).map Keccak.roundConstant := by decide

theorem keccakPermutation_eq (state : State) : keccakPermutation state = Keccak.permutation state := by
  have rounds : keccakRound = Keccak.round := funext fun A => funext fun c => keccakRound_eq A c
  rw [keccakPermutation, Keccak.permutation, rounds, roundConstants_eq]

/-! ## Words and bytes -/

theorem readLittleEndianWord_eq (block : List Byte) (offset : Nat)
    (inside : offset + 8 ≤ block.length) :
    readLittleEndianWord block offset = Keccak.laneOfBytes ((block.drop offset).take 8) := by
  have bytes : (block.drop offset).take 8 =
      (List.range 8).map fun index => block.getD (offset + index) 0 := by
    apply List.ext_getElem
    · simp
      omega
    · intro i left right
      have bound : offset + i < block.length := by
        simp only [List.length_take, List.length_drop] at left
        omega
      simp [List.getD_eq_getElem?_getD, List.getElem?_eq_getElem bound]
  rw [bytes]
  exact Keccak.foldl_shifted_bytes (fun index => block.getD (offset + index) 0) 8

theorem appendLittleEndianWord_eq (output : List Byte) (value : Lane) :
    appendLittleEndianWord output value = output ++ Keccak.bytesOfLane value := by
  have byte (index : Nat) :
      ((value >>> (8 * index)) &&& 0xff).setWidth 8 = value.extractLsb' (8 * index) 8 := by
    apply BitVec.eq_of_getLsbD_eq
    intro i hi
    have mask : ∀ i < 8, (0xff : Lane).getLsbD i = true := by decide
    simp only [BitVec.getLsbD_setWidth, BitVec.getLsbD_and, BitVec.getLsbD_ushiftRight,
      BitVec.getLsbD_extractLsb', hi, mask i hi, decide_true, Bool.true_and, Bool.and_true]
  have appended (indices : List Nat) : ∀ bytes : List Byte,
      indices.foldl (fun bytes index => bytes ++ [((value >>> (8 * index)) &&& 0xff).setWidth 8])
        bytes = bytes ++ indices.map fun index => value.extractLsb' (8 * index) 8 := by
    induction indices with
    | nil => intro bytes; simp
    | cons index rest ih =>
      intro bytes
      rw [List.foldl_cons, ih, byte, List.map_cons, List.append_assoc]
      rfl
  exact appended _ output

/-! ## The sponge loops -/

theorem rateLane_injective : Function.Injective rateLane := Fin.castLE_injective (by decide)

theorem absorbLoop_eq (padded : List Byte) (offset : Nat) (state : State)
    (inside : offset + keccakRateBytes ≤ padded.length) :
    absorbLoop padded offset state =
      Keccak.absorbBlock keccakRateBytes state ((padded.drop offset).take keccakRateBytes) := by
  apply State.ext_lane
  intro x y
  rw [Keccak.absorbBlock, Keccak.State.lane_ofLanes]
  by_cases absorbed : (laneIndex x y).val < keccakRateBytes / 8
  · have bound : 8 * (laneIndex x y).val + 8 ≤ keccakRateBytes := by
      simp only [keccakRateBytes] at absorbed ⊢
      omega
    have room : min 8 (keccakRateBytes - 8 * (laneIndex x y).val) = 8 := by omega
    have word : readLittleEndianWord padded (offset + (laneIndex x y).val * 8) =
        Keccak.laneOfBytes
          ((((padded.drop offset).take keccakRateBytes).drop (8 * (laneIndex x y).val)).take 8) := by
      rw [readLittleEndianWord_eq _ _ (by omega), List.drop_take, List.take_take, List.drop_drop,
        room, Nat.mul_comm]
    have written := forEach_get rateLane
      (fun lane word => word ^^^ readLittleEndianWord padded (offset + lane.val * 8))
      rateLane_injective state ⟨_, absorbed⟩
    rw [if_pos absorbed, ← word]
    exact written
  · rw [if_neg absorbed]
    refine forEach_get_frame rateLane
      (fun lane word => word ^^^ readLittleEndianWord padded (offset + lane.val * 8))
      state (laneIndex x y) ?_
    intro lane equal
    have position : lane.val = (laneIndex x y).val := congrArg Fin.val equal
    exact absorbed (position ▸ lane.isLt)

/-- The block loop from block `i` on, as long as its counter stays an `int`. -/
theorem blockLoop_eq (padded : List Byte) (count : Nat)
    (total : padded.length = keccakRateBytes * count) (fits : padded.length ≤ intMax) :
    ∀ (left i : Nat) (state : State), i + left = count →
      blockLoop padded (keccakRateBytes * i) state = some
        (((List.range' i left).map fun i => (padded.drop (keccakRateBytes * i)).take keccakRateBytes).foldl
          (fun A block => Keccak.permutation (Keccak.absorbBlock keccakRateBytes A block)) state) := by
  intro left
  induction left with
  | zero =>
    intro i state last
    rw [blockLoop, if_neg (by simp only [keccakRateBytes] at *; omega)]
    rfl
  | succ left ih =>
    intro i state position
    have next : keccakRateBytes * i + keccakRateBytes = keccakRateBytes * (i + 1) := by
      rw [Nat.mul_add, Nat.mul_one]
    have room : keccakRateBytes * (i + 1) ≤ padded.length := by
      rw [total]
      exact Nat.mul_le_mul_left _ (by omega)
    rw [blockLoop, if_pos (by simp only [keccakRateBytes] at *; omega), if_pos (by omega), next,
      ih (i + 1) _ (by omega), List.range'_succ, List.map_cons, List.foldl_cons,
      absorbLoop_eq _ _ _ (by omega), keccakPermutation_eq]

/-- Past `INT_MAX` the counter overflows before the last block is absorbed. -/
theorem blockLoop_overflow (padded : List Byte) (tooLong : intMax < padded.length) :
    ∀ (offset : Nat) (state : State), offset ≤ intMax → blockLoop padded offset state = none := by
  have decreasing : ∀ (fuel offset : Nat) (state : State), padded.length - offset ≤ fuel →
      offset ≤ intMax → blockLoop padded offset state = none := by
    intro fuel
    induction fuel with
    | zero => intro offset state bound small; omega
    | succ fuel ih =>
      intro offset state bound small
      rw [blockLoop, if_pos (by omega)]
      by_cases counted : offset + keccakRateBytes ≤ intMax
      · simp only [counted, if_true]
        exact ih _ _ (by simp only [keccakRateBytes]; omega) counted
      · simp only [counted, if_false]
  intro offset state small
  exact decreasing _ offset state (Nat.le_refl _) small

theorem bytesOfLane_length (value : Lane) : (Keccak.bytesOfLane value).length = 8 := by
  simp [Keccak.bytesOfLane]

theorem outputLoop_step (state : State) (lane : Nat) (output : List Byte)
    (room : output.length + 8 ≤ keccakDigestBytes) :
    outputLoop state lane output =
      outputLoop state (lane + 1) (output ++ Keccak.bytesOfLane (state.getD lane 0)) := by
  have whole : (Keccak.bytesOfLane (state.getD lane 0)).take (keccakDigestBytes - output.length) =
      Keccak.bytesOfLane (state.getD lane 0) :=
    List.take_of_length_le (by rw [bytesOfLane_length]; omega)
  rw [outputLoop, if_pos (by omega)]
  simp only [appendLittleEndianWord_eq, List.nil_append, whole]

/-- Four whole lanes fill the digest, so the loop's last `left` cuts nothing. -/
theorem outputLoop_eq (state : State) :
    outputLoop state 0 [] = Keccak.squeeze keccakDigestBytes state := by
  rw [outputLoop_step _ _ _ (by simp [keccakDigestBytes]),
    outputLoop_step _ _ _ (by simp [bytesOfLane_length, keccakDigestBytes]),
    outputLoop_step _ _ _ (by simp [bytesOfLane_length, keccakDigestBytes]),
    outputLoop_step _ _ _ (by simp [bytesOfLane_length, keccakDigestBytes]),
    outputLoop, if_neg (by simp [bytesOfLane_length, keccakDigestBytes]), Keccak.squeeze]
  have lanes : state.toList = state.getD 0 0 :: state.getD 1 0 :: state.getD 2 0 :: state.getD 3 0 ::
      state.toList.drop 4 := by
    apply List.ext_getElem
    · simp
    · intro i left right
      rcases i with _ | _ | _ | _ | i
      case succ.succ.succ.succ => simp [Nat.add_comm 4 i]
      all_goals simp [Vector.getD]
  have total : ([] ++ Keccak.bytesOfLane (state.getD 0 0) ++ Keccak.bytesOfLane (state.getD 1 0) ++
      Keccak.bytesOfLane (state.getD 2 0) ++ Keccak.bytesOfLane (state.getD 3 0)).length =
        keccakDigestBytes := by
    simp [bytesOfLane_length, keccakDigestBytes]
  rw [lanes, ← total]
  simp only [List.flatMap_cons, ← List.append_assoc, List.nil_append, List.take_left]

/-! ## Padding -/

theorem appendZeros_eq (padded : List Byte) :
    appendZeros padded = padded ++
      List.replicate ((2 * keccakRateBytes - 1 - padded.length % keccakRateBytes) % keccakRateBytes) 0 := by
  induction padded using appendZeros.induct with
  | case1 padded full =>
    rw [appendZeros, if_pos full, full]
    simp [keccakRateBytes]
  | case2 padded short ih =>
    rw [appendZeros, if_neg short, ih, List.append_assoc, List.length_append]
    simp only [List.length_cons, List.length_nil, keccakRateBytes] at *
    have more : (2 * 136 - 1 - padded.length % 136) % 136 =
        (2 * 136 - 1 - (padded.length + (0 + 1)) % 136) % 136 + 1 := by omega
    rw [more, List.replicate_succ]
    rfl

/-- The source never merges the two padding bytes, so it always appends at least two. -/
theorem paddedInput_eq (input : List Byte) :
    paddedInput input = input ++ (keccakPaddingStart ::
      List.replicate ((2 * keccakRateBytes - 2 - input.length % keccakRateBytes) % keccakRateBytes) 0 ++
      [keccakPaddingEnd]) := by
  rw [paddedInput, appendZeros_eq, List.length_append, List.append_assoc, List.append_assoc]
  have zeros : (2 * keccakRateBytes - 1 - (input.length + [keccakPaddingStart].length) % keccakRateBytes)
      % keccakRateBytes = (2 * keccakRateBytes - 2 - input.length % keccakRateBytes) % keccakRateBytes := by
    simp only [keccakRateBytes, List.length_cons, List.length_nil]
    omega
  rw [zeros]
  rfl

/-- The two paddings agree exactly when more than one byte of the last block is free. -/
theorem paddedInput_eq_iff (input : List Byte) :
    paddedInput input = input ++ Keccak.padding keccakRateBytes keccakPaddingStart input.length ↔
      input.length % keccakRateBytes ≠ keccakRateBytes - 1 := by
  rw [paddedInput_eq, List.append_cancel_left_eq, Keccak.padding]
  by_cases merged : input.length % keccakRateBytes = keccakRateBytes - 1
  · have free : keccakRateBytes - input.length % keccakRateBytes = 1 := by
      simp only [keccakRateBytes] at merged ⊢
      omega
    have bytes : (keccakPaddingStart ::
        List.replicate ((2 * keccakRateBytes - 2 - input.length % keccakRateBytes) % keccakRateBytes) 0 ++
        [keccakPaddingEnd]).length ≠ [keccakPaddingStart ||| 0x80].length := by
      simp [keccakRateBytes]
    simp only [merged, ne_eq, not_true_eq_false, iff_false]
    intro equal
    rw [merged] at bytes
    exact bytes (congrArg List.length equal)
  · have free : keccakRateBytes - input.length % keccakRateBytes ≠ 1 := by
      simp only [keccakRateBytes] at merged ⊢
      omega
    have zeros : (2 * keccakRateBytes - 2 - input.length % keccakRateBytes) % keccakRateBytes =
        keccakRateBytes - input.length % keccakRateBytes - 2 := by
      simp only [keccakRateBytes] at merged ⊢
      omega
    simp only [free, if_false, zeros, merged, ne_eq, not_false_eq_true, iff_true]
    rfl

end EpicKfc.Source.Client.Keccak256
