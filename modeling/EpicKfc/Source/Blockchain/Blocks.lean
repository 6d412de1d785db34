import EpicKfc.Source.Blockchain.Transactions

/-!
# Calls in the order of the blocks

What the contract is after the blocks took some calls of `storeHash`. A record is
fixed by the first call for it that its owner sent with enough gas, unless the
contract had it before.
-/

namespace EpicKfc.Source.Blockchain.Blocks
open EpicKfc.Source.Blockchain.MessageFidelity
open EpicKfc.Source.Blockchain.Transactions (Receipt)

/-- A signed call as a block takes it. -/
structure Call where
  sender : Address
  recordId : Bytes32
  contentHash : Bytes32
  now : BlockTime
  gasSuffices : Bool
deriving DecidableEq

def execute (call : Call) (contract : Contract) : Receipt × Contract :=
  if call.gasSuffices then
    match storeHash call.sender call.now call.recordId call.contentHash contract with
    | .ok (contract', _) => (.success, contract')
    | .error _ => (.failure, contract)
  else (.failure, contract)

def executeAll (calls : List Call) (contract : Contract) : Contract :=
  calls.foldl (fun contract call => (execute call contract).2) contract

/-- Only the record can stop the call. -/
def Call.effective (owner : Address) (call : Call) : Bool := call.gasSuffices && call.sender == owner

/-- The first call that can write the record. -/
def writer (recordId : Bytes32) (owner : Address) (calls : List Call) : Option Call :=
  calls.find? fun call => call.effective owner && call.recordId == recordId

theorem effective_iff {owner : Address} {call : Call} :
    call.effective owner = true ↔ call.gasSuffices = true ∧ call.sender = owner := by
  rw [Call.effective, Bool.and_eq_true, beq_iff_eq]

/-- The call is executed exactly when the owner sent it with enough gas for a free record. -/
theorem execute_cases (call : Call) (contract : Contract) :
    (call.effective contract.owner = true ∧ hasRecord call.recordId contract = false ∧
      execute call contract = (.success, { contract with
        records := Function.update contract.records call.recordId ⟨call.contentHash, call.now⟩ })) ∨
    ((call.effective contract.owner = true → hasRecord call.recordId contract = true) ∧
      execute call contract = (.failure, contract)) := by
  rw [execute]
  split
  · next enough =>
    split
    · next contract' event stored =>
      obtain ⟨authorized, free, rfl⟩ := storeHash_ok stored
      exact Or.inl ⟨effective_iff.mpr ⟨enough, authorized⟩, free, rfl⟩
    · next problem refused =>
      refine Or.inr ⟨fun effective => ?_, rfl⟩
      rw [← Bool.not_eq_false]
      intro free
      obtain ⟨result, stored⟩ := storeHash_isOk_iff.mpr ⟨(effective_iff.mp effective).2, free⟩
      rw [refused] at stored
      cases stored
  · next short =>
    refine Or.inr ⟨fun effective => ?_, rfl⟩
    exact absurd (effective_iff.mp effective).1 short

theorem execute_success_iff {call : Call} {contract : Contract} :
    (execute call contract).1 = .success ↔
      call.effective contract.owner = true ∧ hasRecord call.recordId contract = false := by
  obtain ⟨effective, free, executed⟩ | ⟨stopped, executed⟩ := execute_cases call contract
  · rw [executed]
    exact ⟨fun _ => ⟨effective, free⟩, fun _ => rfl⟩
  · rw [executed]
    constructor
    · intro success
      cases success
    · rintro ⟨effective, free⟩
      rw [stopped effective] at free
      cases free

theorem owner_execute (call : Call) (contract : Contract) :
    (execute call contract).2.owner = contract.owner := by
  obtain ⟨-, -, executed⟩ | ⟨-, executed⟩ := execute_cases call contract
  · rw [executed]
  · rw [executed]

theorem hasRecord_execute (call : Call) (contract : Contract) (recordId : Bytes32) :
    hasRecord recordId (execute call contract).2 = true ↔
      hasRecord recordId contract = true ∨
        call.effective contract.owner = true ∧ call.recordId = recordId := by
  obtain ⟨effective, free, executed⟩ | ⟨stopped, executed⟩ := execute_cases call contract
  · rw [executed]
    by_cases same : call.recordId = recordId
    · have written : hasRecord recordId { contract with
          records := Function.update contract.records call.recordId
            ⟨call.contentHash, call.now⟩ } = true := by
        rw [hasRecord, ← same]
        simp only [Function.update_self, decide_eq_true_eq]
        exact call.now.property
      exact iff_of_true written (Or.inr ⟨effective, same⟩)
    · simp only [hasRecord, Function.update_of_ne (Ne.symm same), same, and_false, or_false]
  · rw [executed]
    constructor
    · exact Or.inl
    · rintro (before | ⟨effective, rfl⟩)
      · exact before
      · exact stopped effective

theorem free_execute (call : Call) (contract : Contract) (recordId : Bytes32) :
    hasRecord recordId (execute call contract).2 = false ↔ hasRecord recordId contract = false ∧
      ¬ (call.effective contract.owner = true ∧ call.recordId = recordId) := by
  rw [← Bool.not_eq_true, hasRecord_execute, not_or, Bool.not_eq_true]

theorem holds_execute (call : Call) (contract : Contract) (recordId contentHash : Bytes32) :
    Holds (execute call contract).2 recordId contentHash ↔
      Holds contract recordId contentHash ∨ hasRecord recordId contract = false ∧
        call.effective contract.owner = true ∧ call.recordId = recordId ∧
          call.contentHash = contentHash := by
  have present := hasRecord_execute call contract recordId
  obtain ⟨effective, free, executed⟩ | ⟨stopped, executed⟩ := execute_cases call contract
  · rw [executed] at present ⊢
    by_cases same : call.recordId = recordId
    · subst same
      have absent : ¬ Holds contract call.recordId contentHash := by
        rintro ⟨before, -⟩
        rw [free] at before
        cases before
      rw [Holds, present]
      simp [effective, free, absent]
    · have before : ¬ (hasRecord recordId contract = false ∧
          call.effective contract.owner = true ∧ call.recordId = recordId ∧
            call.contentHash = contentHash) := fun wrote => same wrote.2.2.1
      rw [or_iff_left before]
      simp only [Holds, hasRecord, Function.update_of_ne (Ne.symm same)]
  · rw [executed]
    constructor
    · exact Or.inl
    · rintro (holds | ⟨free, effective, rfl, -⟩)
      · exact holds
      · rw [stopped effective] at free
        cases free

/-! ## Whole lists -/

theorem executeAll_cons (call : Call) (rest : List Call) (contract : Contract) :
    executeAll (call :: rest) contract = executeAll rest (execute call contract).2 := rfl

theorem executeAll_append (calls later : List Call) (contract : Contract) :
    executeAll (calls ++ later) contract = executeAll later (executeAll calls contract) :=
  List.foldl_append ..

theorem owner_executeAll (calls : List Call) (contract : Contract) :
    (executeAll calls contract).owner = contract.owner := by
  induction calls generalizing contract with
  | nil => rfl
  | cons call rest ih =>
    exact (ih _).trans (owner_execute call contract)

theorem writer_cons (recordId : Bytes32) (owner : Address) (call : Call) (rest : List Call) :
    writer recordId owner (call :: rest) =
      if call.effective owner = true ∧ call.recordId = recordId then some call
      else writer recordId owner rest := by
  by_cases writes : call.effective owner = true ∧ call.recordId = recordId
  · rw [if_pos writes, writer, List.find?_cons_of_pos]
    rw [writes.1, writes.2, beq_self_eq_true, Bool.and_true]
  · rw [if_neg writes, writer, List.find?_cons_of_neg]
    · rfl
    · rwa [Bool.and_eq_true, beq_iff_eq]

theorem writer_append (recordId : Bytes32) (owner : Address) (calls later : List Call) :
    writer recordId owner (calls ++ later) =
      (writer recordId owner calls).or (writer recordId owner later) :=
  List.find?_append

/-- The contract has what it had, and the records that the calls can write. -/
theorem hasRecord_executeAll (calls : List Call) (contract : Contract) (recordId : Bytes32) :
    hasRecord recordId (executeAll calls contract) = false ↔
      hasRecord recordId contract = false ∧ writer recordId contract.owner calls = none := by
  induction calls generalizing contract with
  | nil => simp [executeAll, writer]
  | cons call rest ih =>
    rw [executeAll_cons, ih, owner_execute, writer_cons, free_execute]
    split
    · next writes => simp [writes]
    · next silent => simp [silent]

/-- Of two calls for one record the first decides. -/
theorem holds_executeAll (calls : List Call) (contract : Contract) (recordId contentHash : Bytes32) :
    Holds (executeAll calls contract) recordId contentHash ↔
      Holds contract recordId contentHash ∨ hasRecord recordId contract = false ∧
        (writer recordId contract.owner calls).map Call.contentHash = some contentHash := by
  induction calls generalizing contract with
  | nil => simp [executeAll, writer]
  | cons call rest ih =>
    rw [executeAll_cons, ih, owner_execute, writer_cons, holds_execute, free_execute]
    split
    · next writes => simp [writes]
    · next silent =>
      have other : ¬ (call.effective contract.owner = true ∧ call.recordId = recordId ∧
          call.contentHash = contentHash) := fun wrote => silent ⟨wrote.1, wrote.2.1⟩
      simp [silent, other]

end EpicKfc.Source.Blockchain.Blocks
