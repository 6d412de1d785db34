import EpicKfc.Source.Blockchain.MessageFidelity

/-!
# Calls of the contract as transactions

A signed call of `storeHash` is known to the nodes by its transaction hash, waits,
and is either executed in some block or runs out of gas there; a revert and an
exhausted gas limit both give a failed receipt. A receipt of success stands for an
execution of the call.
-/

namespace EpicKfc.Source.Blockchain.Transactions
open EpicKfc.Source.Blockchain.MessageFidelity

inductive Receipt where
  | success
  | failure
deriving DecidableEq, Repr

structure Transaction where
  sender : Address
  recordId : Bytes32
  contentHash : Bytes32
  receipt : Option Receipt
deriving DecidableEq

/-- Every successful receipt stands for a call that the contract executed. -/
def Executed (contract : Contract) (transactions : String → Option Transaction) : Prop :=
  ∀ hash transaction, transactions hash = some transaction →
    transaction.receipt = some .success →
      Holds contract transaction.recordId transaction.contentHash

structure Chain where
  contract : Contract
  transactions : String → Option Transaction
  executed : Executed contract transactions

theorem executed_broadcast {chain : Chain} {hash : String} (sender : Address)
    (recordId contentHash : Bytes32) : Executed chain.contract
      (Function.update chain.transactions hash (some ⟨sender, recordId, contentHash, none⟩)) := by
  intro other transaction known success
  by_cases same : other = hash
  · rw [same, Function.update_self] at known
    cases known
    cases success
  · rw [Function.update_of_ne same] at known
    exact chain.executed other transaction known success

theorem executed_success {chain : Chain} {hash : String} {transaction : Transaction}
    {now : BlockTime} {contract : Contract} {event : HashAnchored}
    (stored : storeHash transaction.sender now transaction.recordId transaction.contentHash
      chain.contract = .ok (contract, event)) :
    Executed contract (Function.update chain.transactions hash
      (some { transaction with receipt := some .success })) := by
  intro other transaction' known success
  by_cases same : other = hash
  · rw [same, Function.update_self] at known
    cases known
    exact holds_of_storeHash stored
  · rw [Function.update_of_ne same] at known
    exact (chain.executed other transaction' known success).storeHash stored

theorem executed_failure {chain : Chain} {hash : String} (transaction : Transaction) :
    Executed chain.contract (Function.update chain.transactions hash
      (some { transaction with receipt := some .failure })) := by
  intro other transaction' known success
  by_cases same : other = hash
  · rw [same, Function.update_self] at known
    cases known
    cases success
  · rw [Function.update_of_ne same] at known
    exact chain.executed other transaction' known success

/-- The contract right after its deployment. -/
def deployed (owner : Address) : Chain where
  contract := deploy owner
  transactions _ := none
  executed := fun _ _ known => absurd known (Option.some_ne_none _).symm

/-- `send_raw_transaction`; a known transaction is not taken again. -/
def broadcast (hash : String) (sender : Address) (recordId contentHash : Bytes32) (chain : Chain) :
    Option Chain :=
  match chain.transactions hash with
  | some _ => none
  | none => some {
      contract := chain.contract
      transactions :=
        Function.update chain.transactions hash (some ⟨sender, recordId, contentHash, none⟩)
      executed := executed_broadcast sender recordId contentHash }

/-- The call is refused and leaves a failed receipt. -/
def failed (hash : String) (transaction : Transaction) (chain : Chain) : Chain where
  contract := chain.contract
  transactions := Function.update chain.transactions hash
    (some { transaction with receipt := some .failure })
  executed := executed_failure transaction

def execute (hash : String) (transaction : Transaction) (now : BlockTime) (chain : Chain) : Chain :=
  match stored : storeHash transaction.sender now transaction.recordId transaction.contentHash
      chain.contract with
  | .error _ => failed hash transaction chain
  | .ok (contract, _) => {
      contract := contract
      transactions := Function.update chain.transactions hash
        (some { transaction with receipt := some .success })
      executed := executed_success stored }

/-- A block takes a waiting call. -/
def mine (hash : String) (now : BlockTime) (gasSuffices : Bool) (chain : Chain) : Option Chain :=
  match chain.transactions hash with
  | none => none
  | some transaction =>
    if transaction.receipt = none then
      some (if gasSuffices then execute hash transaction now chain
        else failed hash transaction chain)
    else none

def receiptOf (hash : String) (chain : Chain) : Option Receipt :=
  (chain.transactions hash).bind Transaction.receipt

/-! ## What the chain keeps -/

/-- Between the two the contract forgets no hash and no call changes what it asks for. -/
structure Extends (chain chain' : Chain) : Prop where
  holds : ∀ recordId contentHash, Holds chain.contract recordId contentHash →
    Holds chain'.contract recordId contentHash
  known : ∀ hash transaction, chain.transactions hash = some transaction →
    ∃ receipt, chain'.transactions hash = some { transaction with receipt := receipt }

theorem Extends.refl (chain : Chain) : Extends chain chain :=
  ⟨fun _ _ => id, fun _ transaction known => ⟨transaction.receipt, known⟩⟩

theorem broadcast_extends {hash : String} {sender : Address} {recordId contentHash : Bytes32}
    {chain chain' : Chain} (sent : broadcast hash sender recordId contentHash chain = some chain') :
    Extends chain chain' ∧
      chain'.transactions hash = some ⟨sender, recordId, contentHash, none⟩ := by
  unfold broadcast at sent
  split at sent
  · cases sent
  · next unknown =>
    cases sent
    refine ⟨⟨fun _ _ => id, fun other transaction known => ⟨transaction.receipt, ?_⟩⟩,
      Function.update_self ..⟩
    have different : other ≠ hash := by
      intro same
      rw [same, unknown] at known
      cases known
    simp only [Function.update_of_ne different]
    exact known

theorem updated_known {transactions : String → Option Transaction} {hash : String}
    {transaction : Transaction} (here : transactions hash = some transaction) (receipt : Option Receipt)
    {other : String} {transaction' : Transaction} (known : transactions other = some transaction') :
    ∃ receipt', Function.update transactions hash (some { transaction with receipt := receipt })
      other = some { transaction' with receipt := receipt' } := by
  by_cases same : other = hash
  · subst same
    rw [here] at known
    cases known
    exact ⟨receipt, Function.update_self ..⟩
  · exact ⟨transaction'.receipt, by rw [Function.update_of_ne same, known]⟩

theorem failed_extends {hash : String} {transaction : Transaction} {chain : Chain}
    (here : chain.transactions hash = some transaction) :
    Extends chain (failed hash transaction chain) :=
  ⟨fun _ _ => id, fun _ _ known => updated_known here _ known⟩

theorem execute_extends {hash : String} {transaction : Transaction} {now : BlockTime} {chain : Chain}
    (here : chain.transactions hash = some transaction) :
    Extends chain (execute hash transaction now chain) := by
  unfold execute
  split
  · exact failed_extends here
  · next contract event stored =>
    exact ⟨fun _ _ holds => holds.storeHash stored, fun _ _ known => updated_known here _ known⟩

theorem mine_extends {hash : String} {now : BlockTime} {gasSuffices : Bool} {chain chain' : Chain}
    (mined : mine hash now gasSuffices chain = some chain') : Extends chain chain' := by
  unfold mine at mined
  split at mined
  · cases mined
  · next transaction here =>
    split at mined
    · cases mined
      split
      · exact execute_extends here
      · exact failed_extends here
    · cases mined

/-- A receipt of success proves that the contract holds what the call asked for. -/
theorem holds_of_receipt {hash : String} {sender : Address} {recordId contentHash : Bytes32}
    {receipt : Option Receipt} {chain : Chain}
    (known : chain.transactions hash = some ⟨sender, recordId, contentHash, receipt⟩)
    (success : receiptOf hash chain = some .success) :
    Holds chain.contract recordId contentHash := by
  rw [receiptOf, known, Option.bind_some] at success
  exact chain.executed hash _ known success

end EpicKfc.Source.Blockchain.Transactions
