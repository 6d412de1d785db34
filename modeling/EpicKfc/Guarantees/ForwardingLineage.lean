import EpicKfc.Guarantees.AccessControl
import EpicKfc.Lib.Lineage

/-!
# Forwards descend from direct messages

`forward_message` records the original it read and `send_message` records none.
Other transactions may commit between that read and the insert, but no write
removes a row or changes its key or parties, so the original is still there.
-/

namespace EpicKfc.Guarantees.ForwardingLineage
open Relation
open EpicKfc.Lib
open EpicKfc.Source.Server
open EpicKfc.Source.Server.Messages
open EpicKfc.Guarantees.AccessControl

def Direct (message : Message) : Prop := message.forwardedFromMessageId = none

/-- The row names the original's key, and a party of the original sent it on. -/
structure ForwardOf (forward original : Message) : Prop where
  names : forward.forwardedFromMessageId = some original.id
  party : forward.senderUserId = original.senderUserId ∨
    forward.senderUserId = original.recipientUserId

/-- A relay before its first request. -/
def RelayEmpty (state : RelayState) : Prop := state.rows = [] ∧ state.openWrites = []

theorem ForwardOf.sameRow {forward original forward' original' : Message}
    (related : ForwardOf forward original)
    (kept : forward'.forwardedFromMessageId = forward.forwardedFromMessageId)
    (sender : forward'.senderUserId = forward.senderUserId) (same : SameRow original original') :
    ForwardOf forward' original' := by
  refine ⟨?_, ?_⟩
  · rw [kept, same.id, related.names]
  · rw [sender, same.senderUserId, same.recipientUserId]
    exact related.party

/-! ## One step -/

/-- The lineage of the committed rows, and that of the row an open write will add. -/
structure LineageKept (state : RelayState) : Prop where
  grown : Lineage.Grown Direct ForwardOf state.rows
  prepared : ∀ added, .insert added ∈ state.openWrites →
    Direct added ∨ ∃ original ∈ state.rows, ForwardOf added original

theorem lineage_starts {state : RelayState} (starts : RelayEmpty state) : LineageKept state := by
  obtain ⟨noRows, noWrites⟩ := starts
  constructor
  · rw [noRows]
    exact .empty
  · intro added member
    rw [noWrites] at member
    cases member

/-- What a request prepares to add. -/
theorem prepare_insert {directory : RelayDirectory} {rows : MessageTable} {request : RelayRequest}
    {added : Message} (prepared : request.prepare directory rows = .ok (.insert added)) :
    Direct added ∨ ∃ original ∈ rows, ForwardOf added original := by
  cases creates_of_prepare prepared with
  | sends => exact Or.inl rfl
  | forwards currentUser messageId request id createdAt original found =>
    have meets := List.find?_some found
    rw [decide_eq_true_eq] at meets
    refine Or.inr ⟨original, List.mem_of_find?_eq_some found, rfl, ?_⟩
    obtain sent | received := meets.2
    · exact Or.inl sent.1.symm
    · exact Or.inr received.1.symm

/-- A committed write grows the lineage; what other writes refer to stays. -/
theorem apply_grown {write : RowWrite} {rows rows' : MessageTable}
    (grown : Lineage.Grown Direct ForwardOf rows)
    (prepared : ∀ added, write = .insert added →
      Direct added ∨ ∃ original ∈ rows, ForwardOf added original)
    (committed : write.apply rows = some rows') : Lineage.Grown Direct ForwardOf rows' := by
  cases write with
  | insert added =>
    simp only [RowWrite.apply] at committed
    split at committed
    · cases committed
    · cases committed
      obtain direct | ⟨original, listed, related⟩ := prepared added rfl
      · exact grown.root direct
      · exact grown.child listed related
  | markSenderDeleted messageId now
  | markRecipientDeleted messageId now
  | revokeRecipientAccess messageId now =>
    cases committed
    refine grown.map _ ?_ ?_
    · intro message direct
      unfold Direct
      split <;> exact direct
    · intro forward original related
      refine related.sameRow ?_ ?_ ?_
      · split <;> rfl
      · split <;> rfl
      · split <;> exact ⟨rfl, rfl, rfl, rfl⟩

theorem lineage_step {state state' : RelayState} {event : RelayEvent} (before : LineageKept state)
    (moved : relayStep state event = some state') : LineageKept state' := by
  cases event with
  | prepare directory request =>
    simp only [relayStep] at moved
    split at moved
    · cases moved
      exact before
    · next write prepared =>
      cases moved
      refine ⟨before.grown, fun added member => ?_⟩
      obtain earlier | here := List.mem_append.mp member
      · exact before.prepared added earlier
      · rw [List.mem_singleton] at here
        exact prepare_insert (prepared.trans (congrArg Except.ok here.symm))
  | commit index =>
    simp only [relayStep, Option.bind_eq_bind, Option.bind_eq_some_iff, Option.pure_def,
      Option.some.injEq] at moved
    obtain ⟨write, found, rows, applied, rfl⟩ := moved
    constructor
    · refine apply_grown before.grown (fun added isInsert => ?_) applied
      exact before.prepared added (isInsert ▸ List.mem_of_getElem? found)
    · intro added member
      obtain direct | ⟨original, listed, related⟩ :=
        before.prepared added (List.mem_of_mem_eraseIdx member)
      · exact Or.inl direct
      · obtain ⟨original', listed', same⟩ := RowWrite.apply_keeps applied original listed
        exact Or.inr ⟨original', listed', related.sameRow rfl rfl same⟩
  | rollback index =>
    simp only [relayStep] at moved
    split at moved
    · cases moved
      exact ⟨before.grown, fun added member =>
        before.prepared added (List.mem_of_mem_eraseIdx member)⟩
    · cases moved

/-! ## Whole runs -/

theorem lineage_reachable {state : RelayState}
    (reached : Runs.Reachable relayStep RelayEmpty state) : LineageKept state :=
  Runs.invariant_of_preserved (fun _ => lineage_starts)
    (fun _ _ _ before _ moved => lineage_step before moved) reached

theorem relay_unique_of_empty {state : RelayState}
    (reached : Runs.Reachable relayStep RelayEmpty state) : UniqueIds state.rows := by
  refine Runs.invariant_of_preserved (fun state starts => ?_)
    (fun _ _ _ before _ moved => relayStep_unique before moved) reached
  rw [UniqueIds, starts.1]
  exact List.nodup_nil

/-- The primary key makes the original the only one. -/
theorem above_single {rows : MessageTable} (unique : UniqueIds rows)
    (forward first second : Message) (up : Lineage.Above ForwardOf rows forward first)
    (up' : Lineage.Above ForwardOf rows forward second) : first = second := by
  refine unique.eq_of_id up.parentListed up'.parentListed ?_
  exact Option.some.inj (up.related.names.symm.trans up'.related.names)

theorem direct_ends {rows : MessageTable} (message original : Message) (direct : Direct message) :
    ¬ Lineage.Above ForwardOf rows message original := by
  intro up
  exact absurd (direct.symm.trans up.related.names) (by simp)

/-- In every state of the relay, following originals leads from each message to exactly one
message that was sent directly, each step going through a party of the original; no message
is among its own originals. -/
theorem forwards_descend {state : RelayState}
    (reached : Runs.Reachable relayStep RelayEmpty state) {message : Message}
    (stored : message ∈ state.rows) :
    (∃! first, first ∈ state.rows ∧ Direct first ∧
      ReflTransGen (Lineage.Above ForwardOf state.rows) message first) ∧
    ¬ TransGen (Lineage.Above ForwardOf state.rows) message message := by
  have unique := relay_unique_of_empty reached
  have single := above_single unique
  have ends := @direct_ends state.rows
  obtain ⟨first, listed, direct, chain⟩ := (lineage_reachable reached).grown.rooted message stored
  refine ⟨⟨first, ⟨listed, direct, chain⟩, ?_⟩, Lineage.no_cycle_of_rooted single ends chain direct⟩
  intro other ⟨_, direct', chain'⟩
  exact Lineage.root_unique single ends chain' chain direct' direct

/-- User 1 sends message 7 to user 2, who forwards it to user 3 as message 8. -/
def sendThenForward : List RelayEvent := [
  .prepare openDirectory (.send 1 (plainRequest 2) 7 .newYear2026),
  .commit 0,
  .prepare openDirectory (.forward 2 7 (plainRequest 3) 8 .newYear2026),
  .commit 0]

theorem forwards_descend_once : ∃ original forward,
    Runs.run relayStep ⟨[], []⟩ sendThenForward = some ⟨[original, forward], []⟩ ∧
    forward.forwardedFromMessageId = some 7 ∧
    ∃! first, first ∈ [original, forward] ∧ Direct first ∧
      ReflTransGen (Lineage.Above ForwardOf [original, forward]) forward first := by
  let original : Message := createMessage 1 (plainRequest 2) none 7 .newYear2026
  let forward : Message := createMessage 2 (plainRequest 3) (some 7) 8 .newYear2026
  have ran : Runs.run relayStep ⟨[], []⟩ sendThenForward = some ⟨[original, forward], []⟩ := by rfl
  have reached : Runs.Reachable relayStep RelayEmpty ⟨[original, forward], []⟩ :=
    Runs.reachable_of_run ⟨rfl, rfl⟩ ran
  have stored : forward ∈ [original, forward] := by simp
  exact ⟨original, forward, ran, rfl, (forwards_descend reached stored).1⟩

end EpicKfc.Guarantees.ForwardingLineage
