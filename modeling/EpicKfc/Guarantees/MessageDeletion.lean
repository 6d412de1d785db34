import EpicKfc.Guarantees.AccessControl

/-!
# Deletion for the deleter

A deletion marks the message for one role of the user, the sender's when the user is
the sender. The queries look at both roles, so a message to oneself is still read as
its recipient.
-/

namespace EpicKfc.Guarantees.MessageDeletion
open EpicKfc.Lib
open EpicKfc.Source.Server
open EpicKfc.Source.Server.Messages
open EpicKfc.Guarantees.AccessControl

/-- The user gets the message neither by its id nor on any page of a list. -/
def Hidden (userId messageId : Uuid) (rows : MessageTable) : Prop :=
  getAccessibleById messageId userId rows = none ∧
  (∀ limit offset, ∀ message ∈ listSent userId limit offset rows, message.id ≠ messageId) ∧
  (∀ limit offset, ∀ message ∈ listReceived userId limit offset rows, message.id ≠ messageId)

/-- The user sent the message and sees it as its recipient too. -/
def ReceivedFromOneself (userId messageId : Uuid) (rows : MessageTable) : Prop :=
  ∃ message ∈ rows, message.id = messageId ∧ message.senderUserId = userId ∧
    recipientVisible userId message

/-- What `delete_message_for_user` prepared for the user from the rows it read takes effect. -/
def DeletionCommits (userId messageId : Uuid) (read state deleted : RelayState) : Prop :=
  ∃ now write, deleteMessageForUser userId messageId now read.rows = .ok write ∧
    (∃ events, Runs.run relayStep read events = some state) ∧
    ∃ index, state.openWrites[index]? = some write ∧ relayStep state (.commit index) = some deleted

theorem hidden_of_refused {userId messageId : Uuid} {rows : MessageTable} (unique : UniqueIds rows)
    (refused : getAccessibleById messageId userId rows = none) : Hidden userId messageId rows := by
  obtain ⟨pages, -, -⟩ := @refused_everywhere messageId userId rows unique refused
  exact ⟨refused, pages .sent, pages .received⟩

/-- The write marks the sender's side when the user is the sender, else the recipient's. -/
theorem deleteMessageForUser_ok {userId messageId : Uuid} {now : UtcTimestamp} {rows : MessageTable}
    {write : RowWrite} (accepted : deleteMessageForUser userId messageId now rows = .ok write) :
    ∃ message ∈ rows, message.id = messageId ∧
      (message.senderUserId = userId ∧ write = .markSenderDeleted messageId now ∨
        message.senderUserId ≠ userId ∧ write = .markRecipientDeleted messageId now) := by
  simp only [deleteMessageForUser, bind, Except.bind] at accepted
  split at accepted
  · cases accepted
  · next message present =>
    have found : getById messageId rows = some message := by
      unfold presentMessage at present
      split at present
      · cases present
      · split at present
        · cases present
          assumption
        · cases present
    refine ⟨message, List.mem_of_find?_eq_some found, by simpa using List.find?_some found, ?_⟩
    have marked {prepared : Option RowWrite} (given : orAccessDenied prepared = .ok write) :
        prepared = some write := by
      cases prepared with
      | none => cases given
      | some other => cases given; rfl
    split at accepted
    · next sender =>
      obtain ⟨row, -, rfl⟩ := Option.map_eq_some_iff.mp (marked accepted)
      exact Or.inl ⟨sender, rfl⟩
    · next other =>
      split at accepted
      · obtain ⟨row, -, rfl⟩ := Option.map_eq_some_iff.mp (marked accepted)
        exact Or.inr ⟨other, rfl⟩
      · cases accepted

/-- The rows after the deletion: one marker of one role of the message is set. -/
theorem rows_of_deletion {userId messageId : Uuid} {read state deleted : RelayState}
    (commits : DeletionCommits userId messageId read state deleted) (unique : UniqueIds read.rows) :
    UniqueIds state.rows ∧ ∃ message ∈ state.rows, message.id = messageId ∧ ∃ now,
      (message.senderUserId = userId ∧ deleted.rows = updateRow messageId
          (fun message => { message with senderDeletedAt := some now }) state.rows ∨
        message.senderUserId ≠ userId ∧ deleted.rows = updateRow messageId
          (fun message => { message with recipientDeletedAt := some now }) state.rows) := by
  obtain ⟨now, write, accepted, ⟨events, ran⟩, index, opened, moved⟩ := commits
  obtain ⟨unique', grown⟩ := run_grows unique ran
  obtain ⟨original, member, key, written⟩ := deleteMessageForUser_ok accepted
  obtain ⟨message, member', grow⟩ := grown original member
  simp only [relayStep, opened, Option.bind_eq_bind, Option.bind_some, Option.bind_eq_some_iff,
    Option.pure_def, Option.some.injEq] at moved
  obtain ⟨rows, applied, rfl⟩ := moved
  refine ⟨unique', message, member', grow.same.id.trans key, now, ?_⟩
  rw [grow.same.senderUserId]
  rcases written with ⟨sender, rfl⟩ | ⟨other, rfl⟩
  · cases applied
    exact Or.inl ⟨sender, rfl⟩
  · cases applied
    exact Or.inr ⟨other, rfl⟩

/-- After the commit the user reads the message only as the recipient of an own message. -/
theorem refused_iff {userId messageId : Uuid} {read state deleted : RelayState}
    (unique : UniqueIds read.rows) (commits : DeletionCommits userId messageId read state deleted) :
    getAccessibleById messageId userId deleted.rows = none ↔
      ¬ ReceivedFromOneself userId messageId state.rows := by
  obtain ⟨unique', message, member, key, now, marked⟩ := rows_of_deletion commits unique
  have only {row : Message} (belongs : row ∈ state.rows) (same : row.id = messageId) : row = message :=
    unique'.eq_of_id belongs member (same.trans key.symm)
  rw [getAccessibleById_eq_none]
  rcases marked with ⟨sender, after⟩ | ⟨other, after⟩
  · rw [after]
    constructor
    · rintro refused ⟨row, belongs, same, -, visible⟩
      obtain rfl := only belongs same
      have updated := List.mem_map_of_mem (f := fun row : Message => if row.id = messageId then
        { row with senderDeletedAt := some now } else row) belongs
      rw [if_pos same] at updated
      exact (refused _ updated same).2 visible
    · intro notOwn row belongs same
      obtain ⟨original, listed, rfl⟩ := List.mem_map.mp belongs
      split at same
      · next target =>
        rw [if_pos target]
        obtain rfl := only listed target
        refine ⟨fun visible => ?_, fun visible => ?_⟩
        · cases visible.2.1
        · exact notOwn ⟨original, listed, target, sender, visible⟩
      · next missed => exact absurd same missed
  · rw [after]
    constructor
    · rintro - ⟨row, belongs, same, own, -⟩
      obtain rfl := only belongs same
      exact other own
    · intro _ row belongs same
      obtain ⟨original, listed, rfl⟩ := List.mem_map.mp belongs
      split at same
      · next target =>
        rw [if_pos target]
        obtain rfl := only listed target
        refine ⟨fun visible => other visible.1, fun visible => ?_⟩
        cases visible.2.1
      · next missed => exact absurd same missed

/-- A deletion that took effect hides the message from the user for good, exactly when the user does
not see it as the recipient of an own message. -/
theorem deletion_hides_iff {userId messageId : Uuid} {read state deleted : RelayState}
    (reached : Runs.Reachable relayStep RelayStarts read)
    (commits : DeletionCommits userId messageId read state deleted) :
    (∀ events later, Runs.run relayStep deleted events = some later →
        Hidden userId messageId later.rows) ↔
      ¬ ReceivedFromOneself userId messageId state.rows := by
  have unique := relay_unique reached
  rw [← refused_iff unique commits]
  constructor
  · intro hidden
    exact (hidden [] deleted rfl).1
  · intro refused events later ran
    obtain ⟨unique', message, member, key, -⟩ := rows_of_deletion commits unique
    obtain ⟨_, _, _, _, _, _, moved⟩ := commits
    have unique'' := relayStep_unique unique' moved
    obtain ⟨message', member', grow⟩ := relayStep_grows moved message member
    apply hidden_of_refused (run_grows unique'' ran).1
    exact inaccessible_stays unique'' ran ⟨message', member', grow.same.id.trans key⟩ refused

/-! ## A direct message and a note to oneself -/

/-- User 1 sends message 7 and asks for its deletion. -/
def sendThenDelete (recipient : Uuid) : List RelayEvent := [
  .prepare openDirectory (.send 1 (plainRequest recipient) 7 .newYear2026),
  .commit 0,
  .prepare openDirectory (.delete 1 7 .newYear2026)]

def sentMessage (recipient : Uuid) : Message := createMessage 1 (plainRequest recipient) none 7 .newYear2026

def sent (recipient : Uuid) : RelayState := ⟨[sentMessage recipient], []⟩

def asked (recipient : Uuid) : RelayState :=
  ⟨[sentMessage recipient], [.markSenderDeleted 7 .newYear2026]⟩

def marked (recipient : Uuid) : RelayState :=
  ⟨[{ sentMessage recipient with senderDeletedAt := some .newYear2026 }], []⟩

theorem deletion_hides_direct_message : Hidden 1 7 (marked 2).rows := by
  have reached : Runs.Reachable relayStep RelayStarts (sent 2) :=
    @Runs.reachable_of_run _ _ relayStep RelayStarts ⟨[], []⟩ _ ((sendThenDelete 2).take 2)
      ⟨List.nodup_nil, rfl⟩ rfl
  have commits : DeletionCommits 1 7 (sent 2) (asked 2) (marked 2) :=
    ⟨.newYear2026, _, rfl, ⟨(sendThenDelete 2).drop 2, rfl⟩, 0, rfl, rfl⟩
  have notOwn : ¬ ReceivedFromOneself 1 7 (asked 2).rows := by
    rintro ⟨message, member, -, -, visible⟩
    rw [asked, List.mem_singleton] at member
    subst member
    exact absurd visible.1 (by decide)
  exact (deletion_hides_iff reached commits).mpr notOwn [] _ rfl

/-- A note to oneself is still read after its deletion, and cannot be deleted again. -/
theorem note_to_oneself_stays :
    Runs.run relayStep ⟨[], []⟩ (sendThenDelete 1 ++ [.commit 0]) = some (marked 1) ∧
    getAccessibleById 7 1 (marked 1).rows ≠ none ∧
    (∃ message ∈ listReceived 1 100 0 (marked 1).rows, message.id = 7) ∧
    ∀ now, deleteMessageForUser 1 7 now (marked 1).rows = .error .messageAccessDenied := by
  refine ⟨rfl, by decide, ⟨_, List.mem_singleton_self _, rfl⟩, fun now => rfl⟩

end EpicKfc.Guarantees.MessageDeletion
