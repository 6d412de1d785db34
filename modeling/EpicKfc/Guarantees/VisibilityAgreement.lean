import EpicKfc.Source.Client.LocalMessages
import EpicKfc.Source.DecodedMessages

/-!
# Visibility on the client and on the server

The server hides a message from a user role by role: it is shown when one of the
user's roles still sees it. The client hides it as soon as any marker of any role
of the user is set, counts a revocation against the sender as well, and does not
ask whether the user has a role at all. `VisibilityAgrees` lists the
combinations on which the two rules still give the same answer.
-/

namespace EpicKfc.Guarantees.VisibilityAgreement
open EpicKfc.Source
open EpicKfc.Source.Client
open EpicKfc.Source.Client.LocalMessages
open EpicKfc.Source.Client.MessageGateway
open EpicKfc.Source.Server
open EpicKfc.Source.Server.Messages
open EpicKfc.Source.Server.MessageApi

/-- What `get_accessible_by_id` asks of a row. -/
def accessible (userId : Uuid) (message : Message) : Prop :=
  senderVisible userId message ∨ recipientVisible userId message

/-- The combinations of roles and markers on which the two rules agree. -/
def VisibilityAgrees (userId : Uuid) (message : Message) : Prop :=
  let sender := message.senderUserId = userId
  let recipient := message.recipientUserId = userId
  let revoked := message.accessRevokedAt ≠ none
  let senderDeleted := message.senderDeletedAt ≠ none
  let recipientDeleted := message.recipientDeletedAt ≠ none
  message.deletedAt ≠ none ∨
  (¬ sender ∧ ¬ recipient ∧ revoked) ∨
  (¬ sender ∧ recipient) ∨
  (sender ∧ ¬ recipient ∧ (revoked → senderDeleted)) ∨
  (sender ∧ recipient ∧
    (¬ revoked ∧ ¬ senderDeleted ∧ ¬ recipientDeleted ∨
      senderDeleted ∧ (recipientDeleted ∨ revoked)))

instance (userId : Uuid) : DecidablePred (VisibilityAgrees userId) := fun message =>
  inferInstanceAs (Decidable (message.deletedAt ≠ none ∨ _))

instance (userId : Uuid) : DecidablePred (accessible userId) := fun message =>
  inferInstanceAs (Decidable (senderVisible userId message ∨ _))

variable (parser : DateParser) (serializer : DateTimeSerializer)

/-- The client's rule on a decoded row, in the row's own terms. -/
theorem isMessageVisibleToUser_decoded (userId : Uuid) (message : Message)
    (direction : MessageDirection) :
    isMessageVisibleToUser (decoded parser serializer message direction) userId.str = true ↔
      message.deletedAt = none ∧ message.accessRevokedAt = none ∧
      (message.senderUserId = userId → message.senderDeletedAt = none) ∧
      (message.recipientUserId = userId → message.recipientDeletedAt = none) := by
  rw [isMessageVisibleToUser_iff, decoded_eq]
  simp only [markerText_eq_empty, Uuid.str_inj]

/-- Client and server agree about a row and a user exactly in the listed combinations. -/
theorem visibility_agrees_iff (userId : Uuid) (message : Message) (direction : MessageDirection) :
    (isMessageVisibleToUser (decoded parser serializer message direction) userId.str = true ↔
      accessible userId message) ↔ VisibilityAgrees userId message := by
  rw [isMessageVisibleToUser_decoded]
  unfold accessible senderVisible recipientVisible VisibilityAgrees
  by_cases sender : message.senderUserId = userId <;>
    by_cases recipient : message.recipientUserId = userId <;>
    simp only [sender, recipient, true_and, false_and, or_false, false_or, true_implies,
      false_implies, not_true_eq_false, not_false_eq_true, and_true] <;>
    tauto

/-- A direct message whose sender revoked the recipient's access. -/
def revokedMessage : Message :=
  { createMessage 1 (plainRequest 2) none 7 .newYear2026 with
    accessRevokedAt := some .newYear2026 }

/-- The sender of a revoked message still sees it on the server and no longer on the client. -/
theorem revoked_message_hidden_from_sender :
    accessible 1 revokedMessage ∧
    isMessageVisibleToUser (decoded (fun _ => some 0) zuluSerializer revokedMessage .sent)
      (Uuid.str 1) = false := by
  refine ⟨by decide, ?_⟩
  rw [Bool.eq_false_iff]
  intro visible
  have unmarked := ((isMessageVisibleToUser_decoded _ _ 1 revokedMessage .sent).mp visible).2.1
  exact absurd unmarked (by decide)

end EpicKfc.Guarantees.VisibilityAgreement
