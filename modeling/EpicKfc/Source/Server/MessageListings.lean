import EpicKfc.Source.Server.Messages

/-!
# Listings as ordered lists of keys

Rows are sorted by `(created_at, id)`, newest first. No write changes a row's key
or its parties, and ids stay unique, so a listing is strictly ordered in every
committed table.
-/

namespace EpicKfc.Source.Server.Messages

abbrev MessageKey := UtcTimestamp × Uuid

def sortKey (message : Message) : MessageKey := (message.createdAt, message.id)

def keyBefore (first second : MessageKey) : Prop :=
  second.1 < first.1 ∨ first.1 = second.1 ∧ second.2.toNat < first.2.toNat

instance : DecidableRel keyBefore := fun first second =>
  inferInstanceAs (Decidable (second.1 < first.1 ∨ _))

theorem keyBefore_asymmetric (first second : MessageKey) (ordered : keyBefore first second) :
    ¬ keyBefore second first := by
  rintro (later | ⟨same, later⟩)
  · rcases ordered with earlier | ⟨same, _⟩
    · exact lt_asymm later earlier
    · exact lt_irrefl _ (same ▸ later)
  · rcases ordered with earlier | ⟨_, earlier⟩
    · exact lt_irrefl _ (same ▸ earlier)
    · exact lt_asymm later earlier

instance : Std.Total newestFirst where
  total first second := by
    unfold newestFirst
    rcases lt_trichotomy first.createdAt second.createdAt with earlier | same | later
    · exact Or.inr (Or.inl earlier)
    · rcases le_total second.id.toNat first.id.toNat with below | above
      · exact Or.inl (Or.inr ⟨same, below⟩)
      · exact Or.inr (Or.inr ⟨same.symm, above⟩)
    · exact Or.inl (Or.inl later)

instance : IsTrans Message newestFirst where
  trans first second third := by
    unfold newestFirst
    rintro (newer | ⟨same, below⟩) (newer' | ⟨same', below'⟩)
    · exact Or.inl (lt_trans newer' newer)
    · exact Or.inl (same' ▸ newer)
    · exact Or.inl (same ▸ newer')
    · exact Or.inr ⟨same.trans same', le_trans below' below⟩

/-- The primary key. -/
def UniqueIds (rows : MessageTable) : Prop := (rows.map Message.id).Nodup

theorem UniqueIds.eq_of_id {rows : MessageTable} (unique : UniqueIds rows) {first second : Message}
    (member : first ∈ rows) (member' : second ∈ rows) (same : first.id = second.id) :
    first = second :=
  List.inj_on_of_nodup_map unique member member' same

theorem mem_listingRows {listing : Listing} {userId : Uuid} {rows : MessageTable}
    {message : Message} :
    message ∈ listingRows listing userId rows ↔ message ∈ rows ∧ listed listing userId message := by
  rw [listingRows, List.mem_insertionSort, List.mem_filter, decide_eq_true_eq]

theorem listingKeys_sorted (listing : Listing) (userId : Uuid) {rows : MessageTable}
    (unique : UniqueIds rows) :
    ((listingRows listing userId rows).map sortKey).Pairwise keyBefore := by
  have ordered : (listingRows listing userId rows).Pairwise newestFirst :=
    List.pairwise_insertionSort newestFirst _
  have distinct : (listingRows listing userId rows).Pairwise fun first second =>
      first.id ≠ second.id := by
    have filtered : ((rows.filter fun message => listed listing userId message).map Message.id).Nodup :=
      unique.sublist (List.Sublist.map _ List.filter_sublist)
    have sorted := (List.perm_insertionSort newestFirst
      (rows.filter fun message => listed listing userId message)).map Message.id
    exact List.pairwise_map.mp (sorted.nodup_iff.mpr filtered)
  rw [List.pairwise_map]
  refine (ordered.and distinct).imp ?_
  rintro first second ⟨newer | ⟨same, below⟩, different⟩
  · exact Or.inl newer
  · have distinctIds : second.id.toNat ≠ first.id.toNat := fun equal =>
      different (BitVec.eq_of_toNat_eq equal).symm
    exact Or.inr ⟨same, lt_of_le_of_ne below distinctIds⟩

/-! ## What a write leaves alone -/

/-- The columns no write changes. -/
structure SameRow (first second : Message) : Prop where
  id : second.id = first.id
  createdAt : second.createdAt = first.createdAt
  senderUserId : second.senderUserId = first.senderUserId
  recipientUserId : second.recipientUserId = first.recipientUserId

theorem SameRow.sortKey {first second : Message} (same : SameRow first second) :
    sortKey second = sortKey first := by
  rw [Messages.sortKey, Messages.sortKey, same.id, same.createdAt]

theorem SameRow.trans {first second third : Message} (same : SameRow first second)
    (same' : SameRow second third) : SameRow first third := by
  constructor
  · exact same'.id.trans same.id
  · exact same'.createdAt.trans same.createdAt
  · exact same'.senderUserId.trans same.senderUserId
  · exact same'.recipientUserId.trans same.recipientUserId

/-- An update relates every row to its new version as its change does. -/
theorem updateRow_relates {related : Message → Message → Prop} (messageId : Uuid)
    (change : Message → Message) (refl : ∀ message, related message message)
    (changes : ∀ message, related message (change message)) (rows : MessageTable) :
    ∀ message ∈ rows, ∃ message' ∈ updateRow messageId change rows, related message message' := by
  intro message member
  refine ⟨_, List.mem_map_of_mem member, ?_⟩
  by_cases target : message.id = messageId
  · rw [if_pos target]
    exact changes message
  · rw [if_neg target]
    exact refl message

theorem updateRow_keeps (messageId : Uuid) (change : Message → Message)
    (leaves : ∀ message, SameRow message (change message)) (rows : MessageTable) :
    ∀ message ∈ rows, ∃ message' ∈ updateRow messageId change rows, SameRow message message' :=
  updateRow_relates messageId change (fun _ => ⟨rfl, rfl, rfl, rfl⟩) leaves rows

theorem updateRow_ids (messageId : Uuid) (change : Message → Message)
    (leaves : ∀ message, SameRow message (change message)) (rows : MessageTable) :
    (updateRow messageId change rows).map Message.id = rows.map Message.id := by
  rw [updateRow, List.map_map]
  apply List.map_congr_left
  intro message _
  by_cases target : message.id = messageId
  · simp only [Function.comp_apply, target, if_true]
    exact (leaves message).id.trans target
  · simp only [Function.comp_apply, target, if_false]

/-- A committed write adds a row with a fresh id or changes markers of one row. -/
theorem RowWrite.apply_cases {write : RowWrite} {rows rows' : MessageTable}
    (committed : write.apply rows = some rows') :
    (∃ added, (∀ existing ∈ rows, existing.id ≠ added.id) ∧ rows' = rows ++ [added]) ∨
    ∃ messageId change, (∀ message, SameRow message (change message)) ∧
      rows' = updateRow messageId change rows := by
  cases write with
  | insert added =>
    simp only [RowWrite.apply] at committed
    split at committed
    · cases committed
    · rename_i fresh
      cases committed
      exact Or.inl ⟨added, fun existing member taken => fresh ⟨existing, member, taken⟩, rfl⟩
  | markSenderDeleted messageId now
  | markRecipientDeleted messageId now
  | revokeRecipientAccess messageId now =>
    cases committed
    refine Or.inr ⟨messageId, _, fun message => ?_, rfl⟩
    exact ⟨rfl, rfl, rfl, rfl⟩

/-- Every committed row survives every commit, with its key and parties. -/
theorem RowWrite.apply_keeps {write : RowWrite} {rows rows' : MessageTable}
    (committed : write.apply rows = some rows') :
    ∀ message ∈ rows, ∃ message' ∈ rows', SameRow message message' := by
  rcases RowWrite.apply_cases committed with ⟨added, _, rfl⟩ | ⟨messageId, change, leaves, rfl⟩
  · exact fun message member => ⟨message, List.mem_append_left _ member, rfl, rfl, rfl, rfl⟩
  · exact updateRow_keeps messageId change leaves rows

theorem RowWrite.apply_unique {write : RowWrite} {rows rows' : MessageTable}
    (unique : UniqueIds rows) (committed : write.apply rows = some rows') : UniqueIds rows' := by
  rcases RowWrite.apply_cases committed with ⟨added, fresh, rfl⟩ | ⟨messageId, change, leaves, rfl⟩
  · rw [UniqueIds, List.map_append, List.nodup_append]
    refine ⟨unique, List.nodup_singleton _, ?_⟩
    intro id member other isAdded
    obtain ⟨message, belongs, rfl⟩ := List.mem_map.mp member
    rw [List.map_singleton, List.mem_singleton] at isAdded
    subst isAdded
    exact fresh message belongs
  · rw [UniqueIds, updateRow_ids messageId change leaves]
    exact unique

/-- A step of the relay either leaves the committed rows or commits one open write. -/
theorem relayStep_rows {state state' : RelayState} {event : RelayEvent}
    (moved : relayStep state event = some state') :
    state'.rows = state.rows ∨ ∃ write ∈ state.openWrites, write.apply state.rows = some state'.rows := by
  cases event with
  | prepare directory request =>
    left
    simp only [relayStep] at moved
    split at moved <;> cases moved <;> rfl
  | commit index =>
    right
    simp only [relayStep, Option.bind_eq_bind, Option.bind_eq_some_iff, Option.pure_def,
      Option.some.injEq] at moved
    obtain ⟨write, found, rows, applied, rfl⟩ := moved
    exact ⟨write, List.mem_of_getElem? found, applied⟩
  | rollback index =>
    left
    simp only [relayStep] at moved
    split at moved
    · cases moved
      rfl
    · cases moved

end EpicKfc.Source.Server.Messages
