import EpicKfc.Guarantees.VisibilityAgreement
import EpicKfc.Lib.Runs
import EpicKfc.Source.Client.MessageSync
import EpicKfc.Source.PagedFetch

/-!
# A sync does not hide a live message

Absence from the fetched pages hides a message locally, so a message that the
server shows must reach some page. Insertions only push it to later pages. A row
that leaves the part of the listing already fetched pulls it back across the next
offset, and no page shows it: the fetch is exact only as long as that does not
happen, and the message must be one on which the two visibility rules agree.
-/

namespace EpicKfc.Guarantees.LiveMessages
open EpicKfc.Lib
open EpicKfc.Source
open EpicKfc.Source.Client
open EpicKfc.Source.Client.MessageGateway
open EpicKfc.Source.Client.MessageSync
open EpicKfc.Source.Client.LocalMessages
open EpicKfc.Source.Client.JsonLocalStore
open EpicKfc.Source.Client.StoreDocuments
open EpicKfc.Source.PagedFetch
open EpicKfc.Source.Server
open EpicKfc.Source.Server.Messages
open EpicKfc.Source.Server.MessageApi
open EpicKfc.Guarantees.VisibilityAgreement

variable (listing : Listing) (userId messageId : Uuid)

/-- The server lists the message to the user. -/
def Shown (rows : MessageTable) : Prop :=
  ∃ row ∈ rows, row.id = messageId ∧ listed listing userId row

/-- The server lists the message before the step and after it. -/
def ShownAcross (state : FetchState) (event : FetchEvent) : Prop :=
  Shown listing userId messageId state.relay.rows ∧
    ∀ state', fetchStep listing userId state event = some state' →
      Shown listing userId messageId state'.relay.rows

/-- Client and server agree on the message, and no row before the next offset leaves the listing. -/
def SafeStep (state : FetchState) (event : FetchEvent) : Prop :=
  (∀ row ∈ state.relay.rows, row.id = messageId → VisibilityAgrees userId row) ∧
    ∀ state', fetchStep listing userId state event = some state' →
      ∀ message ∈ (listingRows listing userId state.relay.rows).take state.offset,
        ∃ message' ∈ listingRows listing userId state'.relay.rows, message'.id = message.id

/-- A fetched copy that the client will show, with the parties of the row. -/
def GoodCopy (row copy : Message) : Prop :=
  copy.senderUserId = row.senderUserId ∧ copy.recipientUserId = row.recipientUserId ∧
    accessible userId copy ∧ VisibilityAgrees userId copy

/-- What holds of the message's row between two steps of the fetch. -/
structure FetchInvariant (state : FetchState) : Prop where
  unique : UniqueIds state.relay.rows
  copies : ∀ row ∈ state.relay.rows, row.id = messageId →
    ∀ copy ∈ state.pages, copy.id = messageId → GoodCopy userId row copy
  ahead : state.status = .fetching → ∀ row ∈ state.relay.rows, row.id = messageId →
    (∃ copy ∈ state.pages, copy.id = messageId) ∨
      state.offset ≤ standing listing userId row state.relay.rows
  complete : state.status = .finished → ∃ copy ∈ state.pages, copy.id = messageId

theorem listed_accessible {listing : Listing} {userId : Uuid} {message : Message}
    (shown : listed listing userId message) : accessible userId message := by
  cases listing with
  | received => exact Or.inr shown
  | sent => exact Or.inl shown

theorem fetchInvariant_starts {state : FetchState} (starts : FetchStarts state) :
    FetchInvariant listing userId messageId state := by
  obtain ⟨unique, offset, pages, status⟩ := starts
  refine ⟨unique, ?_, ?_, ?_⟩
  · intro row _ _ copy member
    rw [pages] at member
    cases member
  · intro _ row _ _
    right
    rw [offset]
    exact Nat.zero_le _
  · intro finished
    rw [status] at finished
    cases finished

/-- Commits of other requests. -/
theorem fetchInvariant_relay {state : FetchState} {relay : RelayState} {event : RelayEvent}
    (before : FetchInvariant listing userId messageId state)
    (moved : relayStep state.relay event = some relay)
    (shown : Shown listing userId messageId state.relay.rows)
    (stay : ∀ message ∈ (listingRows listing userId state.relay.rows).take state.offset,
      ∃ message' ∈ listingRows listing userId relay.rows, message'.id = message.id) :
    FetchInvariant listing userId messageId { state with relay := relay } := by
  have survive : UniqueIds relay.rows ∧
      ∀ message ∈ state.relay.rows, ∃ message' ∈ relay.rows, SameRow message message' := by
    rcases relayStep_rows moved with same | ⟨write, _, applied⟩
    · rw [same]
      exact ⟨before.unique, fun message member => ⟨message, member, rfl, rfl, rfl, rfl⟩⟩
    · exact ⟨RowWrite.apply_unique before.unique applied, RowWrite.apply_keeps applied⟩
  obtain ⟨unique', survive⟩ := survive
  obtain ⟨original, present, originalId, originalShown⟩ := shown
  have comesFrom : ∀ row ∈ relay.rows, row.id = messageId → SameRow original row := by
    intro row member rowId
    obtain ⟨survivor, belongs, same⟩ := survive original present
    have equal : row = survivor :=
      unique'.eq_of_id member belongs (rowId.trans (originalId.symm.trans same.id.symm))
    exact equal ▸ same
  refine ⟨unique', ?_, ?_, before.complete⟩
  · intro row member rowId copy fetched copyId
    obtain ⟨sender, recipient, visible, agrees⟩ :=
      before.copies original present originalId copy fetched copyId
    have same := comesFrom row member rowId
    exact ⟨sender.trans same.senderUserId.symm, recipient.trans same.recipientUserId.symm, visible,
      agrees⟩
  · intro fetching row member rowId
    rcases before.ahead fetching original present originalId with done | reached
    · exact Or.inl done
    · exact Or.inr (standing_kept before.unique unique' survive stay present originalShown
        (comesFrom row member rowId) reached)

/-- One page: it shows the message, or the message stands behind it. -/
theorem fetchInvariant_page {state state' : FetchState}
    (before : FetchInvariant listing userId messageId state)
    (moved : fetchStep listing userId state .page = some state')
    (shown : Shown listing userId messageId state.relay.rows)
    (agrees : ∀ row ∈ state.relay.rows, row.id = messageId → VisibilityAgrees userId row) :
    FetchInvariant listing userId messageId state' := by
  obtain ⟨original, present, originalId, originalShown⟩ := shown
  have isOriginal : ∀ row ∈ state.relay.rows, row.id = messageId → row = original :=
    fun row member rowId => before.unique.eq_of_id member present (rowId.trans originalId.symm)
  have copies : ∀ row ∈ state.relay.rows, row.id = messageId →
      ∀ copy ∈ state.pages ++ listPage listing userId messagePageLimit state.offset state.relay.rows,
        copy.id = messageId → GoodCopy userId row copy := by
    intro row member rowId copy fetched copyId
    rcases List.mem_append.mp fetched with earlier | onPage
    · exact before.copies row member rowId copy earlier copyId
    · have read := mem_listingRows.mp (List.mem_of_mem_drop (List.mem_of_mem_take onPage))
      have same : copy = row := before.unique.eq_of_id read.1 member (copyId.trans rowId.symm)
      subst same
      exact ⟨rfl, rfl, listed_accessible read.2, agrees copy read.1 copyId⟩
  simp only [fetchStep] at moved
  split at moved
  case isFalse => cases moved
  case isTrue fetching =>
    have reaches : (∃ copy ∈ state.pages, copy.id = messageId) ∨
        state.offset ≤ standing listing userId original state.relay.rows :=
      before.ahead fetching original present originalId
    have covers (covered : standing listing userId original state.relay.rows <
        state.offset + messagePageLimit) : ∃ copy ∈ state.pages ++
          listPage listing userId messagePageLimit state.offset state.relay.rows, copy.id = messageId := by
      rcases reaches with ⟨copy, member, copyId⟩ | reached
      · exact ⟨copy, List.mem_append_left _ member, copyId⟩
      · exact ⟨original, List.mem_append_right _
          (mem_listPage before.unique present originalShown reached covered), originalId⟩
    split at moved
    case isTrue short =>
      cases moved
      refine ⟨before.unique, copies, nofun, fun _ => covers ?_⟩
      -- a short page reaches the end of the listing
      have inside := standing_lt_length before.unique present originalShown
      rw [listPage, List.length_take, List.length_drop] at short
      omega
    case isFalse full =>
      split at moved
      case isFalse => cases moved
      case isTrue counted =>
        cases moved
        refine ⟨before.unique, copies, ?_, fun other => ?_⟩
        · intro _ row member rowId
          rw [isOriginal row member rowId]
          by_cases covered : standing listing userId original state.relay.rows <
              state.offset + messagePageLimit
          · exact Or.inl (covers covered)
          · exact Or.inr (Nat.le_of_not_lt covered)
        · exact absurd (fetching.symm.trans other) (by decide)

theorem fetchInvariant_step {state state' : FetchState} {event : FetchEvent}
    (before : FetchInvariant listing userId messageId state)
    (across : ShownAcross listing userId messageId state event)
    (safe : SafeStep listing userId messageId state event)
    (moved : fetchStep listing userId state event = some state') :
    FetchInvariant listing userId messageId state' := by
  cases event with
  | relay event =>
    have stay := safe.2 state' moved
    simp only [fetchStep, Option.map_eq_some_iff] at moved
    obtain ⟨relay, stepped, rfl⟩ := moved
    exact fetchInvariant_relay listing userId messageId before stepped across.1 stay
  | page => exact fetchInvariant_page listing userId messageId before moved across.1 safe.1
  | pageFails =>
    simp only [fetchStep] at moved
    split at moved
    · cases moved
      exact ⟨before.unique, before.copies, nofun, nofun⟩
    · cases moved

/-- After a fetch in which no row before the next offset left the listing, storing and
reconciling the pages keeps a message shown that the server listed throughout. -/
theorem sync_keeps_live_message (library : StorageLibrary) (parser : DateParser)
    (serializer : DateTimeSerializer) {state : FetchState}
    (reached : Runs.ReachableBy (fetchStep listing userId) FetchStarts (fun state event =>
      ShownAcross listing userId messageId state event ∧
        SafeStep listing userId messageId state event) state)
    (finished : state.status = .finished) (row : Message) (present : row ∈ state.relay.rows)
    (rowId : row.id = messageId) (saves : List (LocalMessage × StoreIo))
    (saved : saves.map Prod.fst = collected parser serializer listing state) (reconcileIo : StoreIo)
    (store : JsonLocalStore) (files : Files)
    (before : Shows messageId.str row.senderUserId.str row.recipientUserId.str userId.str
        store.memory.messages ∨
      findMessage messageId.str store.memory.messages = none ∧
        (saveMessages library saves store files).1 = .ok ()) :
    Shows messageId.str row.senderUserId.str row.recipientUserId.str userId.str
      (saveAndReconcileMessages library userId.str (direction listing) saves reconcileIo store
        files).2.1.memory.messages := by
  have invariant : FetchInvariant listing userId messageId state :=
    Runs.invariant_of_preserved
      (fun start starts => fetchInvariant_starts listing userId messageId starts)
      (fun s e s' holds met moved =>
        fetchInvariant_step listing userId messageId holds met.1 met.2 moved) reached
  have fromPage (message : LocalMessage) (member : message ∈ saves.map Prod.fst) :
      ∃ copy ∈ state.pages, message = decoded parser serializer copy (direction listing) := by
    rw [saved, collected_eq] at member
    obtain ⟨copy, belongs, rfl⟩ := List.mem_map.mp member
    exact ⟨copy, belongs, rfl⟩
  refine saveAndReconcile_shows library userId.str (direction listing) saves reconcileIo store files
    ?_ ?_ before
  · intro save member sameId
    obtain ⟨copy, belongs, equal⟩ := fromPage save.1 (List.mem_map_of_mem member)
    have copyId : copy.id = messageId := by
      rw [equal, decoded_eq] at sameId
      exact Uuid.str_injective sameId
    obtain ⟨sender, recipient, visible, agrees⟩ :=
      invariant.copies row present rowId copy belongs copyId
    rw [equal]
    refine ⟨?_, ((visibility_agrees_iff parser serializer userId copy (direction listing)).mpr
      agrees).mpr visible⟩
    rw [decoded_eq]
    exact ⟨congrArg Uuid.str sender, congrArg Uuid.str recipient⟩
  · obtain ⟨copy, belongs, copyId⟩ := invariant.complete finished
    have ids : (saves.map fun save => save.1.id) = (saves.map Prod.fst).map LocalMessage.id := by
      rw [List.map_map]
      rfl
    rw [ids, saved, collected_eq, List.map_map]
    refine List.mem_map.mpr ⟨copy, belongs, ?_⟩
    rw [Function.comp_apply, decoded_eq, copyId]

/-! ## Runs of two fetches -/

theorem page_keeps_relay {listing : Listing} {userId : Uuid} {state state' : FetchState}
    (moved : fetchStep listing userId state .page = some state') : state'.relay = state.relay := by
  simp only [fetchStep] at moved
  repeat' split at moved
  all_goals cases moved
  all_goals rfl

/-- A page alone changes nothing on the server. -/
theorem shownAcross_page {listing : Listing} {userId messageId : Uuid} {state : FetchState}
    (shown : Shown listing userId messageId state.relay.rows) :
    ShownAcross listing userId messageId state .page := by
  refine ⟨shown, fun state' moved => ?_⟩
  rw [page_keeps_relay moved]
  exact shown

def midnight : UtcTimestamp := .newYear2026

/-- The message of this id that user 2 sent to user 1. -/
def received (id : Uuid) : Message := createMessage 2 (plainRequest 1) none id midnight

def fetchOf (rows : MessageTable) : FetchState := ⟨⟨rows, []⟩, 0, [], .fetching⟩

/-- A store without secrets that already has this message of user 2. -/
def storeWith (id : Uuid) : JsonLocalStore where
  memory := { messages := [decoded (fun _ => some 0) zuluSerializer (received id) .received] }
  indexPath := "index"
  path := "state"
  secretProtectionRequired := false

theorem storeWith_shows (id : Uuid) :
    Shows id.str (Uuid.str 2) (Uuid.str 1) (Uuid.str 1) (storeWith id).memory.messages := by
  have visible : isMessageVisibleToUser
      (decoded (fun _ => some 0) zuluSerializer (received id) .received) (Uuid.str 1) = true :=
    (isMessageVisibleToUser_decoded _ _ 1 (received id) .received).mpr
      ⟨rfl, rfl, fun _ => rfl, fun _ => rfl⟩
  refine ⟨_, ?_, ?_, visible⟩
  · rw [storeWith, findMessage, KeyedList.find_cons, if_pos]
    rw [decoded_eq]
    rfl
  · rw [decoded_eq]
    exact ⟨rfl, rfl⟩

/-- The saves of a fetched list when nothing fails. -/
def quietSaves (state : FetchState) : List (LocalMessage × StoreIo) :=
  (collected (fun _ => some 0) zuluSerializer .received state).map fun message => (message, {})

/-- A full page and one older message. -/
def crowdedRows : MessageTable :=
  (List.range 101).map fun i => received (BitVec.ofNat 128 (101 - i))

/-- Two messages more than a page, and what a send and a deletion make of them. -/
def busyRows : MessageTable := received 102 :: crowdedRows

def sentRows : MessageTable := busyRows ++ [received 103]

def deletedRows : MessageTable :=
  updateRow 1 (fun message => { message with recipientDeletedAt := some midnight }) sentRows

def busyPage : List Message := listPage .received 1 100 0 busyRows

/-- Between the two pages a message arrives, and the oldest one is deleted. -/
def busyEvents : List FetchEvent := [
  .page,
  .relay (.prepare openDirectory (.send 2 (plainRequest 1) 103 midnight)),
  .relay (.commit 0),
  .relay (.prepare openDirectory (.delete 1 1 midnight)),
  .relay (.commit 0),
  .page]

/-- The listed rows that a step keeps where it only adds rows. -/
theorem listed_kept {listing : Listing} {userId : Uuid} {rows rows' : MessageTable} {count : Nat}
    (kept : rows ⊆ rows') : ∀ message ∈ (listingRows listing userId rows).take count,
      ∃ message' ∈ listingRows listing userId rows', message'.id = message.id := by
  intro message member
  obtain ⟨present, shown⟩ := mem_listingRows.mp (List.mem_of_mem_take member)
  exact ⟨message, mem_listingRows.mpr ⟨kept present, shown⟩, rfl⟩

/-- A step that is possible in one way only, and keeps what the listing had before the offset. -/
theorem step_met {listing : Listing} {userId messageId : Uuid} {state state' : FetchState}
    {event : FetchEvent} (moved : fetchStep listing userId state event = some state')
    (shown : Shown listing userId messageId state.relay.rows)
    (shown' : Shown listing userId messageId state'.relay.rows)
    (agrees : ∀ row ∈ state.relay.rows, row.id = messageId → VisibilityAgrees userId row)
    (kept : ∀ message ∈ (listingRows listing userId state.relay.rows).take state.offset,
      ∃ message' ∈ listingRows listing userId state'.relay.rows, message'.id = message.id) :
    ShownAcross listing userId messageId state event ∧
      SafeStep listing userId messageId state event := by
  refine ⟨⟨shown, fun other moved' => ?_⟩, agrees, fun other moved' => ?_⟩
  all_goals
    have same := Option.some.inj (moved.symm.trans moved')
    subst same
  · exact shown'
  · exact kept

/-- The fetch of the busy relay when it has finished. -/
def busyFetch : FetchState :=
  ⟨⟨deletedRows, []⟩, 100, busyPage ++ listPage .received 1 100 100 deletedRows, .finished⟩

set_option maxRecDepth 10000 in
/-- Message 2 is listed throughout, and no row before the next offset leaves the listing. -/
theorem busy_run : Runs.run (fetchStep .received 1) (fetchOf busyRows) busyEvents = some busyFetch ∧
    Runs.EveryStep (fetchStep .received 1) (fun state event => ShownAcross .received 1 2 state event ∧
      SafeStep .received 1 2 state event) (fetchOf busyRows) busyEvents := by
  have fullPage : (listPage .received 1 100 0 busyRows).length = 100 := by decide
  have lastPage : (listPage .received 1 100 100 deletedRows).length = 2 := by decide
  have accepted : deleteMessageForUser 1 1 midnight sentRows =
      .ok (.markRecipientDeleted 1 midnight) := by decide
  have step₁ : fetchStep .received 1 (fetchOf busyRows) .page =
      some ⟨⟨busyRows, []⟩, 100, busyPage, .fetching⟩ := by
    simp only [fetchStep, fetchOf, messagePageLimit, fullPage, busyPage, lt_irrefl, if_true,
      if_false, List.nil_append, Nat.zero_add]
    rfl
  have step₂ : fetchStep .received 1 ⟨⟨busyRows, []⟩, 100, busyPage, .fetching⟩
      (.relay (.prepare openDirectory (.send 2 (plainRequest 1) 103 midnight))) =
      some ⟨⟨busyRows, [.insert (received 103)]⟩, 100, busyPage, .fetching⟩ := rfl
  have step₃ : fetchStep .received 1
      ⟨⟨busyRows, [.insert (received 103)]⟩, 100, busyPage, .fetching⟩ (.relay (.commit 0)) =
      some ⟨⟨sentRows, []⟩, 100, busyPage, .fetching⟩ := rfl
  have step₄ : fetchStep .received 1 ⟨⟨sentRows, []⟩, 100, busyPage, .fetching⟩
      (.relay (.prepare openDirectory (.delete 1 1 midnight))) =
      some ⟨⟨sentRows, [.markRecipientDeleted 1 midnight]⟩, 100, busyPage, .fetching⟩ := by
    simp only [fetchStep, relayStep, RelayRequest.prepare, accepted, Option.map_some,
      List.nil_append]
  have step₅ : fetchStep .received 1
      ⟨⟨sentRows, [.markRecipientDeleted 1 midnight]⟩, 100, busyPage, .fetching⟩
      (.relay (.commit 0)) = some ⟨⟨deletedRows, []⟩, 100, busyPage, .fetching⟩ := by
    simp [fetchStep, relayStep, RowWrite.apply, deletedRows]
  have step₆ : fetchStep .received 1 ⟨⟨deletedRows, []⟩, 100, busyPage, .fetching⟩ .page =
      some busyFetch := by
    simp only [fetchStep, messagePageLimit, lastPage, if_true, show 2 < 100 from by decide, busyFetch]
  have present : received 2 ∈ busyRows ∧ received 2 ∈ sentRows ∧ received 2 ∈ deletedRows := by decide
  have shown {rows : MessageTable} (member : received 2 ∈ rows) : Shown .received 1 2 rows :=
    ⟨received 2, member, rfl, by decide⟩
  have agrees : (∀ row ∈ busyRows, row.id = 2 → VisibilityAgrees 1 row) ∧
      (∀ row ∈ sentRows, row.id = 2 → VisibilityAgrees 1 row) ∧
      ∀ row ∈ deletedRows, row.id = 2 → VisibilityAgrees 1 row := by decide
  have behind : ∀ message ∈ (listingRows .received 1 sentRows).take 100, message ∈ deletedRows := by
    decide
  constructor
  · rw [busyEvents, Runs.run_cons step₁, Runs.run_cons step₂, Runs.run_cons step₃,
      Runs.run_cons step₄, Runs.run_cons step₅, Runs.run_cons step₆]
    rfl
  refine .cons (step_met step₁ (shown present.1) (shown present.1) agrees.1 ?_) step₁ ?_
  · exact listed_kept (List.Subset.refl _)
  refine .cons (step_met step₂ (shown present.1) (shown present.1) agrees.1 ?_) step₂ ?_
  · exact listed_kept (List.Subset.refl _)
  refine .cons (step_met step₃ (shown present.1) (shown present.2.1) agrees.1 ?_) step₃ ?_
  · exact listed_kept (List.subset_append_left _ _)
  refine .cons (step_met step₄ (shown present.2.1) (shown present.2.1) agrees.2.1 ?_) step₄ ?_
  · exact listed_kept (List.Subset.refl _)
  refine .cons (step_met step₅ (shown present.2.1) (shown present.2.2) agrees.2.1 ?_) step₅ ?_
  · intro message member
    exact ⟨message, mem_listingRows.mpr ⟨behind message member,
      (mem_listingRows.mp (List.mem_of_mem_take member)).2⟩, rfl⟩
  refine .cons (step_met step₆ (shown present.2.2) (shown present.2.2) agrees.2.2 ?_) step₆ trivial
  exact listed_kept (List.Subset.refl _)

set_option maxRecDepth 10000 in
/-- The send moves message 2 from the end of the first page to the second; the sync shows it. -/
theorem sync_keeps_message_of_busy_relay :
    Shows (Uuid.str 2) (Uuid.str 2) (Uuid.str 1) (Uuid.str 1)
      (saveAndReconcileMessages refusingLibrary (Uuid.str 1) .received (quietSaves busyFetch)
        { now := "2026-01-01T00:00:00.000Z" } (storeWith 2) (fun _ => none)).2.1.memory.messages := by
  have unique : UniqueIds busyRows := show (busyRows.map Message.id).Nodup by decide
  have present : received 2 ∈ deletedRows := by decide
  refine sync_keeps_live_message .received 1 2 refusingLibrary (fun _ => some 0) zuluSerializer
    (Runs.reachableBy_of_run busyEvents (.start ⟨unique, rfl, rfl, rfl⟩) busy_run.2 busy_run.1) rfl
    (received 2) present rfl _ ?_ _ (storeWith 2) (fun _ => none) (Or.inl (storeWith_shows 2))
  rw [quietSaves, List.map_map]
  exact List.map_id _

/-- The recipient deleted the newest message. -/
def thinnedRows : MessageTable :=
  updateRow 101 (fun message => { message with recipientDeletedAt := some midnight }) crowdedRows

def firstPage : List Message := listPage .received 1 100 0 crowdedRows

/-- Between the two pages another session deletes the newest message. -/
def shiftingEvents : List FetchEvent := [
  .page,
  .relay (.prepare ⟨fun _ => true, fun _ _ => true, fun _ _ _ => true⟩ (.delete 1 101 midnight)),
  .relay (.commit 0),
  .page]

set_option maxRecDepth 10000 in
/-- The oldest message slides into the page already fetched, and the sync hides it. -/
theorem sync_hides_live_message :
    ∃ state, Runs.run (fetchStep .received 1) (fetchOf crowdedRows) shiftingEvents = some state ∧
      state.status = .finished ∧
      Runs.EveryStep (fetchStep .received 1) (ShownAcross .received 1 1) (fetchOf crowdedRows)
        shiftingEvents ∧
      Shows (Uuid.str 1) (Uuid.str 2) (Uuid.str 1) (Uuid.str 1) (storeWith 1).memory.messages ∧
      ¬ Shows (Uuid.str 1) (Uuid.str 2) (Uuid.str 1) (Uuid.str 1)
        (saveAndReconcileMessages refusingLibrary (Uuid.str 1) .received (quietSaves state)
          { now := "2026-01-01T00:00:00.000Z" } (storeWith 1) (fun _ => none)).2.1.memory.messages := by
  have fullPage : (listPage .received 1 100 0 crowdedRows).length = 100 := by decide
  have emptyPage : listPage .received 1 100 100 thinnedRows = [] := by decide
  have missing : 1 ∉ firstPage.map Message.id := by decide
  have present : received 1 ∈ crowdedRows ∧ received 1 ∈ thinnedRows := by decide
  have accepted : deleteMessageForUser 1 101 midnight crowdedRows =
      .ok (.markRecipientDeleted 101 midnight) := by decide
  have shown : Shown .received 1 1 crowdedRows := ⟨received 1, present.1, rfl, by decide⟩
  have shown' : Shown .received 1 1 thinnedRows := ⟨received 1, present.2, rfl, by decide⟩
  have step₁ : fetchStep .received 1 (fetchOf crowdedRows) .page =
      some ⟨⟨crowdedRows, []⟩, 100, firstPage, .fetching⟩ := by
    simp only [fetchStep, fetchOf, messagePageLimit, fullPage, firstPage, lt_irrefl, if_true,
      if_false, List.nil_append, Nat.zero_add]
    rfl
  have step₂ (directory : RelayDirectory) : fetchStep .received 1
      ⟨⟨crowdedRows, []⟩, 100, firstPage, .fetching⟩ (.relay (.prepare directory (.delete 1 101 midnight))) =
      some ⟨⟨crowdedRows, [.markRecipientDeleted 101 midnight]⟩, 100, firstPage, .fetching⟩ := by
    simp only [fetchStep, relayStep, RelayRequest.prepare, accepted, Option.map_some,
      List.nil_append]
  have step₃ : fetchStep .received 1
      ⟨⟨crowdedRows, [.markRecipientDeleted 101 midnight]⟩, 100, firstPage, .fetching⟩
      (.relay (.commit 0)) = some ⟨⟨thinnedRows, []⟩, 100, firstPage, .fetching⟩ := by
    simp [fetchStep, relayStep, RowWrite.apply, thinnedRows]
  have step₄ : fetchStep .received 1 ⟨⟨thinnedRows, []⟩, 100, firstPage, .fetching⟩ .page =
      some ⟨⟨thinnedRows, []⟩, 100, firstPage, .finished⟩ := by
    simp only [fetchStep, messagePageLimit, emptyPage, if_true, List.length_nil, List.append_nil,
      Nat.zero_lt_succ]
  refine ⟨⟨⟨thinnedRows, []⟩, 100, firstPage, .finished⟩, ?_, rfl, ?_, storeWith_shows 1, ?_⟩
  · rw [shiftingEvents, Runs.run_cons step₁, Runs.run_cons (step₂ _), Runs.run_cons step₃,
      Runs.run_cons step₄]
    rfl
  · refine .cons (shownAcross_page shown) step₁ (.cons ⟨shown, ?_⟩ (step₂ _)
      (.cons ⟨shown, ?_⟩ step₃ (.cons (shownAcross_page shown') step₄ trivial)))
    · intro state' moved
      rw [step₂, Option.some.injEq] at moved
      exact moved ▸ shown
    · intro state' moved
      rw [step₃, Option.some.injEq] at moved
      exact moved ▸ shown'
  · refine saveAndReconcile_hides refusingLibrary _ _ (storeWith 1) _ (by decide) ?_
      (storeWith_shows 1)
    rw [quietSaves, List.map_map, collected_eq, List.map_map]
    intro fetched
    obtain ⟨copy, member, sameId⟩ := List.mem_map.mp fetched
    rw [Function.comp_apply, Function.comp_apply, decoded_eq] at sameId
    exact missing (List.mem_map.mpr ⟨copy, member, Uuid.str_injective sameId⟩)

end EpicKfc.Guarantees.LiveMessages
