import EpicKfc.Guarantees.LocalTombstones
import EpicKfc.Guarantees.StorePersistence
import EpicKfc.Source.Client.StoreColumns

/-!
# Keys of the local store

Whatever is done to a store, and however often its files are read back, no list has
two records of one key. A look-up finds what was saved last under its key, and a
save leaves the records of other keys as they are.
-/

namespace EpicKfc.Guarantees.StoreKeys
open EpicKfc.Lib
open EpicKfc.Source.Client
open EpicKfc.Source.Client.StoreDocuments
open EpicKfc.Source.Client.JsonLocalStore
open EpicKfc.Source.Client.LocalMessages
open EpicKfc.Guarantees.SecretsAtRest
open EpicKfc.Guarantees.StorePersistence

/-! ## Runs of a store -/

abbrev StoreState := JsonLocalStore × Files

inductive StoreEvent where
  | operation (operation : StoreOperation) (io : StoreIo)
  /-- Another store object, as it is set up by the time it loads. -/
  | reopen (fresh : JsonLocalStore) (io : StoreIo)

/-- The mutation of an event, if it is one. -/
def StoreEvent.mutations : StoreEvent → List StoreMutation
  | .operation (.mutate mutation) _ => [mutation]
  | _ => []

variable (library : StorageLibrary)

def storeStep (state : StoreState) : StoreEvent → Option StoreState
  | .operation operation io => some (perform library operation io state.1 state.2).2
  | .reopen fresh io => some ((load library fresh io state.2).2, state.2)

/-- An empty store before anything was written. -/
def IsNew (state : StoreState) : Prop := state.1.memory = {} ∧ state.2 = noFiles

/-! ## What a mutation saves -/

def savedDeviceKeys : StoreMutation → List DeviceKeyMaterial
  | .saveDeviceKeys material => [material]
  | _ => []

def savedOneTimePreKeys : StoreMutation → List OneTimePreKey
  | .saveOneTimePreKeys preKeys => preKeys
  | _ => []

/-- A user without an id or a name is not saved. -/
def savedKnownUsers : StoreMutation → List KnownUser
  | .saveKnownUser address =>
    if address.userId.isEmpty || address.username.isEmpty then []
    else [⟨address.userId, address.username, address.deviceId⟩]
  | _ => []

def savedTrustPins : StoreMutation → List TrustPin
  | .saveTrustPin pin => [pin]
  | _ => []

def savedMessages : StoreMutation → List LocalMessage
  | .saveMessage message => [message]
  | _ => []

/-- The mutations that change stored messages without saving one. -/
def marksMessages : StoreMutation → Bool
  | .markMessageDeletedFor _ _ | .reconcileVisibleMessages _ _ _ | .markConversationRead _ _ => true
  | _ => false

def savedKeys (mutation : StoreMutation) : KeyColumns where
  deviceKeys := (savedDeviceKeys mutation).map deviceKey
  oneTimePreKeys := (savedOneTimePreKeys mutation).map preKeyKey
  knownUsers := (savedKnownUsers mutation).map knownUserKey
  trustPins := (savedTrustPins mutation).map trustPinKey
  messages := (savedMessages mutation).map LocalMessage.id

/-- The numbers of the saved keys are of the C++ type `int`. -/
def HasIntKeys (event : StoreEvent) : Prop :=
  ∀ mutation ∈ event.mutations, (savedKeys mutation).IntKeys

/-- What a run of mutations makes of the lists. -/
structure Saved (mutations : List StoreMutation) (before after : StoreMemory) : Prop where
  deviceKeys : after.deviceKeys = KeyedList.saveAll deviceKey (Function.const _)
    (mutations.flatMap savedDeviceKeys) before.deviceKeys
  oneTimePreKeys : after.oneTimePreKeys = KeyedList.saveAll preKeyKey (Function.const _)
    (mutations.flatMap savedOneTimePreKeys) before.oneTimePreKeys
  knownUsers : after.knownUsers = KeyedList.saveAll knownUserKey (Function.const _)
    (mutations.flatMap savedKnownUsers) before.knownUsers
  trustPins : after.trustPins = KeyedList.saveAll trustPinKey (Function.const _)
    (mutations.flatMap savedTrustPins) before.trustPins
  messages : (∀ mutation ∈ mutations, marksMessages mutation = false) →
    after.messages = KeyedList.saveAll LocalMessage.id mergedMessage
      (mutations.flatMap savedMessages) before.messages

theorem saveAll_trans {α κ : Type} [DecidableEq κ] {key : α → κ} {merge : α → α → α}
    {saved : StoreMutation → List α} {first second : List StoreMutation}
    {before middle after : List α}
    (one : middle = KeyedList.saveAll key merge (first.flatMap saved) before)
    (two : after = KeyedList.saveAll key merge (second.flatMap saved) middle) :
    after = KeyedList.saveAll key merge ((first ++ second).flatMap saved) before := by
  rw [two, one, List.flatMap_append, KeyedList.saveAll_append]

theorem Saved.trans {first second : List StoreMutation} {before middle after : StoreMemory}
    (one : Saved first before middle) (two : Saved second middle after) :
    Saved (first ++ second) before after where
  deviceKeys := saveAll_trans one.deviceKeys two.deviceKeys
  oneTimePreKeys := saveAll_trans one.oneTimePreKeys two.oneTimePreKeys
  knownUsers := saveAll_trans one.knownUsers two.knownUsers
  trustPins := saveAll_trans one.trustPins two.trustPins
  messages := by
    intro unmarked
    rw [List.forall_mem_append] at unmarked
    exact saveAll_trans (one.messages unmarked.1) (two.messages unmarked.2)

/-- Memories with the same records; their sessions may differ. -/
structure SameRecords (before after : StoreMemory) : Prop where
  deviceKeys : after.deviceKeys = before.deviceKeys
  oneTimePreKeys : after.oneTimePreKeys = before.oneTimePreKeys
  knownUsers : after.knownUsers = before.knownUsers
  trustPins : after.trustPins = before.trustPins
  messages : after.messages = before.messages

theorem SameRecords.saved {before after : StoreMemory} (same : SameRecords before after) :
    Saved [] before after :=
  ⟨same.deviceKeys, same.oneTimePreKeys, same.knownUsers, same.trustPins, fun _ => same.messages⟩

/-- Nothing is said of the messages after a mutation that marks them. -/
theorem marked_elim {mutation : StoreMutation} {conclusion : Prop}
    (marks : marksMessages mutation = true) :
    (∀ other ∈ [mutation], marksMessages other = false) → conclusion := by
  intro unmarked
  rw [unmarked mutation List.mem_cons_self] at marks
  cases marks

theorem saved_apply {now : String} {mutation : StoreMutation} {memory changed : StoreMemory}
    (applied : mutation.apply now memory = some changed) : Saved [mutation] memory changed := by
  cases mutation with
  | saveSession session => cases applied; exact ⟨rfl, rfl, rfl, rfl, fun _ => rfl⟩
  | clearSession => cases applied; exact ⟨rfl, rfl, rfl, rfl, fun _ => rfl⟩
  | saveDeviceKeys material => cases applied; exact ⟨rfl, rfl, rfl, rfl, fun _ => rfl⟩
  | saveOneTimePreKeys preKeys =>
    cases applied
    refine ⟨rfl, ?_, rfl, rfl, fun _ => rfl⟩
    rw [List.flatMap_singleton]
    rfl
  | saveKnownUser address =>
    simp only [StoreMutation.apply] at applied
    split at applied
    · cases applied
    · next named =>
      cases applied
      refine ⟨rfl, rfl, ?_, rfl, fun _ => rfl⟩
      rw [List.flatMap_singleton, savedKnownUsers, if_neg named]
      rfl
  | saveTrustPin pin => cases applied; exact ⟨rfl, rfl, rfl, rfl, fun _ => rfl⟩
  | saveMessage message => cases applied; exact ⟨rfl, rfl, rfl, rfl, fun _ => rfl⟩
  | markMessageDeletedFor currentUserId messageId =>
    obtain ⟨marked, _, rfl⟩ := Option.map_eq_some_iff.mp applied
    exact ⟨rfl, rfl, rfl, rfl, marked_elim rfl⟩
  | reconcileVisibleMessages currentUserId direction visibleMessageIds =>
    cases applied
    exact ⟨rfl, rfl, rfl, rfl, marked_elim rfl⟩
  | markConversationRead currentUserId peerUserId =>
    cases applied
    exact ⟨rfl, rfl, rfl, rfl, marked_elim rfl⟩

/-- A mutation that returns before it saves had nothing to save. -/
theorem saved_unapplied {now : String} {mutation : StoreMutation} {memory : StoreMemory}
    (unapplied : mutation.apply now memory = none) : Saved [mutation] memory memory := by
  cases mutation with
  | saveKnownUser address =>
    simp only [StoreMutation.apply] at unapplied
    split at unapplied
    · next unnamed =>
      refine ⟨rfl, rfl, ?_, rfl, fun _ => rfl⟩
      rw [List.flatMap_singleton, savedKnownUsers, if_pos unnamed]
      rfl
    · cases unapplied
  | markMessageDeletedFor currentUserId messageId =>
    exact ⟨rfl, rfl, rfl, rfl, marked_elim rfl⟩
  | _ => cases unapplied

theorem saved_mutate (store : JsonLocalStore) (mutation : StoreMutation) (io : StoreIo)
    (files : Files) :
    Saved [mutation] store.memory (mutate library store mutation io files).2.1.memory := by
  unfold mutate
  cases applied : mutation.apply io.now store.memory with
  | none => exact saved_unapplied applied
  | some changed => exact saved_apply applied

/-! ## Distinct keys -/

theorem ids_markMessageDeletedFor (currentUserId messageId now : String) :
    ∀ {messages marked : MessageList},
      markMessageDeletedFor currentUserId messageId now messages = some marked →
      marked.map LocalMessage.id = messages.map LocalMessage.id := by
  intro messages
  induction messages with
  | nil =>
    intro marked done
    cases done
  | cons message rest ih =>
    intro marked done
    unfold markMessageDeletedFor at done
    split at done
    · cases done
      rfl
    · obtain ⟨markedRest, doneRest, rfl⟩ := Option.map_eq_some_iff.mp done
      rw [List.map_cons, List.map_cons, ih doneRest]

theorem ids_map {change : LocalMessage → LocalMessage}
    (sameId : ∀ message, (change message).id = message.id) (messages : MessageList) :
    (messages.map change).map LocalMessage.id = messages.map LocalMessage.id := by
  rw [List.map_map]
  exact List.map_congr_left fun message _ => sameId message

/-- Marking messages keeps their ids. -/
theorem ids_of_marks {now : String} {mutation : StoreMutation} {memory changed : StoreMemory}
    (marks : marksMessages mutation = true) (applied : mutation.apply now memory = some changed) :
    changed.messages.map LocalMessage.id = memory.messages.map LocalMessage.id := by
  cases mutation with
  | markMessageDeletedFor currentUserId messageId =>
    obtain ⟨marked, done, rfl⟩ := Option.map_eq_some_iff.mp applied
    exact ids_markMessageDeletedFor currentUserId messageId now done
  | reconcileVisibleMessages currentUserId direction visibleMessageIds =>
    cases applied
    exact ids_map (MessageSync.reconciled_id currentUserId now direction visibleMessageIds) _
  | markConversationRead currentUserId peerUserId =>
    cases applied
    exact ids_map (LocalTombstones.markedRead_id currentUserId peerUserId now) _
  | _ => cases marks

theorem nodup_saved {α κ : Type} [DecidableEq κ] {key : α → κ} {merge : α → α → α}
    (merges : KeyedList.Merges key merge) {items before after : List α}
    (saved : after = KeyedList.saveAll key merge items before) (distinct : (before.map key).Nodup) :
    (after.map key).Nodup := by
  rw [saved]
  exact KeyedList.nodup_saveAll merges items distinct

theorem typed_saved {α κ : Type} [DecidableEq κ] {key : α → κ} {merge : α → α → α}
    {typed : κ → Prop} (merges : KeyedList.Merges key merge) {items before after : List α}
    (saved : after = KeyedList.saveAll key merge items before)
    (given : ∀ k ∈ items.map key, typed k) (had : ∀ k ∈ before.map key, typed k) :
    ∀ k ∈ after.map key, typed k := by
  intro k member
  rw [saved] at member
  rcases KeyedList.mem_keys_saveAll merges member with stored | new
  · exact had k stored
  · exact given k new

/-- Every mutation keeps the keys distinct. -/
theorem sound_apply {now : String} {mutation : StoreMutation} {memory changed : StoreMemory}
    (ints : (savedKeys mutation).IntKeys) (sound : (keysOf memory).Sound)
    (applied : mutation.apply now memory = some changed) : (keysOf changed).Sound := by
  have saved := saved_apply applied
  obtain ⟨deviceKeys, oneTimePreKeys, knownUsers, trustPins, messages⟩ := saved
  rw [List.flatMap_singleton] at deviceKeys oneTimePreKeys knownUsers trustPins
  have ids : (changed.messages.map LocalMessage.id).Nodup := by
    cases marks : marksMessages mutation with
    | true =>
      rw [ids_of_marks marks applied]
      exact sound.unique.messages
    | false =>
      exact nodup_saved LocalTombstones.merges_mergedMessage
        (messages (List.forall_mem_singleton.mpr marks)) sound.unique.messages
  refine ⟨⟨?_, ?_, ?_, ?_, ids⟩, ⟨?_, ?_, ?_, ?_⟩⟩
  · exact nodup_saved KeyedList.merges_const deviceKeys sound.unique.deviceKeys
  · exact nodup_saved KeyedList.merges_const oneTimePreKeys sound.unique.oneTimePreKeys
  · exact nodup_saved KeyedList.merges_const knownUsers sound.unique.knownUsers
  · exact nodup_saved KeyedList.merges_const trustPins sound.unique.trustPins
  · exact typed_saved KeyedList.merges_const deviceKeys ints.deviceKeys sound.ints.deviceKeys
  · exact typed_saved KeyedList.merges_const oneTimePreKeys ints.oneTimePreKeys
      sound.ints.oneTimePreKeys
  · exact typed_saved KeyedList.merges_const knownUsers ints.knownUsers sound.ints.knownUsers
  · exact typed_saved KeyedList.merges_const trustPins ints.trustPins sound.ints.trustPins

/-! ## Files that a store wrote -/

/-- The keys in memory are sound, and those of every file. -/
structure SoundState (state : StoreState) : Prop where
  memory : (keysOf state.1.memory).Sound
  files : ∀ path content, state.2 path = some content → (fileKeys library content).Sound

/-- A file after a write is the text written, or it was there before. -/
theorem writeDocument_files {holds : Json → Prop} {path : String} {root : Json.Members}
    {io : StoreIo} {files : Files} (whole : holds (.object root)) (cut : holds .null)
    (before : ∀ other content, files other = some content → holds content) :
    ∀ other content, (writeDocument path root io files).2 other = some content → holds content := by
  unfold writeDocument writeFile
  intro other content found
  split at found
  · simp only at found
    split at found
    · cases found
      split
      · exact whole
      · exact cut
    · exact before other content found
  · exact before other content found

theorem fileKeys_null : (fileKeys library .null).Sound := sound_empty

/-- The file of the last account has no records. -/
theorem fileKeys_index (accountId : String) : (fileKeys library (.object (Json.ofMembers
    [("version", .number 1), ("lastAccountId", .string accountId)]))).Sound := by
  have empty : fileKeys library (.object (Json.ofMembers
      [("version", .number 1), ("lastAccountId", .string accountId)])) = keysOf {} := by
    simp (disch := simp) only [fileKeys, keysOf, memoryOf, QJsonValue.toObject, value_ofMembers]
    simp [Json.lookup, QJsonValue.toArray]
  rw [empty]
  exact sound_empty

theorem save_files {store : JsonLocalStore} {io : StoreIo} {files : Files}
    (sound : (keysOf store.memory).Sound)
    (before : ∀ path content, files path = some content → (fileKeys library content).Sound) :
    ∀ path content, (save library store io files).2 path = some content →
      (fileKeys library content).Sound := by
  unfold save
  split
  · cases made : protectedDocument library store io.draws with
    | error error => exact before
    | ok root =>
      apply writeDocument_files _ (fileKeys_null library) before
      have keys : fileKeys library (.object root) = keysOf store.memory :=
        keysOf_protectedDocument sound.ints made
      rw [keys]
      exact sound
  · exact before

theorem sound_load {state : StoreState} (sound : SoundState library state) (fresh : JsonLocalStore)
    (io : StoreIo) : SoundState library ((load library fresh io state.2).2, state.2) := by
  refine ⟨?_, sound.files⟩
  rcases keysOf_load fresh io state.2 with empty | ⟨content, present, keys⟩
  · rw [empty]
    exact sound_empty
  · rw [keys]
    exact sound.files _ content present

theorem sound_mutate {state : StoreState} (sound : SoundState library state)
    {mutation : StoreMutation} (ints : (savedKeys mutation).IntKeys) (io : StoreIo) :
    SoundState library (mutate library state.1 mutation io state.2).2 := by
  unfold mutate
  cases applied : mutation.apply io.now state.1.memory with
  | none => exact sound
  | some memory =>
    have changed := sound_apply ints sound.memory applied
    exact ⟨changed, save_files library changed sound.files⟩

theorem sound_useAccountScopedPath {state : StoreState} (sound : SoundState library state)
    (accountId : String) (rememberAccount : Bool) (io : StoreIo) : SoundState library
      (useAccountScopedPath library state.1 accountId rememberAccount io state.2).2 := by
  unfold useAccountScopedPath
  split
  · have files : ∀ path content,
        (rememberLastAccountId state.1 accountId io state.2).2 path = some content →
        (fileKeys library content).Sound := by
      unfold rememberLastAccountId
      split
      · exact writeDocument_files (fileKeys_index library accountId) (fileKeys_null library)
          sound.files
      · exact sound.files
    rcases remembered : rememberLastAccountId state.1 accountId io state.2 with ⟨error | _, written⟩
    · rw [remembered] at files
      exact ⟨sound.memory, files⟩
    · rw [remembered] at files
      exact ⟨sound.memory, files⟩
  · exact ⟨sound.memory, sound.files⟩

/-- One event keeps the keys in memory and in every file distinct. -/
theorem sound_step (state : StoreState) (event : StoreEvent) (state' : StoreState)
    (sound : SoundState library state) (ints : HasIntKeys event)
    (moved : storeStep library state event = some state') : SoundState library state' := by
  cases event with
  | reopen fresh io =>
    cases moved
    exact sound_load library sound fresh io
  | operation operation io =>
    cases moved
    cases operation with
    | setSecretProtectionRequired required => exact ⟨sound.memory, sound.files⟩
    | setSecretPassphrase passphrase => exact ⟨sound.memory, sound.files⟩
    | clearSecretPassphrase => exact ⟨sound.memory, sound.files⟩
    | useAccountScopedPath accountId rememberAccount =>
      exact sound_useAccountScopedPath library sound accountId rememberAccount io
    | reload => exact sound_load library sound state.1 io
    | mutate mutation =>
      exact sound_mutate library sound (ints mutation List.mem_cons_self) io

theorem sound_of_reachable {state : StoreState}
    (reached : Runs.ReachableBy (storeStep library) IsNew (fun _ event => HasIntKeys event) state) :
    SoundState library state := by
  apply Runs.invariant_of_preserved _ (sound_step library) reached
  rintro ⟨store, files⟩ ⟨empty, none⟩
  refine ⟨?_, fun path content found => ?_⟩
  · rw [show store.memory = {} from empty]
    exact sound_empty
  · rw [show files = noFiles from none] at found
    cases found

/-! ## Loads that give the records back -/

/-- The file that `reader` loads holds what a save wrote of the records in memory, and
the reader has its passphrase. -/
structure HoldsRecords (memory : StoreMemory) (reader : JsonLocalStore) (io : StoreIo)
    (files : Files) : Prop where
  opens : io.opens = true
  written : ∃ saver draws root, SameRecords memory saver.memory ∧ Persistable saver.memory ∧
    (saver.secretProtectionRequired = true → SecretsUnmarked saver.memory ∧
      reader.secretPassphrase = saver.secretPassphrase) ∧
    protectedDocument library saver draws = .ok root ∧ files reader.path = some (.object root)

/-- A load in this state finds the records in memory. -/
def LoadsItsRecords (state : StoreState) : StoreEvent → Prop
  | .operation .reload io => HoldsRecords library state.1.memory state.1 io state.2
  | .operation _ _ => True
  | .reopen fresh io => HoldsRecords library state.1.memory fresh io state.2

/-- After a save that succeeds and is not cut short, a load at the path of the store. -/
theorem holdsRecords_of_save {store reader : JsonLocalStore} {io loadIo : StoreIo}
    {files files' : Files} (persistable : Persistable store.memory)
    (protectable : store.secretProtectionRequired = true → SecretsUnmarked store.memory ∧
      reader.secretPassphrase = store.secretPassphrase)
    (samePath : reader.path = store.path) (saved : save library store io files = (.ok (), files'))
    (writes : io.writes = true) (opens : loadIo.opens = true) :
    HoldsRecords library store.memory reader loadIo files' := by
  unfold save at saved
  split at saved
  · split at saved
    · cases saved
    · next root made =>
      refine ⟨opens, store, io.draws, root, ⟨rfl, rfl, rfl, rfl, rfl⟩, persistable, protectable,
        made, ?_⟩
      unfold writeDocument at saved
      rw [writes, if_pos rfl] at saved
      split at saved
      · cases saved
        simp [writeFile, samePath]
      · cases saved
  · cases saved

/-- Without protection the passphrase does not matter. -/
theorem protectedDocument_passphrase {store : JsonLocalStore} {draws : Draws} {passphrase : String}
    (given : store.secretProtectionRequired = true → passphrase = store.secretPassphrase) :
    protectedDocument library { store with secretPassphrase := passphrase } draws =
      protectedDocument library store draws := by
  unfold protectedDocument
  cases required : store.secretProtectionRequired with
  | false => rfl
  | true => rw [given required]

theorem sameRecords_load (laws : StorageLaws library) {memory : StoreMemory}
    {reader : JsonLocalStore} {io : StoreIo} {files : Files}
    (holds : HoldsRecords library memory reader io files) :
    SameRecords memory (load library reader io files).2.memory := by
  obtain ⟨opens, saver, draws, root, same, persistable, protectable, made, written⟩ := holds
  have passphrase := fun required => (protectable required).2
  obtain ⟨loaded, done, reloads⟩ := @load_written library laws
    { saver with secretPassphrase := reader.secretPassphrase } reader io files draws root persistable
    (fun required => (protectable required).1) rfl
    ((protectedDocument_passphrase library passphrase).trans made) written opens
  rw [done]
  exact ⟨reloads.deviceKeys.trans same.deviceKeys, reloads.oneTimePreKeys.trans same.oneTimePreKeys,
    reloads.knownUsers.trans same.knownUsers, reloads.trustPins.trans same.trustPins,
    reloads.messages.trans same.messages⟩

theorem saved_useAccountScopedPath (store : JsonLocalStore) (accountId : String)
    (rememberAccount : Bool) (io : StoreIo) (files : Files) : Saved [] store.memory
      (useAccountScopedPath library store accountId rememberAccount io files).2.1.memory := by
  have same : (useAccountScopedPath library store accountId rememberAccount io files).2.1.memory =
      store.memory := by
    unfold useAccountScopedPath
    split
    · rcases rememberLastAccountId store accountId io files with ⟨error | _, written⟩ <;> rfl
    · rfl
  rw [same]
  exact ⟨rfl, rfl, rfl, rfl, fun _ => rfl⟩

theorem saved_step (laws : StorageLaws library) {state state' : StoreState} {event : StoreEvent}
    (loads : LoadsItsRecords library state event)
    (moved : storeStep library state event = some state') :
    Saved event.mutations state.1.memory state'.1.memory := by
  cases event with
  | reopen fresh io =>
    cases moved
    exact (sameRecords_load library laws loads).saved
  | operation operation io =>
    cases moved
    cases operation with
    | setSecretProtectionRequired required => exact ⟨rfl, rfl, rfl, rfl, fun _ => rfl⟩
    | setSecretPassphrase passphrase => exact ⟨rfl, rfl, rfl, rfl, fun _ => rfl⟩
    | clearSecretPassphrase => exact ⟨rfl, rfl, rfl, rfl, fun _ => rfl⟩
    | useAccountScopedPath accountId rememberAccount =>
      exact saved_useAccountScopedPath library state.1 accountId rememberAccount io state.2
    | reload => exact (sameRecords_load library laws loads).saved
    | mutate mutation => exact saved_mutate library state.1 mutation io state.2

theorem saved_of_run (laws : StorageLaws library) (events : List StoreEvent) :
    ∀ {before after : StoreState}, Runs.EveryStep (storeStep library) (LoadsItsRecords library)
        before events →
      Runs.run (storeStep library) before events = some after →
      Saved (events.flatMap StoreEvent.mutations) before.1.memory after.1.memory := by
  induction events with
  | nil =>
    intro before after _ ran
    cases ran
    exact ⟨rfl, rfl, rfl, rfl, fun _ => rfl⟩
  | cons event rest ih =>
    intro before after ⟨loads, later⟩ ran
    obtain ⟨middle, moved, ends⟩ := Option.bind_eq_some_iff.mp ran
    rw [List.flatMap_cons]
    exact (saved_step library laws loads moved).trans (ih (later middle moved) ends)

/-! ## What is found, and what is left alone -/

/-- Each look-up finds the record saved last under its key, else what it found before.
Messages of one id are merged in the order of their saves. -/
structure LooksUpLastSaved (mutations : List StoreMutation) (before after : StoreMemory) : Prop where
  deviceKeys : ∀ deviceId, loadDeviceKeys deviceId after =
    (KeyedList.find deviceKey deviceId (mutations.flatMap savedDeviceKeys).reverse).or
      (loadDeviceKeys deviceId before)
  oneTimePreKeys : ∀ deviceId preKeyId,
    KeyedList.find OneTimePreKey.preKeyId preKeyId (loadOneTimePreKeys deviceId after) =
      (KeyedList.find preKeyKey (deviceId, preKeyId)
        (mutations.flatMap savedOneTimePreKeys).reverse).or
        (KeyedList.find OneTimePreKey.preKeyId preKeyId (loadOneTimePreKeys deviceId before))
  knownUsers : ∀ userId deviceId, knownUser userId deviceId after =
    (KeyedList.find knownUserKey (userId, deviceId) (mutations.flatMap savedKnownUsers).reverse).or
      (knownUser userId deviceId before)
  trustPins : ∀ userId deviceId, trustPin userId deviceId after =
    (KeyedList.find trustPinKey (userId, deviceId) (mutations.flatMap savedTrustPins).reverse).or
      (trustPin userId deviceId before)
  messages : (∀ mutation ∈ mutations, marksMessages mutation = false) → ∀ messageId,
    findMessage messageId after.messages =
      KeyedList.stored LocalMessage.id mergedMessage messageId (mutations.flatMap savedMessages)
        (findMessage messageId before.messages)

theorem find_saved {α κ : Type} [DecidableEq κ] {key : α → κ} {items before after : List α}
    (saved : after = KeyedList.saveAll key (Function.const α) items before) (k : κ) :
    KeyedList.find key k after =
      (KeyedList.find key k items.reverse).or (KeyedList.find key k before) := by
  rw [saved, KeyedList.find_saveAll KeyedList.merges_const, KeyedList.stored_const]

/-- The pre-keys of a device hold what is stored under the device and the pre-key id. -/
theorem find_loadOneTimePreKeys (deviceId preKeyId : Int) (memory : StoreMemory) :
    KeyedList.find OneTimePreKey.preKeyId preKeyId (loadOneTimePreKeys deviceId memory) =
      KeyedList.find preKeyKey (deviceId, preKeyId) memory.oneTimePreKeys := by
  rw [KeyedList.find, loadOneTimePreKeys, List.find?_filter, KeyedList.find]
  simp [preKeyKey]

theorem looksUpLastSaved {mutations : List StoreMutation} {before after : StoreMemory}
    (saved : Saved mutations before after) : LooksUpLastSaved mutations before after where
  deviceKeys := find_saved saved.deviceKeys
  oneTimePreKeys deviceId preKeyId := by
    rw [find_loadOneTimePreKeys, find_loadOneTimePreKeys]
    exact find_saved saved.oneTimePreKeys (deviceId, preKeyId)
  knownUsers userId deviceId := find_saved saved.knownUsers (userId, deviceId)
  trustPins userId deviceId := find_saved saved.trustPins (userId, deviceId)
  messages unmarked messageId := by
    rw [findMessage, saved.messages unmarked]
    exact KeyedList.find_saveAll LocalTombstones.merges_mergedMessage messageId _ _

/-- The records under keys that are not saved, in their order. -/
structure LeavesOthers (mutations : List StoreMutation) (before after : StoreMemory) : Prop where
  deviceKeys :
    KeyedList.others deviceKey (mutations.flatMap savedDeviceKeys) after.deviceKeys =
      KeyedList.others deviceKey (mutations.flatMap savedDeviceKeys) before.deviceKeys
  oneTimePreKeys :
    KeyedList.others preKeyKey (mutations.flatMap savedOneTimePreKeys) after.oneTimePreKeys =
      KeyedList.others preKeyKey (mutations.flatMap savedOneTimePreKeys) before.oneTimePreKeys
  knownUsers :
    KeyedList.others knownUserKey (mutations.flatMap savedKnownUsers) after.knownUsers =
      KeyedList.others knownUserKey (mutations.flatMap savedKnownUsers) before.knownUsers
  trustPins :
    KeyedList.others trustPinKey (mutations.flatMap savedTrustPins) after.trustPins =
      KeyedList.others trustPinKey (mutations.flatMap savedTrustPins) before.trustPins
  messages : (∀ mutation ∈ mutations, marksMessages mutation = false) →
    KeyedList.others LocalMessage.id (mutations.flatMap savedMessages) after.messages =
      KeyedList.others LocalMessage.id (mutations.flatMap savedMessages) before.messages

theorem others_saved {α κ : Type} [DecidableEq κ] {key : α → κ} {merge : α → α → α}
    (merges : KeyedList.Merges key merge) {items before after : List α}
    (saved : after = KeyedList.saveAll key merge items before) :
    KeyedList.others key items after = KeyedList.others key items before := by
  rw [saved]
  exact KeyedList.others_saveAll merges items before

theorem leavesOthers {mutations : List StoreMutation} {before after : StoreMemory}
    (saved : Saved mutations before after) : LeavesOthers mutations before after where
  deviceKeys := others_saved KeyedList.merges_const saved.deviceKeys
  oneTimePreKeys := others_saved KeyedList.merges_const saved.oneTimePreKeys
  knownUsers := others_saved KeyedList.merges_const saved.knownUsers
  trustPins := others_saved KeyedList.merges_const saved.trustPins
  messages unmarked :=
    others_saved LocalTombstones.merges_mergedMessage (saved.messages unmarked)

/-- Whatever is done to a new store and to the files it wrote, no two records of a list
share a key. A run whose loads find the records in memory leaves under each key what was
saved last, and the records of other keys as they were; a load finds them after a save
that is whole. -/
theorem keys_unique_updates_local (laws : StorageLaws library) :
    (∀ state, Runs.ReachableBy (storeStep library) IsNew (fun _ event => HasIntKeys event) state →
      (keysOf state.1.memory).Unique) ∧
    (∀ events before after,
      Runs.EveryStep (storeStep library) (LoadsItsRecords library) before events →
      Runs.run (storeStep library) before events = some after →
      LooksUpLastSaved (events.flatMap StoreEvent.mutations) before.1.memory after.1.memory ∧
        LeavesOthers (events.flatMap StoreEvent.mutations) before.1.memory after.1.memory) ∧
    ∀ (store reader : JsonLocalStore) (io loadIo : StoreIo) (files files' : Files),
      Persistable store.memory →
      (store.secretProtectionRequired = true → SecretsUnmarked store.memory ∧
        reader.secretPassphrase = store.secretPassphrase) →
      reader.path = store.path → save library store io files = (.ok (), files') →
      io.writes = true → loadIo.opens = true →
      HoldsRecords library store.memory reader loadIo files' := by
  refine ⟨fun state reached => ?_, fun events before after loads ran => ?_, ?_⟩
  · exact (sound_of_reachable library reached).memory.unique
  · have saved := saved_of_run library laws events loads ran
    exact ⟨looksUpLastSaved saved, leavesOthers saved⟩
  · intro store reader io loadIo files files' persistable protectable samePath saved writes opens
    exact holdsRecords_of_save library persistable protectable samePath saved writes opens

/-! ## A contact who is renamed -/

def saving (mutation : StoreMutation) : StoreEvent := .operation (.mutate mutation) sampleIo

def bobRenamed : List StoreEvent := [
  saving (.saveKnownUser ⟨"bob", "bob", 1⟩),
  saving (.saveKnownUser ⟨"bob", "robert", 1⟩),
  .operation .reload {}]

def savedContact : StoreMemory := { knownUsers := [⟨"bob", "robert", 1⟩] }

theorem savedContact_persistable : Persistable savedContact where
  deviceKeys := by simp [savedContact]
  oneTimePreKeys := by simp [savedContact]
  knownUsers := List.forall_mem_singleton.mpr (by simp [IsInt])
  trustPins := by simp [savedContact]
  messages := by simp [savedContact]

theorem savedContact_unmarked : SecretsUnmarked savedContact where
  session := by decide
  deviceKeys := by simp [savedContact]
  oneTimePreKeys := by simp [savedContact]
  trustPins := by simp [savedContact]

theorem hasIntKeys_saveKnownUser {address : UserAddress} (typed : IsInt address.deviceId) :
    HasIntKeys (saving (.saveKnownUser address)) := by
  intro mutation belongs
  rw [List.mem_singleton.mp belongs]
  refine ⟨by simp [savedKeys, savedDeviceKeys], by simp [savedKeys, savedOneTimePreKeys], ?_,
    by simp [savedKeys, savedTrustPins]⟩
  simp only [savedKeys, savedKnownUsers]
  split
  · simp
  · simpa [knownUserKey] using typed

theorem bobRenamed_intKeys : ∀ event ∈ bobRenamed, ∀ _ : StoreState, HasIntKeys event := by
  intro event member _
  simp only [bobRenamed, List.mem_cons, List.not_mem_nil, or_false] at member
  rcases member with rfl | rfl | rfl
  · exact hasIntKeys_saveKnownUser (by simp [IsInt])
  · exact hasIntKeys_saveKnownUser (by simp [IsInt])
  · simp [HasIntKeys, StoreEvent.mutations]

theorem keys_unique_updates_local_bob : ∃ after : StoreState,
    Runs.run (storeStep sampleLibrary) (sampleStore, noFiles) bobRenamed = some after ∧
      (keysOf after.1.memory).Unique ∧
      knownUser "bob" 1 after.1.memory = some ⟨"bob", "robert", 1⟩ := by
  obtain ⟨unique, runs, holds⟩ := keys_unique_updates_local sampleLibrary sampleLibrary_laws
  obtain ⟨after, ran⟩ : ∃ after,
      Runs.run (storeStep sampleLibrary) (sampleStore, noFiles) bobRenamed = some after :=
    Option.isSome_iff_exists.mp rfl
  have begins : Runs.ReachableBy (storeStep sampleLibrary) IsNew (fun _ event => HasIntKeys event)
      (sampleStore, noFiles) := .start ⟨rfl, rfl⟩
  have reached := Runs.reachableBy_of_run bobRenamed begins
    (Runs.everyStep_of_forall bobRenamed_intKeys _) ran
  have loads : Runs.EveryStep (storeStep sampleLibrary) (LoadsItsRecords sampleLibrary)
      (sampleStore, noFiles) bobRenamed := by
    refine ⟨trivial, fun first moved => ⟨trivial, fun second moved' => ⟨?_, fun _ _ => trivial⟩⟩⟩
    cases moved
    cases moved'
    exact holds { sampleStore with memory := savedContact } _ sampleIo {} _ _
      savedContact_persistable (fun _ => ⟨savedContact_unmarked, rfl⟩) rfl
      (Prod.ext (by decide) rfl) rfl rfl
  refine ⟨after, ran, unique after reached, ?_⟩
  exact ((runs bobRenamed _ after loads ran).1.knownUsers "bob" 1).trans (by decide)

/-! ## Look-ups that do not find what was saved last -/

def plainStore : JsonLocalStore where
  indexPath := "index"
  path := "state"
  secretProtectionRequired := false

def reload : StoreEvent := .operation .reload {}

def memoryAfter (events : List StoreEvent) (store : JsonLocalStore) : Option StoreMemory :=
  (Runs.run (storeStep library) (store, noFiles) events).map fun state => state.1.memory

def readMessage : LocalMessage :=
  { messageAt (some 0) with readAt := "2026-01-01T00:00:00.000Z" }

/-- A date of the year 10000. -/
def distantMessage : LocalMessage := messageAt (some 253402300800000)

def markedPin : TrustPin := ⟨"bob", 1, "\uFEFFkey", some 0⟩

/-- AES-256-GCM of the marked identity key under the sample key. -/
def pinLibrary : StorageLibrary :=
  { asciiLibrary with
    aesGcmEncrypt := fun key iv associated plaintext =>
      if (key, iv, associated, plaintext) =
          (sampleKey, firstIv, toUtf8 "identityKey", toUtf8 "\uFEFFkey") then
        some (bytesOf "VY3sw6ES", bytesOf "YpsLW+7HBbY6EdKzLarFRw==")
      else none
    aesGcmDecrypt := fun key iv associated ciphertext tag =>
      if (key, iv, associated, ciphertext, tag) = (sampleKey, firstIv, toUtf8 "identityKey",
          bytesOf "VY3sw6ES", bytesOf "YpsLW+7HBbY6EdKzLarFRw==") then
        some (toUtf8 "\uFEFFkey")
      else none }

/-- A message saved again keeps its read marker, a user without a name is not saved, a load
without the passphrase finds nothing, a date without a text and the mark of a secret are lost. -/
theorem last_saved_not_found :
    ((memoryAfter asciiLibrary [saving (.saveMessage readMessage),
      saving (.saveMessage (messageAt (some 0)))] plainStore).bind fun memory =>
        findMessage "1" memory.messages) = some readMessage ∧
    readMessage ≠ messageAt (some 0) ∧
    ((memoryAfter asciiLibrary [saving (.saveKnownUser ⟨"bob", "", 1⟩)] plainStore).map fun memory =>
      knownUser "bob" 1 memory) = some none ∧
    ((memoryAfter asciiLibrary [saving (.saveKnownUser ⟨"bob", "bob", 1⟩),
      .operation .clearSecretPassphrase {}, reload] sampleStore).map fun memory =>
        knownUser "bob" 1 memory) = some none ∧
    ((memoryAfter asciiLibrary [saving (.saveMessage distantMessage), reload] plainStore).bind
      fun memory => findMessage "1" memory.messages) = some (messageAt none) ∧
    messageAt none ≠ distantMessage ∧
    ((memoryAfter pinLibrary [saving (.saveTrustPin markedPin), reload] sampleStore).bind
      fun memory => trustPin "bob" 1 memory) = some ⟨"bob", 1, "key", some 0⟩ ∧
    (⟨"bob", 1, "key", some 0⟩ : TrustPin) ≠ markedPin := by
  decide

end EpicKfc.Guarantees.StoreKeys
