import EpicKfc.Guarantees.SecretsAtRest

/-!
# Saving and loading the store

A fresh store with the same passphrase reads back what was saved: protection and
its inverse cancel field by field, and every record comes back from its object.
-/

namespace EpicKfc.Guarantees.StorePersistence
open EpicKfc.Lib
open EpicKfc.Source.Client
open EpicKfc.Source.Client.StoreDocuments
open EpicKfc.Source.Client.JsonLocalStore
open EpicKfc.Guarantees.SecretsAtRest

/-- Numbers of the C++ type `int`, and dates that have an ISO text. -/
structure Persistable (memory : StoreMemory) : Prop where
  deviceKeys : ∀ device ∈ memory.deviceKeys,
    IsInt device.deviceId ∧ IsInt device.registrationId ∧ IsInt device.signedPreKeyId
  oneTimePreKeys : ∀ preKey ∈ memory.oneTimePreKeys, IsInt preKey.deviceId ∧ IsInt preKey.preKeyId
  knownUsers : ∀ user ∈ memory.knownUsers, IsInt user.deviceId
  trustPins : ∀ pin ∈ memory.trustPins, IsInt pin.deviceId ∧ HasIsoText pin.firstSeenAt
  messages : ∀ message ∈ memory.messages,
    IsInt message.senderDeviceId ∧ IsInt message.recipientDeviceId ∧
      (∀ preKeyId, message.consumedOneTimePreKeyId = some preKeyId → IsInt preKeyId) ∧
      HasIsoText message.createdAt

/-- No secret text starts with a byte order mark. -/
structure SecretsUnmarked (memory : StoreMemory) : Prop where
  session : ¬ StartsWithBom memory.session.tokens.accessToken ∧
    ¬ StartsWithBom memory.session.tokens.refreshToken
  deviceKeys : ∀ device ∈ memory.deviceKeys, ¬ StartsWithBom device.identityPrivateKey ∧
    ¬ StartsWithBom device.identitySigningPrivateKey ∧ ¬ StartsWithBom device.signedPreKeyPrivate
  oneTimePreKeys : ∀ preKey ∈ memory.oneTimePreKeys, ¬ StartsWithBom preKey.privateKey
  trustPins : ∀ pin ∈ memory.trustPins, ¬ StartsWithBom pin.identityKey

/-- The session that a load finds: none without an access token. -/
def reloadedSession (memory : StoreMemory) : Option AuthSession :=
  ((loadSession memory).filter fun session => !session.tokens.accessToken.isEmpty).map
    normalisedSession

/-- What a load gives back of a saved memory. -/
structure Reloads (saved loaded : StoreMemory) : Prop where
  session : loadSession loaded = reloadedSession saved
  deviceKeys : loaded.deviceKeys = saved.deviceKeys
  oneTimePreKeys : loaded.oneTimePreKeys = saved.oneTimePreKeys
  knownUsers : loaded.knownUsers = saved.knownUsers
  trustPins : loaded.trustPins = saved.trustPins
  messages : loaded.messages = saved.messages

/-! ## Reading a document -/

def Same : FieldRelation := fun _ before after => after = before

theorem sameFields_of_related {keys : List String} {before after : Json.Members}
    (same : ObjectRelated Same keys before after) : SameFields after before := by
  intro name
  by_cases visited : name ∈ keys
  · exact same.secrets name visited
  · exact same.others name visited

/-- Records read back from an array of their objects. -/
theorem read_items {α : Type} {keys : List String} {write : α → Json.Members}
    {read : Json.Members → α}
    (congruent : ∀ {first second}, SameFields first second → read first = read second)
    {records : List α} {items : List Json}
    (related : List.Forall₂ (fun record => ItemRelated Same keys (.object (write record)))
      records items) :
    (∀ record ∈ records, read (write record) = record) →
      items.map (fun item => read (QJsonValue.toObject (some item))) = records := by
  induction related with
  | nil => exact fun _ => rfl
  | cons head _ ih =>
    intro back
    obtain ⟨first, others⟩ := List.forall_mem_cons.mp back
    obtain ⟨object, rfl, same⟩ := head
    rw [List.map_cons, ih others]
    exact congrArg (· :: _) ((congruent (sameFields_of_related same)).trans first)

theorem read_array {α : Type} {name : String} {keys : List String} {write : α → Json.Members}
    {read : Json.Members → α} {records : List α} {before after : Json.Members}
    (congruent : ∀ {first second}, SameFields first second → read first = read second)
    (written : value before name = some (.array (records.map fun record => .object (write record))))
    (related : ArrayRelated Same name keys before after)
    (back : ∀ record ∈ records, read (write record) = record) :
    (value after name).toArray.map (fun item => read (QJsonValue.toObject (some item))) =
      records := by
  obtain ⟨items, written', related⟩ := related
  rw [written] at related
  rw [written']
  exact read_items congruent (List.forall₂_map_left_iff.mp related) back

theorem read_records {α : Type} {write : α → Json.Members} {read : Json.Members → α}
    {records : List α} (back : ∀ record ∈ records, read (write record) = record) :
    (records.map fun record => Json.object (write record)).map
      (fun item => read (QJsonValue.toObject (some item))) = records := by
  rw [List.map_map]
  exact (List.map_congr_left back).trans (List.map_id records)

variable {library : StorageLibrary}

/-- A document with the same fields as that of a memory, a salt apart. -/
theorem memoryOf_reloads (laws : StorageLaws library) {memory : StoreMemory}
    {base root : Json.Members} (persistable : Persistable memory)
    (reads : ∀ name, name ≠ "secretSalt" →
      value base name = value (document library memory) name)
    (same : DocumentRelated Same base root) : Reloads memory (memoryOf library root) where
  session := by
    have related := same.session
    rw [SessionRelated, reads _ (by decide), value_document_session] at related
    simp only [loadSession, memoryOf, reloadedSession]
    cases present : memory.hasSession with
    | false =>
      rw [present, if_neg (by decide)] at related
      simp [related]
    | true =>
      rw [present, if_pos rfl] at related
      obtain ⟨object, written, fields⟩ := related
      have session := (sessionFromJson_congr (sameFields_of_related fields)).trans
        (sessionFromJson_sessionToJson memory.session)
      simp only [written, QJsonValue.toObject, session, Option.isSome_some, Bool.true_and, if_true]
      by_cases empty : memory.session.tokens.accessToken = ""
      · simp [normalisedSession, Option.filter, empty]
      · simp [normalisedSession, Option.filter, empty]
  deviceKeys := by
    refine read_array deviceFromJson_congr
      ((reads _ (by decide)).trans (value_document_deviceKeys library memory)) same.deviceKeys ?_
    intro device member
    obtain ⟨deviceId, registrationId, signedPreKeyId⟩ := persistable.deviceKeys device member
    exact deviceFromJson_deviceToJson deviceId registrationId signedPreKeyId
  oneTimePreKeys := by
    refine read_array preKeyFromJson_congr
      ((reads _ (by decide)).trans (value_document_oneTimePreKeys library memory))
      same.oneTimePreKeys ?_
    intro preKey member
    obtain ⟨deviceId, preKeyId⟩ := persistable.oneTimePreKeys preKey member
    exact preKeyFromJson_preKeyToJson deviceId preKeyId
  trustPins := by
    refine read_array trustPinFromJson_congr
      ((reads _ (by decide)).trans (value_document_trustPins library memory)) same.trustPins ?_
    intro pin member
    obtain ⟨deviceId, firstSeenAt⟩ := persistable.trustPins pin member
    exact trustPinFromJson_trustPinToJson laws deviceId firstSeenAt
  knownUsers := by
    simp only [memoryOf]
    rw [same.others _ (by decide), reads _ (by decide), value_document_knownUsers]
    exact read_records fun user member =>
      knownUserFromJson_knownUserToJson (persistable.knownUsers user member)
  messages := by
    simp only [memoryOf]
    rw [same.others _ (by decide), reads _ (by decide), value_document_messages]
    refine read_records fun message member => ?_
    obtain ⟨sender, recipient, consumed, createdAt⟩ := persistable.messages message member
    exact messageFromJson_messageToJson laws sender recipient consumed createdAt

/-! ## Protection and its inverse -/

/-- A text that decryption gives back. -/
def Storable : FieldRelation := fun _ before after =>
  after = before ∧ ∃ text, before = some (.string text) ∧ ¬ StartsWithBom text

theorem storable_object {keys : List String} {object : Json.Members}
    (texts : ∀ key ∈ keys, ∃ text, value object key = some (.string text) ∧ ¬ StartsWithBom text) :
    ObjectRelated Storable keys object object :=
  ⟨fun key visited => ⟨rfl, texts key visited⟩, fun _ _ => rfl⟩

theorem storable_document {memory : StoreMemory} (unmarked : SecretsUnmarked memory) :
    DocumentRelated Storable (document library memory) (document library memory) := by
  refine documentRelated_document rfl (storable_object ?_) (List.forall₂_same.mpr ?_)
    (List.forall₂_same.mpr ?_) (List.forall₂_same.mpr ?_) rfl rfl
  · intro key visited
    obtain ⟨access, refresh⟩ := unmarked.session
    simp only [sessionSecrets, List.mem_cons, List.not_mem_nil, or_false] at visited
    simp (disch := simp) only [sessionToJson, value_ofMembers]
    rcases visited with rfl | rfl <;> simp [Json.lookup_cons, access, refresh]
  · refine fun device member => storable_object fun key visited => ?_
    obtain ⟨identity, signing, preKey⟩ := unmarked.deviceKeys device member
    simp only [deviceSecrets, List.mem_cons, List.not_mem_nil, or_false] at visited
    simp (disch := simp) only [deviceToJson, value_ofMembers]
    rcases visited with rfl | rfl | rfl <;> simp [Json.lookup_cons, identity, signing, preKey]
  · refine fun preKey member => storable_object fun key visited => ?_
    rw [List.mem_singleton.mp visited]
    simp (disch := simp) only [preKeyToJson, value_ofMembers]
    simp [Json.lookup_cons, unmarked.oneTimePreKeys preKey member]
  · refine fun pin member => storable_object fun key visited => ?_
    rw [List.mem_singleton.mp visited]
    simp (disch := simp) only [trustPinToJson, value_ofMembers]
    simp [Json.lookup_cons, unmarked.trustPins pin member]

/-- A storable text and the blob that seals it. -/
def SealedText (library : StorageLibrary) (passphrase : String) (salt : QByteArray) :
    FieldRelation := fun key before after => ∃ text, before = some (.string text) ∧
      ¬ StartsWithBom text ∧ IsSealed library passphrase salt text key after

/-- A field that decryption can open. -/
def IsSealedText (library : StorageLibrary) (passphrase : String) (salt : QByteArray) (key : String)
    (field : QJsonValue) : Prop :=
  ∃ before, SealedText library passphrase salt key before field

theorem isSealedText_of_sealed {passphrase : String} {salt : QByteArray} {key : String}
    {before after : QJsonValue} (sealed : SealedText library passphrase salt key before after) :
    IsSealedText library passphrase salt key after := ⟨before, sealed⟩

theorem accepts_unprotectString (laws : StorageLaws library) (passphrase : String)
    (salt : QByteArray) :
    Accepts (IsSealedText library passphrase salt) (unprotectString library passphrase salt) := by
  rintro key object draws ⟨_, text, _, unmarked, _, blob, _, sealed, written⟩
  unfold unprotectString
  rw [written]
  simp only [decryptSecretString_of_sealed laws unmarked sealed]
  exact ⟨_, draws, rfl⟩

theorem same_of_sealed (laws : StorageLaws library) {passphrase : String} {salt : QByteArray}
    {key : String} {before middle after : QJsonValue}
    (sealed : SealedText library passphrase salt key before middle)
    (opened : Unprotected library passphrase salt key middle after) : Same key before after := by
  obtain ⟨text, rfl, unmarked, _, blob, _, sealed, rfl⟩ := sealed
  obtain ⟨text', decrypted, rfl⟩ := opened blob rfl
  have same := (decryptSecretString_of_sealed laws unmarked sealed).symm.trans decrypted
  rw [Same, Option.some.inj same]

theorem sealedText_of_protected {passphrase : String} {salt : QByteArray} {key : String}
    {before middle after : QJsonValue} (storable : Storable key before middle)
    (sealed : Protected library passphrase salt key middle after) :
    SealedText library passphrase salt key before after := by
  obtain ⟨rfl, text, present, unmarked⟩ := storable
  exact ⟨text, present, unmarked, sealed text present⟩

/-- What protection wrote, its inverse undoes. -/
theorem unprotectSecrets_protected (laws : StorageLaws library) {passphrase : String}
    {storedSalt : QByteArray} {memory : StoreMemory} {draws : Draws} {root : Json.Members}
    (unmarked : SecretsUnmarked memory)
    (made : protectSecrets library passphrase storedSalt (document library memory) draws = .ok root) :
    ∃ salt plain, value root "secretSalt" = some (.string (library.toBase64 salt)) ∧
      unprotectSecrets library passphrase salt root = .ok plain ∧
      DocumentRelated Same
        (Json.insert "secretSalt" (.string (library.toBase64 salt)) (document library memory))
        plain := by
  obtain ⟨given, length, _, _, visited⟩ := protectSecrets_eq_ok made
  generalize chosenSalt storedSalt draws = salt at given length visited
  have written := transformSecrets_related (transforms_protectString library passphrase salt) visited
  have storable : DocumentRelated Storable
      (Json.insert "secretSalt" (.string (library.toBase64 salt)) (document library memory))
      (Json.insert "secretSalt" (.string (library.toBase64 salt)) (document library memory)) :=
    (storable_document unmarked).insert saltUnvisited
  have sealed : DocumentRelated (SealedText library passphrase salt)
      (Json.insert "secretSalt" (.string (library.toBase64 salt)) (document library memory)) root :=
    @DocumentRelated.comp Storable (Protected library passphrase salt) _ _ _ _
      (fun _ _ _ _ => sealedText_of_protected) storable written
  have ready := sealed.isReady fun _ _ _ => isSealedText_of_sealed
  obtain ⟨plain, rest, opened⟩ := transformSecrets_ok
    (transforms_unprotectString library passphrase salt) (accepts_unprotectString laws passphrase salt)
    [] ready
  have salted : value root "secretSalt" = some (.string (library.toBase64 salt)) := by
    rw [written.others "secretSalt" saltUnvisited]
    exact Json.lookup_insert_same "secretSalt" _ _
  refine ⟨salt, plain, salted, ?_, ?_⟩
  · simp [unprotectSecrets, given, length, opened, Except.map]
  · have undone := transformSecrets_related
      (transforms_unprotectString library passphrase salt) opened
    exact @DocumentRelated.comp (SealedText library passphrase salt)
      (Unprotected library passphrase salt) _ _ _ _ (fun _ _ _ _ => same_of_sealed laws) sealed undone

/-- The document a save writes, read by a store with the same passphrase. -/
theorem load_written (laws : StorageLaws library) {store fresh : JsonLocalStore} {io : StoreIo}
    {files : Files} {draws : Draws} {root : Json.Members} (persistable : Persistable store.memory)
    (unmarked : store.secretProtectionRequired = true → SecretsUnmarked store.memory)
    (samePassphrase : fresh.secretPassphrase = store.secretPassphrase)
    (made : protectedDocument library store draws = .ok root)
    (written : files fresh.path = some (.object root)) (opens : io.opens = true) :
    ∃ loaded, load library fresh io files = (.ok (), loaded) ∧ Reloads store.memory loaded.memory := by
  unfold protectedDocument at made
  cases required : store.secretProtectionRequired with
  | false =>
    rw [required, if_neg (by decide)] at made
    cases made
    have plain : DocumentRelated Same (document library store.memory)
        (document library store.memory) := by
      refine documentRelated_document rfl ⟨fun _ _ => rfl, fun _ _ => rfl⟩ ?_ ?_ ?_ rfl rfl
      all_goals exact List.forall₂_same.mpr fun _ _ => ⟨fun _ _ => rfl, fun _ _ => rfl⟩
    refine ⟨{ fresh with memory := memoryOf library (document library store.memory) }, ?_,
      memoryOf_reloads laws persistable (fun _ _ => rfl) plain⟩
    simp [load, written, opens, QJsonValue.toObject, value_document_secretSalt]
  | true =>
    rw [required, if_pos rfl] at made
    have given := (protectSecrets_eq_ok made).1
    obtain ⟨salt, plain, salted, opened, same⟩ :=
      unprotectSecrets_protected laws (unmarked required) made
    have reads : ∀ name, name ≠ "secretSalt" →
        value (Json.insert "secretSalt" (.string (library.toBase64 salt))
          (document library store.memory)) name = value (document library store.memory) name :=
      fun name different => Json.lookup_insert_other _ _ _ _ (Ne.symm different)
    refine ⟨{ fresh with memory := memoryOf library plain, secretSalt := salt }, ?_,
      memoryOf_reloads laws persistable reads same⟩
    simp [load, written, opens, QJsonValue.toObject, salted, documentSalt, QJsonValue.toString,
      laws.base64, samePassphrase, given, opened]

/-- What a save that succeeds has written, a store with the same path and passphrase
loads: every record is the same, a session without an access token is dropped. -/
theorem load_after_save (laws : StorageLaws library) (store fresh : JsonLocalStore)
    (io loadIo : StoreIo) (files files' : Files) (persistable : Persistable store.memory)
    (unmarked : store.secretProtectionRequired = true → SecretsUnmarked store.memory)
    (samePath : fresh.path = store.path)
    (samePassphrase : fresh.secretPassphrase = store.secretPassphrase)
    (saved : save library store io files = (.ok (), files')) (writes : io.writes = true)
    (opens : loadIo.opens = true) :
    ∃ loaded, load library fresh loadIo files' = (.ok (), loaded) ∧
      Reloads store.memory loaded.memory := by
  unfold save at saved
  split at saved
  · split at saved
    · cases saved
    · next root made =>
      have written : files' fresh.path = some (.object root) := by
        unfold writeDocument at saved
        rw [writes, if_pos rfl] at saved
        split at saved
        · cases saved
          simp [writeFile, samePath]
        · cases saved
      exact load_written laws persistable unmarked samePassphrase made written opens
  · cases saved

/-! ## A session and a message that come back -/

def messageAt (createdAt : QDateTime) : LocalMessage where
  id := "1"
  senderUserId := "bob"
  senderDeviceId := 1
  recipientUserId := "alice"
  recipientDeviceId := 1
  wirePayloadJson := ""
  consumedOneTimePreKeyId := some 7
  createdAt := createdAt
  direction := .received

def sampleMemory : StoreMemory where
  session := sampleSession "token-a" "token-r"
  hasSession := true
  knownUsers := [⟨"bob", "bob", 1⟩]
  messages := [messageAt (some 0)]

def savedStore : JsonLocalStore := { sampleStore with memory := sampleMemory }

def noFiles : Files := fun _ => none

theorem sampleMemory_persistable : Persistable sampleMemory where
  deviceKeys := by simp [sampleMemory]
  oneTimePreKeys := by simp [sampleMemory]
  knownUsers := List.forall_mem_singleton.mpr (by simp [IsInt])
  trustPins := by simp [sampleMemory]
  messages := List.forall_mem_singleton.mpr
    (by simp [IsInt, messageAt, HasIsoText, firstIsoInstant, lastIsoInstant])

theorem sampleMemory_unmarked : SecretsUnmarked sampleMemory where
  session := by decide
  deviceKeys := by simp [sampleMemory]
  oneTimePreKeys := by simp [sampleMemory]
  trustPins := by simp [sampleMemory]

theorem load_after_save_sample :
    ∃ loaded, load sampleLibrary sampleStore {} (save sampleLibrary savedStore sampleIo noFiles).2 =
        (.ok (), loaded) ∧ Reloads sampleMemory loaded.memory := by
  have saved : (save sampleLibrary savedStore sampleIo noFiles).1 = .ok () := by decide
  exact load_after_save sampleLibrary_laws savedStore sampleStore sampleIo {} noFiles _
    sampleMemory_persistable (fun _ => sampleMemory_unmarked) rfl rfl (Prod.ext saved rfl) rfl rfl

/-! ## A date without a text, and a secret that starts with a byte order mark -/

/-- The first instant of the year 10000, of which Qt has no ISO text. -/
def distantStore : JsonLocalStore where
  memory := { messages := [messageAt (some 253402300800000)] }
  indexPath := "index"
  path := "state"
  secretProtectionRequired := false

def markedStore : JsonLocalStore :=
  { sampleStore with memory := { session := sampleSession "\uFEFFtoken" "", hasSession := true } }

/-- The sample library with `QString::fromUtf8` on ASCII after a byte order mark. -/
def asciiLibrary : StorageLibrary :=
  { sampleLibrary with
    fromUtf8 := fun bytes =>
      String.ofList ((if bytes.take 3 = [0xEF, 0xBB, 0xBF] then bytes.drop 3 else bytes).map
        fun byte => Char.ofNat byte.toNat) }

/-- Both saves and both loads succeed, and the date and the mark are lost. -/
theorem distant_date_and_mark_lost :
    (save asciiLibrary distantStore {} noFiles).1 = .ok () ∧
    (load asciiLibrary distantStore {} (save asciiLibrary distantStore {} noFiles).2).1 = .ok () ∧
    (load asciiLibrary distantStore {}
      (save asciiLibrary distantStore {} noFiles).2).2.memory.messages = [messageAt none] ∧
    (save asciiLibrary markedStore sampleIo noFiles).1 = .ok () ∧
    (load asciiLibrary markedStore {} (save asciiLibrary markedStore sampleIo noFiles).2).1 =
      .ok () ∧
    loadSession (load asciiLibrary markedStore {}
      (save asciiLibrary markedStore sampleIo noFiles).2).2.memory =
        some (sampleSession "token" "") ∧
    messageAt none ≠ messageAt (some 253402300800000) ∧
    sampleSession "token" "" ≠ sampleSession "\uFEFFtoken" "" := by
  decide

end EpicKfc.Guarantees.StorePersistence
