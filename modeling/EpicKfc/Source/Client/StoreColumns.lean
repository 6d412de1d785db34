import EpicKfc.Source.Client.SecretFields

/-!
# The keys of the stored records

The key columns of the lists of `client/src/storage/JsonLocalStore.cpp`. A save
writes them and a load reads them back, since no key is a secret field.
-/

namespace EpicKfc.Source.Client.StoreDocuments
open EpicKfc.Lib
open EpicKfc.Source.Client
open EpicKfc.Source.Client.JsonLocalStore

/-- The keys of each list, in its order. -/
structure KeyColumns where
  deviceKeys : List Int
  oneTimePreKeys : List (Int × Int)
  knownUsers : List (String × Int)
  trustPins : List (String × Int)
  messages : List String
deriving DecidableEq

def keysOf (memory : StoreMemory) : KeyColumns where
  deviceKeys := memory.deviceKeys.map deviceKey
  oneTimePreKeys := memory.oneTimePreKeys.map preKeyKey
  knownUsers := memory.knownUsers.map knownUserKey
  trustPins := memory.trustPins.map trustPinKey
  messages := memory.messages.map LocalMessage.id

/-- No two records of a list share a key. -/
structure KeyColumns.Unique (columns : KeyColumns) : Prop where
  deviceKeys : columns.deviceKeys.Nodup
  oneTimePreKeys : columns.oneTimePreKeys.Nodup
  knownUsers : columns.knownUsers.Nodup
  trustPins : columns.trustPins.Nodup
  messages : columns.messages.Nodup

/-- The numbers of the keys are of the C++ type `int`. -/
structure KeyColumns.IntKeys (columns : KeyColumns) : Prop where
  deviceKeys : ∀ deviceId ∈ columns.deviceKeys, IsInt deviceId
  oneTimePreKeys : ∀ key ∈ columns.oneTimePreKeys, IsInt key.1 ∧ IsInt key.2
  knownUsers : ∀ key ∈ columns.knownUsers, IsInt key.2
  trustPins : ∀ key ∈ columns.trustPins, IsInt key.2

structure KeyColumns.Sound (columns : KeyColumns) : Prop where
  unique : columns.Unique
  ints : columns.IntKeys

theorem sound_empty : (keysOf {}).Sound :=
  ⟨⟨.nil, .nil, .nil, .nil, .nil⟩, ⟨by simp [keysOf], by simp [keysOf], by simp [keysOf],
    by simp [keysOf]⟩⟩

variable {library : StorageLibrary}

/-! ## Reading the keys of a document -/

/-- A column of a memory that is read from an array. -/
theorem map_read {α κ : Type} (key : α → κ) (read : Json.Members → α) (items : List Json) :
    (items.map fun item => read (QJsonValue.toObject (some item))).map key =
      items.map fun item => key (read (QJsonValue.toObject (some item))) := by
  rw [List.map_map]
  rfl

theorem column_of_written {α κ : Type} {key : α → κ} {write : α → Json.Members}
    {read : Json.Members → α} {records : List α}
    (back : ∀ record ∈ records, key (read (write record)) = key record) :
    ((records.map fun record => Json.object (write record)).map
      fun item => read (QJsonValue.toObject (some item))).map key = records.map key := by
  rw [map_read, List.map_map]
  exact List.map_congr_left back

theorem keysOf_memoryOf_document {memory : StoreMemory} (ints : (keysOf memory).IntKeys) :
    keysOf (memoryOf library (document library memory)) = keysOf memory := by
  have deviceKeys : ∀ device ∈ memory.deviceKeys,
      deviceKey (deviceFromJson (deviceToJson device)) = deviceKey device := by
    intro device member
    simp (disch := simp) only [deviceKey, deviceFromJson, deviceToJson, value_ofMembers]
    exact toInt_number (ints.deviceKeys _ (List.mem_map_of_mem member)) 0
  have oneTimePreKeys : ∀ preKey ∈ memory.oneTimePreKeys,
      preKeyKey (preKeyFromJson (preKeyToJson preKey)) = preKeyKey preKey := by
    intro preKey member
    obtain ⟨deviceId, preKeyId⟩ := ints.oneTimePreKeys _ (List.mem_map_of_mem member)
    rw [preKeyFromJson_preKeyToJson deviceId preKeyId]
  have knownUsers : ∀ user ∈ memory.knownUsers,
      knownUserKey (knownUserFromJson (knownUserToJson user)) = knownUserKey user := by
    intro user member
    rw [knownUserFromJson_knownUserToJson (ints.knownUsers _ (List.mem_map_of_mem member))]
  have trustPins : ∀ pin ∈ memory.trustPins,
      trustPinKey (trustPinFromJson library (trustPinToJson library pin)) = trustPinKey pin := by
    intro pin member
    have typed : IsInt pin.deviceId := ints.trustPins _ (List.mem_map_of_mem member)
    simp (disch := simp) only [trustPinKey, trustPinFromJson, trustPinToJson, value_ofMembers]
    simp [Json.lookup_cons, QJsonValue.toString, toInt_number typed]
  have messages : ∀ message ∈ memory.messages,
      (messageFromJson library (messageToJson library message)).id = message.id := by
    intro message _
    simp (disch := simp) only [messageFromJson, messageToJson, value_ofMembers]
    simp [Json.lookup_cons, QJsonValue.toString]
  simp only [keysOf, memoryOf, value_document_deviceKeys, value_document_oneTimePreKeys,
    value_document_knownUsers, value_document_trustPins, value_document_messages,
    QJsonValue.toArray]
  rw [column_of_written deviceKeys, column_of_written oneTimePreKeys, column_of_written knownUsers,
    column_of_written trustPins, column_of_written messages]

/-! ## Protection leaves the keys readable -/

variable {related : FieldRelation} {before after : Json.Members}

/-- A key that is read from fields that no pass visits. -/
theorem column_of_related {κ : Type} {name : String} {keys : List String} {key : Json.Members → κ}
    (unvisited : ∀ {first second : Json.Members},
      (∀ field, field ∉ keys → value second field = value first field) → key second = key first)
    (visited : ArrayRelated related name keys before after) :
    (value after name).toArray.map (fun item => key (QJsonValue.toObject (some item))) =
      (value before name).toArray.map fun item => key (QJsonValue.toObject (some item)) := by
  obtain ⟨items, written, each⟩ := visited
  rw [written, QJsonValue.toArray]
  clear written
  generalize (value before name).toArray = stored at each ⊢
  induction each with
  | nil => rfl
  | cons head _ ih =>
    obtain ⟨object, rfl, one⟩ := head
    rw [List.map_cons, List.map_cons, ih]
    exact congrArg (· :: _) (unvisited one.others)

theorem keysOf_memoryOf_related (whole : DocumentRelated related before after) :
    keysOf (memoryOf library after) = keysOf (memoryOf library before) := by
  have deviceKeys := @column_of_related related before after Int _ _
    (fun object => deviceKey (deviceFromJson object))
    (fun same => by simp only [deviceKey, deviceFromJson]; rw [same "deviceId" (by decide)])
    whole.deviceKeys
  have oneTimePreKeys := @column_of_related related before after (Int × Int) _ _
    (fun object => preKeyKey (preKeyFromJson object))
    (fun same => by
      simp only [preKeyKey, preKeyFromJson]
      rw [same "deviceId" (by decide), same "preKeyId" (by decide)])
    whole.oneTimePreKeys
  have trustPins := @column_of_related related before after (String × Int) _ _
    (fun object => trustPinKey (trustPinFromJson library object))
    (fun same => by
      simp only [trustPinKey, trustPinFromJson]
      rw [same "userId" (by decide), same "deviceId" (by decide)])
    whole.trustPins
  simp only [keysOf, memoryOf, map_read]
  rw [deviceKeys, oneTimePreKeys, trustPins, whole.others "knownUsers" (by decide),
    whole.others "messages" (by decide)]

/-- Protection adds a salt first. -/
theorem keysOf_memoryOf_salted (salt : Json) (root : Json.Members) :
    keysOf (memoryOf library (Json.insert "secretSalt" salt root)) =
      keysOf (memoryOf library root) := by
  simp [keysOf, memoryOf, value, Json.lookup_insert]

/-- What `save` writes has the keys of the memory, protected or not. -/
theorem keysOf_protectedDocument {store : JsonLocalStore} {draws : Draws} {root : Json.Members}
    (ints : (keysOf store.memory).IntKeys)
    (made : protectedDocument library store draws = .ok root) :
    keysOf (memoryOf library root) = keysOf store.memory := by
  unfold protectedDocument at made
  split at made
  · obtain ⟨_, _, _, _, visited⟩ := protectSecrets_eq_ok made
    have whole := transformSecrets_related (transforms_protectString library _ _) visited
    rw [keysOf_memoryOf_related whole, keysOf_memoryOf_salted, keysOf_memoryOf_document ints]
  · cases made
    exact keysOf_memoryOf_document ints

theorem keysOf_unprotectSecrets {passphrase : String} {salt : QByteArray}
    {root plain : Json.Members} (opened : unprotectSecrets library passphrase salt root = .ok plain) :
    keysOf (memoryOf library plain) = keysOf (memoryOf library root) := by
  unfold unprotectSecrets at opened
  split at opened
  · cases opened
  · split at opened
    · cases opened
    · obtain ⟨⟨plain, rest⟩, visited, rfl⟩ := map_eq_ok.mp opened
      exact keysOf_memoryOf_related
        (transformSecrets_related (transforms_unprotectString library passphrase salt) visited)

/-- The keys of a file as they stand in its text, whether protected or not. -/
def fileKeys (library : StorageLibrary) (content : Json) : KeyColumns :=
  keysOf (memoryOf library (QJsonValue.toObject (some content)))

/-- A load leaves the memory empty, or with the keys of the file. -/
theorem keysOf_load (store : JsonLocalStore) (io : StoreIo) (files : Files) :
    (load library store io files).2.memory = {} ∨ ∃ content, files store.path = some content ∧
      keysOf (load library store io files).2.memory = fileKeys library content := by
  unfold load
  cases present : files store.path with
  | none => exact Or.inl rfl
  | some content =>
    simp only
    split
    · split
      · split
        · exact Or.inl rfl
        · cases opened : unprotectSecrets library store.secretPassphrase
            (documentSalt library (QJsonValue.toObject (some content)))
            (QJsonValue.toObject (some content)) with
          | error error => exact Or.inl rfl
          | ok plain => exact Or.inr ⟨content, rfl, keysOf_unprotectSecrets opened⟩
      · exact Or.inr ⟨content, rfl, rfl⟩
    · exact Or.inl rfl

end EpicKfc.Source.Client.StoreDocuments
