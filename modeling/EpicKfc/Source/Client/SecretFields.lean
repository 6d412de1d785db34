import EpicKfc.Source.Client.JsonLocalStore
import EpicKfc.Source.Client.StoreRecords

/-!
# Passes over the secret fields

`protectSecrets` and `unprotectSecrets` of `client/src/storage/JsonLocalStore.cpp`
visit the same fields. What a pass does to one field is a relation between the
field before and after; what it does to the document follows from it.
-/

namespace EpicKfc.Source.Client.StoreDocuments
open EpicKfc.Lib
open EpicKfc.Source.Client

def sessionSecrets : List String := ["accessToken", "refreshToken"]

def deviceSecrets : List String :=
  ["identityPrivateKey", "identitySigningPrivateKey", "signedPreKeyPrivate"]

def preKeySecrets : List String := ["preKeyPrivate"]

def trustPinSecrets : List String := ["identityKey"]

/-- A field by name, before and after a pass. -/
abbrev FieldRelation := String → QJsonValue → QJsonValue → Prop

/-- A transform of one field relates it and changes no other. -/
structure Transforms (related : FieldRelation) (transform : FieldTransform) : Prop where
  field : ∀ key object draws object' rest, transform key object draws = .ok (object', rest) →
    related key (value object key) (value object' key)
  others : ∀ key object draws object' rest, transform key object draws = .ok (object', rest) →
    ∀ other, other ≠ key → value object' other = value object other

/-- The named fields are related, the others are the same. -/
structure ObjectRelated (related : FieldRelation) (keys : List String)
    (before after : Json.Members) : Prop where
  secrets : ∀ key ∈ keys, related key (value before key) (value after key)
  others : ∀ name, name ∉ keys → value after name = value before name

def ItemRelated (related : FieldRelation) (keys : List String) (before after : Json) : Prop :=
  ∃ object, after = .object object ∧
    ObjectRelated related keys (QJsonValue.toObject (some before)) object

def ArrayRelated (related : FieldRelation) (name : String) (keys : List String)
    (before after : Json.Members) : Prop :=
  ∃ items, value after name = some (.array items) ∧
    List.Forall₂ (ItemRelated related keys) (value before name).toArray items

def SessionRelated (related : FieldRelation) (before after : Json.Members) : Prop :=
  match value before "session" with
  | none => value after "session" = none
  | some session => ∃ object, value after "session" = some (.object object) ∧
      ObjectRelated related sessionSecrets (QJsonValue.toObject (some session)) object

def visitedNames : List String := ["session", "deviceKeys", "oneTimePreKeys", "trustPins"]

theorem saltUnvisited : "secretSalt" ∉ visitedNames := by decide

structure DocumentRelated (related : FieldRelation) (before after : Json.Members) : Prop where
  session : SessionRelated related before after
  deviceKeys : ArrayRelated related "deviceKeys" deviceSecrets before after
  oneTimePreKeys : ArrayRelated related "oneTimePreKeys" preKeySecrets before after
  trustPins : ArrayRelated related "trustPins" trustPinSecrets before after
  others : ∀ name, name ∉ visitedNames → value after name = value before name

/-! ## What a pass that succeeds has done -/

theorem bind_eq_ok {α β : Type} {first : Result α} {next : α → Result β} {result : β} :
    (first >>= next) = .ok result ↔ ∃ found, first = .ok found ∧ next found = .ok result := by
  cases first <;> simp [bind, Except.bind]

theorem map_eq_ok {α β : Type} {first : Result α} {change : α → β} {result : β} :
    first.map change = .ok result ↔ ∃ found, first = .ok found ∧ change found = result := by
  cases first <;> simp [Except.map]

variable {related : FieldRelation} {transform : FieldTransform}

theorem transformStrings_related (transforms : Transforms related transform) (keys : List String)
    (distinct : keys.Nodup) : ∀ {object object' : Json.Members} {draws rest : Draws},
      transformStrings transform keys object draws = .ok (object', rest) →
      ObjectRelated related keys object object' := by
  induction keys with
  | nil =>
    intro object object' draws rest done
    cases done
    exact ⟨by simp, fun _ _ => rfl⟩
  | cons key keys ih =>
    intro object object' draws rest done
    obtain ⟨⟨middle, more⟩, first, later⟩ := bind_eq_ok.mp done
    obtain ⟨absent, distinct⟩ := List.nodup_cons.mp distinct
    obtain ⟨secrets, others⟩ := ih distinct later
    have field := transforms.field _ _ _ _ _ first
    have unvisited := transforms.others _ _ _ _ _ first
    refine ⟨fun name visited => ?_, fun name unnamed => ?_⟩
    · rcases List.mem_cons.mp visited with rfl | visited
      · rw [others _ absent]
        exact field
      · have different : name ≠ key := fun same => absent (same ▸ visited)
        rw [← unvisited name different]
        exact secrets name visited
    · rw [List.mem_cons, not_or] at unnamed
      rw [others name unnamed.2, unvisited name unnamed.1]

theorem transformItems_related (transforms : Transforms related transform) {keys : List String}
    (distinct : keys.Nodup) (items : List Json) : ∀ {items' : List Json} {draws rest : Draws},
      transformItems transform keys items draws = .ok (items', rest) →
      List.Forall₂ (ItemRelated related keys) items items' := by
  induction items with
  | nil =>
    intro items' draws rest done
    cases done
    exact .nil
  | cons item items ih =>
    intro items' draws rest done
    obtain ⟨⟨object, more⟩, first, later⟩ := bind_eq_ok.mp done
    obtain ⟨⟨others, left⟩, tail, made⟩ := bind_eq_ok.mp later
    cases made
    exact .cons ⟨object, rfl, transformStrings_related transforms keys distinct first⟩ (ih tail)

theorem transformArray_related (transforms : Transforms related transform) {name : String}
    {keys : List String} (distinct : keys.Nodup) {root root' : Json.Members} {draws rest : Draws}
    (done : transformArray transform name keys root draws = .ok (root', rest)) :
    ArrayRelated related name keys root root' ∧
      ∀ other, other ≠ name → value root' other = value root other := by
  obtain ⟨⟨items, left⟩, visited, made⟩ := bind_eq_ok.mp done
  cases made
  refine ⟨⟨items, Json.lookup_insert_same name _ root,
    transformItems_related transforms distinct _ visited⟩, fun other different => ?_⟩
  exact Json.lookup_insert_other name other _ root (Ne.symm different)

theorem transformSession_related (transforms : Transforms related transform)
    {root root' : Json.Members} {draws rest : Draws}
    (done : transformSession transform root draws = .ok (root', rest)) :
    SessionRelated related root root' ∧
      ∀ other, other ≠ "session" → value root' other = value root other := by
  unfold transformSession at done
  unfold SessionRelated
  cases present : value root "session" with
  | none =>
    rw [present] at done
    cases done
    simp [present]
  | some session =>
    rw [present] at done
    obtain ⟨⟨object, left⟩, visited, made⟩ := bind_eq_ok.mp done
    cases made
    refine ⟨⟨object, Json.lookup_insert_same "session" _ root,
      transformStrings_related transforms sessionSecrets (by decide) visited⟩, ?_⟩
    exact fun other different => Json.lookup_insert_other "session" other _ root (Ne.symm different)

theorem ArrayRelated.frame {name : String} {keys : List String}
    {before before' after after' : Json.Members} (visited : ArrayRelated related name keys before after)
    (sameBefore : value before name = value before' name)
    (sameAfter : value after' name = value after name) :
    ArrayRelated related name keys before' after' := by
  rw [ArrayRelated, ← sameBefore, sameAfter]
  exact visited

theorem SessionRelated.frame {before after after' : Json.Members}
    (visited : SessionRelated related before after)
    (sameAfter : value after' "session" = value after "session") :
    SessionRelated related before after' := by
  rw [SessionRelated, sameAfter]
  exact visited

theorem transformSecrets_related (transforms : Transforms related transform)
    {root root' : Json.Members} {draws rest : Draws}
    (done : transformSecrets transform root draws = .ok (root', rest)) :
    DocumentRelated related root root' := by
  obtain ⟨⟨root₁, draws₁⟩, first, later⟩ := bind_eq_ok.mp done
  obtain ⟨⟨root₂, draws₂⟩, second, later⟩ := bind_eq_ok.mp later
  obtain ⟨⟨root₃, draws₃⟩, third, fourth⟩ := bind_eq_ok.mp later
  obtain ⟨session, others₁⟩ := transformSession_related transforms first
  obtain ⟨deviceKeys, others₂⟩ := transformArray_related transforms (by decide) second
  obtain ⟨oneTimePreKeys, others₃⟩ := transformArray_related transforms (by decide) third
  obtain ⟨trustPins, others₄⟩ := transformArray_related transforms (by decide) fourth
  refine ⟨session.frame ?_, deviceKeys.frame ?_ ?_, oneTimePreKeys.frame ?_ ?_,
    trustPins.frame ?_ rfl, fun name unvisited => ?_⟩
  · rw [others₄ _ (by decide), others₃ _ (by decide), others₂ _ (by decide)]
  · rw [others₁ _ (by decide)]
  · rw [others₄ _ (by decide), others₃ _ (by decide)]
  · rw [others₂ _ (by decide), others₁ _ (by decide)]
  · rw [others₄ _ (by decide)]
  · rw [others₃ _ (by decide), others₂ _ (by decide), others₁ _ (by decide)]
  · simp only [visitedNames, List.mem_cons, List.not_mem_nil, or_false, not_or] at unvisited
    obtain ⟨notSession, notDevices, notPreKeys, notPins⟩ := unvisited
    rw [others₄ _ notPins, others₃ _ notPreKeys, others₂ _ notDevices, others₁ _ notSession]

/-! ## When a pass succeeds -/

/-- The transform succeeds on the fields that are ready. -/
def Accepts (ready : String → QJsonValue → Prop) (transform : FieldTransform) : Prop :=
  ∀ key object draws, ready key (value object key) →
    ∃ object' rest, transform key object draws = .ok (object', rest)

def ItemReady (ready : String → QJsonValue → Prop) (keys : List String) (item : Json) : Prop :=
  ∀ key ∈ keys, ready key (value (QJsonValue.toObject (some item)) key)

structure DocumentReady (ready : String → QJsonValue → Prop) (root : Json.Members) : Prop where
  session : ∀ session, value root "session" = some session → ItemReady ready sessionSecrets session
  deviceKeys : ∀ item ∈ (value root "deviceKeys").toArray, ItemReady ready deviceSecrets item
  oneTimePreKeys : ∀ item ∈ (value root "oneTimePreKeys").toArray,
    ItemReady ready preKeySecrets item
  trustPins : ∀ item ∈ (value root "trustPins").toArray, ItemReady ready trustPinSecrets item

variable {ready : String → QJsonValue → Prop}

theorem itemReady_of_related {keys : List String}
    (leaves : ∀ key x y, related key x y → ready key y) {items items' : List Json}
    (each : List.Forall₂ (ItemRelated related keys) items items') :
    ∀ item ∈ items', ItemReady ready keys item := by
  induction each with
  | nil => simp
  | cons head _ ih =>
    obtain ⟨object, rfl, one⟩ := head
    exact List.forall_mem_cons.mpr ⟨fun key visited => leaves key _ _ (one.secrets key visited), ih⟩

/-- What a pass leaves behind is ready for the next. -/
theorem DocumentRelated.isReady {before after : Json.Members}
    (whole : DocumentRelated related before after)
    (leaves : ∀ key x y, related key x y → ready key y) : DocumentReady ready after := by
  have array : ∀ {name : String} {keys : List String}, ArrayRelated related name keys before after →
      ∀ item ∈ (value after name).toArray, ItemReady ready keys item := by
    rintro name keys ⟨items, written, each⟩
    rw [written]
    exact itemReady_of_related leaves each
  refine ⟨fun session present => ?_, array whole.deviceKeys, array whole.oneTimePreKeys,
    array whole.trustPins⟩
  have related := whole.session
  unfold SessionRelated at related
  split at related
  · exact nomatch related.symm.trans present
  · obtain ⟨object, written, one⟩ := related
    cases written.symm.trans present
    exact fun key visited => leaves key _ _ (one.secrets key visited)

theorem transformStrings_ok (transforms : Transforms related transform)
    (accepts : Accepts ready transform) (keys : List String) (distinct : keys.Nodup) :
    ∀ (object : Json.Members) (draws : Draws), (∀ key ∈ keys, ready key (value object key)) →
      ∃ object' rest, transformStrings transform keys object draws = .ok (object', rest) := by
  induction keys with
  | nil => exact fun object draws _ => ⟨object, draws, rfl⟩
  | cons key keys ih =>
    intro object draws each
    obtain ⟨absent, distinct⟩ := List.nodup_cons.mp distinct
    obtain ⟨middle, more, first⟩ := accepts key object draws (each key List.mem_cons_self)
    obtain ⟨object', rest, later⟩ := ih distinct middle more fun name visited => by
      have different : name ≠ key := fun same => absent (same ▸ visited)
      rw [transforms.others _ _ _ _ _ first name different]
      exact each name (List.mem_cons_of_mem key visited)
    exact ⟨object', rest, bind_eq_ok.mpr ⟨(middle, more), first, later⟩⟩

theorem transformItems_ok (transforms : Transforms related transform)
    (accepts : Accepts ready transform) {keys : List String} (distinct : keys.Nodup)
    (items : List Json) : ∀ draws : Draws, (∀ item ∈ items, ItemReady ready keys item) →
      ∃ items' rest, transformItems transform keys items draws = .ok (items', rest) := by
  induction items with
  | nil => exact fun draws _ => ⟨[], draws, rfl⟩
  | cons item items ih =>
    intro draws each
    obtain ⟨first, others⟩ := List.forall_mem_cons.mp each
    obtain ⟨object, more, visited⟩ :=
      transformStrings_ok transforms accepts keys distinct _ draws first
    obtain ⟨items', rest, tail⟩ := ih more others
    refine ⟨.object object :: items', rest, bind_eq_ok.mpr ⟨(object, more), visited, ?_⟩⟩
    exact bind_eq_ok.mpr ⟨(items', rest), tail, rfl⟩

theorem transformArray_ok (transforms : Transforms related transform)
    (accepts : Accepts ready transform) {name : String} {keys : List String} (distinct : keys.Nodup)
    (root : Json.Members) (draws : Draws)
    (each : ∀ item ∈ (value root name).toArray, ItemReady ready keys item) :
    ∃ root' rest, transformArray transform name keys root draws = .ok (root', rest) := by
  obtain ⟨items, rest, visited⟩ := transformItems_ok transforms accepts distinct _ draws each
  exact ⟨_, rest, bind_eq_ok.mpr ⟨(items, rest), visited, rfl⟩⟩

theorem transformSession_ok (transforms : Transforms related transform)
    (accepts : Accepts ready transform) (root : Json.Members) (draws : Draws)
    (each : ∀ session, value root "session" = some session →
      ItemReady ready sessionSecrets session) :
    ∃ root' rest, transformSession transform root draws = .ok (root', rest) := by
  unfold transformSession
  split
  · exact ⟨root, draws, rfl⟩
  · next session present =>
    obtain ⟨object, rest, visited⟩ :=
      transformStrings_ok transforms accepts sessionSecrets (by decide) _ draws
        (each session present)
    exact ⟨_, rest, bind_eq_ok.mpr ⟨(object, rest), visited, rfl⟩⟩

theorem transformSecrets_ok (transforms : Transforms related transform)
    (accepts : Accepts ready transform) {root : Json.Members} (draws : Draws)
    (each : DocumentReady ready root) :
    ∃ root' rest, transformSecrets transform root draws = .ok (root', rest) := by
  obtain ⟨root₁, draws₁, first⟩ := transformSession_ok transforms accepts root draws each.session
  have others₁ := (transformSession_related transforms first).2
  obtain ⟨root₂, draws₂, second⟩ := @transformArray_ok _ _ _ transforms accepts "deviceKeys"
    deviceSecrets (by decide) root₁ draws₁ (by
      rw [others₁ _ (by decide)]
      exact each.deviceKeys)
  have others₂ := (transformArray_related transforms (by decide) second).2
  obtain ⟨root₃, draws₃, third⟩ := @transformArray_ok _ _ _ transforms accepts "oneTimePreKeys"
    preKeySecrets (by decide) root₂ draws₂ (by
      rw [others₂ _ (by decide), others₁ _ (by decide)]
      exact each.oneTimePreKeys)
  have others₃ := (transformArray_related transforms (by decide) third).2
  obtain ⟨root₄, draws₄, fourth⟩ := @transformArray_ok _ _ _ transforms accepts "trustPins"
    trustPinSecrets (by decide) root₃ draws₃ (by
      rw [others₃ _ (by decide), others₂ _ (by decide), others₁ _ (by decide)]
      exact each.trustPins)
  refine ⟨root₄, draws₄, bind_eq_ok.mpr ⟨(root₁, draws₁), first, ?_⟩⟩
  refine bind_eq_ok.mpr ⟨(root₂, draws₂), second, ?_⟩
  exact bind_eq_ok.mpr ⟨(root₃, draws₃), third, fourth⟩

/-! ## Passes one after the other -/

section Composition

variable {first second both : FieldRelation} {before middle after : Json.Members}

theorem ObjectRelated.comp {keys : List String}
    (compose : ∀ key x y z, first key x y → second key y z → both key x z)
    (one : ObjectRelated first keys before middle) (two : ObjectRelated second keys middle after) :
    ObjectRelated both keys before after where
  secrets key visited := compose _ _ _ _ (one.secrets key visited) (two.secrets key visited)
  others name unnamed := (two.others name unnamed).trans (one.others name unnamed)

theorem forall₂_itemRelated_comp {keys : List String}
    (compose : ∀ key x y z, first key x y → second key y z → both key x z)
    {items items' items'' : List Json} (one : List.Forall₂ (ItemRelated first keys) items items') :
    List.Forall₂ (ItemRelated second keys) items' items'' →
      List.Forall₂ (ItemRelated both keys) items items'' := by
  induction one generalizing items'' with
  | nil =>
    intro two
    cases two
    exact .nil
  | cons head _ ih =>
    intro two
    cases two with
    | cons head' tail' =>
      obtain ⟨object, rfl, related⟩ := head
      obtain ⟨object', rfl, related'⟩ := head'
      exact .cons ⟨object', rfl, related.comp compose related'⟩ (ih tail')

theorem ArrayRelated.comp {name : String} {keys : List String}
    (compose : ∀ key x y z, first key x y → second key y z → both key x z)
    (one : ArrayRelated first name keys before middle)
    (two : ArrayRelated second name keys middle after) :
    ArrayRelated both name keys before after := by
  obtain ⟨items, written, related⟩ := one
  obtain ⟨items', written', related'⟩ := two
  rw [written] at related'
  exact ⟨items', written', forall₂_itemRelated_comp compose related related'⟩

theorem SessionRelated.comp
    (compose : ∀ key x y z, first key x y → second key y z → both key x z)
    (one : SessionRelated first before middle) (two : SessionRelated second middle after) :
    SessionRelated both before after := by
  unfold SessionRelated at one two ⊢
  split at one
  · rw [one] at two
    exact two
  · obtain ⟨object, written, related⟩ := one
    rw [written] at two
    obtain ⟨object', written', related'⟩ := two
    exact ⟨object', written', related.comp compose related'⟩

theorem DocumentRelated.comp
    (compose : ∀ key x y z, first key x y → second key y z → both key x z)
    (one : DocumentRelated first before middle) (two : DocumentRelated second middle after) :
    DocumentRelated both before after where
  session := one.session.comp compose two.session
  deviceKeys := one.deviceKeys.comp compose two.deviceKeys
  oneTimePreKeys := one.oneTimePreKeys.comp compose two.oneTimePreKeys
  trustPins := one.trustPins.comp compose two.trustPins
  others name unvisited := (two.others name unvisited).trans (one.others name unvisited)

/-- A field of another name, added on both sides. -/
theorem DocumentRelated.insert {name : String} {added : Json} (unvisited : name ∉ visitedNames)
    (whole : DocumentRelated related before after) :
    DocumentRelated related (Json.insert name added before) (Json.insert name added after) := by
  have kept : ∀ visited ∈ visitedNames, ∀ members,
      value (Json.insert name added members) visited = value members visited := by
    intro visited member members
    exact Json.lookup_insert_other name visited added members fun same => unvisited (same ▸ member)
  refine ⟨?_, ?_, ?_, ?_, fun other unnamed => ?_⟩
  · rw [SessionRelated, kept _ (by decide), kept _ (by decide)]
    exact whole.session
  · rw [ArrayRelated, kept _ (by decide), kept _ (by decide)]
    exact whole.deviceKeys
  · rw [ArrayRelated, kept _ (by decide), kept _ (by decide)]
    exact whole.oneTimePreKeys
  · rw [ArrayRelated, kept _ (by decide), kept _ (by decide)]
    exact whole.trustPins
  · rw [value, value, Json.lookup_insert, Json.lookup_insert]
    split
    · rfl
    · exact whole.others other unnamed

end Composition

/-! ## Documents of two memories -/

theorem arrayRelated_map {α β : Type} {first : α → Json.Members} {second : β → Json.Members}
    {records : List α} {records' : List β} {name : String} {keys : List String}
    {before after : Json.Members}
    (written : value before name = some (.array (records.map fun record => .object (first record))))
    (written' : value after name =
      some (.array (records'.map fun record => .object (second record))))
    (each : List.Forall₂ (fun record record' =>
      ObjectRelated related keys (first record) (second record')) records records') :
    ArrayRelated related name keys before after := by
  refine ⟨_, written', ?_⟩
  rw [written]
  refine List.forall₂_map_left_iff.mpr (List.forall₂_map_right_iff.mpr (each.imp ?_))
  exact fun _ _ object => ⟨_, rfl, object⟩

/-- Memories whose records are related, with the same known users and messages. -/
theorem documentRelated_document {library : StorageLibrary} {before after : StoreMemory}
    (hasSession : after.hasSession = before.hasSession)
    (session : ObjectRelated related sessionSecrets (sessionToJson before.session)
      (sessionToJson after.session))
    (deviceKeys : List.Forall₂ (fun device device' =>
      ObjectRelated related deviceSecrets (deviceToJson device) (deviceToJson device'))
      before.deviceKeys after.deviceKeys)
    (oneTimePreKeys : List.Forall₂ (fun preKey preKey' =>
      ObjectRelated related preKeySecrets (preKeyToJson preKey) (preKeyToJson preKey'))
      before.oneTimePreKeys after.oneTimePreKeys)
    (trustPins : List.Forall₂ (fun pin pin' => ObjectRelated related trustPinSecrets
      (trustPinToJson library pin) (trustPinToJson library pin')) before.trustPins after.trustPins)
    (knownUsers : after.knownUsers = before.knownUsers) (messages : after.messages = before.messages) :
    DocumentRelated related (JsonLocalStore.document library before)
      (JsonLocalStore.document library after) where
  session := by
    rw [SessionRelated, JsonLocalStore.value_document_session,
      JsonLocalStore.value_document_session, hasSession]
    cases before.hasSession with
    | false => rfl
    | true => exact ⟨_, rfl, session⟩
  deviceKeys := arrayRelated_map (JsonLocalStore.value_document_deviceKeys library before)
    (JsonLocalStore.value_document_deviceKeys library after) deviceKeys
  oneTimePreKeys := arrayRelated_map (JsonLocalStore.value_document_oneTimePreKeys library before)
    (JsonLocalStore.value_document_oneTimePreKeys library after) oneTimePreKeys
  trustPins := arrayRelated_map (JsonLocalStore.value_document_trustPins library before)
    (JsonLocalStore.value_document_trustPins library after) trustPins
  others name unvisited := by
    simp only [visitedNames, List.mem_cons, List.not_mem_nil, or_false, not_or] at unvisited
    obtain ⟨notSession, notDevices, notPreKeys, notPins⟩ := unvisited
    simp only [value, JsonLocalStore.document, Json.lookup_insert, if_neg (Ne.symm notDevices),
      if_neg (Ne.symm notPreKeys), if_neg (Ne.symm notPins), knownUsers, messages, hasSession]
    cases before.hasSession with
    | false => rfl
    | true => simp only [if_true, Json.lookup_insert, if_neg (Ne.symm notSession)]

/-! ## Protection and its inverse -/

variable (library : StorageLibrary) (passphrase : String) (salt : QByteArray)

/-- The field holds what `encryptSecretString` made of a text. -/
def IsSealed (text key : String) (after : QJsonValue) : Prop :=
  ∃ draws blob rest,
    encryptSecretString library text key passphrase salt draws = (some blob, rest) ∧
      after = some (.object blob)

/-- `protectString` on a field that is a text. -/
def Protected : FieldRelation := fun key before after =>
  ∀ text, before = some (.string text) → IsSealed library passphrase salt text key after

/-- `unprotectString` on a field that is an object. -/
def Unprotected : FieldRelation := fun key before after =>
  ∀ blob, before = some (.object blob) → ∃ text,
    decryptSecretString library blob key passphrase salt = some text ∧ after = some (.string text)

theorem transforms_protectString :
    Transforms (Protected library passphrase salt) (protectString library passphrase salt) := by
  have changes : ∀ key object draws object' rest,
      protectString library passphrase salt key object draws = .ok (object', rest) →
      Protected library passphrase salt key (value object key) (value object' key) ∧
        ∀ other, other ≠ key → value object' other = value object other := by
    intro key object draws object' rest done
    unfold protectString at done
    split at done
    · next absent => cases done; simp [Protected, absent]
    · next absent => cases done; simp [Protected, absent]
    · next absent => cases done; simp [Protected, absent]
    · next present =>
      split at done
      · cases done
      · next encrypted rest sealed =>
        cases done
        refine ⟨fun text written => ?_, fun other different =>
          Json.lookup_insert_other key other _ object (Ne.symm different)⟩
        cases present.symm.trans written
        exact ⟨draws, encrypted, rest, sealed, Json.lookup_insert_same key _ object⟩
  exact ⟨fun _ _ _ _ _ done => (changes _ _ _ _ _ done).1,
    fun _ _ _ _ _ done => (changes _ _ _ _ _ done).2⟩

theorem transforms_unprotectString :
    Transforms (Unprotected library passphrase salt) (unprotectString library passphrase salt) := by
  have changes : ∀ key object draws object' rest,
      unprotectString library passphrase salt key object draws = .ok (object', rest) →
      Unprotected library passphrase salt key (value object key) (value object' key) ∧
        ∀ other, other ≠ key → value object' other = value object other := by
    intro key object draws object' rest done
    unfold unprotectString at done
    split at done
    · next blob present =>
      split at done
      · cases done
      · next text opened =>
        cases done
        refine ⟨fun blob' written => ?_, fun other different =>
          Json.lookup_insert_other key other _ object (Ne.symm different)⟩
        cases present.symm.trans written
        exact ⟨text, opened, Json.lookup_insert_same key _ object⟩
    · next other =>
      cases done
      exact ⟨fun blob written => absurd written (other blob), fun _ _ => rfl⟩
  exact ⟨fun _ _ _ _ _ done => (changes _ _ _ _ _ done).1,
    fun _ _ _ _ _ done => (changes _ _ _ _ _ done).2⟩

/-- A blob opens under the passphrase, the salt and the field name that sealed it. -/
theorem decryptSecretString_opens {library : StorageLibrary} (laws : StorageLaws library)
    {text key passphrase : String} {salt : QByteArray} {draws rest : Draws} {blob : Json.Members}
    (sealed : encryptSecretString library text key passphrase salt draws = (some blob, rest)) :
    decryptSecretString library blob key passphrase salt = some (library.fromUtf8 (toUtf8 text)) := by
  unfold encryptSecretString at sealed
  cases derived : deriveStorageKey library passphrase salt with
  | none => simp [derived] at sealed
  | some storageKey =>
    simp only [derived] at sealed
    split at sealed
    · simp at sealed
    · obtain ⟨made, _⟩ := Prod.mk.inj sealed
      obtain ⟨⟨ciphertext, tag⟩, encrypted, rfl⟩ := Option.map_eq_some_iff.mp made
      simp (disch := simp) only [decryptSecretString, secretBlob, value_ofMembers]
      simp [Json.lookup_cons, QJsonValue.toString, QJsonValue.toInt, secretBlobVersion, derived,
        laws.base64, laws.decrypts _ _ _ _ _ _ encrypted]

theorem decryptSecretString_of_sealed {library : StorageLibrary} (laws : StorageLaws library)
    {text key passphrase : String} {salt : QByteArray} {draws rest : Draws} {blob : Json.Members}
    (unmarked : ¬ StartsWithBom text)
    (sealed : encryptSecretString library text key passphrase salt draws = (some blob, rest)) :
    decryptSecretString library blob key passphrase salt = some text := by
  rw [decryptSecretString_opens laws sealed, laws.utf8 text unmarked]

/-- The salt of a protected document: the store's, or a drawn one. -/
def chosenSalt (storedSalt : QByteArray) (draws : Draws) : QByteArray :=
  if storedSalt.isEmpty then (randomBytes secretSaltBytes draws).1 else storedSalt

theorem protectSecrets_eq_ok {library : StorageLibrary} {passphrase : String}
    {storedSalt : QByteArray} {root root' : Json.Members} {draws : Draws}
    (made : protectSecrets library passphrase storedSalt root draws = .ok root') :
    passphrase.isEmpty = false ∧ (chosenSalt storedSalt draws).length = secretSaltBytes ∧
      ∃ left rest, transformSecrets (protectString library passphrase (chosenSalt storedSalt draws))
        (Json.insert "secretSalt" (.string (library.toBase64 (chosenSalt storedSalt draws))) root)
        left = .ok (root', rest) := by
  have salt : (if storedSalt.isEmpty then randomBytes secretSaltBytes draws
      else (storedSalt, draws)).1 = chosenSalt storedSalt draws := by
    unfold chosenSalt
    split <;> rfl
  simp only [protectSecrets, salt] at made
  split at made
  · cases made
  · next given =>
    split at made
    · cases made
    · next length =>
      obtain ⟨⟨root', rest⟩, visited, rfl⟩ := map_eq_ok.mp made
      exact ⟨Bool.eq_false_iff.mpr given, not_not.mp length, _, rest, visited⟩

end EpicKfc.Source.Client.StoreDocuments
