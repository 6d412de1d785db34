import EpicKfc.Guarantees.SecretsAtRest
import EpicKfc.Lib.Runs

/-!
# Protected state under a wrong passphrase

A load that cannot decrypt has already cleared the memory, and every saving
operation writes the whole document from memory, protected under the passphrase in
use. So the first save that gets through replaces the file by a document that
decrypts, and nothing brings the old one back.
-/

namespace EpicKfc.Guarantees.ProtectedState
open EpicKfc.Lib
open EpicKfc.Source.Client
open EpicKfc.Source.Client.StoreDocuments
open EpicKfc.Source.Client.JsonLocalStore

variable (library : StorageLibrary)

/-- A document with a salt whose secrets do not decrypt under the passphrase. -/
def Locked (passphrase : String) (content : Json) : Prop :=
  (value (QJsonValue.toObject (some content)) "secretSalt").isSome ∧
    ∃ error, unprotectSecrets library passphrase
      (documentSalt library (QJsonValue.toObject (some content)))
      (QJsonValue.toObject (some content)) = .error error

/-- The file at the store's path does not decrypt under the passphrase in use. -/
def SecretsFail (store : JsonLocalStore) (files : Files) : Prop :=
  store.secretPassphrase ≠ "" ∧
    ∃ content, files store.path = some content ∧ Locked library store.secretPassphrase content

/-- The failing load reports the error and leaves the memory empty. -/
theorem load_of_secretsFail {store : JsonLocalStore} {files : Files} {io : StoreIo}
    (fails : SecretsFail library store files) (opens : io.opens = true) :
    (∃ error, (load library store io files).1 = .error error) ∧
      (load library store io files).2 = { store with
        memory := {}
        secretSalt := documentSalt library (QJsonValue.toObject (files store.path)) } := by
  obtain ⟨passphrase, content, present, salted, error, failed⟩ := fails
  have given : store.secretPassphrase.isEmpty = false := by
    rw [← Bool.not_eq_true, String.isEmpty_iff]
    exact passphrase
  unfold load
  simp only [present, opens, salted, given, failed, if_true]
  exact ⟨⟨error, rfl⟩, rfl⟩

/-! ## Operations before a successful load -/

structure StoreWorld where
  store : JsonLocalStore
  files : Files

/-- One operation, with what it meets outside; a reload that succeeds ends the run. -/
def storeStep (world : StoreWorld) (event : StoreOperation × StoreIo) : Option StoreWorld :=
  let (result, store, files) := perform library event.1 event.2 world.store world.files
  match event.1, result with
  | .reload, .ok () => none
  | _, _ => some { store := store, files := files }

theorem storeStep_some {world world' : StoreWorld} {event : StoreOperation × StoreIo}
    (moved : storeStep library world event = some world') :
    world' = ⟨(perform library event.1 event.2 world.store world.files).2.1,
      (perform library event.1 event.2 world.store world.files).2.2⟩ := by
  simp only [storeStep] at moved
  split at moved
  · cases moved
  · cases moved
    rfl

/-- The folder cannot be made, or the file cannot be opened. -/
def Unusable (io : StoreIo) : Prop := io.directoryReady = false ∨ io.opens = false

/-- The operation has nothing to save. -/
def ChangesNothing (memory : StoreMemory) : StoreMutation → Prop
  | .saveKnownUser address => address.userId = "" ∨ address.username = ""
  | .markMessageDeletedFor _ messageId => ∀ message ∈ memory.messages, message.id ≠ messageId
  | _ => False

/-- The operation does not get at the file at this path: it saves nothing, saves elsewhere, the
folder or the file cannot be used, or what it saves has to be protected and cannot be. -/
def Spared (path : String) (world : StoreWorld) (event : StoreOperation × StoreIo) : Prop :=
  match event.1 with
  | .mutate mutation =>
    ChangesNothing world.store.memory mutation ∨ world.store.path ≠ path ∨ Unusable event.2 ∨
      ∃ memory error, mutation.apply event.2.now world.store.memory = some memory ∧
        protectedDocument library { world.store with memory := memory } event.2.draws = .error error
  | .useAccountScopedPath _ rememberAccount =>
    rememberAccount = false ∨ world.store.indexPath ≠ path ∨ Unusable event.2
  | _ => True

/-- No passphrase is given but this one. -/
def KeepsPassphrase (passphrase : String) (event : StoreOperation × StoreIo) : Prop :=
  ∀ given, event.1 = .setSecretPassphrase given → given = passphrase

theorem apply_eq_none_iff {mutation : StoreMutation} {now : String} {memory : StoreMemory} :
    mutation.apply now memory = none ↔ ChangesNothing memory mutation := by
  cases mutation with
  | saveKnownUser address =>
    simp only [StoreMutation.apply, ChangesNothing, ← String.isEmpty_iff, ← Bool.or_eq_true]
    split
    · simp_all
    · simp_all
  | markMessageDeletedFor currentUserId messageId =>
    simp only [StoreMutation.apply, ChangesNothing, Option.map_eq_none_iff]
    induction memory.messages with
    | nil => simp [LocalMessages.markMessageDeletedFor]
    | cons message rest ih =>
      rw [LocalMessages.markMessageDeletedFor, List.forall_mem_cons]
      split
      · next same => simp [same]
      · next different => rw [Option.map_eq_none_iff, ih, and_iff_right different]
  | _ => simp [StoreMutation.apply, ChangesNothing]

/-! ## What is written -/

/-- A document that a save has protected decrypts under the same passphrase. -/
theorem not_locked_of_protected (laws : StorageLaws library) {store : JsonLocalStore}
    {draws : Draws} {root : Json.Members} {passphrase : String}
    (known : store.secretPassphrase = passphrase ∨ store.secretPassphrase = "")
    (made : protectedDocument library store draws = .ok root) :
    ¬ Locked library passphrase (.object root) := by
  rintro ⟨salted, error, failed⟩
  cases required : store.secretProtectionRequired with
  | false =>
    rw [protectedDocument, required, if_neg (by decide)] at made
    cases made
    simp [QJsonValue.toObject, value_document_secretSalt] at salted
  | true =>
    obtain ⟨salt, related⟩ := SecretsAtRest.protectedDocument_sealed library required made
    rw [protectedDocument, if_pos required] at made
    obtain ⟨given, length, -⟩ := protectSecrets_eq_ok made
    have same : store.secretPassphrase = passphrase :=
      known.resolve_right fun empty => by simp [empty] at given
    rw [same] at given related
    generalize chosenSalt store.secretSalt draws = chosen at salt related length
    have opens : Accepts (SecretsAtRest.HoldsBlob library passphrase chosen · none)
        (unprotectString library passphrase chosen) := by
      rintro key object draws ⟨text, _, blob, _, sealed, written⟩
      unfold unprotectString
      rw [written]
      simp only [decryptSecretString_opens laws sealed]
      exact ⟨_, draws, rfl⟩
    obtain ⟨plain, rest, opened⟩ := transformSecrets_ok
      (transforms_unprotectString library passphrase chosen) opens []
      (related.isReady fun _ _ _ holds => holds)
    have read : documentSalt library (QJsonValue.toObject (some (.object root))) = chosen := by
      simp [documentSalt, QJsonValue.toObject, salt, QJsonValue.toString, laws.base64]
    rw [read] at failed
    simp [unprotectSecrets, QJsonValue.toObject, given, length, opened, Except.map] at failed

theorem not_locked_null {passphrase : String} : ¬ Locked library passphrase .null := by
  rintro ⟨salted, -⟩
  cases salted

theorem not_locked_index {passphrase accountId : String} : ¬ Locked library passphrase
    (.object (Json.ofMembers [("version", .number 1), ("lastAccountId", .string accountId)])) := by
  rintro ⟨salted, -⟩
  simp (disch := simp) only [QJsonValue.toObject, value_ofMembers] at salted
  simp [Json.lookup_cons] at salted

theorem writeDocument_other {path target : String} {root : Json.Members} {io : StoreIo}
    {files : Files} (untouched : target ≠ path ∨ io.opens = false) :
    (writeDocument target root io files).2 path = files path := by
  unfold writeDocument
  cases opens : io.opens with
  | false => rfl
  | true =>
    have other : path ≠ target := Ne.symm (untouched.resolve_right (by simp [opens]))
    simp [writeFile, other]

/-- A file opened for writing holds what was written, or a text that was cut short. -/
theorem writeDocument_unlocks {path passphrase : String} {root : Json.Members} {io : StoreIo}
    {files : Files} {content : Json} (locked : Locked library passphrase content)
    (opened : ¬ Locked library passphrase (.object root)) (opens : io.opens = true) :
    (writeDocument path root io files).2 path ≠ some content := by
  have other : (if io.writes = true then Json.object root else .null) ≠ content := by
    split
    · exact fun written => opened (written ▸ locked)
    · exact fun written => not_locked_null library (written ▸ locked)
  simpa [writeDocument, opens, writeFile] using other

/-! ## One operation -/

/-- An operation that is spared leaves the file as it is. -/
theorem perform_spared {path : String} {world : StoreWorld} {event : StoreOperation × StoreIo}
    (spared : Spared library path world event) :
    (perform library event.1 event.2 world.store world.files).2.2 path = world.files path := by
  obtain ⟨operation, io⟩ := event
  cases operation with
  | setSecretProtectionRequired required => rfl
  | setSecretPassphrase passphrase => rfl
  | clearSecretPassphrase => rfl
  | reload => rfl
  | useAccountScopedPath accountId rememberAccount =>
    cases rememberAccount with
    | false => rfl
    | true =>
      have untouched : world.store.indexPath ≠ path ∨ Unusable io :=
        spared.resolve_left (by decide)
      have kept : (rememberLastAccountId world.store accountId io world.files).2 path =
          world.files path := by
        unfold rememberLastAccountId
        cases ready : io.directoryReady with
        | false => rfl
        | true =>
          refine writeDocument_other (untouched.imp_right fun unusable => ?_)
          exact unusable.resolve_left (by simp [ready])
      rw [← kept]
      simp only [perform, useAccountScopedPath, if_true]
      split <;> simp_all
  | mutate mutation =>
    simp only [perform, JsonLocalStore.mutate]
    cases applied : mutation.apply io.now world.store.memory with
    | none => rfl
    | some memory =>
      have changes : ¬ ChangesNothing world.store.memory mutation := by
        rw [← @apply_eq_none_iff _ io.now, applied]
        simp
      simp only [save]
      cases ready : io.directoryReady with
      | false => rfl
      | true =>
        cases made : protectedDocument library { world.store with memory := memory } io.draws with
        | error error => rfl
        | ok root =>
          obtain elsewhere | unusable | ⟨memory', error, applied', failed⟩ :=
            Or.resolve_left spared changes
          · exact writeDocument_other (.inl elsewhere)
          · exact writeDocument_other (.inr (unusable.resolve_left (by simp [ready])))
          · rw [applied] at applied'
            cases applied'
            rw [made] at failed
            cases failed

/-- Any other operation puts a document in the file's place that decrypts. -/
theorem perform_unspared (laws : StorageLaws library) {path passphrase : String} {world : StoreWorld}
    {event : StoreOperation × StoreIo} {content : Json} (locked : Locked library passphrase content)
    (known : world.store.secretPassphrase = passphrase ∨ world.store.secretPassphrase = "")
    (reaches : ¬ Spared library path world event) :
    (perform library event.1 event.2 world.store world.files).2.2 path ≠ some content := by
  obtain ⟨operation, io⟩ := event
  cases operation with
  | setSecretProtectionRequired required => exact absurd trivial reaches
  | setSecretPassphrase passphrase => exact absurd trivial reaches
  | clearSecretPassphrase => exact absurd trivial reaches
  | reload => exact absurd trivial reaches
  | useAccountScopedPath accountId rememberAccount =>
    simp only [Spared, Unusable, not_or, Bool.not_eq_false, ne_eq, not_not] at reaches
    obtain ⟨rfl, rfl, ready, opens⟩ := reaches
    have replaced := @writeDocument_unlocks library world.store.indexPath passphrase _ io world.files
      content locked (@not_locked_index library passphrase accountId) opens
    simp only [perform, useAccountScopedPath, rememberLastAccountId, ready, if_true]
    split <;> simp_all
  | mutate mutation =>
    simp only [Spared, Unusable, not_or, Bool.not_eq_false, ne_eq, not_not, not_exists,
      not_and] at reaches
    obtain ⟨changes, rfl, ⟨ready, opens⟩, protects⟩ := reaches
    rw [← @apply_eq_none_iff _ io.now] at changes
    obtain ⟨memory, applied⟩ := Option.ne_none_iff_exists'.mp changes
    simp only [perform, JsonLocalStore.mutate, applied, save, ready, if_true]
    cases made : protectedDocument library { world.store with memory := memory } io.draws with
    | error error => exact absurd made (protects memory error applied)
    | ok root =>
      have opened := @not_locked_of_protected library laws { world.store with memory := memory } _ _ _
        known made
      exact writeDocument_unlocks library locked opened opens

theorem storeStep_passphrase {passphrase : String} {world world' : StoreWorld}
    {event : StoreOperation × StoreIo} (keeps : KeepsPassphrase passphrase event)
    (known : world.store.secretPassphrase = passphrase ∨ world.store.secretPassphrase = "")
    (moved : storeStep library world event = some world') :
    world'.store.secretPassphrase = passphrase ∨ world'.store.secretPassphrase = "" := by
  rw [storeStep_some library moved]
  obtain ⟨operation, io⟩ := event
  cases operation with
  | setSecretProtectionRequired required => exact known
  | setSecretPassphrase given => exact .inl (keeps given rfl)
  | clearSecretPassphrase => exact .inr rfl
  | reload =>
    simp only [perform, load]
    repeat' split
    all_goals exact known
  | useAccountScopedPath accountId rememberAccount =>
    simp only [perform, useAccountScopedPath]
    repeat' split
    all_goals exact known
  | mutate mutation =>
    simp only [perform, JsonLocalStore.mutate]
    split
    · exact known
    · exact known

/-! ## Every run -/

/-- The failing load leaves the memory as it was exactly when it was empty. Before a successful
load every run whose operations are all spared leaves the file as it is; and while no other
passphrase is given, a run leaves it so only if all its operations were spared. -/
theorem protected_state_kept (store : JsonLocalStore) (files : Files) (io : StoreIo)
    (fails : SecretsFail library store files) (opens : io.opens = true) :
    ((load library store io files).2.memory = store.memory ↔ store.memory = {}) ∧
    ∀ events world,
      Runs.run (storeStep library) ⟨(load library store io files).2, files⟩ events = some world →
      (Runs.EveryStep (storeStep library) (Spared library store.path)
          ⟨(load library store io files).2, files⟩ events →
        world.files store.path = files store.path) ∧
      (StorageLaws library →
        (∀ event ∈ events, KeepsPassphrase store.secretPassphrase event) →
        world.files store.path = files store.path →
        Runs.EveryStep (storeStep library) (Spared library store.path)
          ⟨(load library store io files).2, files⟩ events) := by
  have loaded := (load_of_secretsFail library fails opens).2
  obtain ⟨-, content, present, locked⟩ := fails
  refine ⟨?_, fun events world ends => ⟨fun spared => ?_, fun laws keeps kept => ?_⟩⟩
  · rw [loaded]
    exact eq_comm
  · have same := @Runs.related_of_run _ _ (storeStep library) (Spared library store.path)
      (fun _ => True) (fun first second => second.files store.path = first.files store.path)
      (fun _ => rfl) (fun _ _ _ one two => two.trans one) ?_ events _ _ trivial spared ends
    · exact same
    · intro before event after _ met moved
      rw [storeStep_some library moved]
      exact ⟨trivial, perform_spared library met⟩
  · have exact := @Runs.holds_iff_everyStep _ _ (storeStep library) (Spared library store.path)
      (fun _ event => KeepsPassphrase store.secretPassphrase event)
      (fun world => world.store.secretPassphrase = store.secretPassphrase ∨
        world.store.secretPassphrase = "")
      (fun world => world.files store.path = some content)
      (fun _ _ _ known keeps moved => storeStep_passphrase library keeps known moved) ?_ events
      ⟨(load library store io files).2, files⟩ world (.inl (by rw [loaded]))
      (Runs.everyStep_of_forall (fun event member _ => keeps event member) _) ends
    · exact (exact.mp (kept.trans present)).2
    · intro before event after known _ moved
      rw [storeStep_some library moved]
      change (perform library event.1 event.2 before.store before.files).2.2 store.path = _ ↔ _
      by_cases spared : Spared library store.path before event
      · rw [perform_spared library spared, and_iff_left spared]
      · exact iff_of_false (perform_unspared library laws locked known spared) fun both =>
          spared both.2

/-! ## A store opened with the wrong passphrase -/

/-- One device key whose private part is an encrypted blob. -/
def lockedDocument : Json := .object [
  ("deviceKeys", .array [.object [("identityPrivateKey", .object [("version", .number 1)])]]),
  ("secretSalt", .string "AAAAAAAAAAAAAAAAAAAAAA==")]

def lockedFiles : Files := fun path => if path = "state" then some lockedDocument else none

/-- A store that still holds a trust pin when the account is opened again. -/
def lockedStore : JsonLocalStore where
  memory := { trustPins := [⟨"peer", 1, "identity", none⟩] }
  indexPath := "index"
  path := "state"
  secretProtectionRequired := true
  secretPassphrase := "wrong"

theorem lockedStore_secretsFail : SecretsFail refusingLibrary lockedStore lockedFiles := by
  refine ⟨by decide, lockedDocument, rfl, rfl,
    storageError "Could not decrypt local secret field identityPrivateKey.", ?_⟩
  rfl

def storedDeviceKeys (files : Files) : List Json :=
  (value (QJsonValue.toObject (files "state")) "deviceKeys").toArray

/-- The failing load empties the memory, and the logout that follows empties the file. -/
theorem failed_load_then_logout_drops_keys :
    (load refusingLibrary lockedStore {} lockedFiles).2.memory ≠ lockedStore.memory ∧
    (storedDeviceKeys lockedFiles).length = 1 ∧
    (storedDeviceKeys (perform refusingLibrary (.mutate .clearSession) {}
      (load refusingLibrary lockedStore {} lockedFiles).2 lockedFiles).2.2).length = 0 := by
  refine ⟨?_, rfl, rfl⟩
  rw [(load_of_secretsFail refusingLibrary lockedStore_secretsFail rfl).2]
  decide

/-! ## Operations under the wrong passphrase -/

open SecretsAtRest (bytesOf sampleKey sampleSalt firstIv)

/-- The key that PBKDF2 derives from `wrong`. -/
def wrongKey : QByteArray := bytesOf "jZM4D1OEkmmU+B2XH/qzW3X36s6KmCFvSA7vSltpUIE="

/-- A one-time pre-key, sealed under the right passphrase. -/
def preKeySealing : SecretsAtRest.Sealing :=
  ⟨sampleKey, firstIv, toUtf8 "preKeyPrivate", toUtf8 "k9vPSeSNuQBFRQOWvrH89EVrRbFRB2n3JBSCLZf70FU=",
    bytesOf "0Q8l+JcOSwKoDgYTu8CiPH4p74+QIfIdICBZY+laGWszIZvaRn8RjQP9P74=",
    bytesOf "jG+wMufO2K5C6+WM4GjugQ=="⟩

/-- The sample library with this blob, and with the key of the wrong passphrase. -/
def accountLibrary : StorageLibrary :=
  { SecretsAtRest.sampleLibrary with
    pbkdf2 := fun passphrase salt =>
      if salt = sampleSalt then
        if passphrase = toUtf8 SecretsAtRest.samplePassphrase then some sampleKey
        else if passphrase = toUtf8 "wrong" then some wrongKey else none
      else none
    aesGcmEncrypt := fun key iv associated plaintext =>
      if key = preKeySealing.key ∧ iv = preKeySealing.iv ∧ associated = preKeySealing.associated ∧
        plaintext = preKeySealing.plaintext then some (preKeySealing.ciphertext, preKeySealing.tag)
      else none
    aesGcmDecrypt := fun key iv associated ciphertext tag =>
      if key = preKeySealing.key ∧ iv = preKeySealing.iv ∧ associated = preKeySealing.associated ∧
        ciphertext = preKeySealing.ciphertext ∧ tag = preKeySealing.tag then
        some preKeySealing.plaintext
      else none }

theorem accountLibrary_laws : StorageLaws accountLibrary :=
  { SecretsAtRest.sampleLibrary_laws with
    decrypts := by
      intro key iv associated plaintext ciphertext tag sealed
      simp only [accountLibrary] at sealed ⊢
      split at sealed
      · next same =>
        obtain ⟨rfl, rfl, rfl, rfl⟩ := same
        cases sealed
        exact if_pos ⟨rfl, rfl, rfl, rfl, rfl⟩
      · cases sealed }

def accountDocument : Json := .object [
  ("oneTimePreKeys", .array [.object [
    ("deviceId", .number 1),
    ("preKeyId", .number 7),
    ("preKeyPrivate", .object [
      ("authTag", .string "jG+wMufO2K5C6+WM4GjugQ=="),
      ("ciphertext", .string "0Q8l+JcOSwKoDgYTu8CiPH4p74+QIfIdICBZY+laGWszIZvaRn8RjQP9P74="),
      ("iterations", .number 210000),
      ("iv", .string "AQEBAQEBAQEBAQEB"),
      ("kdf", .string "PBKDF2-HMAC-SHA256"),
      ("version", .number 1)]),
    ("publicKey", .string "T5UaiW67NcR3LbkjvVp6xG63b7blL2yoPbL5fUrQlNA=")]]),
  ("secretSalt", .string "AAECAwQFBgcICQoLDA0ODw==")]

def accountFiles : Files := fun path =>
  if path = "alice-client-state.json" then some accountDocument else none

def accountStore : JsonLocalStore where
  indexPath := "client-state.json"
  path := "alice-client-state.json"
  secretProtectionRequired := true
  secretPassphrase := "wrong"

theorem accountStore_secretsFail : SecretsFail accountLibrary accountStore accountFiles := by
  refine ⟨by decide, accountDocument, rfl, rfl,
    storageError "Could not decrypt local secret field preKeyPrivate.", ?_⟩
  rfl

/-- The account as the failing load leaves it. -/
def lockedAccount : StoreWorld := ⟨(load accountLibrary accountStore {} accountFiles).2, accountFiles⟩

def incoming : LocalMessage where
  id := "7"
  senderUserId := "bob"
  senderDeviceId := 1
  recipientUserId := "alice"
  recipientDeviceId := 1
  wirePayloadJson := "wire"
  consumedOneTimePreKeyId := none
  createdAt := some 0
  direction := .received

/-- Nothing to save, no folder, no passphrase, a load that fails again, and bob's account. -/
def sparedOperations : List (StoreOperation × StoreIo) := [
  (.mutate (.saveKnownUser ⟨"", "bob", 1⟩), {}),
  (.mutate (.saveMessage incoming), { directoryReady := false }),
  (.clearSecretPassphrase, {}),
  (.mutate .clearSession, {}),
  (.setSecretPassphrase "wrong", {}),
  (.reload, {}),
  (.useAccountScopedPath "bob" true, {}),
  (.mutate .clearSession, {})]

theorem sparedOperations_spared : Runs.EveryStep (storeStep accountLibrary)
    (Spared accountLibrary accountStore.path) lockedAccount sparedOperations := by
  refine .cons (.inl (.inl rfl)) rfl ?_
  refine .cons (.inr (.inr (.inl (.inl rfl)))) rfl ?_
  refine .cons trivial rfl ?_
  refine .cons (.inr (.inr (.inr ⟨_, _, rfl, rfl⟩))) rfl ?_
  refine .cons trivial rfl ?_
  refine .cons trivial rfl ?_
  refine .cons (.inr (.inl (by decide))) rfl ?_
  exact .cons (.inr (.inl (by decide))) rfl trivial

theorem protected_state_kept_account :
    lockedAccount.store.memory = accountStore.memory ∧
    (∃ world, Runs.run (storeStep accountLibrary) lockedAccount sparedOperations = some world ∧
      world.files accountStore.path = accountFiles accountStore.path) ∧
    ∃ world, Runs.run (storeStep accountLibrary) lockedAccount [(.mutate .clearSession, {})] =
        some world ∧
      world.files accountStore.path ≠ accountFiles accountStore.path := by
  obtain ⟨memory, runs⟩ :=
    protected_state_kept accountLibrary accountStore accountFiles {} accountStore_secretsFail rfl
  refine ⟨memory.mpr rfl, ⟨_, rfl, ?_⟩, ⟨_, rfl, fun kept => ?_⟩⟩
  · exact (runs sparedOperations _ rfl).1 sparedOperations_spared
  · have spared := (runs [(.mutate .clearSession, {})] _ rfl).2 accountLibrary_laws (by
      simp [KeepsPassphrase]) kept
    obtain nothing | elsewhere | unusable | ⟨memory, error, applied, failed⟩ := spared.1
    · exact nothing
    · exact elsewhere rfl
    · simp [Unusable] at unusable
    · cases applied
      cases failed

end EpicKfc.Guarantees.ProtectedState
