import EpicKfc.Lib.Base64
import EpicKfc.Source.Client.JsonLocalStore
import EpicKfc.Source.Client.SecretFields

/-!
# Secrets at rest

What a saving operation writes while protection is required: the document of the
memory without its secrets, with a blob in the place of each secret field.
-/

namespace EpicKfc.Guarantees.SecretsAtRest
open EpicKfc.Lib
open EpicKfc.Source.Client
open EpicKfc.Source.Client.StoreDocuments
open EpicKfc.Source.Client.JsonLocalStore

/-! ## The memory without its secrets -/

def sessionWithoutSecrets (session : AuthSession) : AuthSession :=
  { session with tokens := { session.tokens with accessToken := "", refreshToken := "" } }

def deviceWithoutSecrets (material : DeviceKeyMaterial) : DeviceKeyMaterial :=
  { material with
    identityPrivateKey := ""
    identitySigningPrivateKey := ""
    signedPreKeyPrivate := "" }

def preKeyWithoutSecrets (preKey : OneTimePreKey) : OneTimePreKey := { preKey with privateKey := "" }

def trustPinWithoutSecrets (pin : TrustPin) : TrustPin := { pin with identityKey := "" }

/-- What is left of a memory for a reader who holds no secret. -/
def memoryWithoutSecrets (memory : StoreMemory) : StoreMemory :=
  { memory with
    session := sessionWithoutSecrets memory.session
    deviceKeys := memory.deviceKeys.map deviceWithoutSecrets
    oneTimePreKeys := memory.oneTimePreKeys.map preKeyWithoutSecrets
    trustPins := memory.trustPins.map trustPinWithoutSecrets }

variable (library : StorageLibrary)

/-- Each secret field is a text, and the other fields are those without secrets. -/
def IsText : FieldRelation := fun _ _ after => ∃ text, after = some (.string text)

theorem sessionToJson_text (session : AuthSession) :
    ObjectRelated IsText sessionSecrets (sessionToJson (sessionWithoutSecrets session))
      (sessionToJson session) := by
  refine ⟨fun key visited => ?_, fun name unnamed => ?_⟩
  · simp only [sessionSecrets, List.mem_cons, List.not_mem_nil, or_false] at visited
    simp (disch := simp) only [sessionToJson, value_ofMembers]
    rcases visited with rfl | rfl <;> simp [Json.lookup_cons, IsText]
  · simp only [sessionSecrets, List.mem_cons, List.not_mem_nil, or_false, not_or] at unnamed
    obtain ⟨notAccess, notRefresh⟩ := unnamed
    simp (disch := simp) only [sessionToJson, value_ofMembers]
    simp only [Json.lookup_cons, if_neg (Ne.symm notAccess), if_neg (Ne.symm notRefresh),
      sessionWithoutSecrets]

theorem deviceToJson_text (material : DeviceKeyMaterial) :
    ObjectRelated IsText deviceSecrets (deviceToJson (deviceWithoutSecrets material))
      (deviceToJson material) := by
  refine ⟨fun key visited => ?_, fun name unnamed => ?_⟩
  · simp only [deviceSecrets, List.mem_cons, List.not_mem_nil, or_false] at visited
    simp (disch := simp) only [deviceToJson, value_ofMembers]
    rcases visited with rfl | rfl | rfl <;> simp [Json.lookup_cons, IsText]
  · simp only [deviceSecrets, List.mem_cons, List.not_mem_nil, or_false, not_or] at unnamed
    obtain ⟨notIdentity, notSigning, notPreKey⟩ := unnamed
    simp (disch := simp) only [deviceToJson, value_ofMembers]
    simp only [Json.lookup_cons, if_neg (Ne.symm notIdentity), if_neg (Ne.symm notSigning),
      if_neg (Ne.symm notPreKey), deviceWithoutSecrets]

theorem preKeyToJson_text (preKey : OneTimePreKey) :
    ObjectRelated IsText preKeySecrets (preKeyToJson (preKeyWithoutSecrets preKey))
      (preKeyToJson preKey) := by
  refine ⟨fun key visited => ?_, fun name unnamed => ?_⟩
  · rw [List.mem_singleton.mp visited]
    simp (disch := simp) only [preKeyToJson, value_ofMembers]
    simp [Json.lookup_cons, IsText]
  · rw [preKeySecrets, List.mem_singleton] at unnamed
    simp (disch := simp) only [preKeyToJson, value_ofMembers]
    simp only [Json.lookup_cons, if_neg (Ne.symm unnamed), preKeyWithoutSecrets]

theorem trustPinToJson_text (pin : TrustPin) :
    ObjectRelated IsText trustPinSecrets (trustPinToJson library (trustPinWithoutSecrets pin))
      (trustPinToJson library pin) := by
  refine ⟨fun key visited => ?_, fun name unnamed => ?_⟩
  · rw [List.mem_singleton.mp visited]
    simp (disch := simp) only [trustPinToJson, value_ofMembers]
    simp [Json.lookup_cons, IsText]
  · rw [trustPinSecrets, List.mem_singleton] at unnamed
    simp (disch := simp) only [trustPinToJson, value_ofMembers]
    simp only [Json.lookup_cons, if_neg (Ne.symm unnamed), trustPinWithoutSecrets]

theorem document_text (memory : StoreMemory) :
    DocumentRelated IsText (document library (memoryWithoutSecrets memory))
      (document library memory) := by
  refine documentRelated_document rfl (sessionToJson_text memory.session) ?_ ?_ ?_ rfl rfl
  · refine List.forall₂_map_left_iff.mpr (List.forall₂_same.mpr fun device _ => ?_)
    exact deviceToJson_text device
  · refine List.forall₂_map_left_iff.mpr (List.forall₂_same.mpr fun preKey _ => ?_)
    exact preKeyToJson_text preKey
  · refine List.forall₂_map_left_iff.mpr (List.forall₂_same.mpr fun pin _ => ?_)
    exact trustPinToJson_text library pin

/-! ## What a save writes -/

/-- The field holds a blob that `encryptSecretString` made of some text. -/
def HoldsBlob (passphrase : String) (salt : QByteArray) : FieldRelation := fun key _ after =>
  ∃ text, IsSealed library passphrase salt text key after

theorem protectedDocument_sealed {store : JsonLocalStore} {draws : Draws} {root : Json.Members}
    (required : store.secretProtectionRequired = true)
    (made : protectedDocument library store draws = .ok root) :
    value root "secretSalt" =
        some (.string (library.toBase64 (chosenSalt store.secretSalt draws))) ∧
      DocumentRelated (HoldsBlob library store.secretPassphrase (chosenSalt store.secretSalt draws))
        (Json.insert "secretSalt" (.string (library.toBase64 (chosenSalt store.secretSalt draws)))
          (document library (memoryWithoutSecrets store.memory))) root := by
  rw [protectedDocument, if_pos required] at made
  obtain ⟨_, _, _, _, visited⟩ := protectSecrets_eq_ok made
  have related := transformSecrets_related
    (transforms_protectString library store.secretPassphrase (chosenSalt store.secretSalt draws))
    visited
  have salted : value root "secretSalt" =
      some (.string (library.toBase64 (chosenSalt store.secretSalt draws))) := by
    rw [related.others "secretSalt" saltUnvisited]
    exact Json.lookup_insert_same "secretSalt" _ _
  refine ⟨salted, ?_⟩
  refine ((document_text library store.memory).insert saltUnvisited).comp ?_ related
  rintro key x y z ⟨text, written⟩ sealed
  exact ⟨text, sealed text written⟩

/-- A saving operation under required protection reports an error and leaves every file,
returns before it saves, or writes the memory without its secrets and a blob for each. -/
theorem secrets_sealed_at_rest (store : JsonLocalStore) (mutation : StoreMutation) (io : StoreIo)
    (files : Files) (required : store.secretProtectionRequired = true) (opens : io.opens = true)
    (writes : io.writes = true) :
    ((∃ error, (mutate library store mutation io files).1 = .error error) ∧
      (mutate library store mutation io files).2.2 = files) ∨
    (mutation.apply io.now store.memory = none ∧
      (mutate library store mutation io files).2.2 = files) ∨
    ∃ memory root, mutation.apply io.now store.memory = some memory ∧
      (mutate library store mutation io files).1 = .ok () ∧
      (mutate library store mutation io files).2.2 = writeFile files store.path (.object root) ∧
      value root "secretSalt" = some (.string (library.toBase64 (chosenSalt store.secretSalt io.draws))) ∧
      DocumentRelated (HoldsBlob library store.secretPassphrase (chosenSalt store.secretSalt io.draws))
        (Json.insert "secretSalt" (.string (library.toBase64 (chosenSalt store.secretSalt io.draws)))
          (document library (memoryWithoutSecrets memory))) root := by
  unfold JsonLocalStore.mutate
  cases applied : mutation.apply io.now store.memory with
  | none => exact Or.inr (Or.inl ⟨rfl, rfl⟩)
  | some memory =>
    simp only [save]
    cases ready : io.directoryReady with
    | false => exact Or.inl ⟨⟨_, rfl⟩, rfl⟩
    | true =>
      cases made : protectedDocument library { store with memory := memory } io.draws with
      | error error => exact Or.inl ⟨⟨error, rfl⟩, rfl⟩
      | ok root =>
        obtain ⟨salted, related⟩ :=
          @protectedDocument_sealed library { store with memory := memory } _ _ required made
        refine Or.inr (Or.inr ⟨memory, root, rfl, ?_, ?_, salted, related⟩)
        · simp [writeDocument, opens]
        · simp [writeDocument, opens, writes]

/-! ## A session saved under a passphrase -/

/-- The characters after a byte order mark. -/
def withoutBom : List Char → List Char
  | '\uFEFF' :: rest => rest
  | characters => characters

/-- `QString::fromUtf8` on valid UTF-8. -/
def decodeUtf8 (bytes : QByteArray) : String :=
  match (bytes.map UInt8.ofBitVec).toByteArray.utf8Decode? with
  | some characters => String.ofList (withoutBom characters.toList)
  | none => ""

theorem decodeUtf8_utf8 (characters : List Char) :
    decodeUtf8 (Json.utf8 characters) = String.ofList (withoutBom characters) := by
  have bytes : ((Json.utf8 characters).map UInt8.ofBitVec).toByteArray = characters.utf8Encode := by
    simp [Json.utf8, List.utf8Encode, Function.comp_def]
  rw [decodeUtf8, bytes, List.utf8Decode?_utf8Encode]

theorem withoutBom_of_ne {characters : List Char} (unmarked : characters.head? ≠ some '\uFEFF') :
    withoutBom characters = characters := by
  unfold withoutBom
  split
  · exact absurd rfl unmarked
  · rfl

theorem decodeUtf8_toUtf8 {text : String} (unmarked : ¬ StartsWithBom text) :
    decodeUtf8 (toUtf8 text) = text := by
  rw [toUtf8, decodeUtf8_utf8, withoutBom_of_ne unmarked, String.ofList_toList]

/-- The text of the epoch, and one mark for each millisecond elsewhere. -/
def isoText : QDateTime → String
  | none => ""
  | some instant =>
    if instant = 0 then "1970-01-01T00:00:00.000Z"
    else if instant < firstIsoInstant ∨ lastIsoInstant < instant then ""
    else String.ofList (List.replicate instant.natAbs (if 0 < instant then '+' else '-'))

def isoDate (text : String) : QDateTime :=
  match text.toList with
  | [] => none
  | '+' :: rest => some (rest.length + 1)
  | '-' :: rest => some (-(rest.length + 1))
  | _ => some 0

theorem isoDate_isoText {date : QDateTime} (representable : HasIsoText date) :
    isoDate (isoText date) = date := by
  cases date with
  | none => rfl
  | some instant =>
    obtain ⟨first, last⟩ := representable
    by_cases epoch : instant = 0
    · subst epoch
      decide
    · have represented : ¬ (instant < firstIsoInstant ∨ lastIsoInstant < instant) := by omega
      obtain ⟨count, marks⟩ := Nat.exists_eq_succ_of_ne_zero (Int.natAbs_ne_zero.mpr epoch)
      rw [isoText, if_neg epoch, if_neg represented, isoDate, String.toList_ofList, marks,
        List.replicate_succ]
      by_cases positive : 0 < instant
      · simp only [if_pos positive, List.length_replicate]
        congr 1
        omega
      · simp only [if_neg positive, List.length_replicate]
        congr 1
        omega

def bytesOf (text : String) : QByteArray := Base64.decode text.toList

def samplePassphrase : String := "correct horse"
def sampleSalt : QByteArray := bytesOf "AAECAwQFBgcICQoLDA0ODw=="
def sampleKey : QByteArray := bytesOf "gxlf+Rr9C5tHYNeBy6tVTQi7bKgI2CUjXCDI6UrbXGg="
def firstIv : QByteArray := List.replicate secretIvBytes 1
def secondIv : QByteArray := List.replicate secretIvBytes 2

structure Sealing where
  key : QByteArray
  iv : QByteArray
  associated : QByteArray
  plaintext : QByteArray
  ciphertext : QByteArray
  tag : QByteArray

/-- What AES-256-GCM gives under the sample key. -/
def sealings : List Sealing := [
  ⟨sampleKey, firstIv, toUtf8 "accessToken", toUtf8 "token-a",
    bytesOf "zlk4zapGeQ==", bytesOf "4XOa9wuG0Clal6hu1Y/+TA=="⟩,
  ⟨sampleKey, secondIv, toUtf8 "refreshToken", toUtf8 "token-r",
    bytesOf "Ez92ZJ+Dcg==", bytesOf "oSKG5jStvmdwYcgzCo7fvg=="⟩,
  ⟨sampleKey, firstIv, toUtf8 "accessToken", toUtf8 "\uFEFFtoken",
    bytesOf "VY3s3KsAfSI=", bytesOf "bNrGmL9eG465MnAxJE92kw=="⟩,
  ⟨sampleKey, secondIv, toUtf8 "refreshToken", toUtf8 "",
    bytesOf "", bytesOf "Ivz1E/PK5Mt3XTR/UxhaDw=="⟩]

/-- What OpenSSL and Qt compute for the sample sessions. -/
def sampleLibrary : StorageLibrary where
  pbkdf2 passphrase salt :=
    if passphrase = toUtf8 samplePassphrase ∧ salt = sampleSalt then some sampleKey else none
  aesGcmEncrypt key iv associated plaintext :=
    (sealings.find? fun row => row.key = key ∧ row.iv = iv ∧ row.associated = associated ∧
      row.plaintext = plaintext).map fun row => (row.ciphertext, row.tag)
  aesGcmDecrypt key iv associated ciphertext tag :=
    (sealings.find? fun row => row.key = key ∧ row.iv = iv ∧ row.associated = associated ∧
      row.ciphertext = ciphertext ∧ row.tag = tag).map Sealing.plaintext
  toBase64 bytes := String.ofList (Base64.encode bytes)
  fromBase64 := bytesOf
  fromUtf8 := decodeUtf8
  fromISODateWithMs := isoDate
  toISODateWithMs := isoText
  isLetterOrNumber := Char.isAlphanum
  siblingPath := fun _ fileName => fileName

theorem sampleLibrary_decrypts {key iv associated plaintext ciphertext tag : QByteArray}
    (sealed : sampleLibrary.aesGcmEncrypt key iv associated plaintext = some (ciphertext, tag)) :
    sampleLibrary.aesGcmDecrypt key iv associated ciphertext tag = some plaintext := by
  obtain ⟨row, found, same⟩ := Option.map_eq_some_iff.mp sealed
  have member := List.mem_of_find?_eq_some found
  have matched := List.find?_some found
  simp only [Bool.decide_and, Bool.and_eq_true, decide_eq_true_eq] at matched
  obtain ⟨rfl, rfl, rfl, rfl⟩ := matched
  obtain ⟨rfl, rfl⟩ := Prod.mk.inj same
  have each : ∀ row ∈ sealings, sampleLibrary.aesGcmDecrypt row.key row.iv row.associated
      row.ciphertext row.tag = some row.plaintext := by decide
  exact each row member

theorem sampleLibrary_laws : StorageLaws sampleLibrary where
  decrypts key iv associated plaintext ciphertext tag sealed :=
    @sampleLibrary_decrypts key iv associated plaintext ciphertext tag sealed
  base64 bytes := by
    simp only [sampleLibrary, bytesOf, String.toList_ofList]
    exact Base64.decode_encode bytes
  utf8 text unmarked := by
    simp only [sampleLibrary]
    exact decodeUtf8_toUtf8 unmarked
  dates date representable := by
    simp only [sampleLibrary]
    exact isoDate_isoText representable

def sampleStore : JsonLocalStore where
  indexPath := "index"
  path := "state"
  secretProtectionRequired := true
  secretPassphrase := samplePassphrase
  secretSalt := sampleSalt

def sampleSession (accessToken refreshToken : String) : AuthSession where
  user := { id := "alice", username := "alice", email := "" }
  tokens := { accessToken := accessToken, refreshToken := refreshToken, tokenType := "bearer" }

def sampleIo : StoreIo := { draws := [firstIv, secondIv] }

theorem secrets_sealed_at_rest_session :
    ∃ root, (mutate sampleLibrary sampleStore (.saveSession (sampleSession "token-a" "token-r"))
        sampleIo fun _ => none).2.2 = writeFile (fun _ => none) "state" (.object root) ∧
      SessionRelated (HoldsBlob sampleLibrary samplePassphrase sampleSalt)
        (Json.insert "secretSalt" (.string (sampleLibrary.toBase64 sampleSalt))
          (document sampleLibrary (memoryWithoutSecrets
            { session := sampleSession "token-a" "token-r", hasSession := true }))) root := by
  have saved : (mutate sampleLibrary sampleStore (.saveSession (sampleSession "token-a" "token-r"))
      sampleIo fun _ => none).1 = .ok () := by decide
  rcases secrets_sealed_at_rest sampleLibrary sampleStore
    (.saveSession (sampleSession "token-a" "token-r")) sampleIo (fun _ => none) rfl rfl rfl with
    ⟨⟨error, failed⟩, _⟩ | ⟨skipped, _⟩ | ⟨memory, root, applied, _, written, _, related⟩
  · exact nomatch saved.symm.trans failed
  · cases skipped
  · cases applied
    exact ⟨root, written, related.session⟩

end EpicKfc.Guarantees.SecretsAtRest
