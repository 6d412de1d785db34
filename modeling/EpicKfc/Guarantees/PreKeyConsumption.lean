import EpicKfc.Guarantees.PackageMessages

/-!
# One-time pre-keys and the first messages of other senders

libsignal removes the pre-key that a message names. After a first message the
wrapper removes one more, the pre-key the device holds as its current one, which
the message need not have used. A first message of another sender is lost exactly
when it was this one that it needed.
-/

namespace EpicKfc.Guarantees.PreKeyConsumption
open EpicKfc.Lib
open EpicKfc.Lib.Base64 (Byte)
open EpicKfc.Lib.Footprints
open EpicKfc.Source.Cryptography
open EpicKfc.Source.Server (Uuid)
open EpicKfc.Guarantees.MessageRoundTrip (octets)
open EpicKfc.Guarantees.PackageMessages

/-! ## Addresses and cells -/

theorem repr_injective : Function.Injective Nat.repr := by
  intro first second same
  have digits : Nat.toDigits 10 first = Nat.toDigits 10 second := String.ofList_injective same
  rw [← Nat.ofDigitChars_ten_toDigits (n := first), digits, Nat.ofDigitChars_ten_toDigits]

theorem toList_encoded (address : SignalProtocolAddress) : address.encoded.toList =
    address.name.val.toList ++ '.' :: (Nat.repr address.deviceId).toList := by
  simp [SignalProtocolAddress.encoded]

/-- A name ends at the only dot before the device id. -/
theorem takeWhile_encoded (address : SignalProtocolAddress) :
    address.encoded.toList.takeWhile (· ≠ '.') = address.name.val.toList := by
  have plain : ∀ char ∈ address.name.val.toList, decide (char ≠ '.') = true := by
    intro char member
    rw [decide_eq_true_eq]
    rintro rfl
    exact address.name.property member
  rw [toList_encoded, List.takeWhile_append_of_pos plain, List.takeWhile_cons_of_neg (by simp),
    List.append_nil]

theorem encoded_injective : Function.Injective SignalProtocolAddress.encoded := by
  intro first second same
  have names : first.name.val.toList = second.name.val.toList := by
    rw [← takeWhile_encoded, same, takeWhile_encoded]
  have texts := congrArg String.toList same
  rw [toList_encoded, toList_encoded, names] at texts
  have devices := String.toList_injective (List.cons.inj (List.append_cancel_left texts)).2
  obtain ⟨name, deviceId⟩ := first
  obtain ⟨name', deviceId'⟩ := second
  have sameName : name = name' := Subtype.ext (String.toList_injective names)
  have sameDevice : deviceId = deviceId' := repr_injective devices
  rw [sameName, sameDevice]

/-- No user has the name of an encoded address. -/
theorem name_ne_encoded (user : UserId) (address : SignalProtocolAddress) :
    user.val ≠ address.encoded := by
  intro same
  apply user.property
  rw [same, toList_encoded]
  simp

theorem senderReads_disjoint {sender other : SignalProtocolAddress} (different : sender ≠ other) :
    Disjoint (senderReads other) (senderWrites sender) := by
  have apart : other.encoded ≠ sender.encoded :=
    fun same => different (encoded_injective same).symm
  have unnamed := name_ne_encoded other.name sender
  rw [Set.disjoint_left]
  rintro k read written
  rcases written with rfl | rfl
  · simp [senderReads, apart.symm] at read
  · simp [senderReads, apart.symm, unnamed.symm] at read

theorem preKeyCells_disjoint {named named' : Option Nat}
    (distinct : ∀ keyId, named = some keyId → named' ≠ some keyId) :
    Disjoint (preKeyCells named') (preKeyCells named) := by
  rw [Set.disjoint_left]
  rintro k ⟨keyId, here, rfl⟩ ⟨other, there, same⟩
  have sameId : keyId = other := repr_injective (StoreCell.preKey.inj same)
  subst sameId
  exact distinct keyId there here

theorem senderReads_preKeyCells (address : SignalProtocolAddress) (named : Option Nat) :
    Disjoint (senderReads address) (preKeyCells named) := by
  rw [Set.disjoint_left]
  rintro k read ⟨keyId, -, rfl⟩
  simp [senderReads] at read

theorem preKeyCells_senderWrites (address : SignalProtocolAddress) (named : Option Nat) :
    Disjoint (preKeyCells named) (senderWrites address) := by
  rw [Set.disjoint_left]
  rintro k ⟨keyId, -, rfl⟩ written
  simp [senderWrites] at written

/-! ## What a decryption writes -/

/-- The pre-key a wire message names to the library. -/
def namedPreKey (node : NodeRuntime) (library : SignalLibrary) (wire : LibSignalWireMessage) :
    Option Nat :=
  library.preKeyId (node.fromBase64 wire.bodyB64)

/-- The pre-key the wrapper removes after a first message that opens. -/
def forgotten (wire : LibSignalWireMessage) (device : GeneratedDevice) : Option Nat :=
  match wire.registrationId with
  | none => none
  | some _ => device.oneTimePreKeyId

def decryptionWrites (node : NodeRuntime) (library : SignalLibrary)
    (sender : SignalProtocolAddress) (wire : LibSignalWireMessage) (device : GeneratedDevice) :
    Set StoreCell :=
  senderWrites sender ∪ preKeyCells (namedPreKey node library wire) ∪
    preKeyCells (forgotten wire device)

theorem removePreKey_writes (keyId : Nat) :
    WritesWithin ProtocolStore.cell (ProtocolStore.removePreKey keyId) (preKeyCells (some keyId)) := by
  intro store k outside
  cases k with
  | preKey other =>
    have different : other ≠ Nat.repr keyId := by
      rintro rfl
      exact outside ⟨keyId, rfl, rfl⟩
    exact Function.update_of_ne different _ _
  | own => rfl
  | signedPreKey keyId => rfl
  | session encodedAddress => rfl
  | identity identifier => rfl

theorem consumePreKey_store (wire : LibSignalWireMessage) (device : GeneratedDevice) :
    (consumePreKey wire device).store =
      match forgotten wire device with
      | none => device.store
      | some keyId => device.store.removePreKey keyId := by
  unfold consumePreKey forgotten
  cases wire.registrationId with
  | none => rfl
  | some registrationId => cases device.oneTimePreKeyId <;> rfl

theorem consumePreKey_writes (wire : LibSignalWireMessage) (device : GeneratedDevice) {k : StoreCell}
    (outside : k ∉ preKeyCells (forgotten wire device)) :
    (consumePreKey wire device).store.cell k = device.store.cell k := by
  rw [consumePreKey_store]
  cases consumed : forgotten wire device with
  | none => rfl
  | some keyId =>
    rw [consumed] at outside
    exact removePreKey_writes keyId device.store k outside

section

variable {node : NodeRuntime} {library : SignalLibrary} {sender : SignalProtocolAddress}
  {wire : LibSignalWireMessage} {device : GeneratedDevice}

/-- Whatever becomes of a message, the entries of other senders and the other pre-keys stay. -/
theorem decryptFromSender_writes (exact : ExactPreKeys library) {k : StoreCell}
    (outside : k ∉ decryptionWrites node library sender wire device) :
    (decryptFromSender node library sender.name sender.deviceId wire device).2.store.cell k =
      device.store.cell k := by
  have notSender : k ∉ senderWrites sender := fun inside => outside (Or.inl (Or.inl inside))
  have notNamed : k ∉ preKeyCells (namedPreKey node library wire) :=
    fun inside => outside (Or.inl (Or.inr inside))
  have notForgotten : k ∉ preKeyCells (forgotten wire device) := fun inside => outside (Or.inr inside)
  have opened := exact.writes sender (node.fromBase64 wire.bodyB64) device.store k fun inside =>
    inside.elim notSender notNamed
  have whispered := exact.whispers sender (node.fromBase64 wire.bodyB64) device.store k notSender
  simp only at opened whispered
  simp only [decryptFromSender, protocolAddress]
  split
  · rfl
  · split
    · split
      · next error store failed =>
        rw [failed] at opened
        exact opened
      · next plain store decrypted =>
        rw [decrypted] at opened
        exact (consumePreKey_writes wire { device with store := store } notForgotten).trans opened
    · split
      · split
        · next error store failed =>
          rw [failed] at whispered
          exact whispered
        · next plain store decrypted =>
          rw [decrypted] at whispered
          exact whispered
      · rfl

end

/-! ## First messages of other senders -/

/-- A message of a sender the device has no session with, which the device can open. -/
structure FirstMessage (node : NodeRuntime) (library : SignalLibrary)
    (sender : SignalProtocolAddress) (wire : LibSignalWireMessage) (device : GeneratedDevice) :
    Prop where
  type : wire.type = 3
  unknown : device.store.loadSession sender.encoded = none
  opens : ∃ plain, (decryptFromSender node library sender.name sender.deviceId wire device).1 =
    .ok plain

section

variable {node : NodeRuntime} {library : SignalLibrary} {sender other : SignalProtocolAddress}
  {wire wire' : LibSignalWireMessage} {device : GeneratedDevice}

theorem decryptFromSender_result (first : wire.type = 3) :
    (decryptFromSender node library sender.name sender.deviceId wire device).1 =
      if wire.format ≠ "libsignal-v1" then .error .format
      else (library.decryptPreKeyWhisperMessage sender (node.fromBase64 wire.bodyB64)
        device.store).1.bind (unwrapApplicationPayloadAead node) := by
  simp only [decryptFromSender, protocolAddress, first, if_true]
  split
  · rfl
  · split
    · next error store failed =>
      rw [failed]
      rfl
    · next plain store decrypted =>
      rw [decrypted]
      rfl

/-- Cells a first message depends on that a decryption for another sender leaves alone. -/
theorem reads_apart (different : sender ≠ other)
    (distinct : ∀ keyId, namedPreKey node library wire = some keyId →
      namedPreKey node library wire' ≠ some keyId)
    (kept : ∀ keyId, forgotten wire device = some keyId →
      namedPreKey node library wire' ≠ some keyId) :
    Disjoint (senderReads other ∪ preKeyCells (namedPreKey node library wire'))
      (decryptionWrites node library sender wire device) := by
  apply Set.disjoint_union_left.mpr
  constructor
  · apply Set.disjoint_union_right.mpr
    refine ⟨Set.disjoint_union_right.mpr ⟨?_, ?_⟩, ?_⟩
    · exact senderReads_disjoint different
    · exact senderReads_preKeyCells other _
    · exact senderReads_preKeyCells other _
  · apply Set.disjoint_union_right.mpr
    refine ⟨Set.disjoint_union_right.mpr ⟨?_, ?_⟩, ?_⟩
    · exact preKeyCells_senderWrites sender _
    · exact preKeyCells_disjoint distinct
    · exact preKeyCells_disjoint kept

/-- A decryption that forgets neither the pre-key of a first message nor names it leaves the
outcome of that message as it was. -/
theorem outcome_kept (exact : ExactPreKeys library) (first : wire'.type = 3)
    (different : sender ≠ other)
    (distinct : ∀ keyId, namedPreKey node library wire = some keyId →
      namedPreKey node library wire' ≠ some keyId)
    (kept : ∀ keyId, forgotten wire device = some keyId →
      namedPreKey node library wire' ≠ some keyId) :
    (decryptFromSender node library other.name other.deviceId wire'
        (decryptFromSender node library sender.name sender.deviceId wire device).2).1 =
      (decryptFromSender node library other.name other.deviceId wire' device).1 := by
  have same := (exact.reads other (node.fromBase64 wire'.bodyB64)).unaffected
    (fun _ outside => decryptFromSender_writes exact outside)
    (reads_apart different distinct kept)
  rw [decryptFromSender_result first, decryptFromSender_result first, same]

/-- A first message whose pre-key is gone does not open. -/
theorem fails_without_preKey (exact : ExactPreKeys library) {keyId : Nat} (first : wire'.type = 3)
    (named : namedPreKey node library wire' = some keyId)
    (unknown : device.store.loadSession other.encoded = none)
    (gone : device.store.loadPreKey keyId = none) (plain : Bytes) :
    (decryptFromSender node library other.name other.deviceId wire' device).1 ≠ .ok plain := by
  obtain ⟨error, failed⟩ := exact.needs other _ device.store keyId named unknown gone
  rw [decryptFromSender_result first]
  split
  · intro opens
    cases opens
  · rw [failed]
    intro opens
    cases opens

/-- What the wrapper forgets is gone after a first message that opens. -/
theorem forgotten_gone {keyId : Nat} (first : FirstMessage node library sender wire device)
    (consumed : forgotten wire device = some keyId) :
    (decryptFromSender node library sender.name sender.deviceId wire device).2.store.loadPreKey
      keyId = none := by
  obtain ⟨plain, opens⟩ := first.opens
  rw [decryptFromSender_result first.type] at opens
  simp only [decryptFromSender, protocolAddress, first.type, if_true]
  split
  · next format =>
    rw [if_pos format] at opens
    cases opens
  · next format =>
    rw [if_neg format] at opens
    split
    · next error store failed =>
      rw [failed] at opens
      cases opens
    · next payload store decrypted =>
      have removed := consumePreKey_store wire { device with store := store }
      have here : forgotten wire { device with store := store } = some keyId := consumed
      rw [here] at removed
      simp [ProtocolStore.loadPreKey, removed, ProtocolStore.removePreKey]

/-- A decryption for one sender leaves the session of another alone. -/
theorem session_kept (node : NodeRuntime) (exact : ExactPreKeys library) (different : sender ≠ other)
    (wire : LibSignalWireMessage) (device : GeneratedDevice) :
    (decryptFromSender node library sender.name sender.deviceId wire device).2.store.loadSession
      other.encoded = device.store.loadSession other.encoded := by
  have apart : StoreCell.session other.encoded ∉
      decryptionWrites node library sender wire device := by
    have encodedApart : other.encoded ≠ sender.encoded :=
      fun equal => different (encoded_injective equal).symm
    simp [decryptionWrites, senderWrites, preKeyCells, encodedApart]
  exact decryptFromSender_writes exact apart

/-- After a first message of one sender, a first message of another one that names a different
pre-key still opens exactly when it does not need the current pre-key of a device that had the
wrapper forget it. -/
theorem other_first_message_opens_iff (exact : ExactPreKeys library) (different : sender ≠ other)
    (first : FirstMessage node library sender wire device)
    (first' : FirstMessage node library other wire' device)
    (distinct : ∀ keyId, namedPreKey node library wire = some keyId →
      namedPreKey node library wire' ≠ some keyId) :
    (∃ plain, (decryptFromSender node library other.name other.deviceId wire'
      (decryptFromSender node library sender.name sender.deviceId wire device).2).1 = .ok plain) ↔
    (wire.registrationId = none ∨ device.oneTimePreKeyId = none ∨
      namedPreKey node library wire' ≠ device.oneTimePreKeyId) := by
  have consumed : forgotten wire device = if wire.registrationId = none then none
      else device.oneTimePreKeyId := by
    cases held : wire.registrationId <;> simp [forgotten, held]
  constructor
  · rintro ⟨plain, opens⟩
    by_contra lost
    simp only [not_or, not_not] at lost
    obtain ⟨registered, holds, same⟩ := lost
    obtain ⟨keyId, current⟩ := Option.ne_none_iff_exists'.mp holds
    rw [if_neg registered, current] at consumed
    have gone := forgotten_gone first consumed
    have unknown := (session_kept node exact different wire device).trans first'.unknown
    exact fails_without_preKey exact first'.type (same.trans current) unknown gone plain opens
  · intro spared
    have kept : ∀ keyId, forgotten wire device = some keyId →
        namedPreKey node library wire' ≠ some keyId := by
      intro keyId forgets named
      rw [consumed] at forgets
      split at forgets
      · cases forgets
      · next registered =>
        rcases spared with absent | none | other
        · exact registered absent
        · rw [none] at forgets
          cases forgets
        · exact other (named.trans forgets.symm)
    rw [outcome_kept exact first'.type different distinct kept]
    exact first'.opens

/-! ## Runs -/

/-- The device after a list of messages, whatever became of each. -/
def receiveAll (node : NodeRuntime) (library : SignalLibrary) (device : GeneratedDevice) :
    List (SignalProtocolAddress × LibSignalWireMessage) → GeneratedDevice
  | [] => device
  | (sender, wire) :: rest =>
    receiveAll node library
      (decryptFromSender node library sender.name sender.deviceId wire device).2 rest

/-- A device never gets another current pre-key. -/
theorem current_kept_or_forgotten :
    (decryptFromSender node library sender.name sender.deviceId wire device).2.oneTimePreKeyId =
        device.oneTimePreKeyId ∨
      (decryptFromSender node library sender.name sender.deviceId wire device).2.oneTimePreKeyId =
        none := by
  simp only [decryptFromSender, protocolAddress]
  split
  · exact Or.inl rfl
  · split
    · split
      · exact Or.inl rfl
      · unfold consumePreKey
        split
        · exact Or.inr rfl
        · exact Or.inl rfl
    · split
      · split <;> exact Or.inl rfl
      · exact Or.inl rfl

/-- A first message that does not use the current pre-key keeps its outcome through any number of
messages of other senders that name other pre-keys. -/
theorem outcome_kept_of_run (exact : ExactPreKeys library) (first : wire'.type = 3)
    {messages : List (SignalProtocolAddress × LibSignalWireMessage)}
    (others : ∀ message ∈ messages, message.1 ≠ other)
    (distinct : ∀ message ∈ messages, ∀ keyId, namedPreKey node library message.2 = some keyId →
      namedPreKey node library wire' ≠ some keyId) : ∀ {device : GeneratedDevice},
    (∀ keyId, device.oneTimePreKeyId = some keyId → namedPreKey node library wire' ≠ some keyId) →
      (decryptFromSender node library other.name other.deviceId wire'
          (receiveAll node library device messages)).1 =
        (decryptFromSender node library other.name other.deviceId wire' device).1 := by
  induction messages with
  | nil => exact fun _ => rfl
  | cons message rest ih =>
    obtain ⟨sender, wire⟩ := message
    intro device spared
    have later : ∀ keyId, (decryptFromSender node library sender.name sender.deviceId wire
        device).2.oneTimePreKeyId = some keyId → namedPreKey node library wire' ≠ some keyId := by
      intro keyId current
      rcases @current_kept_or_forgotten node library sender wire device with same | none
      · exact spared keyId (same.symm.trans current)
      · rw [none] at current
        cases current
    have kept : ∀ keyId, forgotten wire device = some keyId →
        namedPreKey node library wire' ≠ some keyId := by
      intro keyId forgets
      unfold forgotten at forgets
      split at forgets
      · cases forgets
      · exact spared keyId forgets
    rw [receiveAll, ih (fun message member => others message (List.mem_cons_of_mem _ member))
      (fun message member => distinct message (List.mem_cons_of_mem _ member)) later]
    exact outcome_kept exact first (others _ List.mem_cons_self) (distinct _ List.mem_cons_self) kept

end

/-! ## A device with one pre-key and two senders -/

/-- A varint of protocol buffers, and the bytes after it. -/
def varint : Bytes → Option (Nat × Bytes)
  | [] => none
  | byte :: rest =>
    if byte.toNat < 128 then some (byte.toNat, rest)
    else (varint rest).map fun (high, rest) => (byte.toNat - 128 + 128 * high, rest)

/-- The field with a tag that comes next in a message. -/
def fieldAt (tag : Byte) : Bytes → Option (Nat × Bytes)
  | [] => none
  | byte :: rest => if byte = tag then varint rest else none

/-- The pre-key of a pre-key message, after its version and the sender's registration id. -/
def preKeyField (body : Bytes) : Option Nat := do
  let (_, rest) ← fieldAt 0x28 body.tail
  let (keyId, _) ← fieldAt 0x08 rest
  pure keyId

def bob : GeneratedDevice := helloRecipient

def alice : SignalProtocolAddress := protocolAddress senderName 1

def carol : SignalProtocolAddress := ⟨⟨Uuid.str 3, by decide⟩, 1⟩

def greeting : Bytes := Json.utf8 "good day".toList

def greetingDraws : EnvelopeDraws where
  key := octets 32 0xf104c21e0e40fc3e2ac410349c1e7f3d8091c07a221628f3d6e869ee09073768
  iv := octets 12 0x661d5a3aa5eb123ecfd95851
  keyLength := rfl
  ivLength := rfl

/-- AES-256-GCM of the greeting under these draws. -/
def greetingSealed : Bytes × Bytes :=
  (octets 8 0x9338665ff01cbd54, octets 16 0x2a6c8c28035a58b82908bcfb19642eea)

def greetingEnvelope : AeadPayloadEnvelopeV1 where
  version := 1
  alg := "AES-256-GCM"
  keyB64 := toBase64 greetingDraws.key
  ivB64 := toBase64 greetingDraws.iv
  authTagB64 := toBase64 greetingSealed.2
  ciphertextB64 := toBase64 greetingSealed.1

/-- Carol's bundle had no pre-key left. -/
def greetingMessage : MessageType where
  type := 3
  body := some <|
    octets 38 0x33280b30011221051f5cfbcf875daa9bccfc674a3826f2e98132b16994445aa3b84d7ccf2fec ++
    octets 38 0x0f341a210583596638def9eb4a96658443e5a6808bbff91b51e4818079ef40a0f78635972222 ++
    octets 38 0xf301330a21051bc81562d7b9d4dd95753e44ef5cd640274cd8f13c0cc1c73c097edd8d0a070d ++
    octets 38 0x1000180022c001ba828bfd6e5d1383ca8163a5ddd1bfff6ec0682ecddb7f5b51ef291a85a260 ++
    octets 38 0x091e59367e0e9043c29ac70ba6a3f4f76acc79dbb01dbdbc50d9c7b71a6fc9ffbafcd2ec6f56 ++
    octets 38 0x613dfdebadd9ee679409630584507cca0cb1d837ab4c7b11ed418e4933a4e24b9f7fb350261e ++
    octets 38 0xe17520546454e6404616f741c3afce9884e45e67977b41aaa6bd45ad3fd4ea0c5133722c6f06 ++
    octets 38 0x1f4c8e210f14ee523e022821e8c0f0a5ca250b47255d37556a0db81364d81e3ca5b5780ebfe1 ++
    octets 17 0x4e0128bf4a9feff71fe0b1a94afd7f5582
  registrationId := some 7

def aliceWire : LibSignalWireMessage := messageTypeToWire helloMessage

def carolWire : LibSignalWireMessage := messageTypeToWire greetingMessage

def payloadOf (address : SignalProtocolAddress) (body : Bytes) : Option Bytes :=
  if address = alice ∧ body = helloMessage.body.getD [] then some (stringifyEnvelope helloEnvelope)
  else if address = carol ∧ body = greetingMessage.body.getD [] then
    some (stringifyEnvelope greetingEnvelope)
  else none

def openFirst (address : SignalProtocolAddress) (body : Bytes) (store : ProtocolStore) :
    Except DecryptError Bytes × ProtocolStore :=
  match payloadOf address body with
  | none => (.error .library, store)
  | some payload =>
    match store.loadSession address.encoded, preKeyField body with
    | some _, _ => (.ok payload, store)
    | none, none => (.ok payload, store.storeSession address.encoded "open")
    | none, some keyId =>
      match store.loadPreKey keyId with
      | none => (.error .library, store)
      | some _ => (.ok payload, (store.storeSession address.encoded "open").removePreKey keyId)

/-- Opens the two messages, as libsignal with the pre-key that the first of them names. -/
def firstMessages : SignalLibrary where
  preKeyId := preKeyField
  decryptPreKeyWhisperMessage := openFirst
  decryptWhisperMessage _ _ store := (.error .library, store)

theorem storeSession_writes (address : SignalProtocolAddress) (record : String) :
    WritesWithin ProtocolStore.cell (ProtocolStore.storeSession address.encoded record)
      (senderWrites address) := by
  intro store k outside
  cases k with
  | session key =>
    have different : key ≠ address.encoded := by
      rintro rfl
      exact outside (Or.inl rfl)
    exact Function.update_of_ne different _ _
  | own => rfl
  | signedPreKey keyId => rfl
  | preKey keyId => rfl
  | identity identifier => rfl

theorem firstMessages_exact : ExactPreKeys firstMessages where
  reads := by
    intro address body store store' agree
    have session : store.loadSession address.encoded = store'.loadSession address.encoded :=
      agree (.session address.encoded) (Or.inl (Or.inr (Or.inr (Or.inl rfl))))
    cases opened : payloadOf address body with
    | none => simp only [firstMessages, openFirst, opened]
    | some payload =>
      cases held : store'.loadSession address.encoded with
      | some record => simp only [firstMessages, openFirst, opened, session, held]
      | none =>
        cases named : preKeyField body with
        | none => simp only [firstMessages, openFirst, opened, session, held, named]
        | some keyId =>
          have preKey : store.loadPreKey keyId = store'.loadPreKey keyId :=
            agree (.preKey (Nat.repr keyId)) (Or.inr ⟨keyId, named, rfl⟩)
          cases kept : store'.loadPreKey keyId <;>
            simp only [firstMessages, openFirst, opened, session, held, named, preKey, kept]
  writes := by
    intro address body store k outside
    have notSender : k ∉ senderWrites address := fun inside => outside (Or.inl inside)
    simp only [firstMessages, openFirst]
    split
    · rfl
    · split
      · rfl
      · exact storeSession_writes address "open" store k notSender
      · next keyId _ named =>
        have notNamed : k ∉ preKeyCells (some keyId) := by
          rw [← named]
          exact fun inside => outside (Or.inr inside)
        split
        · rfl
        · exact (removePreKey_writes keyId _ k notNamed).trans
            (storeSession_writes address "open" store k notSender)
  whispers := fun _ _ _ _ _ => rfl
  needs := by
    intro address body store keyId named unknown gone
    have named' : preKeyField body = some keyId := named
    refine ⟨.library, ?_⟩
    cases opened : payloadOf address body with
    | none => simp only [firstMessages, openFirst, opened]
    | some payload => simp only [firstMessages, openFirst, opened, unknown, named', gone]

/-- AES-256-GCM and the JSON reader on the two envelopes. -/
def envelopeNode : NodeRuntime where
  fromBase64 text := Base64.decode text.toList
  parseEnvelope payload :=
    [helloEnvelope, greetingEnvelope].find? fun envelope => payload = stringifyEnvelope envelope
  gcmDecrypt ciphertext iv authTag key associatedData :=
    if associatedData ≠ envelopeAad then none
    else if (ciphertext, authTag) = helloSealed ∧ iv = helloDraws.iv ∧ key = helloDraws.key then
      some hello
    else if (ciphertext, authTag) = greetingSealed ∧ iv = greetingDraws.iv ∧ key = greetingDraws.key then
      some greeting
    else none

theorem body_of_wire (msg : MessageType) :
    envelopeNode.fromBase64 (messageTypeToWire msg).bodyB64 = msg.body.getD [] := by
  simp only [envelopeNode, messageTypeToWire, toBase64, String.toList_ofList, Base64.decode_encode]

theorem unwrap_hello :
    unwrapApplicationPayloadAead envelopeNode (stringifyEnvelope helloEnvelope) = .ok hello := by
  decide +kernel

theorem unwrap_greeting :
    unwrapApplicationPayloadAead envelopeNode (stringifyEnvelope greetingEnvelope) = .ok greeting := by
  decide +kernel

theorem preKeyField_hello : preKeyField (helloMessage.body.getD []) = some 1 := by decide +kernel

theorem preKeyField_greeting : preKeyField (greetingMessage.body.getD []) = none := by decide +kernel

theorem named_aliceWire : namedPreKey envelopeNode firstMessages aliceWire = some 1 := by
  rw [namedPreKey, aliceWire, body_of_wire]
  exact preKeyField_hello

theorem named_carolWire : namedPreKey envelopeNode firstMessages carolWire = none := by
  rw [namedPreKey, carolWire, body_of_wire]
  exact preKeyField_greeting

/-- Alice's message opens while the device has its pre-key. -/
theorem opened_aliceWire {device : GeneratedDevice}
    (unknown : device.store.loadSession alice.encoded = none) :
    (decryptFromSender envelopeNode firstMessages alice.name alice.deviceId aliceWire device).1 =
      match device.store.loadPreKey 1 with
      | none => .error .library
      | some _ => .ok hello := by
  have format : aliceWire.format = "libsignal-v1" := rfl
  rw [decryptFromSender_result rfl, if_neg (fun other => other format), aliceWire, body_of_wire]
  simp only [firstMessages, openFirst, payloadOf, and_self, if_true, unknown, preKeyField_hello]
  cases device.store.loadPreKey 1 with
  | none => rfl
  | some keyPair => rw [Except.bind, unwrap_hello]

/-- Carol's message opens on any device. -/
theorem opened_carolWire (device : GeneratedDevice) :
    (decryptFromSender envelopeNode firstMessages carol.name carol.deviceId carolWire device).1 =
      .ok greeting := by
  have other : carol ≠ alice := by decide
  have format : carolWire.format = "libsignal-v1" := rfl
  rw [decryptFromSender_result rfl, if_neg (fun other => other format), carolWire, body_of_wire]
  simp only [firstMessages, openFirst, payloadOf, other, false_and, if_false, and_self, if_true,
    preKeyField_greeting]
  cases device.store.loadSession carol.encoded with
  | none => rw [Except.bind, unwrap_greeting]
  | some record => rw [Except.bind, unwrap_greeting]

theorem aliceWire_first : FirstMessage envelopeNode firstMessages alice aliceWire bob where
  type := rfl
  unknown := rfl
  opens := ⟨hello, opened_aliceWire rfl⟩

theorem carolWire_first : FirstMessage envelopeNode firstMessages carol carolWire bob where
  type := rfl
  unknown := rfl
  opens := ⟨greeting, opened_carolWire bob⟩

/-- The first message of one sender, who had no pre-key to use, takes the pre-key that the message
of another sender needs. -/
theorem unused_preKey_is_forgotten :
    ExactPreKeys firstMessages ∧ alice ≠ carol ∧
      FirstMessage envelopeNode firstMessages alice aliceWire bob ∧
      FirstMessage envelopeNode firstMessages carol carolWire bob ∧
      namedPreKey envelopeNode firstMessages aliceWire = some 1 ∧
      namedPreKey envelopeNode firstMessages carolWire = none ∧
      (decryptFromSender envelopeNode firstMessages alice.name alice.deviceId aliceWire
        (decryptFromSender envelopeNode firstMessages carol.name carol.deviceId carolWire bob).2).1 =
          .error .library := by
  have gone := forgotten_gone carolWire_first (rfl : forgotten carolWire bob = some 1)
  have apart : carol ≠ alice := by decide
  have unknown := (session_kept envelopeNode firstMessages_exact apart carolWire bob).trans
    aliceWire_first.unknown
  refine ⟨firstMessages_exact, by decide, aliceWire_first, carolWire_first, named_aliceWire,
    named_carolWire, ?_⟩
  rw [opened_aliceWire unknown, gone]

/-- In the other order both messages open. -/
theorem carolWire_opens_after_aliceWire :
    ∃ plain, (decryptFromSender envelopeNode firstMessages carol.name carol.deviceId carolWire
      (decryptFromSender envelopeNode firstMessages alice.name alice.deviceId aliceWire bob).2).1 =
        .ok plain := by
  have distinct : ∀ keyId, namedPreKey envelopeNode firstMessages aliceWire = some keyId →
      namedPreKey envelopeNode firstMessages carolWire ≠ some keyId := by
    rw [named_carolWire]
    exact fun _ _ same => nomatch same
  refine (other_first_message_opens_iff firstMessages_exact (by decide) aliceWire_first
    carolWire_first distinct).mpr (Or.inr (Or.inr ?_))
  rw [named_carolWire]
  exact fun same => nomatch same

end EpicKfc.Guarantees.PreKeyConsumption
