import EpicKfc.Guarantees.DigestAgreement
import EpicKfc.Guarantees.MessageRoundTrip
import EpicKfc.Source.Server.WirePayloads

/-!
# What the client encrypts the server accepts

The envelope of `wrapWirePayload` has four members of different names, none of
them forbidden, and its body is the base64 of a text that is never empty.
-/

namespace EpicKfc.Guarantees.PayloadAcceptance
open EpicKfc.Lib
open EpicKfc.Lib.JsonText
open EpicKfc.Source.Client
open EpicKfc.Source.Client.NativeSignalCryptoProvider
open EpicKfc.Source.Client.StoreDocuments (Draws toUtf8)
open EpicKfc.Source.Server
open EpicKfc.Source.Server.WirePayloads
open EpicKfc.Guarantees.DigestAgreement (escapedString_eq)
open EpicKfc.Guarantees.MessageRoundTrip

/-- The base64 of the payload's own text. -/
def bodyB64 (payload : Json.Members) : List Char := Base64.encode (Json.utf8 (toJson payload))

theorem envelope_eq (payload : Json.Members) (registrationId : Int) :
    envelope payload registrationId = [
      ("bodyB64", .string (String.ofList (bodyB64 payload))),
      ("format", .string "libsignal-v1"),
      ("registrationId", .number registrationId),
      ("type", .number 3)] := by
  have type : "format" ≠ "type" ∧ ¬ "type" < "format" := by decide
  have body : "format" ≠ "bodyB64" ∧ "bodyB64" < "format" := by decide
  have registration : ("bodyB64" ≠ "registrationId" ∧ ¬ "registrationId" < "bodyB64") ∧
      ("format" ≠ "registrationId" ∧ ¬ "registrationId" < "format") ∧
      "type" ≠ "registrationId" ∧ "registrationId" < "type" := by decide
  simp only [envelope, Json.ofMembers, List.foldl_cons, List.foldl_nil, Json.insert, type, body,
    registration, if_true, if_false, bodyB64, toBase64]

/-- The dict Python reads the envelope as. -/
def envelopeDict (payload : Json.Members) (registrationId : Int) : Dict := [
  (codePoints "bodyB64", .string ((bodyB64 payload).map Char.toNat)),
  (codePoints "format", .string (codePoints "libsignal-v1")),
  (codePoints "registrationId", .int registrationId),
  (codePoints "type", .int 3)]

theorem parse_wrapWirePayload (payload : Json.Members) {registrationId : Int}
    (positive : 0 < registrationId) (fits : registrationId < 2 ^ 31) :
    parse (wrapWirePayload payload registrationId).toList =
      some (.object (envelopeDict payload registrationId)) := by
  have digits : registrationId.natAbs < 10 ^ maxIntegerDigits := by
    have large : 10 ^ 10 ≤ 10 ^ maxIntegerDigits := Nat.pow_le_pow_right (by decide) (by decide)
    have small : registrationId.natAbs < 10 ^ 10 := by omega
    exact small.trans_le large
  have readable : Readable (.object (envelope payload registrationId)) := by
    simp only [envelope_eq, Readable, ReadableMembers, true_and, and_true]
    exact ⟨(Nat.length_toDigits_le_iff (by decide) (by decide)).mpr digits, by decide⟩
  rw [wrapWirePayload, String.toList_ofList, toJson, escapedString_eq,
    parse_compact BlockchainHashing.quotes_encodeBasestring readable, envelope_eq]
  simp only [ofJson, ofMembers, codePoints, String.toList_ofList, envelopeDict]

/-! ## The body -/

theorem toJson_ne_nil (payload : Json.Members) : Json.utf8 (toJson payload) ≠ [] := by
  intro empty
  have length := Json.length_le_utf8 (toJson payload)
  rw [empty, toJson, Json.compact] at length
  simp at length

theorem b64decode_body (payload : Json.Members) :
    b64decode ((bodyB64 payload).map Char.toNat) = some (Json.utf8 (toJson payload)) := by
  have ascii : ((bodyB64 payload).map Char.toNat).all (· < 128) = true := by
    simp only [List.all_map, List.all_eq_true, Function.comp_apply, decide_eq_true_eq]
    exact Base64.forall_mem_encode (by decide) (by decide) _
  have chars : ((bodyB64 payload).map Char.toNat).map Char.ofNat = bodyB64 payload := by
    rw [List.map_map]
    exact List.map_id'' (fun char => Char.ofNat_toNat char) _
  rw [b64decode, chars, ascii, bodyB64, Base64.isPadded_encode, Base64.decode_encode]
  rfl

theorem validateBase64_body {payload : Json.Members}
    (short : (bodyB64 payload).length ≤ maxWirePayloadBytes) :
    validateBase64 ((bodyB64 payload).map Char.toNat) maxWirePayloadBytes =
      .ok ((bodyB64 payload).map Char.toNat) := by
  have filled : (bodyB64 payload).map Char.toNat ≠ [] := by
    intro empty
    have decoded := b64decode_body payload
    rw [empty] at decoded
    exact toJson_ne_nil payload (Option.some.inj decoded).symm
  have spaceless : ((bodyB64 payload).map Char.toNat).any isSpace = false := by
    simp only [List.any_map, List.any_eq_false, Function.comp_apply, Bool.not_eq_true]
    exact Base64.forall_mem_encode (by decide) (by decide) _
  rw [validateBase64, if_neg filled, if_neg (by rw [List.length_map]; omega),
    if_neg (by rw [spaceless]; decide), b64decode_body]
  simp only [if_neg (toJson_ne_nil payload)]

/-! ## The text -/

/-- Base64 needs no escapes. -/
theorem encodedChar_body (payload : Json.Members) :
    (bodyB64 payload).flatMap BlockchainHashing.encodedChar = bodyB64 payload := by
  have plain : ∀ char ∈ bodyB64 payload, BlockchainHashing.encodedChar char = [char] :=
    Base64.forall_mem_encode (by decide) (by decide) _
  rw [List.flatMap_congr plain, List.flatMap_singleton']

theorem toList_wrapWirePayload (payload : Json.Members) (registrationId : Int) :
    (wrapWirePayload payload registrationId).toList =
      "\x7b\"bodyB64\":\"".toList ++ bodyB64 payload ++
        "\",\"format\":\"libsignal-v1\",\"registrationId\":".toList ++
          Json.decimal registrationId ++ ",\"type\":3\x7d".toList := by
  rw [wrapWirePayload, String.toList_ofList, toJson, escapedString_eq, envelope_eq]
  simp only [Json.compact, Json.compactMembers, Json.separated,
    BlockchainHashing.encodeBasestring, String.toList_ofList, encodedChar_body]
  have names : "bodyB64".toList.flatMap BlockchainHashing.encodedChar = "bodyB64".toList ∧
      "format".toList.flatMap BlockchainHashing.encodedChar = "format".toList ∧
      "libsignal-v1".toList.flatMap BlockchainHashing.encodedChar = "libsignal-v1".toList ∧
      "registrationId".toList.flatMap BlockchainHashing.encodedChar = "registrationId".toList ∧
      "type".toList.flatMap BlockchainHashing.encodedChar = "type".toList := by decide
  have opening : "\x7b\"bodyB64\":\"".toList =
      '\x7b' :: Char.ofNat 34 :: ("bodyB64".toList ++ [Char.ofNat 34, ':', Char.ofNat 34]) := by decide
  have middle : "\",\"format\":\"libsignal-v1\",\"registrationId\":".toList =
      Char.ofNat 34 :: ',' :: Char.ofNat 34 :: ("format".toList ++ Char.ofNat 34 :: ':' ::
        Char.ofNat 34 :: ("libsignal-v1".toList ++ Char.ofNat 34 :: ',' ::
          Char.ofNat 34 :: ("registrationId".toList ++ [Char.ofNat 34, ':']))) := by decide
  have closing : ",\"type\":3\x7d".toList = ',' :: Char.ofNat 34 ::
      ("type".toList ++ Char.ofNat 34 :: ':' :: (Json.decimal 3 ++ ['\x7d'])) := by decide
  simp only [names, opening, middle, closing, List.append_assoc, List.cons_append, List.nil_append]

theorem ascii_decimal (value : Int) : ∀ char ∈ Json.decimal value, char.toNat < 128 := by
  have digits : ∀ char ∈ Nat.toDigits 10 value.natAbs, char.toNat < 128 := by
    intro char member
    have digit := Nat.isDigit_of_mem_toDigits (by decide) (by decide) member
    exact (Char.isDigit_iff_toNat.mp digit).2.trans_lt (by decide)
  unfold Json.decimal
  split
  · simpa using digits
  · exact digits

/-- The size of what is sent is that of the body and of the registration id with 65 bytes around them. -/
theorem size_wrapWirePayload (payload : Json.Members) (registrationId : Int) :
    (Json.utf8 (wrapWirePayload payload registrationId).toList).length =
      (bodyB64 payload).length + (Json.decimal registrationId).length + 65 := by
  have body : ∀ char ∈ bodyB64 payload, char.toNat < 128 :=
    Base64.forall_mem_encode (by decide) (by decide) _
  rw [toList_wrapWirePayload, Json.length_utf8]
  · have opening : "\x7b\"bodyB64\":\"".toList.length = 12 := by decide
    have middle : "\",\"format\":\"libsignal-v1\",\"registrationId\":".toList.length = 43 := by decide
    have closing : ",\"type\":3\x7d".toList.length = 10 := by decide
    simp only [List.length_append, opening, middle, closing]
    omega
  · have opening : ∀ char ∈ "\x7b\"bodyB64\":\"".toList, char.toNat < 128 :=
      ascii_of_all (by decide)
    have middle : ∀ char ∈ "\",\"format\":\"libsignal-v1\",\"registrationId\":".toList,
        char.toNat < 128 := ascii_of_all (by decide)
    have closing : ∀ char ∈ ",\"type\":3\x7d".toList, char.toNat < 128 :=
      ascii_of_all (by decide)
    simp only [List.forall_mem_append]
    exact ⟨⟨⟨⟨opening, body⟩, middle⟩, ascii_decimal registrationId⟩, closing⟩

theorem size_of_short {payload : Json.Members} {registrationId : Int}
    (body : (bodyB64 payload).length ≤ 1000) (digits : (Json.decimal registrationId).length ≤ 10) :
    (Json.utf8 (wrapWirePayload payload registrationId).toList).length ≤ maxWirePayloadBytes := by
  have limit : maxWirePayloadBytes = 65536 := rfl
  rw [size_wrapWirePayload]
  omega

/-! ## Acceptance -/

theorem dictOf_envelope (payload : Json.Members) (registrationId : Int) :
    dictOf (pythonMembers (envelopeDict payload registrationId)) =
      envelopeDict payload registrationId := by rfl

theorem wrapped_payload_accepted (payload : Json.Members) {registrationId : Int}
    (positive : 0 < registrationId) (fits : registrationId < 2 ^ 31)
    (small : (Json.utf8 (wrapWirePayload payload registrationId).toList).length ≤
      maxWirePayloadBytes) :
    validateWirePayloadJson (wrapWirePayload payload registrationId) =
      .ok (wrapWirePayload payload registrationId) := by
  have size := size_wrapWirePayload payload registrationId
  have body := @validateBase64_body payload (by omega)
  refine validateWirePayloadJson_ok_iff.mpr
    ⟨rfl, small, _, parse_wrapWirePayload payload positive fits, ?_, ?_⟩
  · rw [dictOf_envelope]
    rfl
  · have format : get (envelopeDict payload registrationId) "format" =
        some (.string (codePoints libsignalWireFormat)) := by rfl
    have type : get (envelopeDict payload registrationId) "type" = some (.int 3) := by rfl
    have bodyText : get (envelopeDict payload registrationId) "bodyB64" =
        some (.string ((bodyB64 payload).map Char.toNat)) := by rfl
    have registration : get (envelopeDict payload registrationId) "registrationId" =
        some (.int registrationId) := by rfl
    have allowed : ¬ (3 : Int) ∉ libsignalAllowedMessageTypes := by decide
    rw [dictOf_envelope]
    simp only [validateLibsignalWirePayload, format, type, bodyText, registration, strOf, intOf,
      ne_eq, not_true_eq_false, if_false, allowed, body, validateRegistrationId]
    rw [if_neg (by omega)]

/-- Registration ids are of C++'s `int`. -/
theorem encrypted_payload_accepted (library : NativeLibrary) {senderUserId : String}
    {senderDevice : DeviceKeyMaterial} {recipientBundle : PreKeyBundle} {plaintext : String}
    {draws : Draws} {payload : EncryptedPayload}
    (registered : 0 < recipientBundle.registrationId)
    (int : recipientBundle.registrationId < 2 ^ 31)
    (encrypted : encrypt library senderUserId senderDevice recipientBundle plaintext draws =
      .ok payload)
    (small : (Json.utf8 payload.wirePayloadJson.toList).length ≤ maxWirePayloadBytes) :
    validateWirePayloadJson payload.wirePayloadJson = .ok payload.wirePayloadJson := by
  obtain ⟨_, _, _, _, _, -, -, -, -, -, rfl⟩ := encrypt_eq_ok encrypted
  exact wrapped_payload_accepted _ registered int small

/-! ## A greeting -/

theorem encrypt_hello : encrypt helloTables.native aliceId alice bobsBundle "hello" helloDraws =
    .ok ⟨wrapWirePayload helloRoot bobsBundle.registrationId, none⟩ := by
  have pair {keys : RawKeyPair} (listed : keys ∈ helloTables.pairs) :
      IsPair helloTables.native keys := isPair_of_sound helloTables_sound listed
  have sealed : helloTables.native.aesGcmEncrypt (toUtf8 "hello") bobsMessageKey messageNonce
      (aadFor 0 0 ratchetPair.publicKey) =
        some (octets 5 0xe8625a1b67, octets 16 0x4427d2db9d4ba19f82cb2dd60b064e87) := by decide
  have size : (sentKey helloTables.native alice bobsBundle ratchetPair ephemeralPair).length =
      keyBytes := by
    rw [sentKey_bob]
    decide
  rw [← sentKey_bob, ← drawn_nonce] at sealed
  have sent := (encrypt_of_sealed (by decide) (pair (by simp [helloTables]))
    (pair (by simp [helloTables])) size sealed aliceId).1
  rw [drawn_nonce] at sent
  rw [helloRoot, helloDraws]
  exact sent

set_option maxRecDepth 10000 in
theorem length_hello : (bodyB64 helloRoot).length ≤ 1000 := by decide

theorem size_hello : (Json.utf8 (wrapWirePayload helloRoot bobsBundle.registrationId).toList).length ≤
    maxWirePayloadBytes :=
  @size_of_short helloRoot bobsBundle.registrationId length_hello (by decide)

theorem encrypted_hello_accepted :
    ∃ payload, encrypt helloTables.native aliceId alice bobsBundle "hello" helloDraws = .ok payload ∧
      validateWirePayloadJson payload.wirePayloadJson = .ok payload.wirePayloadJson := by
  obtain ⟨payload, sent, text⟩ : ∃ payload,
      encrypt helloTables.native aliceId alice bobsBundle "hello" helloDraws = .ok payload ∧
        payload.wirePayloadJson = wrapWirePayload helloRoot bobsBundle.registrationId :=
    ⟨⟨wrapWirePayload helloRoot bobsBundle.registrationId, none⟩, encrypt_hello, rfl⟩
  have small : (Json.utf8 payload.wirePayloadJson.toList).length ≤ maxWirePayloadBytes := by
    rw [text]
    exact size_hello
  exact ⟨payload, sent, encrypted_payload_accepted helloTables.native (by decide) (by decide) sent small⟩

end EpicKfc.Guarantees.PayloadAcceptance
