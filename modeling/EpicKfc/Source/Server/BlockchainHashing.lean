import EpicKfc.Lib.JsonRoundTrip
import EpicKfc.Lib.Keccak
import EpicKfc.Source.Server.Messages
import Mathlib.Tactic.IntervalCases

/-!
# Record ids and digests on the backend

`server/backend/app/core/blockchain_hashing.py`. The hash function is a
parameter. `json.dumps` with `ensure_ascii=False`, compact separators and sorted
keys escapes by table, with `\u` escapes for the remaining control characters.
-/

namespace EpicKfc.Source.Server.BlockchainHashing
open EpicKfc.Lib
open EpicKfc.Lib.Keccak (Byte)
open EpicKfc.Source.Server.Messages

/-- `bytes.hex()`. -/
def hex (bytes : List Byte) : List Char := bytes.flatMap fun byte => Digits.render 16 2 byte.toNat

def keccakHex (keccak : List Byte → List Byte) (data : List Byte) : String :=
  String.ofList ('0' :: 'x' :: hex (keccak data))

theorem keccakHex_ne_empty (keccak : List Byte → List Byte) (data : List Byte) :
    keccakHex keccak data ≠ "" := by
  intro empty
  have chars := congrArg String.toList empty
  simp [keccakHex] at chars

/-- The named entries of the escape table of Python's encoder. -/
def escapeDict : List (Nat × List Char) := [
  (0x5c, ['\\', '\\']),
  (0x22, ['\\', Char.ofNat 0x22]),
  (0x08, ['\\', 'b']),
  (0x0c, ['\\', 'f']),
  (0x0a, ['\\', 'n']),
  (0x0d, ['\\', 'r']),
  (0x09, ['\\', 't'])]

/-- The table is completed with four-digit escapes below `0x20`; other characters stay. -/
def encodedChar (char : Char) : List Char :=
  match escapeDict.lookup char.toNat with
  | some escaped => escaped
  | none => if char.toNat < 0x20 then '\\' :: 'u' :: Digits.render 16 4 char.toNat else [char]

/-- `py_encode_basestring`. -/
def encodeBasestring (text : String) : List Char :=
  Char.ofNat 0x22 :: text.toList.flatMap encodedChar ++ [Char.ofNat 0x22]

/-- Every escape is read back as the character it stands for. -/
theorem scanUnits_encodedChar (char : Char) (rest : List Char) :
    JsonText.scanUnits .plain (encodedChar char ++ rest) =
      (JsonText.scanUnits .plain rest).map (JsonText.push char.toNat) := by
  have control : ∀ code < 0x20, JsonText.scanUnits .plain (encodedChar (Char.ofNat code) ++ rest) =
      (JsonText.scanUnits .plain rest).map (JsonText.push code) := by
    intro code small
    interval_cases code <;> rfl
  by_cases small : char.toNat < 0x20
  · have read := control char.toNat small
    rwa [Char.ofNat_toNat] at read
  by_cases quote : char.toNat = 0x22
  · obtain rfl : char = Char.ofNat 0x22 := Char.toNat_inj.mp quote
    rfl
  by_cases backslash : char.toNat = 0x5c
  · obtain rfl : char = '\\' := Char.toNat_inj.mp backslash
    rfl
  · have absent : escapeDict.lookup char.toNat = none := by
      rw [List.lookup_eq_none_iff]
      simp only [escapeDict, List.forall_mem_cons, bne_iff_ne, ne_eq, List.not_mem_nil,
        false_imp_iff, implies_true, and_true]
      omega
    have plain : encodedChar char = [char] := by
      simp only [encodedChar, absent, if_neg small]
    rw [plain, List.singleton_append, JsonText.scanUnits, if_neg quote, if_neg backslash,
      if_neg small]

theorem quotes_encodeBasestring : JsonText.Quotes encodeBasestring := by
  intro value
  refine ⟨value.toList.flatMap encodedChar ++ [Char.ofNat 0x22], rfl, fun rest => ?_⟩
  have body (text : List Char) :
      JsonText.scanUnits .plain (text.flatMap encodedChar ++ Char.ofNat 0x22 :: rest) =
        some (text.map Char.toNat, rest) := by
    induction text with
    | nil => rfl
    | cons char text ih =>
      rw [List.flatMap_cons, List.append_assoc, scanUnits_encodedChar, ih]
      rfl
  rw [List.append_assoc]
  exact body value.toList

def optionalStr : Option Uuid → Json
  | some id => .string id.str
  | none => .null

def canonicalDict (message : Message) : Json.Members :=
  Json.ofMembers [
    ("created_at", .string message.createdAt.isoformat),
    ("forwarded_from_message_id", optionalStr message.forwardedFromMessageId),
    ("id", .string message.id.str),
    ("recipient_device_id", .number message.recipientDeviceId.val),
    ("recipient_user_id", .string message.recipientUserId.str),
    ("sender_device_id", .number message.senderDeviceId.val),
    ("sender_user_id", .string message.senderUserId.str),
    ("wire_payload_json", .string message.wirePayloadJson.val)]

def canonicalMessageBytes (message : Message) : List Byte :=
  Json.utf8 (Json.compact encodeBasestring (.object (canonicalDict message)))

def deriveMessageRecordId (keccak : List Byte → List Byte) (messageId : Uuid) : String :=
  keccakHex keccak (Json.utf8 ("message:" ++ messageId.str).toList)

def deriveMessageDigest (keccak : List Byte → List Byte) (message : Message) : String :=
  keccakHex keccak (canonicalMessageBytes message)

end EpicKfc.Source.Server.BlockchainHashing
