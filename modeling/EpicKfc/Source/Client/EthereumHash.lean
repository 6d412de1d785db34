import EpicKfc.Lib.Digits
import EpicKfc.Lib.Keccak
import EpicKfc.Source.Client.Models

/-!
# Record ids and digests on the client

`client/src/support/EthereumHash.cpp`, lines 121-174. The hash function and Qt's
ISO-8601 writer are parameters. `QJsonDocument::toJson(Compact)` writes members
in key order and escapes control characters, quotes and backslashes.
-/

namespace EpicKfc.Source.Client.EthereumHash
open EpicKfc.Lib
open EpicKfc.Lib.Keccak (Byte)

abbrev HashFunction := List Byte → List Byte

/-- `QByteArray::toHex`. -/
def toHex (bytes : List Byte) : List Char := bytes.flatMap fun byte => Digits.render 16 2 byte.toNat

def keccakHex (keccak256 : HashFunction) (bytes : List Byte) : String :=
  String.ofList ('0' :: 'x' :: toHex (keccak256 bytes))

/-- One UTF-16 unit of Qt's JSON writer below `0x80`; others are written as they are. -/
def escapedChar (char : Char) : List Char :=
  if char.toNat < 0x20 ∨ char.toNat = 0x22 ∨ char.toNat = 0x5c then
    '\\' :: match char.toNat with
      | 0x22 => [Char.ofNat 0x22]
      | 0x5c => ['\\']
      | 0x08 => ['b']
      | 0x0c => ['f']
      | 0x0a => ['n']
      | 0x0d => ['r']
      | 0x09 => ['t']
      | code => ['u', '0', '0', Nat.digitChar (code / 16), Nat.digitChar (code % 16)]
  else [char]

def escapedString (text : String) : List Char :=
  Char.ofNat 0x22 :: text.toList.flatMap escapedChar ++ [Char.ofNat 0x22]

def plusZero : List Char := ['+', '0', '0', ':', '0', '0']

/-- `canonicalDateTime(const QDateTime&)`. -/
def canonicalInstant (toISODateWithMs : Int → String) (instant : QDateTime) : List Char :=
  match instant with
  | none => []
  | some msecs =>
    (toISODateWithMs msecs).toList.flatMap fun char => if char = 'Z' then plusZero else [char]

/-- `canonicalDateTime(const LocalMessage&)`. -/
def canonicalDateTime (toISODateWithMs : Int → String) (message : LocalMessage) : List Char :=
  let raw := message.createdAtRaw.toList
  if raw ≠ [] then
    if raw.getLast? = some 'Z' then raw.dropLast ++ plusZero else raw
  else canonicalInstant toISODateWithMs message.createdAt

def canonicalObject (toISODateWithMs : Int → String) (message : LocalMessage) : Json.Members :=
  Json.ofMembers [
    ("created_at", .string (String.ofList (canonicalDateTime toISODateWithMs message))),
    ("forwarded_from_message_id", .null),
    ("id", .string message.id),
    ("recipient_device_id", .number message.recipientDeviceId),
    ("recipient_user_id", .string message.recipientUserId),
    ("sender_device_id", .number message.senderDeviceId),
    ("sender_user_id", .string message.senderUserId),
    ("wire_payload_json", .string message.wirePayloadJson)]

def canonicalMessageBytes (toISODateWithMs : Int → String) (message : LocalMessage) : List Byte :=
  Json.utf8 (Json.compact escapedString (.object (canonicalObject toISODateWithMs message)))

def recordIdForMessage (keccak256 : HashFunction) (messageId : String) : String :=
  keccakHex keccak256 (Json.utf8 ("message:" ++ messageId).toList)

def incompleteMetadata : ClientError where
  code := .operationFailed
  message := "Message metadata is incomplete for blockchain verification."

def digestForMessage (keccak256 : HashFunction) (toISODateWithMs : Int → String)
    (message : LocalMessage) : Result String :=
  let hasRequiredMetadata := !message.id.isEmpty && !message.senderUserId.isEmpty &&
    !message.recipientUserId.isEmpty && !message.wirePayloadJson.isEmpty && message.createdAt.isSome
  if hasRequiredMetadata then
    .ok (keccakHex keccak256 (canonicalMessageBytes toISODateWithMs message))
  else .error incompleteMetadata

/-! ## Hexadecimal texts -/

theorem toHex_injective : Function.Injective toHex := by
  intro first
  induction first with
  | nil =>
    intro second same
    cases second with
    | nil => rfl
    | cons byte rest => simp [toHex, Digits.render, Digits.digits] at same
  | cons byte rest ih =>
    intro second same
    cases second with
    | nil => simp [toHex, Digits.render, Digits.digits] at same
    | cons byte' rest' =>
      simp only [toHex, List.flatMap_cons] at same
      obtain ⟨digits, tails⟩ := List.append_inj same (by simp)
      have fits (digit : Byte) : digit.toNat < 16 ^ 2 := digit.isLt
      have bytes : byte.toNat = byte'.toNat :=
        Digits.render_injective (by decide) (by decide) (fits byte) (fits byte') digits
      rw [BitVec.eq_of_toNat_eq bytes, ih tails]

/-- Equal digests come from equal hashes. -/
theorem keccakHex_inj (keccak256 : HashFunction) (first second : List Byte) :
    keccakHex keccak256 first = keccakHex keccak256 second ↔ keccak256 first = keccak256 second := by
  constructor
  · intro same
    have chars := String.ofList_injective same
    exact toHex_injective (List.cons.inj (List.cons.inj chars).2).2
  · intro same
    rw [keccakHex, keccakHex, same]

end EpicKfc.Source.Client.EthereumHash
