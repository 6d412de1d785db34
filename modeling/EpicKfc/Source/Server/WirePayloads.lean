import EpicKfc.Lib.Base64
import EpicKfc.Lib.JsonRoundTrip
import Mathlib.Data.List.Induction

/-!
# Wire payloads the backend accepts

`validate_wire_payload_json` and `validate_base64` of
`server/backend/app/schemas/common.py`. `json.loads` makes a dict of each object:
a repeated name keeps its first place and its last value. A text nested too
deeply for the interpreter's stack raises there; here it is read.
-/

namespace EpicKfc.Source.Server.WirePayloads
open EpicKfc.Lib
open EpicKfc.Lib.JsonText

def maxWirePayloadBytes : Nat := 64 * 1024

def libsignalWireFormat : String := "libsignal-v1"

def libsignalAllowedMessageTypes : List Int := [1, 3]

def forbiddenInputKeys : List Text :=
  ["aeskey", "body", "chainkey", "content", "message", "plaintext", "privatekey", "ratchetstate",
    "rootkey", "sessionstate", "text"].map codePoints

/-- The `ValueError`s of the two validators. -/
inductive WirePayloadError where
  | tooLarge
  | notJson
  | notObject
  | forbiddenKey (key : Text)
  | wrongFormat
  | typeNotInteger
  | unknownType
  | bodyNotString
  | base64Empty
  | base64TooLong
  | base64Whitespace
  | base64Invalid
  | base64DecodesEmpty
  | registrationIdNotInteger
  | registrationIdNotPositive
deriving DecidableEq, Repr

def WirePayloadError.text : WirePayloadError → Text
  | .tooLarge => codePoints "wire_payload_json exceeds the maximum allowed size."
  | .notJson => codePoints "wire_payload_json must be valid JSON."
  | .notObject => codePoints "wire_payload_json must contain a JSON object."
  | .forbiddenKey key => codePoints "Forbidden key in payload: " ++ key ++ codePoints "."
  | .wrongFormat => codePoints "wire_payload_json format must be \"libsignal-v1\"."
  | .typeNotInteger => codePoints "type must be an integer."
  | .unknownType => codePoints "type must be 1 (WhisperMessage) or 3 (PreKeyWhisperMessage)."
  | .bodyNotString => codePoints "bodyB64 must be a base64 string."
  | .base64Empty => codePoints "Base64 value must not be empty."
  | .base64TooLong => codePoints "Base64 value exceeds the maximum allowed length."
  | .base64Whitespace => codePoints "Base64 value must not contain whitespace."
  | .base64Invalid => codePoints "Value must be valid base64."
  | .base64DecodesEmpty => codePoints "Base64 value must decode to non-empty bytes."
  | .registrationIdNotInteger => codePoints "registrationId must be an integer when present."
  | .registrationIdNotPositive =>
    codePoints "registrationId must be a positive integer when present."

/-! ## Python values -/

abbrev Dict := List (Text × Node)

/-- `dict[key] = value`. -/
def setItem (key : Text) (value : Node) : Dict → Dict
  | [] => [(key, value)]
  | (name, old) :: rest =>
    if name = key then (name, value) :: rest else (name, old) :: setItem key value rest

def dictOf (members : List (Text × Node)) : Dict :=
  members.foldl (fun dict member => setItem member.1 member.2 dict) []

def get (dict : Dict) (key : String) : Option Node :=
  (dict.find? fun member => member.1 = codePoints key).map Prod.snd

mutual

/-- What `json.loads` makes of a text's tree. -/
def pythonValue : Node → Node
  | .array items => .array (pythonItems items)
  | .object members => .object (dictOf (pythonMembers members))
  | .null => .null
  | .bool value => .bool value
  | .int value => .int value
  | .float literal => .float literal
  | .string text => .string text

def pythonItems : List Node → List Node
  | [] => []
  | item :: rest => pythonValue item :: pythonItems rest

def pythonMembers : List (Text × Node) → List (Text × Node)
  | [] => []
  | (name, value) :: rest => (name, pythonValue value) :: pythonMembers rest

end

def loads (value : List Char) : Option Node := (parse value).map pythonValue

/-- `isinstance(value, str)`. -/
def strOf : Option Node → Option Text
  | some (.string text) => some text
  | _ => none

/-- `isinstance(value, int)` and no `bool`. -/
def intOf : Option Node → Option Int
  | some (.int value) => some value
  | _ => none

/-! ## Forbidden keys -/

/-- `re.sub(r"[^a-z0-9]", "", str(key).lower())`; outside ASCII only `U+0130` and
`U+212A` have an ASCII letter in their lower case. -/
def normalizedKey (key : Text) : Text :=
  key.flatMap fun unit =>
    if 0x61 ≤ unit ∧ unit ≤ 0x7a ∨ 0x30 ≤ unit ∧ unit ≤ 0x39 then [unit]
    else if 0x41 ≤ unit ∧ unit ≤ 0x5a then [unit + 0x20]
    else if unit = 0x130 then [0x69]
    else if unit = 0x212a then [0x6b]
    else []

def isForbidden (key : Text) : Bool := normalizedKey key ∈ forbiddenInputKeys

mutual

/-- `_reject_forbidden_payload_keys`: the key it raises for. -/
def forbiddenPayloadKey : Node → Option Text
  | .object members => forbiddenInMembers members
  | .array items => forbiddenInItems items
  | _ => none

def forbiddenInItems : List Node → Option Text
  | [] => none
  | item :: rest => (forbiddenPayloadKey item).or (forbiddenInItems rest)

def forbiddenInMembers : List (Text × Node) → Option Text
  | [] => none
  | (key, nested) :: rest =>
    if isForbidden key then some key
    else (forbiddenPayloadKey nested).or (forbiddenInMembers rest)

end

/-! ## Validators -/

/-- `str.isspace` of one character. -/
def isSpace (unit : Nat) : Bool :=
  (0x09 ≤ unit && unit ≤ 0x0d) || (0x1c ≤ unit && unit ≤ 0x20) || unit = 0x85 || unit = 0xa0 ||
    unit = 0x1680 || (0x2000 ≤ unit && unit ≤ 0x200a) || unit = 0x2028 || unit = 0x2029 ||
    unit = 0x202f || unit = 0x205f || unit = 0x3000

/-- `base64.b64decode(value, validate=True)`, as strict as it is documented: padding in excess is
refused, though CPython 3.11 and 3.12 let it pass after a complete group. -/
def b64decode (value : Text) : Option (List (BitVec 8)) :=
  let text := value.map Char.ofNat
  if value.all (· < 128) && Base64.isPadded text then some (Base64.decode text) else none

def validateBase64 (value : Text) (maxLength : Nat) : Except WirePayloadError Text :=
  if value = [] then .error .base64Empty
  else if maxLength < value.length then .error .base64TooLong
  else if value.any isSpace then .error .base64Whitespace
  else match b64decode value with
    | none => .error .base64Invalid
    | some decoded => if decoded = [] then .error .base64DecodesEmpty else .ok value

/-- The end of `_validate_libsignal_wire_payload`: `None` and an absent id pass. -/
def validateRegistrationId : Option Node → Except WirePayloadError Unit
  | none | some .null => .ok ()
  | registrationId =>
    match intOf registrationId with
    | none => .error .registrationIdNotInteger
    | some value => if value ≤ 0 then .error .registrationIdNotPositive else .ok ()

def validateLibsignalWirePayload (payload : Dict) : Except WirePayloadError Unit :=
  if strOf (get payload "format") ≠ some (codePoints libsignalWireFormat) then .error .wrongFormat
  else match intOf (get payload "type") with
    | none => .error .typeNotInteger
    | some messageType =>
      if messageType ∉ libsignalAllowedMessageTypes then .error .unknownType
      else match strOf (get payload "bodyB64") with
        | none => .error .bodyNotString
        | some bodyB64 =>
          match validateBase64 bodyB64 maxWirePayloadBytes with
          | .error error => .error error
          | .ok _ => validateRegistrationId (get payload "registrationId")

/-- Returns the string as it was given. -/
def validateWirePayloadJson (value : String) : Except WirePayloadError String :=
  if maxWirePayloadBytes < (Json.utf8 value.toList).length then .error .tooLarge
  else match loads value.toList with
    | none => .error .notJson
    | some (.object payload) =>
      match forbiddenInMembers payload with
      | some key => .error (.forbiddenKey key)
      | none => (validateLibsignalWirePayload payload).map fun _ => value
    | some _ => .error .notObject

/-! ## What is accepted -/

theorem pythonValue_object_iff {tree : Node} {payload : Dict} :
    pythonValue tree = .object payload ↔
      ∃ members, tree = .object members ∧ payload = dictOf (pythonMembers members) := by
  cases tree <;> simp [pythonValue, eq_comm]

theorem validateWirePayloadJson_ok_iff {value result : String} :
    validateWirePayloadJson value = .ok result ↔
      result = value ∧ (Json.utf8 value.toList).length ≤ maxWirePayloadBytes ∧
      ∃ members, parse value.toList = some (.object members) ∧
        forbiddenInMembers (dictOf (pythonMembers members)) = none ∧
        validateLibsignalWirePayload (dictOf (pythonMembers members)) = .ok () := by
  have accepted (payload : Dict) : ((validateLibsignalWirePayload payload).map fun _ => value) =
      .ok result ↔ result = value ∧ validateLibsignalWirePayload payload = .ok () := by
    cases validateLibsignalWirePayload payload <;> simp [Except.map, eq_comm]
  constructor
  · intro valid
    unfold validateWirePayloadJson at valid
    split at valid
    · cases valid
    · next fits =>
      split at valid
      · cases valid
      · next payload loaded =>
        split at valid
        · cases valid
        · next clean =>
          obtain ⟨same, shaped⟩ := (accepted payload).mp valid
          obtain ⟨tree, parsed, object⟩ := Option.map_eq_some_iff.mp loaded
          obtain ⟨members, rfl, rfl⟩ := pythonValue_object_iff.mp object
          exact ⟨same, by omega, members, parsed, clean, shaped⟩
      · cases valid
  · rintro ⟨same, fits, members, parsed, clean, shaped⟩
    have loaded : loads value.toList = some (.object (dictOf (pythonMembers members))) := by
      rw [loads, parsed]
      rfl
    rw [validateWirePayloadJson, if_neg (by omega), loaded]
    simp only [clean]
    exact (accepted _).mpr ⟨same, shaped⟩

/-! ## Dicts -/

theorem setItem_self (key : Text) (value : Node) (dict : Dict) :
    (key, value) ∈ setItem key value dict := by
  induction dict with
  | nil => simp [setItem]
  | cons first rest ih =>
    obtain ⟨name, old⟩ := first
    rw [setItem]
    split_ifs with same
    · simp [same]
    · exact List.mem_cons_of_mem _ ih

theorem mem_setItem_of_ne {key : Text} {value : Node} {dict : Dict} {member : Text × Node}
    (other : member.1 ≠ key) (listed : member ∈ dict) : member ∈ setItem key value dict := by
  induction dict with
  | nil => cases listed
  | cons first rest ih =>
    obtain ⟨name, old⟩ := first
    rw [setItem]
    split_ifs with same
    · rcases List.mem_cons.mp listed with rfl | later
      · exact absurd same other
      · exact List.mem_cons_of_mem _ later
    · rcases List.mem_cons.mp listed with rfl | later
      · exact List.mem_cons_self
      · exact List.mem_cons_of_mem _ (ih later)

theorem dictOf_concat (members : List (Text × Node)) (last : Text × Node) :
    dictOf (members ++ [last]) = setItem last.1 last.2 (dictOf members) := by
  rw [dictOf, List.foldl_append]
  rfl

/-- A member stays unless a later one has its name. -/
theorem mem_dictOf {before after : List (Text × Node)} {name : Text} {value : Node}
    (last : name ∉ after.map Prod.fst) :
    (name, value) ∈ dictOf (before ++ (name, value) :: after) := by
  induction after using List.reverseRecOn with
  | nil =>
    rw [dictOf_concat]
    exact setItem_self name value _
  | append_singleton after final ih =>
    simp only [List.map_append, List.map_cons, List.map_nil, List.mem_append, List.mem_singleton,
      not_or] at last
    rw [← List.cons_append, ← List.append_assoc, dictOf_concat]
    exact mem_setItem_of_ne last.2 (ih last.1)

/-- No name is lost. -/
theorem name_mem_dictOf {members : List (Text × Node)} {name : Text}
    (listed : name ∈ members.map Prod.fst) : name ∈ (dictOf members).map Prod.fst := by
  induction members using List.reverseRecOn with
  | nil => cases listed
  | append_singleton members final ih =>
    rw [dictOf_concat]
    by_cases same : final.1 = name
    · rw [← same]
      exact List.mem_map_of_mem (setItem_self final.1 final.2 _)
    · simp only [List.map_append, List.map_cons, List.map_nil, List.mem_append,
        List.mem_singleton] at listed
      obtain ⟨member, earlier, rfl⟩ := List.mem_map.mp (ih (listed.resolve_right (Ne.symm same)))
      exact List.mem_map_of_mem (mem_setItem_of_ne (Ne.symm same) earlier)

end EpicKfc.Source.Server.WirePayloads
