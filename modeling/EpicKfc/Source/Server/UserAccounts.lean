import EpicKfc.Lib.SoleMatches
import EpicKfc.Lib.Trimming
import EpicKfc.Source.Server.Identifiers
import EpicKfc.Source.Server.WirePayloads

/-!
# User accounts

Rows of `server/backend/app/models/user.py`, the queries of
`repositories/user_repository.py`, the registration request of `schemas/auth.py`
and the workflows of `services/auth_service.py` that look accounts up. A users
table is unique in usernames and in e-mail addresses. Python's case mapping beyond
ASCII is a parameter.
-/

namespace EpicKfc.Source.Server.UserAccounts
open EpicKfc.Lib
open EpicKfc.Lib.JsonText (Text)
open EpicKfc.Lib.SoleMatches (MultipleResults oneOrNone)
open EpicKfc.Source.Server.WirePayloads (isSpace)

/-! ## Texts -/

def atSign : Nat := 0x40

def asciiLower (point : Nat) : Nat := if 0x41 ≤ point ∧ point ≤ 0x5a then point + 0x20 else point

theorem asciiLower_asciiLower (point : Nat) : asciiLower (asciiLower point) = asciiLower point := by
  by_cases upper : 0x41 ≤ point ∧ point ≤ 0x5a
  · have lowered : ¬ (0x41 ≤ point + 0x20 ∧ point + 0x20 ≤ 0x5a) := by omega
    rw [asciiLower, asciiLower, if_pos upper, if_neg lowered]
  · rw [asciiLower, asciiLower, if_neg upper, if_neg upper]

/-- The lower case of a character, which may depend on its neighbours. -/
structure CaseMapping where
  lowerAt : Text → Nat → Text → Text
  ascii : ∀ before point after, point < 128 → lowerAt before point after = [asciiLower point]
  nonempty : ∀ before point after, lowerAt before point after ≠ []
  blank : ∀ before point after, ∀ lowered ∈ lowerAt before point after,
    isSpace lowered = isSpace point
  noAtSign : ∀ before point after, 128 ≤ point → atSign ∉ lowerAt before point after
  settled : ∀ before point after, ∀ lowered ∈ lowerAt before point after,
    ∀ before' after', lowerAt before' lowered after' = [lowered]

/-- Leaves every character beyond ASCII alone. -/
def asciiMapping : CaseMapping where
  lowerAt _ point _ := [asciiLower point]
  ascii _ _ _ _ := rfl
  nonempty _ _ _ := by simp
  blank _ point _ lowered member := by
    rw [List.mem_singleton.mp member]
    unfold asciiLower
    split
    · next upper =>
      have plain (value : Nat) (between : 0x41 ≤ value ∧ value < 0x80) : isSpace value = false := by
        simp only [isSpace, Bool.or_eq_false_iff, Bool.and_eq_false_iff, decide_eq_false_iff_not]
        omega
      rw [plain point (by omega), plain (point + 0x20) (by omega)]
    · rfl
  noAtSign _ point _ beyond := by
    rw [List.mem_singleton]
    unfold asciiLower atSign
    split <;> omega
  settled _ point _ lowered member _ _ := by
    rw [List.mem_singleton.mp member, asciiLower_asciiLower]

def lowerFrom (mapping : CaseMapping) : Text → Text → Text
  | _, [] => []
  | before, point :: after =>
    mapping.lowerAt before point after ++ lowerFrom mapping (before ++ [point]) after

/-- `str.lower`. -/
def lower (mapping : CaseMapping) (text : Text) : Text := lowerFrom mapping [] text

/-- `str.strip`. -/
def strip (text : Text) : Text := Trimming.trim isSpace text

/-- `_normalize_email`. -/
def normalizeEmail (mapping : CaseMapping) (email : Text) : Text := lower mapping (strip email)

/-! ## Requests -/

inductive UsernameError where
  | length
  | characters
deriving DecidableEq, Repr

def UsernameError.text : UsernameError → String
  | .length => "Username must be between 3 and 50 characters."
  | .characters => "Username may contain letters, numbers, underscore, dot, and hyphen."

/-- A character of `USERNAME_PATTERN`. -/
def isUsernamePoint (point : Nat) : Bool :=
  (0x41 ≤ point && point ≤ 0x5a) || (0x61 ≤ point && point ≤ 0x7a) ||
    (0x30 ≤ point && point ≤ 0x39) || point = 0x2e || point = 0x5f || point = 0x2d

def validateUsername (value : Text) : Except UsernameError Text :=
  let username := strip value
  if ¬ (3 ≤ username.length ∧ username.length ≤ 50) then .error .length
  else if ¬ (username ≠ [] ∧ username.all isUsernamePoint = true) then .error .characters
  else .ok username

structure RegisterRequest where
  username : Text
  email : Text
  password : Text

/-- Why the schema refuses a registration. -/
inductive RegisterRequestError where
  | usernameField
  | username (error : UsernameError)
  | email
  | passwordLength
deriving DecidableEq

/-- The fields of `RegisterRequest`; `validateEmail` is the schema's e-mail validator, with the
address it makes of a text it accepts. -/
def parseRegisterRequest (validateEmail : Text → Option Text) (username email password : Text) :
    Except RegisterRequestError RegisterRequest :=
  if ¬ (3 ≤ username.length ∧ username.length ≤ 50) then .error .usernameField
  else match validateUsername username, validateEmail email with
    | .error error, _ => .error (.username error)
    | .ok _, none => .error .email
    | .ok validUsername, some address =>
      if ¬ (12 ≤ password.length ∧ password.length ≤ 128) then .error .passwordLength
      else .ok ⟨validUsername, address, password⟩

/-! ## Rows and queries -/

structure User where
  id : Uuid
  username : Text
  email : Text
  passwordHash : Text
  role : Text
  isActive : Bool
deriving DecidableEq

/-- The `users` table; `id` is its primary key. -/
abbrev UserTable := List User

/-- The `where` clause of `get_by_username_or_email`. -/
def answersTo (mapping : CaseMapping) (value : Text) (user : User) : Prop :=
  user.username = value ∨ user.email = normalizeEmail mapping value

instance (mapping : CaseMapping) (value : Text) : DecidablePred (answersTo mapping value) :=
  fun user => inferInstanceAs (Decidable (user.username = value ∨ _))

/-- `scalar_one_or_none` raises for more than one row. -/
def getByUsernameOrEmail (mapping : CaseMapping) (value : Text) (rows : UserTable) :
    Except MultipleResults (Option User) :=
  SoleMatches.lookup (answersTo mapping) value rows

def usernameExists (username : Text) (rows : UserTable) : Except MultipleResults Bool :=
  (oneOrNone (rows.filter fun user => user.username = username)).map Option.isSome

def emailExists (mapping : CaseMapping) (email : Text) (rows : UserTable) :
    Except MultipleResults Bool :=
  (oneOrNone (rows.filter fun user => user.email = normalizeEmail mapping email)).map Option.isSome

/-- An insert breaks a unique constraint, or adds its row. -/
def insertUser (user : User) (rows : UserTable) : Option UserTable :=
  if ∃ existing ∈ rows, existing.id = user.id ∨ existing.username = user.username ∨
      existing.email = user.email then none
  else some (rows ++ [user])

def userRole : Text := [0x75, 0x73, 0x65, 0x72]

/-- The row `create_user` adds; `id` is a column default. -/
def createUser (mapping : CaseMapping) (id : Uuid) (username email passwordHash : Text) : User where
  id := id
  username := username
  email := normalizeEmail mapping email
  passwordHash := passwordHash
  role := userRole
  isActive := true

/-! ## Workflows -/

inductive RegisterError where
  | duplicateUser
  | query (error : MultipleResults)
deriving DecidableEq

/-- One call of `register_user`: the table as its two checks find it, which other requests may
have changed before the insert, and the values drawn for the row. -/
structure RegisterCall where
  username : Text
  email : Text
  password : Text
  seenForUsername : UserTable
  seenForEmail : UserTable
  id : Uuid
  passwordHash : Text

def registerUser (mapping : CaseMapping) (call : RegisterCall) (request : RegisterRequest)
    (rows : UserTable) : Except RegisterError User × UserTable :=
  match usernameExists request.username call.seenForUsername,
      emailExists mapping request.email call.seenForEmail with
  | .error error, _ => (.error (.query error), rows)
  | .ok true, _ => (.error .duplicateUser, rows)
  | .ok false, .error error => (.error (.query error), rows)
  | .ok false, .ok true => (.error .duplicateUser, rows)
  | .ok false, .ok false =>
    let user := createUser mapping call.id request.username request.email call.passwordHash
    match insertUser user rows with
    | none => (.error .duplicateUser, rows)
    | some rows' => (.ok user, rows')

/-- A registration on the committed rows; the schema keeps invalid ones from the workflow. -/
def registerStep (mapping : CaseMapping) (validateEmail : Text → Option Text) (rows : UserTable)
    (call : RegisterCall) : Option UserTable :=
  match parseRegisterRequest validateEmail call.username call.email call.password with
  | .error _ => some rows
  | .ok request => some (registerUser mapping call request rows).2

/-- `authenticate_user`. -/
def authenticateUser (mapping : CaseMapping) (verifyPassword : Text → Text → Bool)
    (usernameOrEmail password : Text) (rows : UserTable) : Except MultipleResults (Option User) := do
  match ← getByUsernameOrEmail mapping usernameOrEmail rows with
  | none => return none
  | some user =>
    if user.isActive = false then return none
    else if verifyPassword password user.passwordHash = false then return none
    else return some user

end EpicKfc.Source.Server.UserAccounts
