import EpicKfc.Lib.Json
import EpicKfc.Source.Server.UserAccounts
import Mathlib.Data.Rat.Floor

/-!
# Access tokens

The access tokens of `services/token_service.py` and `get_current_user` of
`api/deps.py`. PyJWT comes from outside. Times are seconds since the epoch, as exact
rationals. The digits of a UUID are read by `int`, whose blanks, signs, underscores
and prefixes are left out.
-/

namespace EpicKfc.Source.Server.AccessTokens
open EpicKfc.Lib
open EpicKfc.Lib.JsonText (Text)
open EpicKfc.Source.Server.UserAccounts

/-! ## UUIDs -/

/-- `str.replace` with the empty text; the number counts characters still to drop. -/
def removeAll (pattern : List Char) : Nat → List Char → List Char
  | _, [] => []
  | skip + 1, _ :: rest => removeAll pattern skip rest
  | 0, char :: rest =>
    if pattern.isPrefixOf (char :: rest) then removeAll pattern (pattern.length - 1) rest
    else char :: removeAll pattern 0 rest

/-- Python's `UUID` of a text. -/
def uuidOfText (text : String) : Option Uuid :=
  let plain := removeAll "uuid:".toList 0 (removeAll "urn:".toList 0 text.toList)
  let hex := (Trimming.trim (fun char => char = '\x7b' || char = '\x7d') plain).filter (· ≠ '-')
  if hex.length ≠ 32 then none
  else (hex.mapM JsonText.hexValue).map fun digits => BitVec.ofNat 128 (Digits.ofDigits 16 digits)

theorem removeAll_of_absent {pattern text : List Char} {char : Char} (needs : char ∈ pattern)
    (absent : char ∉ text) : removeAll pattern 0 text = text := by
  induction text with
  | nil => rfl
  | cons first rest ih =>
    have other : pattern.isPrefixOf (first :: rest) = false := by
      rw [Bool.eq_false_iff, ne_eq, List.isPrefixOf_iff_prefix]
      exact fun here => absent (here.subset needs)
    rw [removeAll, other, if_neg (by simp), ih fun member => absent (List.mem_cons_of_mem _ member)]

/-- The characters of a printed UUID. -/
theorem mem_str {id : Uuid} {char : Char} (member : char ∈ id.str.toList) :
    char ∈ Digits.render 16 32 id.toNat ∨ char = '-' := by
  simp only [Uuid.str, String.toList_ofList, Uuid.layout, List.mem_append, List.mem_cons] at member
  rcases member with (((group | rfl | group) | rfl | group) | rfl | group) | rfl | group
  · exact Or.inl (List.mem_of_mem_take group)
  · exact Or.inr rfl
  · exact Or.inl (List.mem_of_mem_drop (List.mem_of_mem_take group))
  · exact Or.inr rfl
  · exact Or.inl (List.mem_of_mem_drop (List.mem_of_mem_take group))
  · exact Or.inr rfl
  · exact Or.inl (List.mem_of_mem_drop (List.mem_of_mem_take group))
  · exact Or.inr rfl
  · exact Or.inl (List.mem_of_mem_drop group)

theorem hexValue_digitChar : ∀ digit < 16, JsonText.hexValue (Nat.digitChar digit) = some digit := by
  decide

theorem render_ne {value : Nat} {char : Char} (member : char ∈ Digits.render 16 32 value) :
    ∀ other ∈ [':', '\x7b', '\x7d', '-'], char ≠ other := by
  obtain ⟨digit, belongs, rfl⟩ := List.mem_map.mp member
  have read := hexValue_digitChar digit (Digits.digits_lt (by decide) _ _ digit belongs)
  intro other special same
  rw [same] at read
  simp only [List.mem_cons, List.not_mem_nil, or_false] at special
  obtain rfl | rfl | rfl | rfl := special
  all_goals cases read

theorem filter_layout {hex : List Char} (plain : ∀ char ∈ hex, char ≠ '-') :
    (Uuid.layout hex).filter (· ≠ '-') = hex := by
  have kept (part : List Char) (inside : ∀ char ∈ part, char ∈ hex) : part.filter (· ≠ '-') = part :=
    List.filter_eq_self.mpr fun char member => by simpa using plain char (inside char member)
  have cut (start count : Nat) :
      hex.drop start = (hex.drop start).take count ++ hex.drop (start + count) := by
    rw [← List.drop_drop, List.take_append_drop]
  simp only [Uuid.layout, List.filter_append, List.filter_cons_of_neg, ne_eq, not_true_eq_false,
    decide_false, Bool.false_eq_true, not_false_eq_true]
  rw [kept _ fun _ => List.mem_of_mem_take, kept _ fun _ member => List.mem_of_mem_drop
      (List.mem_of_mem_take member), kept _ fun _ member => List.mem_of_mem_drop
      (List.mem_of_mem_take member), kept _ fun _ member => List.mem_of_mem_drop
      (List.mem_of_mem_take member), kept _ fun _ => List.mem_of_mem_drop]
  simp only [List.append_assoc]
  rw [← cut 16 4, ← cut 12 4, ← cut 8 4, List.take_append_drop]

theorem not_mem_str {id : Uuid} {char : Char} (special : char ∈ [':', '\x7b', '\x7d']) :
    char ∉ id.str.toList := by
  intro member
  obtain digit | rfl := mem_str member
  · exact render_ne digit char (List.mem_append_left ['-'] special) rfl
  · simp at special

/-- A printed UUID is read back. -/
theorem uuidOfText_str (id : Uuid) : uuidOfText id.str = some id := by
  have plain : removeAll "uuid:".toList 0 (removeAll "urn:".toList 0 id.str.toList) =
      id.str.toList := by
    have colon : ':' ∉ id.str.toList := not_mem_str (by simp)
    rw [@removeAll_of_absent "urn:".toList _ ':' (by simp) colon,
      @removeAll_of_absent "uuid:".toList _ ':' (by simp) colon]
  have trimmed : Trimming.Trimmed (fun char => char = '\x7b' || char = '\x7d') id.str.toList := by
    have kept : ∀ char ∈ id.str.toList, (char = '\x7b' || char = '\x7d' : Bool) = false := by
      intro char member
      simp only [Bool.or_eq_false_iff, decide_eq_false_iff_not]
      constructor
      · rintro rfl
        exact not_mem_str (by simp) member
      · rintro rfl
        exact not_mem_str (by simp) member
    exact ⟨fun char first => kept char (List.mem_of_mem_head? first),
      fun char last => kept char (List.mem_of_mem_getLast? last)⟩
  have hex : id.str.toList.filter (· ≠ '-') = Digits.render 16 32 id.toNat := by
    rw [Uuid.str, String.toList_ofList]
    exact filter_layout fun char member => render_ne member '-' (by simp)
  have read : (Digits.render 16 32 id.toNat).mapM JsonText.hexValue =
      some (Digits.digits 16 32 id.toNat) := by
    have small := @Digits.digits_lt 16 (by decide) 32 id.toNat
    rw [Digits.render]
    generalize Digits.digits 16 32 id.toNat = digits at small
    induction digits with
    | nil => rfl
    | cons digit rest ih =>
      rw [List.map_cons, List.mapM_cons, hexValue_digitChar digit (small digit List.mem_cons_self),
        ih fun other member => small other (List.mem_cons_of_mem _ member)]
      rfl
  have value : id.toNat % 16 ^ 32 = id.toNat := Nat.mod_eq_of_lt id.isLt
  rw [uuidOfText, plain, Trimming.trim_eq trimmed, hex, read]
  simp only [Digits.length_render, ne_eq, not_true_eq_false, if_false, Option.map_some,
    Digits.ofDigits_digits, value, BitVec.ofNat_toNat, BitVec.setWidth_eq]

/-! ## Tokens -/

def truncate (seconds : ℚ) : Int := if 0 ≤ seconds then ⌊seconds⌋ else ⌈seconds⌉

structure TokenSettings where
  jwtSecretKey : Option String
  jwtAlgorithm : String
  accessTokenExpireMinutes : Int

/-- PyJWT: `encode` by payload, key and algorithm refuses some keys; `decode` by token, key, allowed
algorithms, required claims and the time. -/
structure JwtLibrary where
  encode : Json.Members → String → String → Option String
  decode : String → String → List String → List String → ℚ → Option Json.Members

inductive TokenError where
  | notConfigured
  | invalidAccessToken
  /-- PyJWT's own exception. -/
  | invalidKey
deriving DecidableEq

/-- The messages of `TokenServiceError`. -/
def TokenError.text : TokenError → Option String
  | .notConfigured => some "Token service is not configured."
  | .invalidAccessToken => some "Invalid access token."
  | .invalidKey => none

def jwtAccessType : String := "access"

def jwtAllowedAlgorithm : String := "HS256"

def requiredClaims : List String := ["sub", "role", "jti", "iat", "exp", "type"]

def getJwtSecretKey (settings : TokenSettings) : Except TokenError String :=
  match settings.jwtSecretKey with
  | none => .error .notConfigured
  | some key => if key = "" then .error .notConfigured else .ok key

def getJwtAlgorithm (settings : TokenSettings) : Except TokenError String :=
  if settings.jwtAlgorithm ≠ jwtAllowedAlgorithm then .error .notConfigured
  else .ok settings.jwtAlgorithm

/-- `AccessTokenPayload`, whose `type` is always the same. -/
structure AccessTokenPayload where
  sub : String
  role : String
  jti : String
  iat : Int
  exp : Int
deriving DecidableEq

def AccessTokenPayload.claims (payload : AccessTokenPayload) : Json.Members := [
  ("sub", .string payload.sub),
  ("role", .string payload.role),
  ("jti", .string payload.jti),
  ("iat", .number payload.iat),
  ("exp", .number payload.exp),
  ("type", .string jwtAccessType)]

/-- What a token is made of, with the time that is read and the identifier that is drawn. -/
def accessTokenPayload (settings : TokenSettings) (now : ℚ) (userId : Uuid) (role jti : String) :
    AccessTokenPayload where
  sub := userId.str
  role := role
  jti := jti
  iat := truncate now
  exp := truncate (now + settings.accessTokenExpireMinutes * 60)

def createAccessToken (settings : TokenSettings) (jwt : JwtLibrary) (now : ℚ) (userId : Uuid)
    (role jti : String) : Except TokenError String := do
  let secretKey ← getJwtSecretKey settings
  let algorithm ← getJwtAlgorithm settings
  match jwt.encode (accessTokenPayload settings now userId role jti).claims secretKey algorithm with
  | none => .error .invalidKey
  | some token => .ok token

/-- The causes that `decode_access_token` hides. -/
inductive ClaimError where
  | type
  | subject
  | subjectUuid
  | role
  | identifier
  | issuedAt
  | expiry
deriving DecidableEq

def ClaimError.text : ClaimError → String
  | .type => "Invalid token type."
  | .subject => "Invalid token subject."
  | .subjectUuid => "badly formed hexadecimal UUID string"
  | .role => "Invalid token role."
  | .identifier => "Invalid token identifier."
  | .issuedAt => "Invalid issued-at claim."
  | .expiry => "Invalid expiry claim."

def stringOf : Option Json → Option String
  | some (.string value) => some value
  | _ => none

/-- Booleans are no integers here. -/
def intOf : Option Json → Option Int
  | some (.number value) => some value
  | _ => none

def orRaise {α : Type} (error : ClaimError) : Option α → Except ClaimError α
  | none => .error error
  | some value => .ok value

def validateAccessTokenClaims (claims : Json.Members) : Except ClaimError AccessTokenPayload := do
  if stringOf (Json.lookup claims "type") ≠ some jwtAccessType then throw .type
  let sub ← orRaise .subject (stringOf (Json.lookup claims "sub"))
  let normalizedSub ← orRaise .subjectUuid (uuidOfText sub)
  let role ← orRaise .role ((stringOf (Json.lookup claims "role")).filter (· ≠ ""))
  let jti ← orRaise .identifier ((stringOf (Json.lookup claims "jti")).filter (· ≠ ""))
  let iat ← orRaise .issuedAt (intOf (Json.lookup claims "iat"))
  let exp ← orRaise .expiry (intOf (Json.lookup claims "exp"))
  return ⟨normalizedSub.str, role, jti, iat, exp⟩

def decodeAccessToken (settings : TokenSettings) (jwt : JwtLibrary) (now : ℚ) (token : String) :
    Except TokenError AccessTokenPayload := do
  let secretKey ← getJwtSecretKey settings
  match jwt.decode token secretKey [jwtAllowedAlgorithm] requiredClaims now with
  | none => .error .invalidAccessToken
  | some claims =>
    match validateAccessTokenClaims claims with
    | .error _ => .error .invalidAccessToken
    | .ok payload => .ok payload

/-! ## `get_current_user` -/

/-- What FastAPI takes from a bearer header. -/
structure HttpAuthorizationCredentials where
  scheme : Text
  credentials : String

/-- `_authentication_error`: the status and the detail. -/
inductive AuthenticationError where
  | invalidCredentials
deriving DecidableEq

def AuthenticationError.status : AuthenticationError → Nat
  | .invalidCredentials => 401

def AuthenticationError.detail : AuthenticationError → String
  | .invalidCredentials => "Invalid authentication credentials"

/-- By the primary key. -/
def getById (userId : Uuid) (rows : UserTable) : Option User :=
  rows.find? fun user => user.id = userId

def getCurrentUser (mapping : CaseMapping) (settings : TokenSettings) (jwt : JwtLibrary) (now : ℚ)
    (rows : UserTable) : Option HttpAuthorizationCredentials → Except AuthenticationError User
  | none => .error .invalidCredentials
  | some credentials =>
    if lower mapping credentials.scheme ≠ JsonText.codePoints "bearer" ∨
        credentials.credentials = "" then .error .invalidCredentials
    else match decodeAccessToken settings jwt now credentials.credentials with
    | .error _ => .error .invalidCredentials
    | .ok tokenPayload =>
      match uuidOfText tokenPayload.sub with
      | none => .error .invalidCredentials
      | some userId =>
        match getById userId rows with
        | none => .error .invalidCredentials
        | some user => if user.isActive then .ok user else .error .invalidCredentials

/-! ## What the library promises -/

/-- PyJWT reads a token that it wrote with a key, from the second it was issued until it expires. -/
structure ReadsBack (jwt : JwtLibrary) (key : String) (payload : AccessTokenPayload) : Prop where
  decodes : ∀ token now, jwt.encode payload.claims key jwtAllowedAlgorithm = some token →
    jwt.decode token key [jwtAllowedAlgorithm] requiredClaims now =
      if payload.iat ≤ now ∧ now < payload.exp then some payload.claims else none
  nonempty : jwt.encode payload.claims key jwtAllowedAlgorithm ≠ some ""

variable {settings : TokenSettings} {jwt : JwtLibrary} {issuedAt : ℚ} {userId : Uuid}
  {role jti token : String}

/-- The claims that a token is made of pass their check. -/
theorem validate_claims (named : role ≠ "") (drawn : jti ≠ "") :
    validateAccessTokenClaims (accessTokenPayload settings issuedAt userId role jti).claims =
      .ok (accessTokenPayload settings issuedAt userId role jti) := by
  simp [validateAccessTokenClaims, accessTokenPayload, AccessTokenPayload.claims, Json.lookup_cons,
    uuidOfText_str, named, drawn, stringOf, intOf, orRaise, jwtAccessType, Option.filter, bind,
    Except.bind, pure, Except.pure]

/-- A token is created with the secret and the one algorithm that is allowed. -/
theorem createAccessToken_eq_ok :
    createAccessToken settings jwt issuedAt userId role jti = .ok token ↔
      ∃ key, getJwtSecretKey settings = .ok key ∧ settings.jwtAlgorithm = jwtAllowedAlgorithm ∧
        jwt.encode (accessTokenPayload settings issuedAt userId role jti).claims key
          jwtAllowedAlgorithm = some token := by
  cases secret : getJwtSecretKey settings with
  | error error => simp [createAccessToken, secret, bind, Except.bind]
  | ok key =>
    by_cases allowed : settings.jwtAlgorithm = jwtAllowedAlgorithm
    · have algorithm : getJwtAlgorithm settings = .ok jwtAllowedAlgorithm := by
        simp [getJwtAlgorithm, allowed]
      simp only [createAccessToken, secret, algorithm, bind, Except.bind]
      cases encoded : jwt.encode (accessTokenPayload settings issuedAt userId role jti).claims key
          jwtAllowedAlgorithm with
      | none => simp [encoded]
      | some written => simp [encoded, allowed]
    · simp [createAccessToken, secret, getJwtAlgorithm, allowed, bind, Except.bind]

/-- The second a token expires. -/
def expiry (settings : TokenSettings) (issuedAt : ℚ) : Int :=
  truncate (issuedAt + settings.accessTokenExpireMinutes * 60)

/-- A token that was created is decoded while it has not expired. -/
theorem decodeAccessToken_created
    (reads : ∀ key, getJwtSecretKey settings = .ok key →
      ReadsBack jwt key (accessTokenPayload settings issuedAt userId role jti))
    (named : role ≠ "") (drawn : jti ≠ "")
    (created : createAccessToken settings jwt issuedAt userId role jti = .ok token) (now : ℚ) :
    decodeAccessToken settings jwt now token =
      if truncate issuedAt ≤ now ∧ now < expiry settings issuedAt then
        .ok (accessTokenPayload settings issuedAt userId role jti)
      else .error .invalidAccessToken := by
  obtain ⟨key, secret, -, encoded⟩ := createAccessToken_eq_ok.mp created
  have decoded := (reads key secret).decodes token now encoded
  simp only [decodeAccessToken, secret, bind, Except.bind, decoded]
  by_cases alive : truncate issuedAt ≤ now ∧ now < expiry settings issuedAt
  · have within : (accessTokenPayload settings issuedAt userId role jti).iat ≤ now ∧
        now < (accessTokenPayload settings issuedAt userId role jti).exp := alive
    simp only [if_pos alive, if_pos within, validate_claims named drawn]
  · have outside : ¬ ((accessTokenPayload settings issuedAt userId role jti).iat ≤ now ∧
        now < (accessTokenPayload settings issuedAt userId role jti).exp) := alive
    simp only [if_neg alive, if_neg outside]

/-- A token that was created stands for its user while it has not expired and the user is active. -/
theorem getCurrentUser_created {mapping : CaseMapping} {scheme : Text}
    (bearer : lower mapping scheme = JsonText.codePoints "bearer")
    (reads : ∀ key, getJwtSecretKey settings = .ok key →
      ReadsBack jwt key (accessTokenPayload settings issuedAt userId role jti))
    (named : role ≠ "") (drawn : jti ≠ "")
    (created : createAccessToken settings jwt issuedAt userId role jti = .ok token) (now : ℚ)
    (rows : UserTable) (user : User) :
    getCurrentUser mapping settings jwt now rows (some ⟨scheme, token⟩) = .ok user ↔
      (truncate issuedAt ≤ now ∧ now < expiry settings issuedAt) ∧ getById userId rows = some user ∧
        user.isActive = true := by
  have present : token ≠ "" := by
    rintro rfl
    obtain ⟨key, secret, -, encoded⟩ := createAccessToken_eq_ok.mp created
    exact (reads key secret).nonempty encoded
  simp only [getCurrentUser, bearer, present, ne_eq, not_true_eq_false, or_self, if_false,
    decodeAccessToken_created reads named drawn created]
  by_cases alive : truncate issuedAt ≤ now ∧ now < expiry settings issuedAt
  · have sub : uuidOfText (accessTokenPayload settings issuedAt userId role jti).sub = some userId :=
      uuidOfText_str userId
    simp only [if_pos alive, sub]
    cases getById userId rows with
    | none => simp
    | some found =>
      cases active : found.isActive with
      | false =>
        have inactive : ¬ (found = user ∧ user.isActive = true) := by
          rintro ⟨rfl, isActive⟩
          rw [active] at isActive
          cases isActive
        simp only [active, Bool.false_eq_true, if_false, reduceCtorEq, Option.some.injEq, inactive,
          and_false]
      | true =>
        simp only [active, if_true, Except.ok.injEq, Option.some.injEq]
        constructor
        · rintro rfl
          exact ⟨alive, rfl, active⟩
        · rintro ⟨-, rfl, -⟩
          rfl
  · simp [alive]

end EpicKfc.Source.Server.AccessTokens
