import EpicKfc.Lib.JsonRoundTrip
import EpicKfc.Lib.Runs
import EpicKfc.Source.Server.UserAccounts

/-!
# Login identifiers

A user signs in with a username or an e-mail address, and one query matches both
columns. Usernames have no at-sign and addresses have one, which the case mapping
neither adds nor removes, so the two columns never meet and the unique constraint
of each keeps every look-up to one row.
-/

namespace EpicKfc.Guarantees.LoginLookup
open EpicKfc.Lib
open EpicKfc.Lib.JsonText (Text)
open EpicKfc.Lib.SoleMatches (Exclusive)
open EpicKfc.Source.Server
open EpicKfc.Source.Server.UserAccounts
open EpicKfc.Source.Server.WirePayloads (isSpace)

/-! ## Case mapping and trimming -/

section

variable {mapping : CaseMapping}

theorem mem_lowerFrom {lowered : Nat} {text : Text} : ∀ {before : Text},
    lowered ∈ lowerFrom mapping before text → ∃ before' point after', point ∈ text ∧
      lowered ∈ mapping.lowerAt before' point after' := by
  induction text with
  | nil => simp [lowerFrom]
  | cons point after ih =>
    intro before member
    rw [lowerFrom, List.mem_append] at member
    rcases member with here | later
    · exact ⟨before, point, after, by simp, here⟩
    · obtain ⟨before', point', after', belongs, within⟩ := ih later
      exact ⟨before', point', after', List.mem_cons_of_mem point belongs, within⟩

theorem mem_lowerAt_atSign {before after : Text} {point : Nat} :
    atSign ∈ mapping.lowerAt before point after ↔ point = atSign := by
  by_cases ascii : point < 128
  · rw [mapping.ascii before point after ascii, List.mem_singleton]
    unfold asciiLower atSign
    split <;> omega
  · have absent := mapping.noAtSign before point after (by omega)
    have other : point ≠ atSign := by
      unfold atSign
      omega
    exact iff_of_false absent other

theorem atSign_mem_lowerFrom {text : Text} : ∀ {before : Text},
    atSign ∈ lowerFrom mapping before text ↔ atSign ∈ text := by
  induction text with
  | nil => simp [lowerFrom]
  | cons point after ih =>
    intro before
    rw [lowerFrom, List.mem_append, mem_lowerAt_atSign, ih, List.mem_cons, eq_comm]

/-- Normalising an address neither adds nor removes an at-sign. -/
theorem atSign_mem_normalizeEmail {email : Text} :
    atSign ∈ normalizeEmail mapping email ↔ atSign ∈ email := by
  rw [normalizeEmail, lower, atSign_mem_lowerFrom]
  exact ⟨Trimming.mem_of_mem_trim, fun member => Trimming.mem_trim_of_mem member rfl⟩

theorem lowerFrom_of_settled {text : Text} (settled : ∀ point ∈ text, ∀ before after,
    mapping.lowerAt before point after = [point]) :
    ∀ before, lowerFrom mapping before text = text := by
  induction text with
  | nil => exact fun _ => rfl
  | cons point after ih =>
    intro before
    rw [lowerFrom, settled point List.mem_cons_self,
      ih fun other member => settled other (List.mem_cons_of_mem point member)]
    rfl

theorem lower_lower (text : Text) : lower mapping (lower mapping text) = lower mapping text := by
  apply lowerFrom_of_settled
  intro point member
  obtain ⟨before', source, after', -, within⟩ := mem_lowerFrom member
  exact mapping.settled before' source after' point within

/-- A lower-case text begins and ends with blanks only where the text does. -/
theorem trimmed_lower {text : Text} (trimmed : Trimming.Trimmed isSpace text) :
    Trimming.Trimmed isSpace (lower mapping text) := by
  constructor
  · intro lowered first
    cases text with
    | nil => simp [lower, lowerFrom] at first
    | cons point after =>
      have inside : lowered ∈ mapping.lowerAt [] point after := by
        apply List.mem_of_mem_head?
        rw [lower, lowerFrom, List.head?_append_of_ne_nil _ (mapping.nonempty _ _ _)] at first
        exact first
      rw [mapping.blank [] point after lowered inside]
      exact trimmed.starts point rfl
  · have last (rest : Text) : ∀ before, ∀ lowered ∈ (lowerFrom mapping before rest).getLast?,
        ∃ point ∈ rest.getLast?, isSpace lowered = isSpace point := by
      induction rest with
      | nil => simp [lowerFrom]
      | cons point after ih =>
        intro before lowered ends
        by_cases final : after = []
        · subst final
          rw [lowerFrom, lowerFrom, List.append_nil] at ends
          exact ⟨point, rfl, mapping.blank before point [] lowered (List.mem_of_mem_getLast? ends)⟩
        · have more : lowerFrom mapping (before ++ [point]) after ≠ [] := by
            cases after with
            | nil => exact absurd rfl final
            | cons next others => simp [lowerFrom, mapping.nonempty]
          rw [lowerFrom, List.getLast?_append_of_ne_nil _ more] at ends
          obtain ⟨source, at_end, same⟩ := ih _ lowered ends
          refine ⟨source, ?_, same⟩
          rw [List.getLast?_cons_of_ne_nil final]
          exact at_end
    intro lowered ends
    obtain ⟨point, at_end, same⟩ := last text [] lowered ends
    rw [same]
    exact trimmed.ends point at_end

/-- A stored address is its own normal form. -/
theorem normalizeEmail_normalizeEmail (email : Text) :
    normalizeEmail mapping (normalizeEmail mapping email) = normalizeEmail mapping email := by
  have trimmed : Trimming.Trimmed isSpace (normalizeEmail mapping email) :=
    trimmed_lower Trimming.trimmed_trim
  rw [normalizeEmail, strip, Trimming.trim_eq trimmed, normalizeEmail, lower_lower]

end

/-! ## Accounts that register -/

/-- A username is made of the pattern's characters, an address has an at-sign and is stored in
its normal form. -/
structure WellFormed (mapping : CaseMapping) (user : User) : Prop where
  username : atSign ∉ user.username
  email : atSign ∈ user.email
  normal : normalizeEmail mapping user.email = user.email

/-- What holds of every users table. -/
structure Consistent (mapping : CaseMapping) (rows : UserTable) : Prop where
  wellFormed : ∀ user ∈ rows, WellFormed mapping user
  unique : rows.Pairwise fun first second =>
    first.username ≠ second.username ∧ first.email ≠ second.email

theorem not_mem_validUsername {value username : Text}
    (valid : validateUsername value = .ok username) : atSign ∉ username := by
  simp only [validateUsername] at valid
  split at valid
  · cases valid
  · split at valid
    · cases valid
    · next matched =>
      cases valid
      intro member
      have pattern := (not_not.mp matched).2
      have each := List.all_eq_true.mp pattern atSign member
      exact absurd each (by decide)

theorem parseRegisterRequest_ok {validateEmail : Text → Option Text} {username email password : Text}
    {request : RegisterRequest}
    (parsed : parseRegisterRequest validateEmail username email password = .ok request) :
    atSign ∉ request.username ∧ validateEmail email = some request.email := by
  unfold parseRegisterRequest at parsed
  split at parsed
  · cases parsed
  · split at parsed
    · cases parsed
    · cases parsed
    · next valid accepted =>
      split at parsed
      · cases parsed
      · cases parsed
        exact ⟨not_mem_validUsername valid, accepted⟩

section

variable {mapping : CaseMapping}

theorem wellFormed_createUser {id : Uuid} {username email passwordHash : Text}
    (plain : atSign ∉ username) (address : atSign ∈ email) :
    WellFormed mapping (createUser mapping id username email passwordHash) where
  username := plain
  email := atSign_mem_normalizeEmail.mpr address
  normal := normalizeEmail_normalizeEmail email

/-- A registration leaves the table alone or adds a row that fits its constraints. -/
theorem registerUser_cases (call : RegisterCall) (request : RegisterRequest) (rows : UserTable) :
    (registerUser mapping call request rows).2 = rows ∨
      insertUser (createUser mapping call.id request.username request.email call.passwordHash) rows =
        some (registerUser mapping call request rows).2 := by
  unfold registerUser
  split
  · exact Or.inl rfl
  · exact Or.inl rfl
  · exact Or.inl rfl
  · exact Or.inl rfl
  · cases added : insertUser (createUser mapping call.id request.username request.email
        call.passwordHash) rows with
    | none => exact Or.inl (by simp only [added])
    | some rows' => exact Or.inr (by simp only [added])

theorem insertUser_consistent {user : User} {rows rows' : UserTable}
    (consistent : Consistent mapping rows) (fit : WellFormed mapping user)
    (added : insertUser user rows = some rows') : Consistent mapping rows' ∧ rows ⊆ rows' := by
  unfold insertUser at added
  split at added
  · cases added
  · next free =>
    cases added
    refine ⟨⟨?_, ?_⟩, List.subset_append_left rows [user]⟩
    · intro other member
      rcases List.mem_append.mp member with earlier | last
      · exact consistent.wellFormed other earlier
      · rw [List.mem_singleton.mp last]
        exact fit
    · refine List.pairwise_append.mpr ⟨consistent.unique, List.pairwise_singleton _ user, ?_⟩
      intro existing member other last
      rw [List.mem_singleton.mp last]
      constructor
      · exact fun same => free ⟨existing, member, Or.inr (Or.inl same)⟩
      · exact fun same => free ⟨existing, member, Or.inr (Or.inr same)⟩

variable {validateEmail : Text → Option Text}

/-- One registration keeps the table consistent and all its rows. -/
theorem registerStep_consistent
    (accepts : ∀ given address, validateEmail given = some address → atSign ∈ address)
    {rows rows' : UserTable} {call : RegisterCall} (consistent : Consistent mapping rows)
    (moved : registerStep mapping validateEmail rows call = some rows') :
    Consistent mapping rows' ∧ rows ⊆ rows' := by
  unfold registerStep at moved
  split at moved
  · cases moved
    exact ⟨consistent, fun _ member => member⟩
  · next request parsed =>
    cases moved
    obtain ⟨plain, accepted⟩ := parseRegisterRequest_ok parsed
    have address := accepts _ _ accepted
    rcases registerUser_cases call request rows with same | added
    · rw [same]
      exact ⟨consistent, fun _ member => member⟩
    · exact insertUser_consistent consistent (wellFormed_createUser plain address) added

/-- So does any number of them. -/
theorem run_consistent
    (accepts : ∀ given address, validateEmail given = some address → atSign ∈ address)
    {calls : List RegisterCall} : ∀ {rows later : UserTable}, Consistent mapping rows →
      Runs.run (registerStep mapping validateEmail) rows calls = some later →
        Consistent mapping later ∧ rows ⊆ later := by
  induction calls with
  | nil =>
    intro rows later consistent ends
    cases ends
    exact ⟨consistent, fun _ member => member⟩
  | cons call rest ih =>
    intro rows later consistent ends
    cases moved : registerStep mapping validateEmail rows call with
    | none => simp [Runs.run, moved] at ends
    | some middle =>
      rw [Runs.run_cons moved] at ends
      obtain ⟨consistent', grown⟩ := registerStep_consistent accepts consistent moved
      obtain ⟨consistent'', grown'⟩ := ih consistent' ends
      exact ⟨consistent'', fun _ member => grown' (grown member)⟩

theorem consistent_of_reachable
    (accepts : ∀ given address, validateEmail given = some address → atSign ∈ address)
    {rows : UserTable}
    (reached : Runs.Reachable (registerStep mapping validateEmail) (· = []) rows) :
    Consistent mapping rows := by
  apply Runs.invariant_of_preserved _ _ reached
  · rintro rows rfl
    exact ⟨by simp, List.Pairwise.nil⟩
  · exact fun _ _ _ consistent _ moved => (registerStep_consistent accepts consistent moved).1

/-! ## Look-ups -/

/-- A username is no normal form of an address, so no identifier reaches two rows. -/
theorem Consistent.exclusive {rows : UserTable} (consistent : Consistent mapping rows) :
    Exclusive (answersTo mapping) rows := by
  have crossing {value : Text} {first second : User} (fit : WellFormed mapping first)
      (fit' : WellFormed mapping second) (named : first.username = value)
      (addressed : second.email = normalizeEmail mapping value) : False := by
    have address := fit'.email
    rw [addressed, atSign_mem_normalizeEmail, ← named] at address
    exact fit.username address
  apply consistent.unique.imp_of_mem
  intro first second member member' apart value both
  have fit := consistent.wellFormed first member
  have fit' := consistent.wellFormed second member'
  rcases both with ⟨named | addressed, named' | addressed'⟩
  · exact apart.1 (named.trans named'.symm)
  · exact crossing fit fit' named addressed'
  · exact crossing fit' fit named' addressed
  · exact apart.2 (addressed.trans addressed'.symm)

/-- A sign-in attempt is never answered with an internal error. -/
theorem Consistent.authenticate_ok {rows : UserTable} (consistent : Consistent mapping rows)
    (verifyPassword : Text → Text → Bool) (usernameOrEmail password : Text) :
    ∃ result, authenticateUser mapping verifyPassword usernameOrEmail password rows = .ok result := by
  obtain ⟨found, looked⟩ := consistent.exclusive.lookup_ok usernameOrEmail
  have looked' : getByUsernameOrEmail mapping usernameOrEmail rows = .ok found := looked
  simp only [authenticateUser, looked', bind, Except.bind]
  cases found with
  | none => exact ⟨none, rfl⟩
  | some user =>
    by_cases inactive : user.isActive = false
    · exact ⟨none, by simp [inactive, pure, Except.pure]⟩
    · by_cases refused : verifyPassword password user.passwordHash = false
      · exact ⟨none, by simp [inactive, refused, pure, Except.pure]⟩
      · exact ⟨some user, by simp [inactive, refused, pure, Except.pure]⟩

/-- In every users table that registrations make, an identifier matches at most one row and the
look-up never raises, every user is found under each identifier of theirs, and a user found under
an identifier stays the one found, whoever registers later. -/
theorem login_lookup_unambiguous
    (accepts : ∀ given address, validateEmail given = some address → atSign ∈ address)
    {rows : UserTable}
    (reached : Runs.Reachable (registerStep mapping validateEmail) (· = []) rows) :
    (∀ identifier,
      (rows.filter fun user => answersTo mapping identifier user).length ≤ 1 ∧
        ∃ result, getByUsernameOrEmail mapping identifier rows = .ok result) ∧
    (∀ user ∈ rows, normalizeEmail mapping user.email = user.email ∧
      ∀ identifier, identifier = user.username ∨
        normalizeEmail mapping identifier = user.email →
          getByUsernameOrEmail mapping identifier rows = .ok (some user)) ∧
    (∀ calls later, Runs.run (registerStep mapping validateEmail) rows calls = some later →
      ∀ identifier user, getByUsernameOrEmail mapping identifier rows = .ok (some user) →
        getByUsernameOrEmail mapping identifier later = .ok (some user)) := by
  have consistent := consistent_of_reachable accepts reached
  have exclusive := consistent.exclusive
  refine ⟨?_, ?_, ?_⟩
  · exact fun identifier => ⟨exclusive.length_matches identifier, exclusive.lookup_ok identifier⟩
  · intro user member
    refine ⟨(consistent.wellFormed user member).normal, fun identifier own => ?_⟩
    apply exclusive.lookup_eq_some.mpr
    rcases own with named | addressed
    · exact ⟨member, Or.inl named.symm⟩
    · exact ⟨member, Or.inr addressed.symm⟩
  · intro calls later ends identifier user found
    obtain ⟨consistent', grown⟩ := run_consistent accepts consistent ends
    exact SoleMatches.lookup_of_subset exclusive consistent'.exclusive grown found

end

/-! ### Two users -/

def exampleCall (username email : String) (id : Uuid) (rows : UserTable) : RegisterCall where
  username := JsonText.codePoints username
  email := JsonText.codePoints email
  password := JsonText.codePoints "correct horse battery"
  seenForUsername := rows
  seenForEmail := rows
  id := id
  passwordHash := []

/-- Accepts what has an at-sign, as it is. -/
def acceptAddress (given : Text) : Option Text := if atSign ∈ given then some given else none

theorem acceptAddress_atSign (given address : Text) (accepted : acceptAddress given = some address) :
    atSign ∈ address := by
  unfold acceptAddress at accepted
  split at accepted
  · next present =>
    cases accepted
    exact present
  · cases accepted

def alice : User :=
  createUser asciiMapping 1 (JsonText.codePoints "alice") (JsonText.codePoints "alice@example.com") []

def bob : User :=
  createUser asciiMapping 2 (JsonText.codePoints "bob") (JsonText.codePoints "Bob@example.com") []

/-- An address is found in any letter case. -/
theorem bob_found_by_address :
    getByUsernameOrEmail asciiMapping (JsonText.codePoints " BOB@EXAMPLE.COM ") [alice, bob] =
      .ok (some bob) := by
  have reached : Runs.Reachable (registerStep asciiMapping acceptAddress) (· = []) [alice, bob] :=
    @Runs.reachable_of_run _ _ _ _ [] _ [exampleCall "alice" "alice@example.com" 1 [],
      exampleCall " bob" "Bob@example.com" 2 [alice]] rfl rfl
  have lookups := (login_lookup_unambiguous acceptAddress_atSign reached).2.1
  exact (lookups bob (by simp)).2 _ (Or.inr rfl)

end EpicKfc.Guarantees.LoginLookup
