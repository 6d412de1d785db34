import EpicKfc.Guarantees.ProtectedState
import EpicKfc.Lib.Runs
import EpicKfc.Source.Client.ClientFrames

/-!
# Failed logins

A login attempt installs tokens when they arrive, and nothing puts the old ones
back. It leaves the client as it was exactly when it gets no tokens: neither its
own nor those of a refresh that it set off.
-/

namespace EpicKfc.Guarantees.LoginAtomicity
open EpicKfc.Lib
open EpicKfc.Source.Client
open EpicKfc.Source.Client.ClientState
open EpicKfc.Source.Client.StoreDocuments
open EpicKfc.Source.Client.SessionService

/-- What a failed login should leave alone. -/
structure Kept (before after : ClientState) : Prop where
  session : after.session = before.session
  tokens : after.tokens = before.tokens
  memory : after.store.memory = before.store.memory
  path : after.store.path = before.store.path
  passphrase : after.store.secretPassphrase = before.store.secretPassphrase

/-- A login attempt: the command, and the replies to the request it has in flight,
which is always the last one. -/
def loginAttempt (client : ClientState) (password : String) (io : ClientIo)
    (replies : List (Response × ClientIo)) : List (ClientEvent × ClientIo) :=
  (.login password, io) ::
    replies.map fun reply => (.reply client.inFlight.length reply.1, reply.2)

def Continuation.isLogin : Continuation → Bool
  | .loginTokens _ | .loginUser _ _ => true
  | _ => false

/-- A document that answers this exchange carries tokens. -/
def Exchange.bringsTokens : Exchange → Bool
  | .refresh _ _ => true
  | .request request =>
    match request.continuation with
    | .loginTokens _ => true
    | _ => false

/-- The event is the arrival of a document with tokens. -/
def BringsTokens (client : ClientState) (event : ClientEvent × ClientIo) (object : Json.Members) :
    Prop :=
  ∃ index exchange, event.1 = .reply index (.success object) ∧
    client.inFlight[index]? = some exchange ∧ Exchange.bringsTokens exchange = true

def BringsNoTokens (client : ClientState) (event : ClientEvent × ClientIo) : Prop :=
  ∀ object, ¬ BringsTokens client event object

/-- Tokens that arrive are not the ones held before. -/
def BringsNewTokens (held : TokenSet) (client : ClientState) (event : ClientEvent × ClientIo) :
    Prop :=
  ∀ object, BringsTokens client event object →
    (tokensFromJson object).accessToken ≠ held.accessToken

variable (setup : ClientSetup)

/-! ## One reply -/

theorem answered_last {client : ClientState} {others : List Exchange} {exchange : Exchange}
    (last : client.inFlight = others ++ [exchange]) :
    client.inFlight[others.length]? = some exchange ∧
      (client.answered others.length).inFlight = others := by
  constructor
  · simp [last]
  · simp [answered, last, List.eraseIdx_append_of_length_le]

theorem mutate_traffic (client : ClientState) (mutation : JsonLocalStore.StoreMutation)
    (io : StoreIo) :
    (client.mutate setup mutation io).2.tokens = client.tokens ∧
      (client.mutate setup mutation io).2.inFlight = client.inFlight := by
  obtain ⟨files, same⟩ := mutate_eq setup client mutation io
  rw [same]
  exact ⟨rfl, rfl⟩

theorem updateTokens_traffic (client : ClientState) (tokens : TokenSet) (io : ClientIo) :
    (updateTokens setup client tokens io).tokens = client.tokens ∧
      (updateTokens setup client tokens io).inFlight = client.inFlight := by
  unfold updateTokens
  split
  · exact ⟨rfl, rfl⟩
  · exact mutate_traffic setup _ _ _

theorem userArrived_traffic (client : ClientState) (session : AuthSession) (password : String)
    (io : ClientIo) :
    (userArrived setup client session password io).tokens = client.tokens ∧
      (userArrived setup client session password io).inFlight = client.inFlight := by
  unfold userArrived
  split
  · exact ⟨rfl, rfl⟩
  · exact mutate_traffic setup _ _ _

/-- The attempt has ended, or its one exchange is the last in flight. -/
def Underway (others : List Exchange) (client : ClientState) : Prop :=
  client.inFlight = others ∨ ∃ exchange, client.inFlight = others ++ [exchange] ∧
    Continuation.isLogin exchange.continuation = true

theorem refreshedTokens_accessToken (previousRefreshToken : String) (object : Json.Members) :
    (refreshedTokens previousRefreshToken object).accessToken =
      (tokensFromJson object).accessToken := by
  simp only [refreshedTokens]
  split <;> rfl

theorem underway_send {others : List Exchange} {client : ClientState}
    (rest : client.inFlight = others) (accessToken : String) (alreadyRetried : Bool)
    {continuation : Continuation} (isLogin : Continuation.isLogin continuation = true) :
    Underway others (client.send accessToken alreadyRetried continuation) := by
  refine Or.inr ⟨.request ⟨client.effectiveAccessToken accessToken, accessToken, alreadyRetried,
    continuation⟩, ?_, isLogin⟩
  rw [← rest]
  rfl

/-- A reply to the attempt's exchange installs the tokens it brings, if any. -/
theorem finished_underway {client : ClientState} (io : ClientIo) {exchange : Exchange}
    (response : Response) (isLogin : Continuation.isLogin exchange.continuation = true) :
    Underway client.inFlight (finished setup client io exchange response) ∧
      (finished setup client io exchange response).tokens.accessToken =
        match response with
        | .success object =>
          if Exchange.bringsTokens exchange then (tokensFromJson object).accessToken
          else client.tokens.accessToken
        | .failure _ _ => client.tokens.accessToken := by
  cases exchange with
  | refresh previousRefreshToken retried =>
    cases response with
    | failure statusCode error => exact ⟨Or.inl rfl, rfl⟩
    | success object =>
      obtain ⟨tokens, inFlight⟩ := updateTokens_traffic setup
        { client with tokens := refreshedTokens previousRefreshToken object }
        (refreshedTokens previousRefreshToken object) io
      refine ⟨underway_send inFlight _ true isLogin, ?_⟩
      simp only [finished, tokensRefreshed, send, awaits, tokens]
      exact refreshedTokens_accessToken previousRefreshToken object
  | request request =>
    cases response with
    | failure statusCode error =>
      simp only [finished]
      split
      · exact ⟨Or.inr ⟨_, rfl, isLogin⟩, rfl⟩
      · exact ⟨Or.inl rfl, rfl⟩
    | success object =>
      obtain ⟨authorization, accessToken, alreadyRetried, continuation⟩ := request
      cases continuation with
      | loginTokens password => exact ⟨Or.inr ⟨_, rfl, rfl⟩, rfl⟩
      | loginUser tokens password =>
        obtain ⟨same, inFlight⟩ := userArrived_traffic setup client ⟨userFromJson object, tokens⟩
          password io
        exact ⟨Or.inl inFlight, congrArg TokenSet.accessToken same⟩
      | _ => simp [Continuation.isLogin, Exchange.continuation] at isLogin

/-- A reply of the attempt that is handled. -/
theorem attempt_step {others : List Exchange} {client after : ClientState} {reply : Response × ClientIo}
    (underway : Underway others client)
    (moved : clientStep setup client (.reply others.length reply.1, reply.2) = some after) :
    ∃ exchange, client.inFlight = others ++ [exchange] ∧
      Continuation.isLogin exchange.continuation = true ∧
      after = finished setup (client.answered others.length) reply.2 exchange reply.1 := by
  simp only [clientStep, Option.map_eq_some_iff] at moved
  obtain ⟨exchange, present, rfl⟩ := moved
  rcases underway with ended | ⟨awaited, last, isLogin⟩
  · simp [ended] at present
  · cases (answered_last last).1.symm.trans present
    exact ⟨exchange, last, isLogin, rfl⟩

/-! ## A whole attempt -/

theorem attempt_underway {others : List Exchange} {client after : ClientState}
    {reply : Response × ClientIo} (underway : Underway others client)
    (moved : clientStep setup client (.reply others.length reply.1, reply.2) = some after) :
    Underway others after ∧
      (BringsNoTokens client (.reply others.length reply.1, reply.2) ∧
          after.tokens.accessToken = client.tokens.accessToken ∨
        ∃ object, BringsTokens client (.reply others.length reply.1, reply.2) object ∧
          after.tokens.accessToken = (tokensFromJson object).accessToken) := by
  obtain ⟨exchange, last, isLogin, rfl⟩ := attempt_step setup underway moved
  obtain ⟨present, rest⟩ := answered_last last
  obtain ⟨next, tokens⟩ := @finished_underway setup (client.answered others.length) reply.2 exchange
    reply.1 isLogin
  rw [rest] at next
  refine ⟨next, ?_⟩
  cases answer : reply.1 with
  | failure statusCode error =>
    rw [answer] at tokens
    left
    refine ⟨?_, tokens⟩
    rintro object ⟨index, other, same, _⟩
    cases same
  | success object =>
    rw [answer] at tokens
    by_cases brings : Exchange.bringsTokens exchange = true
    · simp only [if_pos brings] at tokens
      exact Or.inr ⟨object, ⟨others.length, exchange, rfl, present, brings⟩, tokens⟩
    · simp only [if_neg brings] at tokens
      left
      refine ⟨?_, tokens⟩
      rintro object' ⟨index, other, same, there, brings'⟩
      cases same
      cases present.symm.trans there
      exact brings brings'

/-- New tokens that have arrived stay, whatever else the attempt receives. -/
theorem replaced_of_arrived {held : TokenSet} {others : List Exchange}
    (replies : List (Response × ClientIo)) : ∀ {client after : ClientState},
      Underway others client →
      Runs.EveryStep (clientStep setup) (BringsNewTokens held) client
        (replies.map fun reply => (.reply others.length reply.1, reply.2)) →
      Runs.run (clientStep setup) client
        (replies.map fun reply => (.reply others.length reply.1, reply.2)) = some after →
      (Runs.EveryStep (clientStep setup) BringsNoTokens client
          (replies.map fun reply => (.reply others.length reply.1, reply.2)) ∨
        after.tokens.accessToken ≠ held.accessToken) ∧
      (client.tokens.accessToken ≠ held.accessToken →
        after.tokens.accessToken ≠ held.accessToken) := by
  induction replies with
  | nil =>
    intro client after _ _ ends
    cases ends
    exact ⟨Or.inl trivial, id⟩
  | cons reply rest ih =>
    intro client after underway new ends
    cases moved : clientStep setup client (.reply others.length reply.1, reply.2) with
    | none => simp [Runs.run, moved] at ends
    | some middle =>
      simp only [List.map_cons, Runs.run, moved, Option.bind_some] at ends
      obtain ⟨underway', brings⟩ := attempt_underway setup underway moved
      obtain ⟨later, stays⟩ := ih underway' (new.2 middle moved) ends
      rcases brings with ⟨nothing, same⟩ | ⟨object, arrived, installed⟩
      · refine ⟨later.imp_left fun quiet => .cons nothing moved quiet, fun replaced => stays ?_⟩
        rw [same]
        exact replaced
      · have replaced : middle.tokens.accessToken ≠ held.accessToken :=
          installed ▸ new.1 object arrived
        exact ⟨Or.inr (stays replaced), fun _ => stays replaced⟩

/-- Before tokens arrive the client only waits: for the tokens, or for a refresh. -/
def Waits (client state : ClientState) : Prop :=
  state = client ∨ ∃ exchange, state = client.awaits exchange ∧
    Exchange.bringsTokens exchange = true ∧ Continuation.isLogin exchange.continuation = true

theorem kept_of_waits {client state : ClientState} (waits : Waits client state) :
    Kept client state := by
  rcases waits with rfl | ⟨exchange, rfl, _⟩ <;> exact ⟨rfl, rfl, rfl, rfl, rfl⟩

theorem answered_awaits (client : ClientState) (exchange : Exchange) :
    (client.awaits exchange).answered client.inFlight.length = client := by
  simp [answered, awaits, List.eraseIdx_append_of_length_le]

theorem waits_step {client state after : ClientState} {reply : Response × ClientIo}
    (waits : Waits client state)
    (quiet : BringsNoTokens state (.reply client.inFlight.length reply.1, reply.2))
    (moved : clientStep setup state (.reply client.inFlight.length reply.1, reply.2) = some after) :
    Waits client after := by
  simp only [clientStep, Option.map_eq_some_iff] at moved
  obtain ⟨exchange, present, rfl⟩ := moved
  rcases waits with rfl | ⟨awaited, rfl, brings, isLogin⟩
  · simp at present
  · have here : (client.awaits awaited).inFlight = client.inFlight ++ [awaited] := rfl
    cases (answered_last here).1.symm.trans present
    rw [answered_awaits]
    cases answer : reply.1 with
    | success object =>
      exact absurd ⟨_, exchange, by rw [answer], present, brings⟩ (quiet object)
    | failure statusCode error =>
      cases exchange with
      | refresh previousRefreshToken retried => exact Or.inl rfl
      | request request =>
        simp only [finished]
        split
        · exact Or.inr ⟨_, rfl, rfl, isLogin⟩
        · exact Or.inl rfl

theorem kept_of_quiet {client : ClientState} (replies : List (Response × ClientIo)) :
    ∀ {state after : ClientState}, Waits client state →
      Runs.EveryStep (clientStep setup) BringsNoTokens state
        (replies.map fun reply => (.reply client.inFlight.length reply.1, reply.2)) →
      Runs.run (clientStep setup) state
        (replies.map fun reply => (.reply client.inFlight.length reply.1, reply.2)) = some after →
      Kept client after := by
  induction replies with
  | nil =>
    intro state after waits _ ends
    cases ends
    exact kept_of_waits waits
  | cons reply rest ih =>
    intro state after waits quiet ends
    cases moved : clientStep setup state (.reply client.inFlight.length reply.1, reply.2) with
    | none => simp [Runs.run, moved] at ends
    | some middle =>
      simp only [List.map_cons, Runs.run, moved, Option.bind_some] at ends
      exact ih (waits_step setup waits quiet.1 moved) (quiet.2 middle moved) ends

/-- At its end, and at every point before, a login attempt has left session, tokens and
store as they were exactly when no tokens have arrived in it. -/
theorem login_keeps_client_iff (client after : ClientState) (password : String) (io : ClientIo)
    (replies : List (Response × ClientIo))
    (new : Runs.EveryStep (clientStep setup) (BringsNewTokens client.tokens) client
      (loginAttempt client password io replies))
    (ran : Runs.run (clientStep setup) client (loginAttempt client password io replies) =
      some after) :
    Kept client after ↔ Runs.EveryStep (clientStep setup) BringsNoTokens client
      (loginAttempt client password io replies) := by
  have begun : clientStep setup client (.login password, io) = some (login client password) := rfl
  have starts : Waits client (login client password) := Or.inr ⟨_, rfl, rfl, rfl⟩
  have underway : Underway client.inFlight (login client password) :=
    underway_send rfl "" false rfl
  have silent : BringsNoTokens client (.login password, io) := by
    rintro object ⟨index, exchange, same, _⟩
    cases same
  rw [loginAttempt, Runs.run_cons begun] at ran
  constructor
  · intro kept
    obtain ⟨quiet | replaced, _⟩ :=
      replaced_of_arrived setup replies underway (new.2 _ begun) ran
    · exact .cons silent begun quiet
    · exact absurd (congrArg TokenSet.accessToken kept.tokens) replaced
  · intro quiet
    exact kept_of_quiet setup replies starts (quiet.2 _ begun) ran

/-! ## Alice is logged in, and a login as bob fails -/

/-- Bob's state file, which the passphrase of this login does not open. -/
def bobFiles : Files := fun path =>
  if path = bobId ++ "-client-state.json" then some ProtectedState.lockedDocument else none

def aliceStart : ClientState := { sampleStart with files := bobFiles }

def refused (statusCode : Nat) : Response × ClientIo :=
  (.failure statusCode ⟨.httpError, "refused"⟩, sampleIo)

def bobTokens : Response × ClientIo := (.success (tokensDocument "access of bob" "refresh"), sampleIo)

def bobUser : Response × ClientIo := (.success (userDocument bobId), sampleIo)

/-- The refused user request leaves bob's tokens to alice's session; the failed reload
leaves it bob's path and passphrase as well, and an empty store. -/
theorem failed_login_changes_client : ∃ client afterUser afterReload,
    Runs.run (clientStep sampleSetup) aliceStart (sampleLogin aliceId) = some client ∧
    Runs.run (clientStep sampleSetup) client
      (loginAttempt client "password of bob" sampleIo [bobTokens, refused 500]) = some afterUser ∧
    Runs.run (clientStep sampleSetup) client
      (loginAttempt client "password of bob" sampleIo [bobTokens, bobUser]) = some afterReload ∧
    afterUser.session = client.session ∧ afterUser.tokens ≠ client.tokens ∧
    afterReload.session = client.session ∧ afterReload.tokens ≠ client.tokens ∧
    afterReload.store.path ≠ client.store.path ∧
    afterReload.store.secretPassphrase ≠ client.store.secretPassphrase ∧
    afterReload.store.memory ≠ client.store.memory := by
  have begins : Runs.run (clientStep sampleSetup) aliceStart (sampleLogin aliceId) = some _ := rfl
  refine ⟨_, _, _, begins, rfl, rfl, rfl, ?_, rfl, ?_, ?_, ?_, ?_⟩ <;> decide

/-- Alice is logged in, and one of her requests is in flight. -/
def aliceAtWork : List (ClientEvent × ClientIo) :=
  sampleLogin aliceId ++ [(.otherRequest true, sampleIo)]

def aliceClient : ClientState :=
  (Runs.run (clientStep sampleSetup) aliceStart aliceAtWork).getD aliceStart

theorem bringsNewTokens_of_document {held : TokenSet} {client : ClientState}
    {event : ClientEvent × ClientIo} (new : ∀ index object, event.1 = .reply index (.success object) →
      (tokensFromJson object).accessToken ≠ held.accessToken) : BringsNewTokens held client event := by
  rintro object ⟨index, exchange, same, _⟩
  exact new index object same

theorem everyStep_refused {client : ClientState} {meets : ClientState → ClientEvent × ClientIo → Prop}
    (unanswered : ∀ client event, (∀ index object, event.1 ≠ .reply index (.success object)) →
      meets client event) (statusCodes : List Nat) :
    Runs.EveryStep (clientStep sampleSetup) meets client
      (loginAttempt client "password of bob" sampleIo (statusCodes.map refused)) := by
  refine Runs.everyStep_of_forall (fun event member state => ?_) client
  refine unanswered state event fun index object same => ?_
  rcases List.mem_cons.mp member with rfl | reply
  · cases same
  · obtain ⟨answer, listed, rfl⟩ := List.mem_map.mp reply
    obtain ⟨statusCode, _, rfl⟩ := List.mem_map.mp listed
    cases same

/-- A login as bob that is refused, and so is the refresh it sets off, leaves alice's client as
it was; one whose tokens arrive before it fails does not. -/
theorem login_keeps_client_iff_alice : ∃ afterRefusal afterTokens,
    Runs.run (clientStep sampleSetup) aliceStart aliceAtWork = some aliceClient ∧
    aliceClient.currentUserId = aliceId ∧ aliceClient.inFlight.length = 1 ∧
    Runs.run (clientStep sampleSetup) aliceClient
      (loginAttempt aliceClient "password of bob" sampleIo ([401, 401].map refused)) =
        some afterRefusal ∧
    Kept aliceClient afterRefusal ∧
    Runs.run (clientStep sampleSetup) aliceClient
      (loginAttempt aliceClient "password of bob" sampleIo [bobTokens, refused 500]) =
        some afterTokens ∧
    ¬ Kept aliceClient afterTokens := by
  have refusal : Runs.run (clientStep sampleSetup) aliceClient
      (loginAttempt aliceClient "password of bob" sampleIo ([401, 401].map refused)) = some _ := rfl
  have tokens : Runs.run (clientStep sampleSetup) aliceClient
      (loginAttempt aliceClient "password of bob" sampleIo [bobTokens, refused 500]) = some _ := rfl
  refine ⟨_, _, rfl, rfl, rfl, refusal, ?_, tokens, fun kept => ?_⟩
  · refine (login_keeps_client_iff sampleSetup aliceClient _ _ _ _ ?_ refusal).mpr ?_
    · exact everyStep_refused (fun _ _ unanswered => bringsNewTokens_of_document
        fun index object same => absurd same (unanswered index object)) [401, 401]
    · refine everyStep_refused (fun _ _ unanswered object brings => ?_) [401, 401]
      obtain ⟨index, exchange, same, _⟩ := brings
      exact unanswered index object same
  · have silent := (login_keeps_client_iff sampleSetup aliceClient _ _ _ _ ?_ tokens).mp kept
    · exact (silent.2 _ rfl).1 _ ⟨1, _, rfl, rfl, rfl⟩
    · refine Runs.everyStep_of_forall (fun event member state => ?_) _
      refine bringsNewTokens_of_document fun index object same => ?_
      simp only [loginAttempt, bobTokens, refused, List.map_cons, List.map_nil, List.mem_cons,
        List.not_mem_nil, or_false] at member
      rcases member with rfl | rfl | rfl
      · cases same
      · cases same
        decide
      · cases same

end EpicKfc.Guarantees.LoginAtomicity
