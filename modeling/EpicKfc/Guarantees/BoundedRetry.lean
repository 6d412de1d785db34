import EpicKfc.Source.Client.HttpTraffic
import Mathlib.Data.List.Count

/-!
# One answer and at most three exchanges

A request given to the HTTP client is sent, refreshed at most once and retried at
most once. Its callback is called when the last of these exchanges has been
handled, and not before or after, whatever the replies are and whatever the other
requests do.
-/

namespace EpicKfc.Guarantees.BoundedRetry
open EpicKfc.Lib
open EpicKfc.Source.Client (Result TokenSet)
open EpicKfc.Source.Client.Http

/-- The exchanges for a caller, oldest first. -/
def sentFor (traffic : Traffic) (caller : CallerId) : List Exchange :=
  traffic.sent.filter fun exchange => exchange.callback.callerId = caller

/-- The results its callback was called with. -/
def answersFor (traffic : Traffic) (caller : CallerId) : List (CallerId × Result Json) :=
  traffic.client.completed.filter fun answer => answer.1 = caller

def InFlight (traffic : Traffic) (caller : CallerId) (id : ExchangeId) (exchange : Exchange) : Prop :=
  exchange.callback.callerId = caller ∧ ∃ reply, traffic.client.network id = some (exchange, reply)

/-- The request, one refresh and one retry, as far as they were sent; the last of them. -/
inductive Stage (caller : CallerId) (request : HttpRequest) : List Exchange → Exchange → Prop where
  | attempt {first : Exchange} : IsAttempt caller request first → Stage caller request [first] first
  | refresh {first second : Exchange} : IsAttempt caller request first →
      IsRefresh caller request second → Stage caller request [first, second] second
  | retry {first second third : Exchange} : IsAttempt caller request first →
      IsRefresh caller request second → IsRetry caller request third →
      Stage caller request [first, second, third] third

/-- The last exchange is in flight and the caller waits, or all are handled and it was
answered once. -/
inductive Progress (traffic : Traffic) (caller : CallerId) (request : HttpRequest) : Prop where
  | waiting (last : Exchange) (id : ExchangeId) :
      Stage caller request (sentFor traffic caller) last → InFlight traffic caller id last →
      (∀ other exchange, InFlight traffic caller other exchange → other = id) →
      answersFor traffic caller = [] →
      traffic.handled.count caller + 1 = (sentFor traffic caller).length →
      Progress traffic caller request
  | answered (last : Exchange) (result : Result Json) :
      Stage caller request (sentFor traffic caller) last →
      (∀ id exchange, ¬ InFlight traffic caller id exchange) →
      answersFor traffic caller = [(caller, result)] →
      traffic.handled.count caller = (sentFor traffic caller).length →
      Progress traffic caller request

structure Tracked (traffic : Traffic) : Prop where
  bounded : ∀ id entry, traffic.client.network id = some entry → id < traffic.client.next
  owned : ∀ caller id exchange, InFlight traffic caller id exchange →
    ∃ request, (caller, request) ∈ traffic.started
  unknown : ∀ caller, caller ∉ traffic.started.map Prod.fst → sentFor traffic caller = [] ∧
    answersFor traffic caller = [] ∧ traffic.handled.count caller = 0
  progress : ∀ caller request, (caller, request) ∈ traffic.started →
    Progress traffic caller request

theorem Stage.length_le {caller : CallerId} {request : HttpRequest} {sent : List Exchange}
    {last : Exchange} (stage : Stage caller request sent last) : sent.length ≤ 3 := by
  cases stage with
  | attempt => simp
  | refresh => simp
  | retry => simp

theorem Stage.callerId {caller : CallerId} {request : HttpRequest} {sent : List Exchange}
    {last : Exchange} (stage : Stage caller request sent last) : last.callback.callerId = caller := by
  cases stage with
  | attempt first => rw [first.callback, Callback.callerId]
  | refresh _ second =>
    obtain ⟨previous, callback⟩ := second.callback
    rw [callback, Callback.callerId, Callback.callerId]
  | retry _ _ third => rw [third.callback, Callback.callerId]

/-- The reply to the last exchange answers the caller or leads to the next stage. -/
theorem Stage.finished {caller : CallerId} {request : HttpRequest} {sent : List Exchange}
    {last : Exchange} (stage : Stage caller request sent last) (client : HttpClient) (reply : Reply) :
    Answers caller client (Source.Client.Http.finished client last reply) ∨
      ∃ next, Stage caller request (sent ++ [next]) next ∧
        Sends next client (Source.Client.Http.finished client last reply) := by
  cases stage with
  | attempt first =>
    obtain answers | ⟨next, refresh, sends⟩ := finished_attempt client first reply
    · exact Or.inl answers
    · exact Or.inr ⟨next, .refresh first refresh, sends⟩
  | refresh first second =>
    obtain answers | ⟨next, retry, sends⟩ := finished_refresh client second reply
    · exact Or.inl answers
    · exact Or.inr ⟨next, .retry first second retry, sends⟩
  | retry _ _ third => exact Or.inl (finished_retry client third reply)

/-! ## Other callers -/

/-- What a step for another caller leaves alone. -/
structure Untouched (caller : CallerId) (before after : Traffic) : Prop where
  sent : sentFor after caller = sentFor before caller
  answers : answersFor after caller = answersFor before caller
  handled : after.handled.count caller = before.handled.count caller
  inFlight : ∀ id exchange, InFlight after caller id exchange ↔ InFlight before caller id exchange

theorem Untouched.progress {caller : CallerId} {request : HttpRequest} {before after : Traffic}
    (untouched : Untouched caller before after) (progress : Progress before caller request) :
    Progress after caller request := by
  obtain ⟨sent, answers, handled, inFlight⟩ := untouched
  cases progress with
  | waiting last id stage flies alone none' counted =>
    refine .waiting last id (sent ▸ stage) ((inFlight id last).mpr flies) ?_ (answers.trans none') ?_
    · exact fun other exchange flies => alone other exchange ((inFlight other exchange).mp flies)
    · rw [handled, sent]
      exact counted
  | answered last result stage quiet once counted =>
    refine .answered last result (sent ▸ stage) ?_ (answers.trans once) ?_
    · exact fun id exchange flies => quiet id exchange ((inFlight id exchange).mp flies)
    · rw [handled, sent]
      exact counted

/-! ## One reply -/

section Replies
variable {traffic : Traffic} {id : ExchangeId} {exchange : Exchange}

/-- The traffic once the handler of an exchange has left the client in a state. -/
def replied (traffic : Traffic) (id : ExchangeId) (exchange : Exchange) (client : HttpClient) :
    Traffic :=
  { traffic with
    client := client
    sent := traffic.sent ++ newExchanges (traffic.client.remove id) client
    handled := exchange.callback.callerId :: traffic.handled }

theorem network_remove (client : HttpClient) (id other : ExchangeId) :
    (client.remove id).network other = if other = id then none else client.network other :=
  Function.update_apply ..

theorem inFlight_of_answers {caller : CallerId} {client : HttpClient}
    (answers : Answers caller (traffic.client.remove id) client) (other : CallerId)
    (place : ExchangeId) (shown : Exchange) :
    InFlight (replied traffic id exchange client) other place shown ↔
      place ≠ id ∧ InFlight traffic other place shown := by
  simp only [InFlight, replied, answers.network, network_remove]
  by_cases same : place = id
  · simp [same]
  · simp [same]

theorem inFlight_of_sends {next : Exchange} {client : HttpClient}
    (bounded : ∀ id entry, traffic.client.network id = some entry → id < traffic.client.next)
    (sends : Sends next (traffic.client.remove id) client) (other : CallerId)
    (place : ExchangeId) (shown : Exchange) :
    InFlight (replied traffic id exchange client) other place shown ↔
      (place = traffic.client.next ∧ shown = next ∧ next.callback.callerId = other) ∨
        place ≠ id ∧ InFlight traffic other place shown := by
  have network (place : ExchangeId) : client.network place =
      if place = traffic.client.next then some (next, none)
      else if place = id then none else traffic.client.network place := by
    rw [sends.network, Function.update_apply, network_remove]
    rfl
  simp only [InFlight, replied, network]
  by_cases new : place = traffic.client.next
  · subst new
    have free : ∀ entry, traffic.client.network traffic.client.next ≠ some entry :=
      fun entry here => absurd (bounded _ entry here) (Nat.lt_irrefl _)
    simp only [if_true, Option.some.injEq, Prod.mk.injEq, exists_and_left, free, exists_false,
      and_false, or_false, true_and]
    constructor
    · rintro ⟨owner, rfl, _⟩
      exact ⟨rfl, owner⟩
    · rintro ⟨rfl, owner⟩
      exact ⟨owner, rfl, none, rfl⟩
  · by_cases same : place = id
    · subst same
      simp [new]
    · simp [new, same]

theorem ne_of_inFlight {caller other : CallerId} (owner : exchange.callback.callerId = caller)
    (here : ∃ reply, traffic.client.network id = some (exchange, reply))
    (different : other ≠ caller) {place : ExchangeId} {shown : Exchange}
    (flies : InFlight traffic other place shown) : place ≠ id := by
  rintro rfl
  obtain ⟨reply, stored⟩ := here
  obtain ⟨same, reply', stored'⟩ := flies
  rw [stored, Option.some.injEq, Prod.mk.injEq] at stored'
  rw [← stored'.1, owner] at same
  exact different same.symm

/-- A reply to another caller's exchange. -/
theorem untouched_of_answers {caller : CallerId} {client : HttpClient}
    (owner : exchange.callback.callerId = caller)
    (here : ∃ reply, traffic.client.network id = some (exchange, reply))
    (answers : Answers caller (traffic.client.remove id) client) {other : CallerId}
    (different : other ≠ caller) : Untouched other traffic (replied traffic id exchange client) where
  sent := by
    simp only [sentFor, replied, newExchanges_of_answers answers, List.append_nil]
  answers := by
    obtain ⟨result, completed⟩ := answers.completed
    simp only [answersFor, replied, completed]
    rw [List.filter_cons_of_neg (by simpa using Ne.symm different)]
    rfl
  handled := by
    rw [replied, owner, List.count_cons_of_ne (Ne.symm different)]
  inFlight := by
    intro place shown
    rw [inFlight_of_answers answers]
    constructor
    · exact And.right
    · exact fun flies => ⟨ne_of_inFlight owner here different flies, flies⟩

theorem untouched_of_sends {caller : CallerId} {next : Exchange} {client : HttpClient}
    (owner : exchange.callback.callerId = caller)
    (here : ∃ reply, traffic.client.network id = some (exchange, reply))
    (bounded : ∀ id entry, traffic.client.network id = some entry → id < traffic.client.next)
    (sends : Sends next (traffic.client.remove id) client)
    (nextOwner : next.callback.callerId = caller) {other : CallerId}
    (different : other ≠ caller) : Untouched other traffic (replied traffic id exchange client) where
  sent := by
    simp only [sentFor, replied, newExchanges_of_sends sends, List.filter_append]
    rw [List.filter_singleton]
    simp [nextOwner, Ne.symm different]
  answers := by
    simp only [answersFor, replied, sends.completed]
    rfl
  handled := by
    rw [replied, owner, List.count_cons_of_ne (Ne.symm different)]
  inFlight := by
    intro place shown
    rw [inFlight_of_sends bounded sends]
    constructor
    · rintro (⟨-, -, same⟩ | ⟨-, flies⟩)
      · exact absurd (same.symm.trans nextOwner) different
      · exact flies
    · exact fun flies => Or.inr ⟨ne_of_inFlight owner here different flies, flies⟩

/-- A caller with an exchange in flight waits for that one. -/
theorem Progress.waits {caller : CallerId} {request : HttpRequest}
    (progress : Progress traffic caller request) (flies : InFlight traffic caller id exchange) :
    Stage caller request (sentFor traffic caller) exchange ∧
      (∀ other shown, InFlight traffic caller other shown → other = id) ∧
      answersFor traffic caller = [] ∧
      traffic.handled.count caller + 1 = (sentFor traffic caller).length := by
  cases progress with
  | answered _ _ _ quiet => exact absurd flies (quiet id exchange)
  | waiting last place stage waits alone none' counted =>
    obtain rfl : id = place := alone id exchange flies
    obtain rfl : exchange = last := by
      obtain ⟨-, reply, stored⟩ := flies
      obtain ⟨-, reply', stored'⟩ := waits
      rw [stored, Option.some.injEq, Prod.mk.injEq] at stored'
      exact stored'.1
    exact ⟨stage, alone, none', counted⟩

/-- The reply to the exchange a caller waits for. -/
theorem Progress.replied {caller : CallerId} {request : HttpRequest}
    (progress : Progress traffic caller request)
    (bounded : ∀ id entry, traffic.client.network id = some entry → id < traffic.client.next)
    (flies : InFlight traffic caller id exchange) (reply : Reply) :
    Progress (BoundedRetry.replied traffic id exchange
      (Source.Client.Http.finished (traffic.client.remove id) exchange reply)) caller request := by
  obtain ⟨stage, alone, none', counted⟩ := progress.waits flies
  have handled (client : HttpClient) :
      (BoundedRetry.replied traffic id exchange client).handled.count caller =
        (sentFor traffic caller).length := by
    rw [BoundedRetry.replied, flies.1, List.count_cons_self]
    exact counted
  have handling := stage.finished (traffic.client.remove id) reply
  generalize Source.Client.Http.finished (traffic.client.remove id) exchange reply = client
    at handling ⊢
  obtain answers | ⟨next, later, sends⟩ := handling
  · obtain ⟨result, completed⟩ := answers.completed
    have sent : sentFor (BoundedRetry.replied traffic id exchange client) caller =
        sentFor traffic caller := by
      simp only [sentFor, BoundedRetry.replied, newExchanges_of_answers answers, List.append_nil]
    refine .answered exchange result (sent ▸ stage) ?_ ?_ ((handled _).trans (by rw [sent]))
    · intro place shown still
      obtain ⟨different, old⟩ := (inFlight_of_answers answers caller place shown).mp still
      exact different (alone place shown old)
    · simp only [answersFor, BoundedRetry.replied, completed]
      rw [List.filter_cons_of_pos (by simp)]
      exact congrArg _ none'
  · have owner := later.callerId
    have sent : sentFor (BoundedRetry.replied traffic id exchange client) caller =
        sentFor traffic caller ++ [next] := by
      simp only [sentFor, BoundedRetry.replied, newExchanges_of_sends sends, List.filter_append,
        List.filter_singleton, owner, decide_true]
      rfl
    refine .waiting next traffic.client.next (sent ▸ later) ?_ ?_ ?_ ?_
    · exact (inFlight_of_sends bounded sends caller _ _).mpr (Or.inl ⟨rfl, rfl, owner⟩)
    · intro place shown still
      obtain ⟨new, -, -⟩ | ⟨different, old⟩ :=
        (inFlight_of_sends bounded sends caller place shown).mp still
      · exact new
      · exact absurd (alone place shown old) different
    · simp only [answersFor, BoundedRetry.replied, sends.completed]
      exact none'
    · rw [handled, sent, List.length_append, List.length_singleton]

end Replies

/-! ## Steps -/

variable {traffic : Traffic}

/-- Other callers do not notice a reply. -/
theorem untouched_of_replied (before : Tracked traffic) {id : ExchangeId} {exchange : Exchange}
    (here : ∃ reply, traffic.client.network id = some (exchange, reply)) (reply : Reply)
    {other : CallerId} (different : other ≠ exchange.callback.callerId) :
    Untouched other traffic (BoundedRetry.replied traffic id exchange
      (Source.Client.Http.finished (traffic.client.remove id) exchange reply)) := by
  obtain ⟨request, given⟩ := before.owned _ id exchange ⟨rfl, here⟩
  obtain ⟨stage, -⟩ := (before.progress _ request given).waits ⟨rfl, here⟩
  obtain answers | ⟨next, later, sends⟩ := stage.finished (traffic.client.remove id) reply
  · exact untouched_of_answers rfl here answers different
  · exact untouched_of_sends rfl here before.bounded sends later.callerId different

theorem Tracked.replied (before : Tracked traffic) {id : ExchangeId} {exchange : Exchange}
    (here : ∃ reply, traffic.client.network id = some (exchange, reply)) (reply : Reply) :
    Tracked (BoundedRetry.replied traffic id exchange
      (Source.Client.Http.finished (traffic.client.remove id) exchange reply)) := by
  obtain ⟨request, given⟩ := before.owned _ id exchange ⟨rfl, here⟩
  obtain ⟨stage, -⟩ := (before.progress _ request given).waits ⟨rfl, here⟩
  constructor
  · intro place entry stored
    obtain answers | ⟨next, later, sends⟩ := stage.finished (traffic.client.remove id) reply
    · simp only [BoundedRetry.replied, answers.network, answers.next, network_remove] at stored ⊢
      split at stored
      · cases stored
      · exact before.bounded place entry stored
    · simp only [BoundedRetry.replied, sends.network, sends.next, Function.update_apply,
        network_remove] at stored ⊢
      split at stored
      · next new => exact new ▸ Nat.lt_succ_self _
      · split at stored
        · cases stored
        · exact Nat.lt_succ_of_lt (before.bounded place entry stored)
  · intro caller place shown flies
    by_cases same : caller = exchange.callback.callerId
    · exact ⟨request, same ▸ given⟩
    · have untouched := untouched_of_replied before here reply same
      exact before.owned caller place shown ((untouched.inFlight place shown).mp flies)
  · intro caller absent
    have different : caller ≠ exchange.callback.callerId := by
      rintro rfl
      exact absent (List.mem_map_of_mem given)
    obtain ⟨sent, answers, handled, -⟩ := untouched_of_replied before here reply different
    rw [sent, answers, handled]
    exact before.unknown caller absent
  · intro caller wanted asked
    by_cases same : caller = exchange.callback.callerId
    · subst same
      exact (before.progress _ wanted asked).replied before.bounded ⟨rfl, here⟩ reply
    · exact (untouched_of_replied before here reply same).progress
        (before.progress caller wanted asked)

/-- The traffic once a new caller's request has been sent. -/
def begun (traffic : Traffic) (caller : CallerId) (request : HttpRequest) : Traffic :=
  let client := send traffic.client request (.caller caller) false
  { traffic with
    client := client
    started := (caller, request) :: traffic.started
    sent := traffic.sent ++ newExchanges traffic.client client }

def attempt (traffic : Traffic) (caller : CallerId) (request : HttpRequest) : Exchange :=
  ⟨request, effectiveAccessToken traffic.client request.accessToken, false, .caller caller⟩

theorem sent_begun (traffic : Traffic) (caller : CallerId) (request : HttpRequest) :
    (begun traffic caller request).sent = traffic.sent ++ [attempt traffic caller request] := by
  simp only [begun, newExchanges_of_sends (sends_send ..)]
  rfl

theorem inFlight_begun (bounded : ∀ id entry, traffic.client.network id = some entry →
    id < traffic.client.next) (caller : CallerId) (request : HttpRequest) (other : CallerId)
    (place : ExchangeId) (shown : Exchange) :
    InFlight (begun traffic caller request) other place shown ↔
      (place = traffic.client.next ∧ shown = attempt traffic caller request ∧ caller = other) ∨
        InFlight traffic other place shown := by
  have network : (begun traffic caller request).client.network place =
      if place = traffic.client.next then some (attempt traffic caller request, none)
      else traffic.client.network place := Function.update_apply ..
  simp only [InFlight, network]
  by_cases new : place = traffic.client.next
  · subst new
    have free : ∀ entry, traffic.client.network traffic.client.next ≠ some entry :=
      fun entry here => absurd (bounded _ entry here) (Nat.lt_irrefl _)
    simp only [if_true, Option.some.injEq, Prod.mk.injEq, exists_and_left, free, exists_false,
      and_false, or_false, true_and]
    constructor
    · rintro ⟨owner, rfl, _⟩
      exact ⟨rfl, owner⟩
    · rintro ⟨rfl, owner⟩
      exact ⟨owner, rfl, none, rfl⟩
  · simp [new]

theorem untouched_of_begun (before : Tracked traffic) {caller : CallerId} (request : HttpRequest)
    {other : CallerId} (different : other ≠ caller) :
    Untouched other traffic (begun traffic caller request) where
  sent := by
    have owner : (attempt traffic caller request).callback.callerId ≠ other := Ne.symm different
    simp only [sentFor, sent_begun, List.filter_append, List.filter_singleton, owner, decide_false]
    simp
  answers := rfl
  handled := rfl
  inFlight := by
    intro place shown
    rw [inFlight_begun before.bounded]
    constructor
    · rintro (⟨-, -, same⟩ | flies)
      · exact absurd same.symm different
      · exact flies
    · exact Or.inr

theorem Tracked.begun (before : Tracked traffic) {caller : CallerId}
    (fresh : caller ∉ traffic.started.map Prod.fst) (request : HttpRequest) :
    Tracked (BoundedRetry.begun traffic caller request) := by
  have flying := inFlight_begun before.bounded caller request
  obtain ⟨unsent, unanswered, unhandled⟩ := before.unknown caller fresh
  constructor
  · intro place entry stored
    have here : InFlight (BoundedRetry.begun traffic caller request) entry.1.callback.callerId place
        entry.1 := ⟨rfl, entry.2, stored⟩
    obtain ⟨new, -, -⟩ | ⟨-, reply, old⟩ := (flying _ place entry.1).mp here
    · exact new ▸ Nat.lt_succ_self _
    · exact Nat.lt_succ_of_lt (before.bounded place _ old)
  · intro other place shown flies
    obtain ⟨-, -, same⟩ | old := (flying other place shown).mp flies
    · exact ⟨request, same ▸ List.mem_cons_self⟩
    · obtain ⟨asked, given⟩ := before.owned other place shown old
      exact ⟨asked, List.mem_cons_of_mem _ given⟩
  · intro other absent
    simp only [BoundedRetry.begun, List.map_cons, List.mem_cons, not_or] at absent
    obtain ⟨sent, answers, handled, -⟩ := untouched_of_begun before request absent.1
    rw [sent, answers, handled]
    exact before.unknown other absent.2
  · intro other asked given
    by_cases same : other = caller
    · subst same
      have mine : asked = request := by
        rcases List.mem_cons.mp given with new | old
        · exact congrArg Prod.snd new
        · exact absurd (List.mem_map_of_mem old) fresh
      subst mine
      have sent : sentFor (BoundedRetry.begun traffic other asked) other =
          [attempt traffic other asked] := by
        rw [sentFor] at unsent
        rw [sentFor, sent_begun, List.filter_append, unsent]
        simp [attempt, Callback.callerId]
      refine .waiting (attempt traffic other asked) traffic.client.next ?_ ?_ ?_ unanswered ?_
      · rw [sent]
        exact .attempt ⟨rfl, rfl, rfl⟩
      · exact (flying other _ _).mpr (Or.inl ⟨rfl, rfl, rfl⟩)
      · intro place shown flies
        obtain ⟨new, -, -⟩ | old := (flying other place shown).mp flies
        · exact new
        · obtain ⟨earlier, listed⟩ := before.owned other place shown old
          exact absurd (List.mem_map_of_mem listed) fresh
      · rw [sent]
        exact congrArg (· + 1) unhandled
    · refine (untouched_of_begun before request same).progress (before.progress other asked ?_)
      rcases List.mem_cons.mp given with new | old
      · exact absurd (congrArg Prod.fst new) same
      · exact old

theorem tracked_of_reachable (reached : Runs.Reachable trafficStep Unused traffic) :
    Tracked traffic := by
  refine Runs.invariant_of_preserved ?_ ?_ reached
  · intro first unused
    rw [Unused] at unused
    rw [unused]
    constructor
    · exact fun id entry stored => (by cases stored)
    · exact fun caller id exchange flies => (by obtain ⟨-, reply, stored⟩ := flies; cases stored)
    · exact fun caller _ => ⟨rfl, rfl, rfl⟩
    · exact fun caller request given => (by cases given)
  · intro first event next before _ moved
    cases event with
    | send caller request =>
      simp only [trafficStep] at moved
      split at moved
      · next fresh =>
        cases moved
        exact before.begun fresh.2 request
      · cases moved
    | finished id reply =>
      simp only [trafficStep] at moved
      split at moved
      · cases moved
      · next exchange _ here =>
        cases moved
        exact before.replied ⟨_, here⟩ reply
    | setTokens tokens =>
      cases moved
      have untouched (caller : CallerId) : Untouched caller first
          { first with client := { first.client with tokens := tokens } } :=
        ⟨rfl, rfl, rfl, fun _ _ => Iff.rfl⟩
      exact ⟨before.bounded, before.owned, before.unknown, fun caller request given =>
        (untouched caller).progress (before.progress caller request given)⟩

/-- In every run a request has led to at most three exchanges, each of which any reply
ends, and it is answered exactly once, as soon as none of them is in flight. -/
theorem answered_once_within_three (reached : Runs.Reachable trafficStep Unused traffic)
    {caller : CallerId} {request : HttpRequest} (given : (caller, request) ∈ traffic.started) :
    (sentFor traffic caller).length ≤ 3 ∧ Progress traffic caller request ∧
      ∀ id exchange, InFlight traffic caller id exchange → ∀ reply, ∃ after,
        trafficStep traffic (.finished id reply) = some after ∧
        after.handled.count caller = traffic.handled.count caller + 1 := by
  have tracked := tracked_of_reachable reached
  have progress := tracked.progress caller request given
  refine ⟨?_, progress, ?_⟩
  · cases progress with
    | waiting last id stage => exact stage.length_le
    | answered last result stage => exact stage.length_le
  · rintro id exchange ⟨owner, stored, here⟩ reply
    refine ⟨BoundedRetry.replied traffic id exchange
      (Source.Client.Http.finished (traffic.client.remove id) exchange reply), ?_, ?_⟩
    · simp only [trafficStep, here]
      rfl
    · rw [BoundedRetry.replied, owner, List.count_cons_self]

/-! ## A request that is refreshed and retried -/

def listSent : HttpRequest := ⟨"GET", "/messages/sent", "expired", none⟩

def listReceived : HttpRequest := ⟨"GET", "/messages", "expired", none⟩

def refusedReply : Reply := .failure ⟨.other, 401, "Host requires authentication", []⟩

def renewedTokens : Json := .object [("access_token", .string "renewed"),
  ("refresh_token", .string "refresh2"), ("token_type", .string "bearer")]

def signedIn : Traffic := { client := { tokens := ⟨"expired", "refresh1", "bearer", 900⟩ } }

/-- Two requests are sent and the second is answered while the first waits for its refresh. -/
def retriedTraffic : Option Traffic :=
  Runs.run trafficStep signedIn [.send 1 listSent, .send 2 listReceived, .finished 0 refusedReply,
    .finished 1 (.success (.array [])), .finished 2 (.success renewedTokens),
    .finished 3 (.success (.array []))]

theorem retried_is_answered_once : ∃ traffic, retriedTraffic = some traffic ∧
    traffic.sent.map (fun exchange => (exchange.callback.callerId, exchange.bearer)) =
      [(1, "expired"), (2, "expired"), (1, ""), (1, "renewed")] ∧
    traffic.handled = [1, 1, 2, 1] ∧
    (sentFor traffic 1).length ≤ 3 ∧ Progress traffic 1 listSent := by
  have begins : retriedTraffic.map Traffic.started = some [(2, listReceived), (1, listSent)] := by
    with_unfolding_all rfl
  have ends : retriedTraffic.map (fun traffic => (traffic.handled,
      traffic.sent.map fun exchange => (exchange.callback.callerId, exchange.bearer))) =
      some ([1, 1, 2, 1], [(1, "expired"), (2, "expired"), (1, ""), (1, "renewed")]) := by
    decide +kernel
  obtain ⟨traffic, final, logs⟩ := Option.map_eq_some_iff.mp ends
  obtain ⟨handled, sent⟩ := Prod.mk.inj logs
  rw [final, Option.map_some, Option.some.injEq] at begins
  have given : (1, listSent) ∈ traffic.started := by
    rw [begins]
    exact List.mem_cons_of_mem _ List.mem_cons_self
  have unused : Unused signedIn := rfl
  obtain ⟨short, progress, -⟩ :=
    answered_once_within_three (Runs.reachable_of_run unused final) given
  exact ⟨traffic, final, sent, handled, short, progress⟩

end EpicKfc.Guarantees.BoundedRetry
