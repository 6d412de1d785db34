import EpicKfc.Lib.Runs
import EpicKfc.Source.Client.HttpClient

/-!
# The traffic of the HTTP client

Requests are made at any time, exchanges finish in any order and with any reply,
and the tokens of the client may be set meanwhile. `started`, `sent` and `handled`
record what has happened.
-/

namespace EpicKfc.Source.Client.Http
open EpicKfc.Lib

structure Traffic where
  client : HttpClient
  started : List (CallerId × HttpRequest) := []
  sent : List Exchange := []
  handled : List CallerId := []

inductive TrafficEvent where
  | send (caller : CallerId) (request : HttpRequest)
  | finished (exchange : ExchangeId) (reply : Reply)
  | setTokens (tokens : TokenSet)

/-- What `get`, `post`, `put` and `deleteResource` call `send` with. -/
def methods : List String := ["GET", "POST", "PUT", "DELETE"]

/-- The exchanges a client has started since. -/
def newExchanges (before after : HttpClient) : List Exchange :=
  (List.range' before.next (after.next - before.next)).filterMap fun id =>
    (after.network id).map Prod.fst

/-- An exchange is over once its handler runs. -/
def HttpClient.remove (client : HttpClient) (id : ExchangeId) : HttpClient :=
  { client with network := Function.update client.network id none }

/-- A caller stands for one call of `send`. -/
def trafficStep (traffic : Traffic) : TrafficEvent → Option Traffic
  | .send caller request =>
    if request.method ∈ methods ∧ caller ∉ traffic.started.map Prod.fst then
      let client := send traffic.client request (.caller caller) false
      some { traffic with
        client := client
        started := (caller, request) :: traffic.started
        sent := traffic.sent ++ newExchanges traffic.client client }
    else none
  | .finished id reply =>
    match traffic.client.network id with
    | none => none
    | some (exchange, _) =>
      let client := finished (traffic.client.remove id) exchange reply
      some { traffic with
        client := client
        sent := traffic.sent ++ newExchanges traffic.client client
        handled := exchange.callback.callerId :: traffic.handled }
  | .setTokens tokens => some { traffic with client := { traffic.client with tokens := tokens } }

/-- A client that has not been used yet. -/
def Unused (traffic : Traffic) : Prop :=
  traffic = { client := { tokens := traffic.client.tokens } }

/-! ## What one reply leads to -/

/-- The caller is answered and nothing is sent. -/
structure Answers (caller : CallerId) (before after : HttpClient) : Prop where
  network : after.network = before.network
  next : after.next = before.next
  completed : ∃ result, after.completed = (caller, result) :: before.completed

/-- One exchange is sent and nobody is answered. -/
structure Sends (exchange : Exchange) (before after : HttpClient) : Prop where
  network : after.network = Function.update before.network before.next (some (exchange, none))
  next : after.next = before.next + 1
  completed : after.completed = before.completed

theorem sends_send (client : HttpClient) (request : HttpRequest) (callback : Callback)
    (alreadyRetried : Bool) :
    Sends ⟨request, effectiveAccessToken client request.accessToken, alreadyRetried, callback⟩ client
      (send client request callback alreadyRetried) :=
  ⟨rfl, rfl, rfl⟩

theorem newExchanges_of_answers {caller : CallerId} {before after : HttpClient}
    (answers : Answers caller before after) : newExchanges before after = [] := by
  simp [newExchanges, answers.next]

theorem newExchanges_of_sends {exchange : Exchange} {before after : HttpClient}
    (sends : Sends exchange before after) : newExchanges before after = [exchange] := by
  simp [newExchanges, sends.next, sends.network]

/-- The first attempt of a caller. -/
structure IsAttempt (caller : CallerId) (request : HttpRequest) (exchange : Exchange) : Prop where
  request : exchange.request = request
  alreadyRetried : exchange.alreadyRetried = false
  callback : exchange.callback = .caller caller

/-- The refresh a caller waits for. -/
structure IsRefresh (caller : CallerId) (request : HttpRequest) (exchange : Exchange) : Prop where
  method : exchange.request.method = "POST"
  path : exchange.request.path = authPath "/refresh"
  alreadyRetried : exchange.alreadyRetried = true
  callback : ∃ previous, exchange.callback = .refreshed previous request (.caller caller)

/-- The second attempt of a caller. -/
structure IsRetry (caller : CallerId) (request : HttpRequest) (exchange : Exchange) : Prop where
  method : exchange.request.method = request.method
  path : exchange.request.path = request.path
  body : exchange.request.body = request.body
  alreadyRetried : exchange.alreadyRetried = true
  callback : exchange.callback = .caller caller

variable {caller : CallerId} {request : HttpRequest} {exchange : Exchange} (client : HttpClient)

/-- Clients that differ in what they have noted only. -/
structure SameTraffic (before after : HttpClient) : Prop where
  network : after.network = before.network
  next : after.next = before.next
  completed : after.completed = before.completed

variable {client}

theorem SameTraffic.answers {noted after : HttpClient} (same : SameTraffic client noted)
    (answers : Answers caller noted after) : Answers caller client after := by
  obtain ⟨network, next, completed⟩ := answers
  rw [same.network] at network
  rw [same.next] at next
  rw [same.completed] at completed
  exact ⟨network, next, completed⟩

theorem SameTraffic.sends {noted after : HttpClient} (same : SameTraffic client noted)
    (sends : Sends exchange noted after) : Sends exchange client after := by
  obtain ⟨network, next, completed⟩ := sends
  rw [same.network, same.next] at network
  rw [same.next] at next
  rw [same.completed] at completed
  exact ⟨network, next, completed⟩

variable (client)

theorem answers_call (caller : CallerId) (result : Result Json) :
    Answers caller client (call client (.caller caller) result) :=
  ⟨rfl, rfl, result, rfl⟩

/-- After a failure the exchange is refreshed or its callback is called. -/
theorem finished_failure (exchange : Exchange) (failure : Failure) :
    ∃ noted, SameTraffic client noted ∧ finished client exchange (.failure failure) =
      if canRefresh noted exchange failure.statusCode then
        refreshTokens noted exchange.request exchange.callback
      else call noted exchange.callback (.error (errorForReply failure)) := by
  unfold finished
  simp only
  split
  · next id _ _ => exact ⟨{ client with refused := id :: client.refused }, ⟨rfl, rfl, rfl⟩, rfl⟩
  · exact ⟨client, ⟨rfl, rfl, rfl⟩, rfl⟩

/-- A first attempt is answered, or a refresh is sent. -/
theorem finished_attempt (attempt : IsAttempt caller request exchange) (reply : Reply) :
    Answers caller client (finished client exchange reply) ∨
      ∃ refresh, IsRefresh caller request refresh ∧
        Sends refresh client (finished client exchange reply) := by
  cases reply with
  | success document =>
    rw [finished, attempt.callback]
    exact Or.inl (answers_call client caller _)
  | malformed errorString =>
    rw [finished, attempt.callback]
    exact Or.inl (answers_call client caller _)
  | failure failure =>
    obtain ⟨noted, same, ends⟩ := finished_failure client exchange failure
    rw [ends]
    split
    · refine Or.inr ⟨_, ?_, same.sends (sends_send ..)⟩
      constructor
      · rfl
      · rfl
      · rfl
      · rw [attempt.callback, attempt.request]
        exact ⟨_, rfl⟩
    · rw [attempt.callback]
      exact Or.inl (same.answers (answers_call noted caller _))

/-- What has been retried is not refreshed again. -/
theorem canRefresh_of_alreadyRetried (retried : exchange.alreadyRetried = true) (statusCode : Nat) :
    canRefresh client exchange statusCode = false := by
  simp [canRefresh, retried]

/-- The reply to an exchange that was already retried goes to its callback. -/
theorem finished_of_alreadyRetried (retried : exchange.alreadyRetried = true) (reply : Reply) :
    ∃ noted result, SameTraffic client noted ∧
      finished client exchange reply = call noted exchange.callback result := by
  cases reply with
  | success document => exact ⟨client, _, ⟨rfl, rfl, rfl⟩, rfl⟩
  | malformed errorString => exact ⟨client, _, ⟨rfl, rfl, rfl⟩, rfl⟩
  | failure failure =>
    obtain ⟨noted, same, ends⟩ := finished_failure client exchange failure
    rw [canRefresh_of_alreadyRetried noted retried] at ends
    exact ⟨noted, _, same, ends⟩

/-- The refresh fails and the caller is answered, or the second attempt is sent. -/
theorem finished_refresh (refresh : IsRefresh caller request exchange) (reply : Reply) :
    Answers caller client (finished client exchange reply) ∨
      ∃ retry, IsRetry caller request retry ∧
        Sends retry client (finished client exchange reply) := by
  obtain ⟨noted, result, same, ends⟩ :=
    finished_of_alreadyRetried client refresh.alreadyRetried reply
  obtain ⟨previous, callback⟩ := refresh.callback
  rw [ends, callback]
  cases result with
  | error error => exact Or.inl (same.answers (answers_call noted caller _))
  | ok document =>
    refine Or.inr ⟨_, ?_, same.sends ⟨rfl, rfl, rfl⟩⟩
    exact ⟨rfl, rfl, rfl, rfl, rfl⟩

theorem finished_retry (retry : IsRetry caller request exchange) (reply : Reply) :
    Answers caller client (finished client exchange reply) := by
  obtain ⟨noted, result, same, ends⟩ :=
    finished_of_alreadyRetried client retry.alreadyRetried reply
  rw [ends, retry.callback]
  exact same.answers (answers_call noted caller result)

end EpicKfc.Source.Client.Http
