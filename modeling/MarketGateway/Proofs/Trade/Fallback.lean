import MarketGateway.Proofs.Rpc.Request
import MarketGateway.Trade.Executor

/-!
# What one execution of a command sends

An executor whose primary channel is the trading client and whose fallback is anything. `Desk` is
the state of both, with a log of the commands that went over the fallback; while the client waits
for a reply, the exchange and the connection do whatever `during` says.

`fallback_once_iff_failed` says when the fallback gets the command: once after a failure of the
client, whatever the failure and whatever the command, and never after a reply. It also says what is
known about the first request then. A failure that counts as unsent queued no frame, and a refusal
came in with the id of the request. So the exchange can have executed both only after a timeout or
after the connection ended; `silence_sends_twice` is a run in which the first request is still
queued when the second one goes out.
-/

namespace MarketGateway.Trade

open Rpc Rpc.Client

/-- The trading client and the fallback of an executor. -/
structure Desk (τ : Type) where
  client : Client
  /-- Commands that went over the fallback, oldest first. -/
  sent : List TradeCommand := []
  /-- The state of the fallback. -/
  other : τ

namespace Desk

variable {τ δ : Type}

/-- The trading client as a channel, with what happens while its caller waits. -/
def socket (τ : Type) (stamp : Stamp) (during : List Happening) :
    PrimaryChannel (Desk τ) RpcError where
  execute command desk :=
    let (number, client) := desk.client.execute command stamp
    let (reply, client) := client.await number during
    (reply, { desk with client := client })
  isConnectionFailure := RpcError.isConnectionFailure
  reconnect desk := { desk with client := desk.client.triggerReconnect }

/-- A fallback that logs what goes over it. -/
def logged (fallback : TradeChannel τ δ) : TradeChannel (Desk τ) δ where
  execute command desk :=
    let (outcome, other) := fallback.execute command desk.other
    (outcome, { desk with sent := desk.sent ++ [command], other := other })

def executor (stamp : Stamp) (during : List Happening) (fallback : TradeChannel τ δ) :
    TradeExecutor (Desk τ) RpcError δ :=
  ⟨socket τ stamp during, logged fallback⟩

end Desk

/-- A frame with the id of a request and this content came in while a request with the id stood in
the table of its link. -/
def CameIn (start : Client) (during : List Happening) (requestId : String) (reply : Reply) : Prop :=
  ∃ link before text since, during = before ++ .frame link text :: since ∧
    requestId ∈ ((start.play before).sessionAt link).pending.map Prod.fst ∧
    Answers text requestId reply

/-- What is known of a request after its reply. -/
structure Known (before called : Client) (during : List Happening) (requestId text : String)
    (timeout : Duration) (reply : Reply) : Prop where
  /-- The request put at most one frame in a queue. -/
  queued : called.queues = before.queues ∨ Queued before called text
  /-- A failure that counts as unsent put in none. -/
  unsent : ∀ failure, reply = .error failure → failure.isUnsent = true →
    called.queues = before.queues
  /-- A result was sent by the exchange for this request. -/
  result : ∀ value, reply = .ok value → CameIn called during requestId reply
  /-- A refusal was sent by the exchange for this request. -/
  refused : ∀ refusal, reply = .error (.exchange refusal) → CameIn called during requestId reply
  /-- Any other failure leaves open whether the request was executed. -/
  unknown : ∀ failure, reply = .error failure → failure.isUnsent = false →
    (∀ refusal, failure ≠ .exchange refusal) → failure = .timeout timeout ∨ failure = .connectionClosed

theorem known_of_failed {before called : Client} {during : List Happening} {requestId text : String}
    {timeout : Duration} {failure : RpcError}
    (hFailure : failure = .notConnected ∨ failure = .connectionClosed ∨
      failure = .transport TransportError.outboundFull.message)
    (hQueues : called.queues = before.queues) :
    Known before called during requestId text timeout (.error failure) where
  queued := .inl hQueues
  unsent _ _ _ := hQueues
  result _ hOk := by cases hOk
  refused refusal hRefused := by
    rcases hFailure with rfl | rfl | rfl <;> cases hRefused
  unknown other hOther hSent _ := by
    obtain rfl := Except.error.inj hOther
    rcases hFailure with rfl | rfl | rfl
    · cases hSent
    · exact .inr rfl
    · cases hSent

theorem known_of_explained {before called : Client} {during : List Happening}
    {requestId text : String} {timeout : Duration} {call : Call} {reply : Reply}
    (hId : call.requestId = requestId) (hTimeout : call.timeout = timeout)
    (hQueued : Queued before called text) (hExplained : Explained called during call reply) :
    Known before called during requestId text timeout reply := by
  subst hId hTimeout
  have hContent : ∀ failure, reply = .error failure → failure = .connectionClosed ∨
      failure = .timeout call.timeout ∨ ∃ refusal, failure = .exchange refusal := by
    rintro failure rfl
    rcases hExplained with hClosed | hLate | ⟨_, _, _, _, _, hAnswers⟩
    · exact .inl (Except.error.inj hClosed)
    · exact .inr (.inl (Except.error.inj hLate))
    · rcases hAnswers.content with ⟨_, hOk⟩ | ⟨refusal, hRefused⟩
      · cases hOk
      · exact .inr (.inr ⟨refusal, Except.error.inj hRefused⟩)
  have hCame (hNotClosed : reply ≠ .error .connectionClosed)
      (hNotLate : reply ≠ .error (.timeout call.timeout)) :
      CameIn called during call.requestId reply := by
    rcases hExplained with hClosed | hLate | ⟨front, frame, since, hEq, hPending, hAnswers⟩
    · exact absurd hClosed hNotClosed
    · exact absurd hLate hNotLate
    · exact ⟨call.link, front, frame, since, hEq, List.mem_map_of_mem hPending, hAnswers⟩
  refine ⟨.inr hQueued, ?_, ?_, ?_, ?_⟩
  · intro failure hFailure hUnsent
    rcases hContent failure hFailure with rfl | rfl | ⟨refusal, rfl⟩ <;> cases hUnsent
  · rintro value rfl
    exact hCame (by simp) (by simp)
  · rintro refusal rfl
    exact hCame (by simp) (by simp)
  · intro failure hFailure _ hNotRefused
    rcases hContent failure hFailure with hClosed | hLate | ⟨refusal, hRefused⟩
    · exact .inr hClosed
    · exact .inl hLate
    · exact absurd hRefused (hNotRefused refusal)

theorem known_socket {τ : Type} (config : RpcConfig) (signer : Signer)
    (before during : List Happening) (command : TradeCommand) (stamp : Stamp) (desk : Desk τ)
    (hClient : desk.client = (Client.new config signer).play before) :
    Known desk.client (desk.client.execute command stamp).2 during stamp.requestId
      (desk.client.requestText (.ofCommand command) command.params stamp)
      desk.client.config.requestTimeout ((Desk.socket τ stamp during).execute command desk).1 := by
  have hSound : desk.client.Sound := hClient ▸ (sound_new config signer).play before
  obtain ⟨hNumber, hBegun⟩ := send_spec hSound (.ofCommand command) command.params
    desk.client.config.requestTimeout stamp
  show Known _ _ _ _ _ _ ((desk.client.execute command stamp).2.await
    (desk.client.execute command stamp).1 during).1
  rw [Client.execute, hNumber]
  cases hBegun with
  | failed hFailure hOver hQueues =>
      rw [(await_failed hOver during).2]
      exact known_of_failed hFailure hQueues
  | waits call hId hTimeout hQueued hFollows =>
      obtain ⟨reply, _, hReply, hExplained⟩ := await_followed hFollows during
      rw [hReply]
      exact known_of_explained hId hTimeout hQueued hExplained

/-- **The fallback is used once after a failure, and only then.** From every state that a client can
be in, with everything that can happen while its caller waits: after a failure of the client the
command goes over the fallback once and its outcome counts, after a reply it does not, and the
first request is known to be what `Known` says. -/
theorem fallback_once_iff_failed {τ δ : Type} (config : RpcConfig) (signer : Signer)
    (before during : List Happening) (command : TradeCommand) (stamp : Stamp)
    (fallback : TradeChannel τ δ) (other : τ) :
    let desk : Desk τ := { client := (Client.new config signer).play before, other := other }
    let reply := ((Desk.socket τ stamp during).execute command desk).1
    let run := (Desk.executor stamp during fallback).execute command desk
    (∀ result, reply = .ok result → run.1 = .ok ⟨.primary, result⟩ ∧ run.2.1.sent = []) ∧
    (∀ failure, reply = .error failure → run.2.1.sent = [command] ∧
      run.1 = (fallback.execute command other).1.map (⟨.fallback, ·⟩)) ∧
    Known desk.client (desk.client.execute command stamp).2 during stamp.requestId
      (desk.client.requestText (.ofCommand command) command.params stamp)
      desk.client.config.requestTimeout reply := by
  intro desk reply run
  refine ⟨?_, ?_, known_socket config signer before during command stamp desk rfl⟩
  · intro result hOk
    have hPrimary : (Desk.executor stamp during fallback).primary.execute command desk =
        (.ok result, ((Desk.socket τ stamp during).execute command desk).2) := Prod.ext hOk rfl
    have hRun : run = (.ok ⟨.primary, result⟩,
        ((Desk.socket τ stamp during).execute command desk).2, []) := by
      simp only [run, TradeExecutor.execute, hPrimary]
    rw [hRun]
    exact ⟨rfl, rfl⟩
  · intro failure hFailed
    have hPrimary : (Desk.executor stamp during fallback).primary.execute command desk =
        (.error failure, ((Desk.socket τ stamp during).execute command desk).2) :=
      Prod.ext hFailed rfl
    simp only [run, TradeExecutor.execute, hPrimary]
    cases (Desk.executor stamp during fallback).primary.isConnectionFailure failure <;>
      exact ⟨rfl, rfl⟩

/-! ## A run in which both requests can be executed -/

/-- A client with a connection over which nothing comes in. -/
def silentDesk : Desk Unit where
  client := (Client.new ⟨⟨"wss://trading", .standard, .ofSecs 10, .ofSecs 10, 8, 8⟩, .ofSecs 5,
    .immediate (.ofSecs 1)⟩ ⟨"key", fun _ => "signature"⟩).play [.handshake (.ok ())]
  other := ()

def marketBuy : TradeCommand :=
  .placeOrder ⟨"BTCUSDT", .buy, .market, ⟨false, 1, 2⟩, none, none, none, false, none, none⟩

def firstStamp : Stamp := ⟨"first", 0⟩

/-- A fallback that accepts everything. -/
def accepting : TradeChannel Unit String := ⟨fun _ other => (.ok .null, other)⟩

/-- The exchange is silent: the first request waits in the queue of the connection, its time is
over, and the same order, which is not safe to repeat, goes over the fallback. -/
theorem silence_sends_twice :
    marketBuy.isIdempotent = false ∧
    ((Desk.socket Unit firstStamp []).execute marketBuy silentDesk).1 =
      .error (.timeout (.ofSecs 5)) ∧
    (RpcError.timeout (.ofSecs 5)).isUnsent = false ∧
    (silentDesk.client.execute marketBuy firstStamp).2.queues.map (·.items.length) = [1] ∧
    ((Desk.executor firstStamp [] accepting).execute marketBuy silentDesk).2.1.sent = [marketBuy] := by
  refine ⟨rfl, rfl, rfl, rfl, rfl⟩

end MarketGateway.Trade
