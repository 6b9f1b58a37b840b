import MarketGateway.Proofs.Rpc.Traffic

/-!
# Runs of a client are traffic

A client takes the steps of a send, of a look at its answer and of a handshake at a stroke, and it
has its calls and a reconnection in its books. `Traffic` has no such books: sends stand beside the
client there, and each of their steps is a move. `Traffic.Accompanies` relates the two. But for its
books the client is the one of the traffic, and the caller of each call is a send that waits, under
the number of the call.

Whatever happens to a client, some moves lead the traffic along (`Accompanies.apply`), so every run
of a client is a run of the traffic (`reaches_play`), and what holds of every run of the traffic
holds of it.
-/

namespace MarketGateway.Rpc

namespace Client

/-- Books with nothing in them. -/
def Books.blank (config : RpcConfig) (_ : Books) : Books :=
  ⟨[], [], 0, .idle, .new config.reconnect⟩

/-- The client without its books. -/
def bare (client : Client) : Client := client.rebooked Books.blank

/-- What happens to one connection at most stays out of the books. -/
theorem books_apply {happening : Happening} (hSingle : happening.isSingle = true)
    (client : Client) : (client.apply happening).books = client.books := by
  cases happening with
  | passed | written | connecting => rfl
  | frame id text => exact books_onFrame client id text
  | lost id error => exact books_onLost client id error
  | shutDown => exact books_shutDown client
  | handshake result =>
    cases result with
    | error error => rfl
    | ok opened => cases hSingle
  | sent | looked | reconnectAsked | reconnectTurn => cases hSingle

theorem bare_apply {happening : Happening} (hSingle : happening.isSingle = true)
    (client : Client) : client.bare.apply happening = (client.apply happening).bare := by
  cases happening with
  | passed | written | connecting => rfl
  | frame id text => exact rebooked_onFrame Books.blank client id text
  | lost id error => exact rebooked_onLost Books.blank client id error
  | shutDown => exact rebooked_shutDown Books.blank client
  | handshake result =>
    cases result with
    | error error => rfl
    | ok opened => cases hSingle
  | sent | looked | reconnectAsked | reconnectTurn => cases hSingle

/-- A send keeps no books, and it does not count here how often its frame was put in a queue. -/
theorem bare_advance (client : Client) (stage : Stage) (placed : Nat) (request : Request) :
    let bare := (⟨client.bare, stage, 0⟩ : Sending).advance request
    let after := (⟨client, stage, placed⟩ : Sending).advance request
    bare.client = after.client.bare ∧ bare.stage = after.stage := by
  have hCurrent : client.bare.current = client.current := rfl
  have hLinks : client.bare.links = client.links := rfl
  have hNow : client.bare.now = client.now := rfl
  unfold Sending.advance
  cases stage with
  | called =>
    dsimp only
    rw [hCurrent, hLinks]
    split
    · exact ⟨rfl, rfl⟩
    · split <;> exact ⟨rfl, rfl⟩
  | chosen id =>
    dsimp only
    rw [hLinks]
    split
    · exact ⟨rfl, rfl⟩
    · split <;> exact ⟨rfl, rfl⟩
  | entered id ticket =>
    dsimp only
    rw [hLinks]
    split
    · exact ⟨rfl, rfl⟩
    · split <;> exact ⟨rfl, rfl⟩
  | waiting id ticket due =>
    dsimp only
    rw [hLinks, hNow]
    split
    · exact ⟨rfl, rfl⟩
    · split
      · exact ⟨rfl, rfl⟩
      · exact ⟨rfl, rfl⟩
      · split <;> exact ⟨rfl, rfl⟩
  | leaving id reply =>
    dsimp only
    rw [hLinks]
    split <;> exact ⟨rfl, rfl⟩
  | returned => exact ⟨rfl, rfl⟩

theorem books_advance (sending : Sending) (request : Request) :
    (sending.advance request).client.books = sending.client.books := by
  have hAdvanced := advanced_advance sending request
  generalize sending.advance request = after at hAdvanced ⊢
  cases hAdvanced <;> rfl

theorem books_depart (sending : Sending) (request : Request) :
    (sending.depart request).client.books = sending.client.books := by
  unfold Sending.depart Sending.withdraw
  split <;> simp only [books_advance]

theorem bare_backOff (client : Client) (stage : Rpc.Stage) (offset : Binary64) :
    (Reconnector.backOff ⟨stage, client.backoff⟩ offset client.bare).2 =
      (client.backOff offset).bare := by
  unfold Reconnector.backOff backOff
  cases client.backoff.ask offset <;> rfl

theorem calls_backOff (client : Client) (offset : Binary64) :
    (client.backOff offset).calls = client.calls ∧
      (client.backOff offset).nextCall = client.nextCall := by
  unfold backOff
  split <;> exact ⟨rfl, rfl⟩

end Client

namespace Traffic

open Client (Request Sending)

variable {traffic after : Traffic} {client next : Client} {number : CallId} {request : Request}
  {sending : Sending}

def steps (traffic : Traffic) (moves : List Move) : Traffic := moves.foldl step traffic

theorem steps_append (traffic : Traffic) (moves more : List Move) :
    traffic.steps (moves ++ more) = (traffic.steps moves).steps more :=
  List.foldl_append

/-- The caller of this call is a send that waits, under its number. -/
def Waits (traffic : Traffic) (number : CallId) (call : Call) : Prop :=
  ∃ text, traffic.sends[number]? =
    some (.ofCall call text, .waiting call.link call.ticket call.due)

/-- The traffic is that of this client. -/
structure Accompanies (traffic : Traffic) (client : Client) : Prop where
  bare : traffic.client = client.bare
  replaced : traffic.replaced = []
  length : traffic.sends.length = client.nextCall
  waits : ∀ number call, client.calls.lookup number = some call → traffic.Waits number call

/-- The gauge shows the same, and as many requests wait. -/
theorem Accompanies.gauge (hWith : traffic.Accompanies client) :
    client.pendingGauge = traffic.client.pendingGauge ∧
      client.waiting = traffic.client.waiting := by
  rw [hWith.bare]
  exact ⟨rfl, rfl⟩

/-- Some moves lead to the traffic of this client. -/
def Reaches (traffic : Traffic) (client : Client) : Prop :=
  ∃ moves, (traffic.steps moves).Accompanies client

theorem Accompanies.reaches (hWith : traffic.Accompanies client) : traffic.Reaches client :=
  ⟨[], hWith⟩

theorem Reaches.trans (hFirst : traffic.Reaches client)
    (hSecond : ∀ {middle : Traffic}, middle.Accompanies client → middle.Reaches next) :
    traffic.Reaches next := by
  obtain ⟨moves, hMoves⟩ := hFirst
  obtain ⟨more, hMore⟩ := hSecond hMoves
  exact ⟨moves ++ more, steps_append traffic moves more ▸ hMore⟩

/-- Calls and sends are left alone. -/
theorem Accompanies.follows (hWith : traffic.Accompanies client)
    (hBare : after.client = next.bare) (hReplaced : after.replaced = [])
    (hSends : after.sends = traffic.sends) (hCalls : next.calls = client.calls)
    (hNext : next.nextCall = client.nextCall) :
    after.Accompanies next where
  bare := hBare
  replaced := hReplaced
  length := hSends ▸ hNext ▸ hWith.length
  waits number call hCall := by
    obtain ⟨text, hText⟩ := hWith.waits number call (hCalls ▸ hCall)
    exact ⟨text, hSends ▸ hText⟩

/-! ## One send -/

/-- The traffic is that of a client one of whose sends is under way. -/
structure Pursues (traffic : Traffic) (number : CallId) (request : Request) (sending : Sending) :
    Prop where
  bare : traffic.client = sending.client.bare
  replaced : traffic.replaced = []
  length : traffic.sends.length = sending.client.nextCall
  own : traffic.sends[number]? = some (request, sending.stage)
  others : ∀ other call, other ≠ number → sending.client.calls.lookup other = some call →
    traffic.Waits other call

theorem Pursues.advance (hPursues : traffic.Pursues number request sending) :
    (traffic.step (.advances number)).Pursues number request (sending.advance request) := by
  have hBooks := Client.books_advance sending request
  have hCalls : (sending.advance request).client.calls = sending.client.calls :=
    congrArg Client.Books.calls hBooks
  have hNext : (sending.advance request).client.nextCall = sending.client.nextCall :=
    congrArg Client.Books.nextCall hBooks
  have hIssued := (List.getElem?_eq_some_iff.mp hPursues.own).1
  obtain ⟨hBare, hStage⟩ := Client.bare_advance sending.client sending.stage sending.placed request
  rw [← hPursues.bare] at hBare hStage
  have hStep : traffic.change (.advances number) =
      { traffic with
        client := (sending.advance request).client.bare
        sends := traffic.sends.set number (request, (sending.advance request).stage) } := by
    simp only [change, hPursues.own, hBare, hStage]
  refine ⟨?_, ?_, ?_, ?_, ?_⟩
  · simp only [step, hStep]
  · simp only [step, hStep, hPursues.replaced]
  · simp only [step, hStep, List.length_set, hPursues.length, hNext]
  · simp only [step, hStep, List.getElem?_set_self hIssued]
  · intro other call hOther hCall
    obtain ⟨text, hText⟩ := hPursues.others other call hOther (hCalls ▸ hCall)
    exact ⟨text, by simp only [step, hStep, List.getElem?_set_ne hOther.symm, hText]⟩

theorem Pursues.depart (hPursues : traffic.Pursues number request sending) :
    ∃ moves, (traffic.steps moves).Pursues number request (sending.depart request) := by
  have hTried := hPursues.advance.advance.advance
  unfold Sending.depart Sending.withdraw
  split
  · exact ⟨[.advances number, .advances number, .advances number, .advances number],
      hTried.advance⟩
  · exact ⟨[.advances number, .advances number, .advances number], hTried⟩

/-- A send that waits is a new call, and one that is over is no call any more. -/
theorem Pursues.filed (hPursues : traffic.Pursues number request sending)
    (hNew : sending.client.calls.lookup number = none ∨
      ∃ link reply, sending.stage = .returned link reply) :
    traffic.Accompanies (sending.filed request number) := by
  have hOwn := hPursues.own
  unfold Sending.filed
  split
  · next id ticket due hStage =>
    rw [hStage] at hOwn
    have hAbsent : sending.client.calls.lookup number = none :=
      hNew.resolve_right fun ⟨_, _, hReturned⟩ => nomatch hStage.symm.trans hReturned
    refine ⟨hPursues.bare, hPursues.replaced, hPursues.length, ?_⟩
    intro other call hCall
    rw [List.lookup_append] at hCall
    by_cases hOther : other = number
    · subst hOther
      rw [hAbsent, Option.none_or, List.lookup_cons_self] at hCall
      cases hCall
      exact ⟨request.text, hOwn⟩
    · have hBack : (other == number) = false := beq_eq_false_iff_ne.mpr hOther
      rw [List.lookup_cons, hBack, List.lookup_nil, Option.or_none] at hCall
      exact hPursues.others other call hOther hCall
  · next link reply hStage =>
    refine ⟨hPursues.bare, hPursues.replaced, hPursues.length, ?_⟩
    intro other call hCall
    by_cases hOther : other = number
    · subst hOther
      cases (lookup_filter_self _ _).symm.trans hCall
    · exact hPursues.others other call hOther ((lookup_filter_ne hOther).symm.trans hCall)
  · next hNotReturned =>
    have hAbsent : sending.client.calls.lookup number = none :=
      hNew.resolve_right fun ⟨link, reply, hReturned⟩ => hNotReturned link reply hReturned
    refine ⟨hPursues.bare, hPursues.replaced, hPursues.length, ?_⟩
    intro other call hCall
    refine hPursues.others other call ?_ hCall
    rintro rfl
    cases hAbsent.symm.trans hCall

theorem Accompanies.lookup_nextCall (hWith : traffic.Accompanies client) :
    client.calls.lookup client.nextCall = none := by
  cases hCall : client.calls.lookup client.nextCall with
  | none => rfl
  | some call =>
    obtain ⟨text, hText⟩ := hWith.waits _ call hCall
    have hIssued := (List.getElem?_eq_some_iff.mp hText).1
    rw [hWith.length] at hIssued
    exact absurd hIssued (Nat.lt_irrefl _)

theorem Accompanies.send (hWith : traffic.Accompanies client) (method : RpcMethod)
    (params : Trade.Params) (timeout : Duration) (stamp : Stamp) :
    traffic.Reaches (client.send method params timeout stamp).2 := by
  rw [Client.send_eq_depart]
  let counted : Client := { client with nextCall := client.nextCall + 1 }
  have hCalled : (traffic.step (.sends (client.request method params timeout stamp))).Pursues
      client.nextCall (client.request method params timeout stamp) ⟨counted, .called, 0⟩ := by
    refine ⟨hWith.bare, hWith.replaced, ?_, ?_, ?_⟩
    · simp [step, change, counted, hWith.length]
    · simp [step, change, ← hWith.length]
    · intro other call hOther hCall
      obtain ⟨text, hText⟩ := hWith.waits other call hCall
      exact ⟨text, List.getElem?_append_left (List.getElem?_eq_some_iff.mp hText).1 ▸ hText⟩
  obtain ⟨moves, hDeparted⟩ := hCalled.depart
  have hCalls : ((⟨counted, .called, 0⟩ : Sending).depart
      (client.request method params timeout stamp)).client.calls = client.calls :=
    congrArg Client.Books.calls (Client.books_depart _ _)
  exact ⟨.sends _ :: moves, hDeparted.filed (.inl (hCalls ▸ hWith.lookup_nextCall))⟩

theorem Accompanies.settle (hWith : traffic.Accompanies client) (number : CallId) :
    traffic.Reaches (client.settle number) := by
  cases hCall : client.calls.lookup number with
  | none =>
    have hSame : client.settle number = client := by simp only [Client.settle, hCall]
    rw [hSame]
    exact hWith.reaches
  | some call =>
    obtain ⟨text, hText⟩ := hWith.waits number call hCall
    have hWaits : traffic.Pursues number (.ofCall call text)
        ⟨client, .waiting call.link call.ticket call.due, 1⟩ :=
      ⟨hWith.bare, hWith.replaced, hWith.length, hText, fun other call _ => hWith.waits other call⟩
    have hLooked := hWaits.advance.advance
    rw [Client.settle_eq_advance hCall text]
    dsimp only
    split
    · next link reply hReturned =>
      exact ⟨[.advances number, .advances number], hLooked.filed (.inr ⟨link, reply, hReturned⟩)⟩
    · exact hWith.reaches

/-! ## What happens to a client -/

theorem Accompanies.happens (hWith : traffic.Accompanies client) (happening : Client.Happening)
    (hSingle : happening.isSingle = true) :
    (traffic.step (.happens happening hSingle)).Accompanies (client.apply happening) := by
  have hBooks := Client.books_apply hSingle client
  have hBare : traffic.client.apply happening = (client.apply happening).bare := by
    rw [hWith.bare, Client.bare_apply hSingle]
  exact hWith.follows hBare hWith.replaced rfl (congrArg Client.Books.calls hBooks)
    (congrArg Client.Books.nextCall hBooks)

/-- A new connection takes its place, and the one before is closed. -/
theorem Accompanies.opens (hWith : traffic.Accompanies client) :
    traffic.Reaches (client.onHandshake (.ok ())).2 := by
  rw [Client.onHandshake_ok]
  have hBooks := Client.books_retire client.install.2 client.install.1
  have hBare : client.bare.install.2.retire client.bare.install.1 =
      (client.install.2.retire client.install.1).bare :=
    Client.rebooked_retire Client.Books.blank client.install.2 client.install.1
  have hRetires : (traffic.step .opens).change (.retires 0) =
      { traffic.step .opens with
        client := client.bare.install.2.retire client.bare.install.1
        replaced := [] } := by
    simp only [step, change, hWith.bare, hWith.replaced, List.nil_append,
      List.getElem?_cons_zero, List.eraseIdx_cons_zero]
  refine ⟨[.opens, .retires 0], ?_⟩
  refine hWith.follows ?_ ?_ ?_ (congrArg Client.Books.calls hBooks)
    (congrArg Client.Books.nextCall hBooks)
  · show ((traffic.step .opens).change (.retires 0)).client = _
    rw [hRetires, hBare]
  · show ((traffic.step .opens).change (.retires 0)).replaced = []
    rw [hRetires]
  · show ((traffic.step .opens).change (.retires 0)).sends = traffic.sends
    rw [hRetires]
    rfl

/-- A failed attempt is followed by a wait, by the end or by a crash. -/
theorem Accompanies.backOff (hWith : traffic.Accompanies client) (offset : Binary64) :
    traffic.Reaches (client.backOff offset) := by
  refine ⟨[.backsOff ⟨.connecting, client.backoff⟩ offset], ?_⟩
  obtain ⟨hCalls, hNext⟩ := Client.calls_backOff client offset
  have hBare := Client.bare_backOff client .connecting offset
  rw [← hWith.bare] at hBare
  exact hWith.follows hBare hWith.replaced rfl hCalls hNext

/-- Where a reconnection stands is nothing to the traffic. -/
theorem Accompanies.reconnection (hWith : traffic.Accompanies client)
    (reconnection : Reconnection) (backoff : Backoff) :
    traffic.Accompanies { client with reconnection := reconnection, backoff := backoff } :=
  hWith.follows hWith.bare hWith.replaced rfl rfl rfl

theorem Accompanies.reconnects (hWith : traffic.Accompanies client) {turn : Client.Turn}
    (hTurned : Client.Turned client turn next) : traffic.Reaches next := by
  cases hTurned with
  | stays => exact hWith.reaches
  | found | ended | loggedOn | ends | resumes => exact (hWith.reconnection _ _).reaches
  | attempts hStands hLost =>
    have hBegins := hWith.happens .connecting rfl
    exact ⟨[.happens .connecting rfl], hBegins.reconnection _ _⟩
  | fails hStands error stamp offset =>
    have hReaches : traffic.Reaches (client.onHandshake (.error error)).2 :=
      ⟨[.happens _ rfl], hWith.happens (.handshake (.error error)) rfl⟩
    exact hReaches.trans fun hAfter => hAfter.backOff offset
  | opens hStands stamp offset =>
    have hLogsOn : traffic.Reaches ((client.onHandshake (.ok ())).2.logOn stamp).2 :=
      hWith.opens.trans fun hOpened => hOpened.send .logon {} _ stamp
    exact hLogsOn.trans fun hAfter => (hAfter.reconnection _ _).reaches

/-- Whatever happens to a client, some moves lead the traffic along. -/
theorem Accompanies.apply (hWith : traffic.Accompanies client) (happening : Client.Happening) :
    traffic.Reaches (client.apply happening) := by
  cases happening with
  | passed | written | frame | lost | connecting | shutDown =>
    exact ⟨[.happens _ rfl], hWith.happens _ rfl⟩
  | handshake result =>
    cases result with
    | error error => exact ⟨[.happens _ rfl], hWith.happens _ rfl⟩
    | ok opened => exact hWith.opens
  | sent method params timeout stamp => exact hWith.send method params timeout stamp
  | looked number => exact hWith.settle number
  | reconnectAsked =>
    rw [Client.apply]
    rcases client.triggerReconnect_cases with hSame | ⟨-, -, hStarts⟩
    · rw [hSame]
      exact hWith.reaches
    · rw [hStarts]
      exact (hWith.reconnection _ _).reaches
  | reconnectTurn turn => exact hWith.reconnects (Client.turned_reconnectStep client turn)

/-- Every run of a client is a run of the traffic: but for its books the client is the same there,
and the callers that wait are sends that wait. -/
theorem reaches_play (config : RpcConfig) (signer : Trade.Signer) (past : List Client.Happening) :
    ∃ moves, (run config signer moves).Accompanies ((Client.new config signer).play past) := by
  have hReaches :
      Reaches { client := .new config signer } ((Client.new config signer).play past) := by
    induction past using List.reverseRecOn with
    | nil => exact ⟨[], rfl, rfl, rfl, nofun⟩
    | append_singleton past happening ih =>
      rw [Client.play_snoc]
      exact ih.trans fun hWith => hWith.apply happening
  exact hReaches

end Traffic

end MarketGateway.Rpc
