import MarketGateway.Proofs.Rpc.Reconnection

/-!
# Reconnections as tasks

A trading client is asked for a reconnection from many sides. A caller looks for a connection first
and raises a flag then, and the flag is to keep later callers from starting another reconnection. A
reconnection is a task of its own: it looks for a connection, waits for a handshake, puts the new
connection in the place of the current one, closes the session that was there, logs on, and lowers
the flag in the end. Between any two of these steps everything else may come, so `Background` is a
client with the callers and the tasks that are under way. There are as many tasks as were started.

Callers and tasks that nothing comes between do what `Client.triggerReconnect` and
`Client.reconnectStep` do (`reaches_triggerReconnect`, `reaches_reconnectStep`), and every run of a
client to which nobody else opens connections is a run of this kind (`reaches_play`).
-/

namespace MarketGateway.Rpc

namespace Client

/-- A new connection takes the place of the current one, whose number is given back. -/
def install (client : Client) : Option LinkId × Client :=
  let link : Link := { outbound := { capacity := max client.config.connection.outboundCapacity 1 } }
  (client.current,
    { client with links := client.links ++ [link], current := some client.links.length })

/-- Closes the session of a connection whose place was taken. -/
def retire (client : Client) (previous : Option LinkId) : Client :=
  let client :=
    match previous with
    | some old => client.closeSession old
    | none => client
  { client with state := client.state.connected }

theorem onHandshake_ok (client : Client) :
    client.onHandshake (.ok ()) =
      (.ok client.links.length, client.install.2.retire client.install.1) := rfl

/-- What comes from elsewhere than from the reconnection, when nobody else opens connections. -/
def Happening.isElsewhere : Happening → Bool
  | .connecting | .handshake _ | .reconnectAsked | .reconnectTurn _ => false
  | .passed _ | .written _ | .frame _ _ | .lost _ _ | .sent _ _ _ _ | .looked _ | .shutDown => true

/-- A request over the connection that was the current one when its caller looked. -/
def sendOn (client : Client) (picked : Option LinkId) (method : RpcMethod) (params : Trade.Params)
    (timeout : Duration) (stamp : Stamp) : Client :=
  { ({ client with current := picked }.send method params timeout stamp).2 with
    current := client.current }

theorem sendOn_current (client : Client) (method : RpcMethod) (params : Trade.Params)
    (timeout : Duration) (stamp : Stamp) :
    client.sendOn client.current method params timeout stamp =
      (client.send method params timeout stamp).2 := by
  have hCurrent := (spares_send client method params timeout stamp).current
  show { (client.send method params timeout stamp).2 with current := client.current } = _
  rw [← hCurrent]

end Client

/-- Where a task stands. -/
inductive Stage
  /-- It is about to look for a connection. -/
  | checking
  /-- It waits for a handshake. -/
  | connecting
  /-- Its connection is the current one, and it is about to close the one before. -/
  | retiring (previous : Option LinkId)
  /-- It is about to log on. -/
  | opened
  | loggingOn (call : CallId)
  | waiting (due : Duration)
  /-- It is about to lower the flag. -/
  | ending
  /-- It is no more, and left the flag up. -/
  | crashed
  deriving DecidableEq

/-- A reconnection, with a backoff of its own. -/
structure Reconnector where
  stage : Stage
  backoff : Backoff

/-- What a task is given for its next step. -/
inductive Act
  | go
  /-- The outcome of a handshake, and the random part of the delay that may follow. -/
  | handshake (result : Except TransportError Unit) (offset : Binary64)
  /-- The logon goes over the connection that was the current one when the task looked for it. -/
  | logOn (picked : Option LinkId) (stamp : Stamp)

/-- After a failed attempt: the task waits, or ends when no further attempt is allowed. It crashes
when the random part of the delay cannot be drawn. -/
def Reconnector.backOff (task : Reconnector) (offset : Binary64) (client : Client) :
    Reconnector × Client :=
  match task.backoff.ask offset with
  | .exhausted => ({ task with stage := .ending }, client)
  | .crashed => ({ task with stage := .crashed }, client)
  | .delays delay backoff =>
    (⟨.waiting (client.now + delay), backoff⟩,
      { client with state := client.state.reconnecting backoff.attempts }.record
        [.reconnect .trading])

/-- A step of a task, which is gone after its last one; what it is given may not fit where it
stands. -/
def Reconnector.act (task : Reconnector) (act : Act) (client : Client) :
    Option Reconnector × Client :=
  match task.stage, act with
  | .checking, .go =>
    if client.isConnected then (some { task with stage := .ending }, client)
    else (some { task with stage := .connecting }, client.beginConnect)
  | .connecting, .handshake (.error error) offset =>
    let (task, client) := task.backOff offset (client.onHandshake (.error error)).2
    (some task, client)
  | .connecting, .handshake (.ok ()) _ =>
    (some { task with stage := .retiring client.install.1 }, client.install.2)
  | .retiring previous, .go => (some { task with stage := .opened }, client.retire previous)
  | .opened, .logOn picked stamp =>
    (some { task with stage := .loggingOn client.nextCall },
      client.sendOn picked .logon {} client.config.requestTimeout stamp)
  | .loggingOn call, .go =>
    if (client.calls.lookup call).isSome then (some task, client)
    else (some { task with stage := .ending }, client)
  | .waiting due, .go =>
    if client.cancelled then (some { task with stage := .ending }, client)
    else if due ≤ client.now then (some { task with stage := .checking }, client)
    else (some task, client)
  | .ending, .go => (none, client)
  | _, _ => (some task, client)

/-- A client with the reconnections that are under way. -/
structure Background where
  /-- The client, whose own account of a reconnection is left idle. -/
  client : Client
  /-- The flag that is up while a reconnection runs. -/
  reconnecting : Bool := false
  /-- Callers that found no connection and have not looked at the flag yet. -/
  asking : Nat := 0
  tasks : List Reconnector := []

namespace Background

/-- What happens next. -/
inductive Move
  /-- A caller asks for a reconnection and looks for a connection. -/
  | ask
  /-- A caller that found none looks at the flag and raises it. -/
  | start
  /-- The task with this number takes a step. -/
  | act (index : Nat) (act : Act)
  | sendOn (picked : Option LinkId) (method : RpcMethod) (params : Trade.Params)
      (timeout : Duration) (stamp : Stamp)
  | happens (happening : Client.Happening) (hElsewhere : happening.isElsewhere = true)

def step (background : Background) : Move → Background
  | .ask =>
    if background.client.cancelled || background.client.isConnected then background
    else { background with asking := background.asking + 1 }
  | .start =>
    if background.asking = 0 then background
    else if background.reconnecting then { background with asking := background.asking - 1 }
    else
      { background with
        asking := background.asking - 1
        reconnecting := true
        tasks := background.tasks ++ [⟨.checking, .new background.client.config.reconnect⟩] }
  | .act index act =>
    match background.tasks[index]? with
    | none => background
    | some task =>
      match task.act act background.client with
      | (some task, client) =>
        { background with client := client, tasks := background.tasks.set index task }
      | (none, client) =>
        { background with
          client := client
          reconnecting := false
          tasks := background.tasks.eraseIdx index }
  | .sendOn picked method params timeout stamp =>
    { background with client := background.client.sendOn picked method params timeout stamp }
  | .happens happening _ => { background with client := background.client.apply happening }

def steps (background : Background) (moves : List Move) : Background := moves.foldl step background

/-- A new client after some moves. -/
def run (config : RpcConfig) (signer : Trade.Signer) (moves : List Move) : Background :=
  steps { client := .new config signer } moves

theorem steps_append (background : Background) (moves more : List Move) :
    background.steps (moves ++ more) = (background.steps moves).steps more :=
  List.foldl_append

theorem run_snoc (config : RpcConfig) (signer : Trade.Signer) (moves : List Move) (move : Move) :
    run config signer (moves ++ [move]) = (run config signer moves).step move :=
  steps_append _ moves [move]

end Background

/-! ## Callers and tasks on their own -/

/-- Where the task of a reconnection stands, if there is one. -/
def Stage.of? : Reconnection → Option Stage
  | .idle => none
  | .checking => some .checking
  | .ending => some .ending
  | .connecting => some .connecting
  | .loggingOn call => some (.loggingOn call)
  | .waiting due => some (.waiting due)
  | .crashed => some .crashed

namespace Client

/-! ### The books of a client -/

/-- What a client has in its books: its calls, and where a reconnection stands. -/
structure Books where
  calls : List (CallId × Call)
  finished : List (CallId × Reply)
  nextCall : CallId
  reconnection : Reconnection
  backoff : Backoff

def books (client : Client) : Books :=
  ⟨client.calls, client.finished, client.nextCall, client.reconnection, client.backoff⟩

/-- The client with other books, which are made from its own. -/
def rebooked (edit : RpcConfig → Books → Books) (client : Client) : Client :=
  let books := edit client.config client.books
  { client with
    calls := books.calls
    finished := books.finished
    nextCall := books.nextCall
    reconnection := books.reconnection
    backoff := books.backoff }

section

variable (edit : RpcConfig → Books → Books) (client : Client)

theorem books_closeSession (id : LinkId) : (client.closeSession id).books = client.books := by
  unfold closeSession
  split <;> rfl

theorem rebooked_closeSession (id : LinkId) :
    (client.rebooked edit).closeSession id = (client.closeSession id).rebooked edit := by
  have hLinks : (client.rebooked edit).links = client.links := rfl
  unfold closeSession
  rw [hLinks]
  split <;> rfl

theorem books_retire (previous : Option LinkId) :
    (client.retire previous).books = client.books := by
  cases previous with
  | none => rfl
  | some old => exact books_closeSession client old

theorem rebooked_retire (previous : Option LinkId) :
    (client.rebooked edit).retire previous = (client.retire previous).rebooked edit := by
  cases previous with
  | none => rfl
  | some old =>
    have hClose := rebooked_closeSession edit client old
    exact congrArg (fun closed => { closed with state := closed.state.connected }) hClose

theorem books_onFrame (id : LinkId) (text : String) :
    (client.onFrame id text).books = client.books := by
  unfold onFrame
  split
  · rfl
  · split <;> rfl

theorem rebooked_onFrame (id : LinkId) (text : String) :
    (client.rebooked edit).onFrame id text = (client.onFrame id text).rebooked edit := by
  have hLinks : (client.rebooked edit).links = client.links := rfl
  unfold onFrame
  rw [hLinks]
  split
  · rfl
  · split <;> rfl

theorem books_onLost (id : LinkId) (error : TransportError) :
    (client.onLost id error).books = client.books := by
  unfold onLost
  split
  · rfl
  · split
    · exact books_closeSession client id
    · rfl

theorem rebooked_onLost (id : LinkId) (error : TransportError) :
    (client.rebooked edit).onLost id error = (client.onLost id error).rebooked edit := by
  have hLinks : (client.rebooked edit).links = client.links := rfl
  unfold onLost
  rw [hLinks, rebooked_closeSession]
  split
  · rfl
  · split <;> rfl

theorem books_shutDown : client.shutDown.books = client.books := by
  unfold shutDown
  dsimp only
  split
  · exact books_closeSession { client with cancelled := true, current := none } _
  · rfl

theorem rebooked_shutDown :
    (client.rebooked edit).shutDown = client.shutDown.rebooked edit := by
  have hCurrent : (client.rebooked edit).current = client.current := rfl
  unfold shutDown
  rw [hCurrent]
  dsimp only
  split
  · exact rebooked_closeSession edit { client with cancelled := true, current := none } _
  · rfl

end

/-! ### Without a reconnection -/

/-- No reconnection is on its way. -/
def Books.parked (config : RpcConfig) (books : Books) : Books :=
  { books with reconnection := .idle, backoff := .new config.reconnect }

/-- The client without its account of a reconnection. -/
def parked (client : Client) : Client := client.rebooked Books.parked

theorem parked_sendOver (client : Client) (call : CallId) (id : LinkId) (link : Link)
    (method : RpcMethod) (params : Trade.Params) (timeout : Duration) (stamp : Stamp) :
    client.parked.sendOver call id link method params timeout stamp =
      (client.sendOver call id link method params timeout stamp).parked := by
  unfold sendOver
  split
  · rfl
  · next ticket session metrics _ =>
    have hText : (client.parked.setSession id session metrics).requestText method params stamp =
        (client.setSession id session metrics).requestText method params stamp := rfl
    dsimp only
    rw [hText]
    split <;> rfl

theorem parked_send (client : Client) (method : RpcMethod) (params : Trade.Params)
    (timeout : Duration) (stamp : Stamp) :
    client.parked.send method params timeout stamp =
      ((client.send method params timeout stamp).1,
        (client.send method params timeout stamp).2.parked) := by
  have hCurrent : client.parked.current = client.current := rfl
  have hLinks : client.parked.links = client.links := rfl
  unfold send
  rw [hCurrent, hLinks]
  refine Prod.ext rfl ?_
  dsimp only
  split
  · rfl
  · split
    · rfl
    · exact parked_sendOver { client with nextCall := client.nextCall + 1 } _ _ _ _ _ _ _

theorem parked_settle (client : Client) (call : CallId) :
    client.parked.settle call = (client.settle call).parked := by
  have hCalls : client.parked.calls = client.calls := rfl
  have hLinks : client.parked.links = client.links := rfl
  have hNow : client.parked.now = client.now := rfl
  unfold settle
  rw [hCalls, hLinks, hNow]
  split
  · rfl
  · split
    · rfl
    · dsimp only
      split
      · rfl
      · rfl
      · split <;> rfl

/-- Nothing from elsewhere looks at the account of a reconnection. -/
theorem parked_apply {happening : Happening} (hElsewhere : happening.isElsewhere = true)
    (client : Client) : client.parked.apply happening = (client.apply happening).parked := by
  cases happening with
  | passed | written => rfl
  | frame id text => exact rebooked_onFrame Books.parked client id text
  | lost id error => exact rebooked_onLost Books.parked client id error
  | sent method params timeout stamp =>
    exact congrArg Prod.snd (parked_send client method params timeout stamp)
  | looked call => exact parked_settle client call
  | shutDown => exact rebooked_shutDown Books.parked client
  | connecting | handshake | reconnectAsked | reconnectTurn => cases hElsewhere

/-- Nothing from elsewhere changes it either. -/
theorem reconnection_apply {happening : Happening} (hElsewhere : happening.isElsewhere = true)
    (client : Client) : (client.apply happening).reconnection = client.reconnection ∧
      (client.apply happening).backoff = client.backoff := by
  cases happening with
  | shutDown =>
    have hBooks := books_shutDown client
    exact ⟨congrArg Books.reconnection hBooks, congrArg Books.backoff hBooks⟩
  | passed | written | frame | lost | sent | looked =>
    have hStands := @stands_apply client
    exact ⟨(hStands (by simp) (by simp) (by simp) (by simp)).reconnection,
      (hStands (by simp) (by simp) (by simp) (by simp)).backoff⟩
  | connecting | handshake | reconnectAsked | reconnectTurn => cases hElsewhere

end Client

namespace Background

/-- A client with its reconnection as a task. -/
def ofClient (client : Client) : Background where
  client := client.parked
  reconnecting := (Stage.of? client.reconnection).isSome
  tasks := (Stage.of? client.reconnection).toList.map (⟨·, client.backoff⟩)

variable {client next : Client} {task : Reconnector} {background middle last : Background}

theorem ofClient_of_stage {stage : Stage} (hStage : Stage.of? client.reconnection = some stage) :
    ofClient client = ⟨client.parked, true, 0, [⟨stage, client.backoff⟩]⟩ := by
  simp [ofClient, hStage]

theorem ofClient_of_idle (hIdle : client.reconnection = .idle) :
    ofClient client = ⟨client.parked, false, 0, []⟩ := by
  simp [ofClient, hIdle, Stage.of?]

/-- Some moves lead there. -/
def Reaches (background next : Background) : Prop := ∃ moves, background.steps moves = next

theorem Reaches.refl (background : Background) : background.Reaches background := ⟨[], rfl⟩

theorem Reaches.trans (hFirst : background.Reaches middle) (hSecond : middle.Reaches last) :
    background.Reaches last := by
  obtain ⟨moves, rfl⟩ := hFirst
  obtain ⟨more, rfl⟩ := hSecond
  exact ⟨moves ++ more, steps_append _ _ _⟩

/-- The only task goes on. -/
theorem reaches_act {after : Reconnector} (act : Act)
    (hAct : task.act act client = (some after, next)) :
    Reaches ⟨client, true, 0, [task]⟩ ⟨next, true, 0, [after]⟩ := by
  refine ⟨[.act 0 act], ?_⟩
  simp [steps, step, hAct]

/-- The only task comes to its end. -/
theorem reaches_end (client : Client) (backoff : Backoff) :
    Reaches ⟨client, true, 0, [⟨.ending, backoff⟩]⟩ ⟨client, false, 0, []⟩ :=
  ⟨[.act 0 .go], rfl⟩

theorem reaches_triggerReconnect (client : Client) :
    (ofClient client).Reaches (ofClient client.triggerReconnect) := by
  unfold Client.triggerReconnect
  split
  · exact .refl _
  · next hNeeded =>
    simp only [Bool.or_eq_true, decide_eq_true_eq, not_or, Bool.not_eq_true, Decidable.not_not]
      at hNeeded
    obtain ⟨⟨hLive, hLost⟩, hIdle⟩ := hNeeded
    have hAsks : (ofClient client).step .ask = ⟨client.parked, false, 1, []⟩ := by
      rw [ofClient_of_idle hIdle]
      refine if_neg ?_
      show ¬ (client.cancelled || client.isConnected) = true
      simp [hLive, hLost]
    exact ⟨[.ask, .start], congrArg (step · .start) hAsks⟩

theorem reaches_backOff (client : Client) (stage : Stage) (offset : Binary64) :
    Reaches
      ⟨(Reconnector.backOff ⟨stage, client.backoff⟩ offset client.parked).2, true, 0,
        [(Reconnector.backOff ⟨stage, client.backoff⟩ offset client.parked).1]⟩
      (ofClient (client.backOff offset)) := by
  unfold Reconnector.backOff Client.backOff
  cases client.backoff.ask offset with
  | exhausted => exact reaches_end _ _
  | crashed => exact .refl _
  | delays delay after => exact .refl _

/-- A handshake, the exchange of the connections, the end of the old one and the logon. -/
theorem reaches_opens (client : Client) (stamp : Stamp) :
    Reaches ⟨client.parked, true, 0, [⟨.connecting, client.backoff⟩]⟩
      (ofClient { ((client.onHandshake (.ok ())).2.logOn stamp).2 with
        reconnection := .loggingOn ((client.onHandshake (.ok ())).2.logOn stamp).1 }) := by
  rw [Client.onHandshake_ok]
  have hBackoff : (client.install.2.retire client.install.1).backoff = client.backoff :=
    congrArg Client.Books.backoff (Client.books_retire _ _)
  have hRetired : client.install.2.parked.retire client.install.1 =
      (client.install.2.retire client.install.1).parked :=
    Client.rebooked_retire Client.Books.parked client.install.2 client.install.1
  generalize client.install.2.retire client.install.1 = retired at hBackoff hRetired ⊢
  have hSwap : Reaches ⟨client.parked, true, 0, [⟨.connecting, client.backoff⟩]⟩
      ⟨client.install.2.parked, true, 0, [⟨.retiring client.install.1, client.backoff⟩]⟩ :=
    reaches_act (.handshake (.ok ()) .zero) rfl
  have hClose : Reaches
      ⟨client.install.2.parked, true, 0, [⟨.retiring client.install.1, client.backoff⟩]⟩
      ⟨retired.parked, true, 0, [⟨.opened, client.backoff⟩]⟩ := by
    rw [← hRetired]
    exact reaches_act .go rfl
  have hLogOn : Reaches ⟨retired.parked, true, 0, [⟨.opened, client.backoff⟩]⟩
      ⟨(retired.logOn stamp).2.parked, true, 0,
        [⟨.loggingOn (retired.logOn stamp).1, client.backoff⟩]⟩ := by
    have hSent : retired.parked.sendOn retired.parked.current .logon {}
        retired.config.requestTimeout stamp = (retired.logOn stamp).2.parked := by
      rw [Client.sendOn_current, Client.parked_send]
      rfl
    exact reaches_act (.logOn retired.parked.current stamp) (congrArg (Prod.mk _) hSent)
  have hKept : (retired.logOn stamp).2.backoff = client.backoff :=
    (Client.logOn_spares retired stamp).backoff.trans hBackoff
  have hTask := @ofClient_of_stage { (retired.logOn stamp).2 with
    reconnection := .loggingOn (retired.logOn stamp).1 } _ rfl
  rw [hKept] at hTask
  rw [hTask]
  exact (hSwap.trans hClose).trans hLogOn

/-- A task that nothing comes between takes the turns of the reconnection. -/
theorem reaches_reconnectStep (client : Client) (turn : Client.Turn) :
    (ofClient client).Reaches (ofClient (client.reconnectStep turn)) := by
  have hTask {stage : Stage} (hStage : Stage.of? client.reconnection = some stage) :
      ofClient client = ⟨client.parked, true, 0, [⟨stage, client.backoff⟩]⟩ :=
    ofClient_of_stage hStage
  unfold Client.reconnectStep
  split
  · next hStands =>
    rw [hTask (congrArg Stage.of? hStands)]
    split
    · next hFound => exact reaches_act .go (if_pos hFound)
    · next hLost => exact reaches_act .go (if_neg hLost)
  · next hStands =>
    rw [hTask (congrArg Stage.of? hStands)]
    exact reaches_end _ _
  · next result stamp offset hStands =>
    rw [hTask (congrArg Stage.of? hStands)]
    cases result with
    | error error =>
      exact (reaches_act (.handshake (.error error) offset) rfl).trans
        (reaches_backOff (client.onHandshake (.error error)).2 .connecting offset)
    | ok opened => exact reaches_opens client stamp
  · next call hStands =>
    split
    · exact .refl _
    · next hDone =>
      rw [hTask (congrArg Stage.of? hStands)]
      have hEnds : Reconnector.act ⟨.loggingOn call, client.backoff⟩ .go client.parked =
          (some ⟨.ending, client.backoff⟩, client.parked) := if_neg hDone
      exact (reaches_act .go hEnds).trans (reaches_end _ _)
  · next due hStands =>
    have hTurn := hTask (congrArg Stage.of? hStands)
    split
    · next hEnd =>
      have hEnds : Reconnector.act ⟨.waiting due, client.backoff⟩ .go client.parked =
          (some ⟨.ending, client.backoff⟩, client.parked) := if_pos hEnd
      rw [hTurn]
      exact (reaches_act .go hEnds).trans (reaches_end _ _)
    · next hLive =>
      split
      · next hDue =>
        rw [hTurn]
        exact reaches_act .go ((if_neg hLive).trans (if_pos hDue))
      · exact .refl _
  · exact .refl _

theorem step_happens {happening : Client.Happening} (hElsewhere : happening.isElsewhere = true)
    (client : Client) :
    (ofClient client).step (.happens happening hElsewhere) = ofClient (client.apply happening) := by
  obtain ⟨hReconnection, hBackoff⟩ := Client.reconnection_apply hElsewhere client
  simp only [step, ofClient, Client.parked_apply hElsewhere, hReconnection, hBackoff]

/-- Every run of a client to which nobody else opens connections is a run of callers and tasks. -/
theorem reaches_play (config : RpcConfig) (signer : Trade.Signer) {past : List Client.Happening}
    (hConnecting : .connecting ∉ past) (hHandshake : ∀ result, .handshake result ∉ past) :
    ∃ moves, run config signer moves = ofClient ((Client.new config signer).play past) := by
  induction past using List.reverseRecOn with
  | nil => exact ⟨[], rfl⟩
  | append_singleton past happening ih =>
    simp only [List.mem_append, List.mem_singleton, not_or] at hConnecting hHandshake
    obtain ⟨moves, hMoves⟩ := ih hConnecting.1 fun result => (hHandshake result).1
    have hNext (client : Client) :
        (ofClient client).Reaches (ofClient (client.apply happening)) := by
      cases happening with
      | connecting => exact absurd rfl hConnecting.2
      | handshake result => exact absurd rfl (hHandshake result).2
      | reconnectAsked => exact reaches_triggerReconnect client
      | reconnectTurn turn => exact reaches_reconnectStep client turn
      | passed | written | frame | lost | sent | looked | shutDown =>
        exact ⟨[.happens _ rfl], step_happens rfl client⟩
    obtain ⟨more, hMore⟩ := hNext ((Client.new config signer).play past)
    refine ⟨moves ++ more, ?_⟩
    rw [run, steps_append, ← run, hMoves, hMore, Client.play_snoc]

end Background

end MarketGateway.Rpc
