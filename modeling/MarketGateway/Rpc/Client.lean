import MarketGateway.Connection.Error
import MarketGateway.Feed.State
import MarketGateway.Json.Printer
import MarketGateway.Rpc.Config
import MarketGateway.Rpc.Session
import MarketGateway.Trade.Request

/-!
# The trading client

The client sends signed requests over one connection at a time and matches the responses that come
back. Every connection that it opened is a link with a session of its own: the table of the
requests that wait for a response. A new connection replaces the session of the one before, whose
requests fail.

The work of the client is cut into steps between which anything else may come:

* a request: `send`, and `settle` once its answer lies ready or its time is over;
* a link: `onFrame`, and `onLost` when its reader comes to the end;
* opening a connection: `beginConnect`, `onHandshake`, and the logon, which is a request like
  others;
* the reconnection in the background: `triggerReconnect`, and `reconnectStep` for each of its
  turns.
-/

namespace MarketGateway.Rpc

/-- Names a connection. -/
abbrev LinkId := Nat

/-- Names a request of a caller. -/
abbrev CallId := Nat

/-- A connection of the client. -/
structure Link where
  session : Session := {}
  /-- Frames that wait to be written. -/
  outbound : Queue String
  /-- Whether its reader still runs. -/
  reading : Bool := true

/-- A request whose caller waits. -/
structure Call where
  method : RpcMethod
  link : LinkId
  requestId : String
  ticket : Ticket
  timeout : Duration
  /-- When the caller gives up. -/
  due : Duration

/-- Where the reconnection in the background stands. -/
inductive Reconnection
  | idle
  /-- It is about to look whether there is a connection. -/
  | checking
  /-- It has found a connection and is about to end. -/
  | ending
  /-- It waits for a handshake. -/
  | connecting
  /-- It waits for the answer to a logon. -/
  | loggingOn (call : CallId)
  /-- It waits before the next attempt. -/
  | waiting (due : Duration)
  /-- It is no more, and did not come to say so. -/
  | crashed
  deriving Repr, DecidableEq, Inhabited

/-- Name and time of a request, as its sender sees to them. -/
structure Stamp where
  requestId : String
  /-- Milliseconds of the clock. -/
  timestamp : Int64
  deriving Repr, DecidableEq

/-- The trading client. -/
structure Client where
  config : RpcConfig
  signer : Trade.Signer
  /-- Every connection that was opened, by its number. -/
  links : List Link := []
  /-- The connection that requests go over. -/
  current : Option LinkId := none
  /-- Requests whose callers wait. -/
  calls : List (CallId × Call) := []
  /-- Requests whose callers have got an answer, oldest first. -/
  finished : List (CallId × Reply) := []
  nextCall : CallId := 0
  reconnection : Reconnection := .idle
  backoff : Backoff
  state : FeedState := { kind := .trading }
  now : Duration := 0
  /-- Whether the client was shut down. -/
  cancelled : Bool := false
  /-- Metric events, oldest first. -/
  metrics : List Metric := []

namespace Client

/-- A client without a connection. -/
def new (config : RpcConfig) (signer : Trade.Signer) : Client :=
  { config, signer, backoff := .new config.reconnect }

def record (client : Client) (metrics : List Metric) : Client :=
  { client with metrics := client.metrics ++ metrics }

/-- Puts a session back that took a step. -/
def setSession (client : Client) (id : LinkId) (session : Session) (metrics : List Metric) :
    Client :=
  { client with
    links := client.links.modify id fun link => { link with session := session } }.record metrics

/-- Whether requests can go out. -/
def isConnected (client : Client) : Bool :=
  match client.current.bind (client.links[·]?) with
  | some link => !link.session.closed
  | none => false

/-! ## Requests -/

/-- The frame of a request. -/
def requestText (client : Client) (method : RpcMethod) (params : Trade.Params) (stamp : Stamp) :
    String :=
  let params := (client.signer.signParams params stamp.timestamp).toJson
  (RequestFrame.form.toJson ⟨stamp.requestId, method.name, params⟩).render

/-- A caller gets its answer. -/
def finish (client : Client) (id : CallId) (method : RpcMethod) (reply : Reply) : Client :=
  { client with
    calls := client.calls.filter (·.1 != id)
    finished := client.finished ++ [(id, reply)] }.record [.rpcRequest method.name reply.outcome]

/-- Why a frame that was not queued counts as failed. -/
def queueFailure : Offer → RpcError
  | .closed => .connectionClosed
  | _ => .transport TransportError.outboundFull.message

/-- Sends a request over a link under a call number. -/
def sendOver (client : Client) (call : CallId) (id : LinkId) (link : Link) (method : RpcMethod)
    (params : Trade.Params) (timeout : Duration) (stamp : Stamp) : Client :=
  match link.session.register stamp.requestId with
  | (.error error, _, _) => client.finish call method (.error error)
  | (.ok ticket, session, metrics) =>
    let client := client.setSession id session metrics
    match link.outbound.offer (client.requestText method params stamp) with
    | (.accepted, outbound) =>
      { client with
        links := client.links.modify id fun link => { link with outbound := outbound }
        calls := client.calls ++
          [(call, ⟨method, id, stamp.requestId, ticket, timeout, client.now + timeout⟩)] }
    | (offer, _) =>
      let (session, metrics) := session.abandon stamp.requestId
      (client.setSession id session metrics).finish call method (.error (queueFailure offer))

/-- Sends a request over the current connection; gives the number of the call. -/
def send (client : Client) (method : RpcMethod) (params : Trade.Params) (timeout : Duration)
    (stamp : Stamp) : CallId × Client :=
  let call := client.nextCall
  let client := { client with nextCall := call + 1 }
  (call,
    match client.current with
    | none => client.finish call method (.error .notConnected)
    | some id =>
      match client.links[id]? with
      | none => client.finish call method (.error .notConnected)
      | some link => client.sendOver call id link method params timeout stamp)

/-- Sends the request for a command. -/
def execute (client : Client) (command : TradeCommand) (stamp : Stamp) : CallId × Client :=
  client.send (.ofCommand command) command.params client.config.requestTimeout stamp

/-- The caller of a request looks for its answer. It gets it if it lies ready, or gives up when its
time is over; either way the request leaves the table. -/
def settle (client : Client) (id : CallId) : Client :=
  match client.calls.lookup id with
  | none => client
  | some call =>
    match client.links[call.link]? with
    | none => client
    | some link =>
      let (delivery, session) := link.session.take call.ticket
      let leave (reply : Reply) : Client :=
        let (session, metrics) := session.abandon call.requestId
        (client.setSession call.link session metrics).finish id call.method reply
      match delivery with
      | .answered reply => leave reply
      | .gone => leave (.error .connectionClosed)
      | .waiting => if call.due ≤ client.now then leave (.error (.timeout call.timeout)) else client

/-- Lets every caller look for its answer. -/
def settleAll (client : Client) : Client := (client.calls.map (·.1)).foldl settle client

/-! ## Links -/

/-- A frame came in over a link. -/
def onFrame (client : Client) (id : LinkId) (text : String) : Client :=
  match client.links[id]? with
  | none => client
  | some link =>
    if link.reading then
      let (session, metrics) := link.session.dispatch text
      { client with state := client.state.message }.setSession id session metrics
    else client

/-- Fails what waits on a link and refuses more. -/
def closeSession (client : Client) (id : LinkId) : Client :=
  match client.links[id]? with
  | none => client
  | some link =>
    let (_, session, metrics) := link.session.close
    client.setSession id session metrics

/-- The reader of a link comes to the end. A link that was stopped from here ends without an
error. -/
def onLost (client : Client) (id : LinkId) (error : TransportError) : Client :=
  match client.links[id]? with
  | none => client
  | some link =>
    if link.reading then
      let client := client.closeSession id
      { client with
        links := client.links.modify id fun link =>
          { link with reading := false, outbound := link.outbound.close }
        state := client.state.ended true
          (if error = .cancelled then none else some error.message) }
    else client

/-! ## Opening a connection -/

/-- Starts to open a connection. -/
def beginConnect (client : Client) : Client := { client with state := client.state.connecting }

/-- The handshake is over. A new connection takes the place of the current one. -/
def onHandshake (client : Client) : Except TransportError Unit → Except RpcError LinkId × Client
  | .error error =>
    (.error (.transport error.message),
      { client with state := client.state.ended false (some error.message) })
  | .ok () =>
    let id := client.links.length
    let capacity := max client.config.connection.outboundCapacity 1
    let link : Link := { outbound := { capacity := capacity } }
    let previous := client.current
    let client := { client with links := client.links ++ [link], current := some id }
    let client :=
      match previous with
      | some old => client.closeSession old
      | none => client
    (.ok id, { client with state := client.state.connected })

/-- Sends the logon that follows a handshake. -/
def logOn (client : Client) (stamp : Stamp) : CallId × Client :=
  client.send .logon {} client.config.requestTimeout stamp

/-! ## Reconnection in the background -/

/-- Asks for a reconnection. There is nothing to do after the end, with a connection that is
alive, or while a reconnection is on its way. -/
def triggerReconnect (client : Client) : Client :=
  if client.cancelled || client.isConnected || client.reconnection ≠ .idle then client
  else
    { client with reconnection := .checking, backoff := .new client.config.reconnect }

/-- What a turn of the reconnection is given. -/
inductive Turn
  /-- Nothing but that time has passed. -/
  | go
  /-- The outcome of a handshake, and the random part of the delay that may follow. -/
  | handshake (result : Except TransportError Unit) (stamp : Stamp) (offset : Binary64)

/-- After a failed attempt: waits, or ends when no further attempt is allowed. When the random part
of the delay cannot be drawn, the reconnection crashes and stays marked as on its way. -/
def backOff (client : Client) (offset : Binary64) : Client :=
  match client.backoff.ask offset with
  | .exhausted => { client with reconnection := .idle }
  | .crashed => { client with reconnection := .crashed }
  | .delays delay backoff =>
    { client with
      backoff := backoff
      reconnection := .waiting (client.now + delay)
      state := client.state.reconnecting backoff.attempts }.record [.reconnect .trading]

/-- One turn of the reconnection; a turn that does not fit where it stands changes nothing. -/
def reconnectStep (client : Client) (turn : Turn) : Client :=
  match client.reconnection, turn with
  | .checking, .go =>
    if client.isConnected then { client with reconnection := .ending }
    else { client.beginConnect with reconnection := .connecting }
  | .ending, .go => { client with reconnection := .idle }
  | .connecting, .handshake result stamp offset =>
    match client.onHandshake result with
    | (.error _, client) => client.backOff offset
    | (.ok _, client) =>
      let (call, client) := client.logOn stamp
      { client with reconnection := .loggingOn call }
  | .loggingOn call, .go =>
    if (client.calls.lookup call).isSome then client else { client with reconnection := .idle }
  | .waiting due, .go =>
    if client.cancelled then { client with reconnection := .idle }
    else if due ≤ client.now then { client with reconnection := .checking }
    else client
  | _, _ => client

/-! ## The end -/

/-- Ends the client: the current session is closed and given up, and every link will be lost. -/
def shutDown (client : Client) : Client :=
  let previous := client.current
  let client := { client with cancelled := true, current := none }
  match previous with
  | some id => client.closeSession id
  | none => client

end Client

end MarketGateway.Rpc
