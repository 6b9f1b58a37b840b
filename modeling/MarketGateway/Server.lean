import MarketGateway.Book.View
import MarketGateway.Client.Config
import MarketGateway.Connection.Frame
import MarketGateway.Hub
import MarketGateway.Market.MarkPrice
import MarketGateway.Server.Handshake

/-!
# The downstream server

The server passes prices and order books on to its clients, each from a hub of its own. A client
has a queue for the notices that answer its requests, and a mailbox at the hub of its endpoint for
payloads. What is written to it are notices before payloads, and a ping when there is neither and
one is due.

A client that sends nothing for the read deadline, or that does not take its notices, is
disconnected; a client that does not take its payloads only misses payloads. Whatever ends a
client, `Server.disconnect` leaves the rooms that it held.
-/

namespace MarketGateway

/-- Notices that may wait to be written to a client. -/
def noticeCapacity : Nat := 32

/-- A connected client. -/
structure ServedClient where
  endpoint : Endpoint
  held : HeldRooms := {}
  notices : Queue Notice := { capacity := noticeCapacity }
  /-- When the client is given up unless it sends a frame. -/
  readDue : Duration
  /-- When the next ping is due. -/
  pingDue : Duration
  deriving Repr, DecidableEq

/-- The downstream server. -/
structure Server where
  token : AccessToken
  config : ClientConfig
  prices : Hub MarkPrice
  books : Hub Book.View
  clients : List (ClientId × ServedClient) := []
  nextClient : ClientId := 1
  now : Duration := 0
  /-- Metric events of the clients, oldest first. -/
  metrics : List Metric := []

namespace Server

/-- Number of connected clients. -/
def clientCount (server : Server) : Nat := server.clients.length

/-- Changes one client. -/
def modify (server : Server) (id : ClientId) (change : ServedClient → ServedClient) : Server :=
  { server with
    clients := server.clients.map fun (i, client) =>
      (i, if i = id then change client else client) }

/-- The hub of an endpoint as the registry of its clients. -/
def registry : Endpoint → Registry Server
  | .prices => {
      join key client server :=
        let (failure, prices) := Hub.registry.join key client server.prices
        (failure, { server with prices := prices })
      leave key client server :=
        { server with prices := Hub.registry.leave key client server.prices } }
  | .books _ => {
      join key client server :=
        let (failure, books) := Hub.registry.join key client server.books
        (failure, { server with books := books })
      leave key client server :=
        { server with books := Hub.registry.leave key client server.books } }

/-! ## Clients that come and go -/

/-- An empty mailbox. -/
def mailbox (server : Server) {π : Type} : Queue π :=
  { capacity := max server.config.mailboxCapacity 1 }

/-- Time between two pings; at least a millisecond. -/
def pingPeriod (server : Server) : Duration := max server.config.pingInterval (.ofMillis 1)

/-- Connects a client to an endpoint. -/
def connect (server : Server) (endpoint : Endpoint) : ClientId × Server :=
  let id := server.nextClient
  let client : ServedClient :=
    { endpoint
      readDue := server.now + server.config.readDeadline
      pingDue := server.now + server.pingPeriod }
  let server :=
    { server with
      clients := server.clients ++ [(id, client)]
      nextClient := id + 1
      metrics := server.metrics ++ [Metric.clientConnected] }
  (id,
    match endpoint with
    | .prices =>
      { server with
        prices := { server.prices with boxes := server.prices.boxes ++ [(id, server.mailbox)] } }
    | .books _ =>
      { server with
        books := { server.books with boxes := server.books.boxes ++ [(id, server.mailbox)] } })

/-- Answers a handshake. -/
def accept (server : Server) (handshake : Handshake) : Except Refusal ClientId × Server :=
  match handshake.endpoint server.token with
  | .error refusal => (.error refusal, server)
  | .ok endpoint =>
    let (id, server) := server.connect endpoint
    (.ok id, server)

/-- Ends a client: it leaves its rooms and its mailbox is closed. -/
def disconnect (server : Server) (id : ClientId) : Server :=
  match server.clients.lookup id with
  | none => server
  | some client =>
    let server := ClientSession.leaveAll (registry client.endpoint) id client.held server
    { server with
      clients := server.clients.filter (·.1 != id)
      prices := { server.prices with boxes := server.prices.boxes.close id }
      books := { server.books with boxes := server.books.boxes.close id }
      metrics := server.metrics ++ [Metric.clientDisconnected] }

/-! ## What clients send -/

/-- Answers a request. A client whose notices pile up is disconnected. -/
def onText (server : Server) (id : ClientId) (client : ServedClient) (text : String) : Server :=
  let (notice, held, server) :=
    ClientSession.handle (registry client.endpoint) client.endpoint.levels id text client.held
      server
  let (offer, notices) := client.notices.offer notice
  let server := server.modify id fun client => { client with held := held, notices := notices }
  match offer with
  | .accepted => server
  | _ => server.disconnect id

/-- Takes a frame of a client. Every frame but the closing one starts the read deadline anew. -/
def receive (server : Server) (id : ClientId) (frame : Frame) : Server :=
  match server.clients.lookup id with
  | none => server
  | some client =>
    let readDue := server.now + server.config.readDeadline
    let server := server.modify id fun client => { client with readDue := readDue }
    match frame with
    | .text text => server.onText id { client with readDue := readDue } text
    | .close => server.disconnect id
    | _ => server

/-- Gives a client up whose read deadline is over. -/
def checkRead (server : Server) (id : ClientId) : Server :=
  match server.clients.lookup id with
  | some client => if client.readDue ≤ server.now then server.disconnect id else server
  | none => server

/-! ## What clients get -/

/-- Takes the oldest payload out of a mailbox. -/
def takePayload {π : Type} (hub : Hub π) (id : ClientId) : Option π × Hub π :=
  match hub.boxes.lookup id with
  | some queue =>
    (queue.take.1, { hub with boxes := hub.boxes.modify id fun queue => queue.take.2 })
  | none => (none, hub)

/-- The oldest payload for a client, as text. -/
def nextPayload (server : Server) (id : ClientId) : Endpoint → Option String × Server
  | .prices =>
    let (payload, prices) := takePayload server.prices id
    (payload.map fun price => (MarkPrice.form.toJson price).render,
      { server with prices := prices })
  | .books _ =>
    let (payload, books) := takePayload server.books id
    (payload.map fun view => (Book.View.form.toJson view).render, { server with books := books })

/-- When the ping after the due one is sent: a period after a ping that is late by more than five
milliseconds. -/
def followingPing (server : Server) (client : ServedClient) : Duration :=
  if client.pingDue + .ofMillis 5 < server.now then server.now + server.pingPeriod
  else client.pingDue + server.pingPeriod

/-- The frame that is written to a client next. -/
def nextWrite (server : Server) (id : ClientId) : Option Frame × Server :=
  match server.clients.lookup id with
  | none => (none, server)
  | some client =>
    match client.notices.take with
    | (some notice, notices) =>
      (some (.text notice.toJson.render),
        server.modify id fun client => { client with notices := notices })
    | (none, _) =>
      match server.nextPayload id client.endpoint with
      | (some text, server) => (some (.text text), server)
      | (none, server) =>
        if client.pingDue ≤ server.now then
          let pingDue := server.followingPing client
          (some (.ping []), server.modify id fun client => { client with pingDue := pingDue })
        else (none, server)

/-! ## Payloads and the end -/

/-- Whether the feed of a room runs. -/
def isFed {π : Type} (hub : Hub π) (key : RoomKey) : Bool :=
  match hub.stats? key with
  | some (_, running) => running
  | none => false

/-- The feed of a room publishes a payload; the flag says whether there is a feed that runs. -/
def publishTo {π : Type} (hub : Hub π) (key : RoomKey) (payload : π) : Bool × Hub π :=
  match hub.rooms.find? key with
  | some room => if isFed hub key then (true, hub.publish room payload) else (false, hub)
  | none => (false, hub)

/-- Publishes a price. -/
def publishPrice (server : Server) (key : RoomKey) (price : MarkPrice) : Bool × Server :=
  let (found, prices) := publishTo server.prices key price
  (found, { server with prices := prices })

/-- Publishes a view of an order book. -/
def publishBook (server : Server) (key : RoomKey) (view : Book.View) : Bool × Server :=
  let (found, books) := publishTo server.books key view
  (found, { server with books := books })

/-- Shuts both hubs down; the clients stay. -/
def shutDownHubs (server : Server) : Server :=
  { server with prices := server.prices.shutDown, books := server.books.shutDown }

/-- Disconnects every client. -/
def stop (server : Server) : Server := (server.clients.map (·.1)).foldl disconnect server

/-- Metric events of the server and its hubs. -/
def allMetrics (server : Server) : List Metric :=
  server.metrics ++ server.prices.metrics ++ server.books.metrics

end Server

end MarketGateway
