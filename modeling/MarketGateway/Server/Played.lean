import MarketGateway.Hub.Played
import MarketGateway.Hub.Report
import MarketGateway.Server

/-!
# Servers with played clients

A server together with the clients on the other side of its connections, which keep what they got
until they look at it, and with feeds that are connected as soon as they are started. After every
step everything is written that the server has for its clients.
-/

namespace MarketGateway

/-- Names a client on its own side. -/
abbrev VisitorId := Nat

/-- A client on its own side. -/
structure Visitor where
  /-- The client as the server knows it. -/
  id : ClientId
  /-- Frames that it got and did not look at yet. -/
  inbox : List Frame := []
  deriving Repr, DecidableEq

/-- A server and its clients. -/
structure PlayedServer where
  server : Server
  /-- Whether connections get to the server. -/
  reachable : Bool := true
  visitors : List (VisitorId × Visitor) := []

/-- What a handshake comes to. -/
inductive HandshakeReply
  | unreachable
  | upgraded
  | refused (refusal : Refusal)
  deriving Repr, DecidableEq, Inhabited

/-- What a client finds when it looks for a text. -/
inductive Sight
  | nothing
  | text (content : String)
  | closed
  deriving Repr, DecidableEq, Inhabited

namespace PlayedServer

/-- Writes at most so many frames to a client: those that there are, and the server after that. -/
def write (id : ClientId) : Nat → Server → List Frame × Server
  | 0, server => ([], server)
  | n + 1, server =>
    match server.nextWrite id with
    | (none, server) => ([], server)
    | (some frame, server) =>
      let (frames, server) := write id n server
      (frame :: frames, server)

/-- How many frames can be written to a client: its notices, its payloads and a ping. -/
def backlog (server : Server) (id : ClientId) : Nat :=
  noticeCapacity + ((server.prices.boxes.lookup id).map (·.items.length)).getD 0 +
    ((server.books.boxes.lookup id).map (·.items.length)).getD 0 + 1

/-- Writes what there is for each client. -/
def pump (play : PlayedServer) : PlayedServer :=
  play.visitors.foldl
    (fun play (name, visitor) =>
      let (frames, server) := write visitor.id (backlog play.server visitor.id) play.server
      { play with
        server := server
        visitors := play.visitors ++ [(name, { visitor with inbox := visitor.inbox ++ frames })] })
    { play with visitors := [] }

/-- Lets feeds and timers of a hub follow up to a time. -/
def follow {π : Type} (hub : Hub π) (now : Duration) : Hub π :=
  (PlayedHub.mk hub {} []).advance now |>.hub

/-- Goes to the given time: clients that were silent for too long are given up. -/
def advance (play : PlayedServer) (now : Duration) : PlayedServer :=
  let server := { play.server with now := now }
  let server := (server.clients.map (·.1)).foldl Server.checkRead server
  { play with
    server := { server with
      prices := follow server.prices now
      books := follow server.books now } }.pump

/-- Lets everything follow that needs no time. -/
def settle (play : PlayedServer) : PlayedServer := play.advance play.server.now

/-- A client connects. -/
def connect (play : PlayedServer) (name : VisitorId) (handshake : Handshake) :
    HandshakeReply × PlayedServer :=
  if play.reachable then
    match play.server.accept handshake with
    | (.error refusal, server) => (.refused refusal, { play with server := server })
    | (.ok id, server) =>
      (.upgraded, { play with server := server, visitors := (name, ⟨id, []⟩) :: play.visitors })
  else (.unreachable, play)

/-- The first text among frames, and the frames after it. -/
def firstText : List Frame → Option (String × List Frame)
  | [] => none
  | .text content :: rest => some (content, rest)
  | _ :: rest => firstText rest

/-- A client looks for a text. -/
def look (play : PlayedServer) (name : VisitorId) : Sight × PlayedServer :=
  match play.visitors.lookup name with
  | none => (.nothing, play)
  | some visitor =>
    match firstText visitor.inbox with
    | some (content, rest) =>
      (.text content,
        { play with
          visitors := (name, { visitor with inbox := rest }) ::
            play.visitors.filter (·.1 != name) })
    | none =>
      (if (play.server.clients.lookup visitor.id).isSome then .nothing else .closed, play)

/-- A client sends a frame. -/
def send (play : PlayedServer) (name : VisitorId) (frame : Frame) : PlayedServer :=
  match play.visitors.lookup name with
  | none => play
  | some visitor => { play with server := play.server.receive visitor.id frame }.settle

/-- A client is gone without a word. -/
def drop (play : PlayedServer) (name : VisitorId) : PlayedServer :=
  match play.visitors.lookup name with
  | none => play
  | some visitor => { play with server := play.server.disconnect visitor.id }.settle

/-- Waits for the next ping of a client. There is no flag for a client that is not connected. -/
def awaitPing (play : PlayedServer) (name : VisitorId) : Option Bool × PlayedServer :=
  match play.visitors.lookup name with
  | none => (none, play)
  | some visitor =>
    match play.server.clients.lookup visitor.id with
    | none => (some false, play)
    | some client =>
      (some (client.pingDue < client.readDue),
        play.advance (max play.server.now (min client.pingDue client.readDue)))

/-- Publishes a price. -/
def publishPrice (play : PlayedServer) (key : RoomKey) (price : MarkPrice) :
    Bool × PlayedServer :=
  let (found, server) := play.server.publishPrice key price
  (found, { play with server := server }.settle)

/-- Publishes a view of an order book. -/
def publishBook (play : PlayedServer) (key : RoomKey) (view : Book.View) : Bool × PlayedServer :=
  let (found, server) := play.server.publishBook key view
  (found, { play with server := server }.settle)

/-- Publishes the prices from one up to a number before any of them is written. -/
def burst (play : PlayedServer) (key : RoomKey) (count : Nat) : Bool × PlayedServer :=
  let (found, server) :=
    (List.range count).foldl
      (fun (_, server) n => server.publishPrice key ⟨key.symbol, .ofInt (n + 1), 0⟩)
      (Server.isFed play.server.prices key, play.server)
  (found, { play with server := server }.settle)

/-! ## Reports -/

open Json

/-- Clients, rooms, and the members of each room. -/
def report (play : PlayedServer) : List (String × Json) :=
  let server := play.server
  let rows {π : Type} (hub : Hub π) : List (String × Nat) :=
    hub.rooms.registered.filterMap fun (key, _) =>
      (hub.stats? key).map fun (members, _) => (key.toText, members)
  let rooms := (rows server.prices ++ rows server.books).mergeSort fun a b => a.1 ≤ b.1
  [("clients", nat server.clientCount), ("price_rooms", nat server.prices.rooms.count),
    ("book_rooms", nat server.books.rooms.count),
    ("rooms", array (rooms.map fun (key, members) => array [string key, nat members]))]

end PlayedServer

/-- How a handshake is answered. -/
def HandshakeReply.report : HandshakeReply → Json
  | unreachable => .string "<refused>"
  | upgraded => .object [("status", .nat 101)]
  | refused refusal =>
    .object [("status", .nat refusal.status), ("body", .optional (refusal.body.map .string))]

def Sight.report : Sight → Json
  | nothing => .null
  | text content => .string content
  | closed => .string "<closed>"

end MarketGateway
