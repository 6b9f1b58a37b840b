import MarketGateway.Connection

/-!
# What happens to a connection

The two sides of a connection, its owner and the clock take their steps in any order
(`Connection.Move`). A side that was told to stop need not see it at once: the reading side goes on
until `Move.heed`, and the writing side may begin another frame before it sees that it has to close.

`Course` is a connection with a log of what the owner got and of what went wrong on either side. The
log is kept apart from the queue and the failure that the connection itself holds: `Move.fault?`
says on its own which failure a side meets in a move. What the socket brings in some moves is
`offered`.
-/

namespace MarketGateway

/-- The text that a frame brings, if it is a text or the bytes of one. -/
def Frame.content? : Frame → Option String
  | text content => some content
  | binary bytes => Text.Utf8.strict? bytes
  | _ => none

/-- The failure that an event of the socket is for a reading side with this queue. -/
def SocketEvent.fault? (inbound : Queue String) : SocketEvent → Option TransportError
  | ended | frame .close => some .closed
  | failed => some .webSocket
  | frame other =>
    if other.content?.isSome ∧ inbound.capacity ≤ inbound.items.length then
      some (.inboundOverflow inbound.capacity)
    else none

namespace Connection

/-- What happens next. -/
inductive Move
  /-- Something comes out of the socket. -/
  | socket (event : SocketEvent)
  /-- The owner asks for what there is to receive. -/
  | recv
  /-- The owner, or whoever it belongs to, stops the connection. -/
  | stop
  /-- The reading side sees whether it was told to stop. -/
  | heed
  | checkRead
  | send (content : String)
  /-- An idle writing side begins a frame. Of what is ready it may miss that it was told to stop,
  or that a ping is due. -/
  | write (missesStop missesPing : Bool)
  | wrote
  | writeFailed
  | checkWrite
  | wait (time : Duration)
  deriving DecidableEq

/-- The connection as a writing side sees it that misses something. -/
def glimpse (connection : Connection) (missesStop missesPing : Bool) : Connection :=
  { connection with
    cancelled := connection.cancelled && !missesStop
    pingDue := if missesPing then connection.now + 1 else connection.pingDue }

/-- The writing side begins a frame, whatever it misses. -/
def beginWrite (connection : Connection) (missesStop missesPing : Bool) : Connection :=
  let next := (connection.glimpse missesStop missesPing).nextWrite.2
  { next with
    cancelled := connection.cancelled
    pingDue := if missesPing then connection.pingDue else next.pingDue }

def step (connection : Connection) : Move → Connection
  | .socket event => connection.receive event
  | .recv => connection.recv.2
  | .stop => connection.cancel
  | .heed => connection.heed
  | .checkRead => connection.checkRead
  | .send content => (connection.send content).2
  | .write missesStop missesPing => connection.beginWrite missesStop missesPing
  | .wrote => connection.wrote
  | .writeFailed => connection.writeFailed
  | .checkWrite => connection.checkWrite.2
  | .wait time => { connection with now := connection.now + time }

namespace Move

/-- The text that a move brings, whether or not the reading side is there to take it. -/
def content? : Move → Option String
  | socket (.frame frame) => frame.content?
  | _ => none

/-- The text that the owner gets in a move. -/
def returned? (connection : Connection) : Move → Option String
  | recv =>
    match connection.recv.1 with
    | .text content => some content
    | _ => none
  | _ => none

/-- The error that the owner gets in a move. -/
def error? (connection : Connection) : Move → Option TransportError
  | recv =>
    match connection.recv.1 with
    | .failed error => some error
    | _ => none
  | _ => none

/-- The failure that one of the sides meets in a move. -/
def fault? (connection : Connection) : Move → Option TransportError
  | socket event => if connection.reading then event.fault? connection.inbound else none
  | checkRead =>
    if connection.reading ∧ connection.readDue ≤ connection.now then
      some (.readDeadline connection.config.heartbeat.readDeadline)
    else none
  | writeFailed =>
    match connection.writing with
    | .writing _ => some .webSocket
    | _ => none
  | checkWrite =>
    match connection.writing with
    | .writing due =>
      if due ≤ connection.now then some (.writeTimeout connection.config.writeTimeout) else none
    | _ => none
  | _ => none

end Move

/-- The texts that the socket brings in some moves, in order. -/
def offered (moves : List Move) : List String := moves.filterMap Move.content?

/-- A connection with a log. -/
structure Course where
  connection : Connection
  /-- Texts that the owner got, oldest first. -/
  returned : List String := []
  /-- Failures that the sides met. -/
  faults : List TransportError := []
  /-- Errors that the owner got. -/
  errors : List TransportError := []
  /-- Whether the connection was stopped from outside. -/
  stopped : Bool := false

namespace Course

def step (course : Course) (move : Move) : Course where
  connection := course.connection.step move
  returned := course.returned ++ (move.returned? course.connection).toList
  faults := course.faults ++ (move.fault? course.connection).toList
  errors := course.errors ++ (move.error? course.connection).toList
  stopped := course.stopped || move = .stop

def steps (course : Course) (moves : List Move) : Course := moves.foldl step course

/-- A connection that is established at a time, and what happens to it. -/
def run (config : ConnectionConfig) (now : Duration) (moves : List Move) : Course :=
  steps { connection := establish config now } moves

theorem run_snoc (config : ConnectionConfig) (now : Duration) (moves : List Move) (move : Move) :
    run config now (moves ++ [move]) = (run config now moves).step move :=
  List.foldl_append

end Course

end Connection

end MarketGateway
