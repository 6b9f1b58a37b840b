import MarketGateway.Connection

/-!
# Connections over a pipe

A connection together with a peer at the other end of a pipe that holds so many bytes in each
direction. What the connection writes stays in the pipe until the peer reads, and a write is
finished when its last byte is in the pipe. The peer reads only when it is told to, and answers
pings while it does; the connection reads at once.
-/

namespace MarketGateway

/-- A connection and its peer. -/
structure PlayedConnection where
  connection : Connection
  /-- Number of bytes that the pipe holds. -/
  pipe : Nat
  /-- Frames that were begun and that the peer has not read. -/
  unread : List Frame := []
  /-- Whether the peer is still there. -/
  present : Bool := true
  /-- Whether the peer has sent a close frame. -/
  peerClosed : Bool := false
  deriving Repr

namespace PlayedConnection

/-- The frames that are in the pipe as a whole. -/
def whole : Nat → List Frame → List Frame
  | _, [] => []
  | room, frame :: rest =>
    if frame.size ≤ room then frame :: whole (room - frame.size) rest else []

/-- Whether everything that was begun fits into the pipe. -/
def fits (play : PlayedConnection) : Bool :=
  (whole play.pipe play.unread).length == play.unread.length

/-- Finishes the write that was begun if it can be finished. -/
def finishWrite (play : PlayedConnection) : PlayedConnection :=
  if !play.present then { play with connection := play.connection.writeFailed }
  else if play.fits then { play with connection := play.connection.wrote }
  else play

/-- Lets the writing side go on as far as it gets. Every turn writes a frame that was queued, a ping
that is late or the close frame. -/
def write : Nat → PlayedConnection → PlayedConnection
  | 0, play => play
  | n + 1, play =>
    let play := play.finishWrite
    match play.connection.nextWrite with
    | (some frame, connection) =>
      write n { play with connection := connection, unread := play.unread ++ [frame] }
    | (none, _) => play

/-- Lets everything follow that needs no time. -/
def settle (play : PlayedConnection) : PlayedConnection :=
  let connection := play.connection.heed.checkRead
  let (frame, connection) := connection.checkWrite
  let play := { play with connection := connection, unread := play.unread ++ frame.toList }
  let play := play.write (play.connection.outbound.items.length + 10)
  { play with connection := play.connection.heed }

/-- Goes to the next thing that happens by itself, if it happens by the given time. -/
def next? (play : PlayedConnection) (limit : Duration) : Option PlayedConnection :=
  match play.connection.due? with
  | some due =>
    if due ≤ limit then
      let now := max play.connection.now due
      some { play with connection := { play.connection with now := now } }.settle
    else none
  | none => none

/-- A bound for what happens up to a time: pings, and at most one end of each deadline. -/
def bound (play : PlayedConnection) (limit : Duration) : Nat :=
  (limit - play.connection.now) / play.connection.config.heartbeat.period + 8

/-- Goes on up to the given time in so many steps at most. -/
def run (limit : Duration) : Nat → PlayedConnection → PlayedConnection
  | 0, play => { play with connection := { play.connection with now := limit } }
  | n + 1, play =>
    match play.next? limit with
    | none => { play with connection := { play.connection with now := limit } }
    | some play => run limit n play

/-- Goes to the given time. -/
def advance (play : PlayedConnection) (limit : Duration) : PlayedConnection :=
  play.run limit (play.bound limit)

/-- Waits until there is something to receive, in so many steps at most. -/
def await : Nat → PlayedConnection → Received × PlayedConnection
  | 0, play => (.nothing, play)
  | n + 1, play =>
    match play.connection.recv with
    | (.nothing, connection) =>
      match { play with connection := connection }.next? connection.readDue with
      | some play => await n play
      | none => (.nothing, play)
    | (received, connection) => (received, { play with connection := connection })

/-- Waits until there is something to receive. The read deadline ends the wait at the latest. -/
def recv (play : PlayedConnection) : Received × PlayedConnection :=
  play.await (play.bound play.connection.readDue + 1)

/-- Queues a text to be written. -/
def send (play : PlayedConnection) (content : String) :
    Option TransportError × PlayedConnection :=
  let (failure, connection) := play.connection.send content
  (failure, { play with connection := connection }.settle)

/-- Stops the connection. -/
def stop (play : PlayedConnection) : PlayedConnection :=
  { play with connection := play.connection.cancel }.settle

/-! ## The peer -/

/-- The connection takes what comes from the peer. A ping is answered by the socket itself too. -/
def receive (play : PlayedConnection) (event : SocketEvent) : PlayedConnection :=
  let answer :=
    match event with
    | .frame (.ping data) => if play.connection.reading then [.pong data] else []
    | _ => []
  { play with
    connection := play.connection.receive event
    unread := play.unread ++ answer }.settle

/-- The peer sends a frame. -/
def peerSends (play : PlayedConnection) (frame : Frame) : PlayedConnection :=
  if !play.present || play.peerClosed then play
  else { play with peerClosed := frame == Frame.close }.receive (.frame frame)

/-- The peer goes away without a close frame. -/
def peerDrops (play : PlayedConnection) : PlayedConnection :=
  if play.present then { play with present := false, unread := [] }.receive .failed else play

/-- Frames up to the first that makes the peer write to a connection that is gone. -/
def beforeBreak (answers : Bool) : List Frame → List Frame
  | [] => []
  | .close :: _ => []
  | .ping data :: rest => .ping data :: if answers then [] else beforeBreak answers rest
  | frame :: rest => frame :: beforeBreak answers rest

/-- The peer reads everything that it can in so many rounds: the frames, and whether it has come
to the end. While it reads, a frame that is larger than the pipe comes through too; of a
connection that is over only what is in the pipe. -/
def peerReads : Nat → PlayedConnection → List Frame × Bool × PlayedConnection
  | 0, play => ([], false, play)
  | n + 1, play =>
    if !play.present then ([], true, play)
    else if play.connection.isOver then
      (beforeBreak (!play.peerClosed) (whole play.pipe play.unread), true,
        { play with present := false, unread := [] })
    else
      match play.unread with
      | [] => ([], false, play)
      | frame :: rest =>
        let play := { play with unread := rest }
        let play :=
          match frame with
          | .ping data =>
            if play.peerClosed then play.settle else play.receive (.frame (.pong data))
          | _ => play.settle
        if frame == Frame.close then ([], true, { play with present := false, unread := [] })
        else
          let (frames, ended, play) := peerReads n play
          (frame :: frames, ended, play)

/-- Equal answers that follow each other are shown once. -/
def collapse : List Frame → List Frame
  | .pong a :: .pong b :: rest =>
    if a = b then collapse (.pong b :: rest) else .pong a :: collapse (.pong b :: rest)
  | frame :: rest => frame :: collapse rest
  | [] => []

/-- What the peer has received since it last read, and whether it has come to the end. -/
def peerRecv (play : PlayedConnection) : List Frame × Bool × PlayedConnection :=
  let (frames, ended, play) :=
    play.peerReads (play.unread.length + play.connection.outbound.items.length + 10)
  (collapse frames, ended, play)

end PlayedConnection

end MarketGateway
