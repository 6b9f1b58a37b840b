import MarketGateway.Connection.Config
import MarketGateway.Connection.Error
import MarketGateway.Connection.Frame

/-!
# Connections to the exchange

A connection has a reading side and a writing side. The reading side puts the texts that come in
into a bounded queue and gives up when no frame of any kind comes for the read deadline; a text
that does not fit ends the connection, it is never skipped. The writing side writes what is queued
for it and a ping at every multiple of the ping interval, one frame at a time, and gives up when a
frame is not written in time. Its last frame is a close frame.

A side that ends tells the other one to stop, which does so when it comes to it (`Connection.heed`,
`Connection.nextWrite`). The first failure is kept, and `Connection.recv` hands it out once, after
everything that was queued.
-/

namespace MarketGateway

/-- What the writing side is doing. -/
inductive WritingSide
  | idle
  /-- A frame is being written, and has to be by the given time. -/
  | writing (due : Duration)
  /-- The close frame is being written, and has to be by the given time. -/
  | closing (due : Duration)
  | done
  deriving Repr, DecidableEq, Inhabited

/-- What comes out of the socket. -/
inductive SocketEvent
  | frame (frame : Frame)
  /-- The peer ended the stream. -/
  | ended
  | failed
  deriving Repr, DecidableEq, Inhabited

/-- An established connection. -/
structure Connection where
  config : ConnectionConfig
  /-- Texts that came in and were not taken yet. -/
  inbound : Queue String
  /-- Frames that wait to be written. -/
  outbound : Queue Frame
  reading : Bool := true
  writing : WritingSide := .idle
  /-- When the read deadline is over. -/
  readDue : Duration
  /-- When the next ping is due. -/
  pingDue : Duration
  /-- The first failure, until it is handed out. -/
  failure : Option TransportError := none
  /-- Whether both sides were told to stop. -/
  cancelled : Bool := false
  /-- Frames that came in. -/
  frames : Nat := 0
  /-- Pings that were sent. -/
  pings : Nat := 0
  now : Duration := 0
  deriving Repr, DecidableEq

/-- What there is to receive. -/
inductive Received
  | text (content : String)
  | failed (error : TransportError)
  | nothing
  deriving Repr, DecidableEq, Inhabited

namespace Connection

/-- A connection that was just established. Queues hold at least one frame. -/
def establish (config : ConnectionConfig) (now : Duration) : Connection where
  config := config
  inbound := { capacity := max config.inboundCapacity 1 }
  outbound := { capacity := max config.outboundCapacity 1 }
  readDue := now + config.heartbeat.readDeadline
  pingDue := now + config.heartbeat.period
  now := now

/-- Keeps the first failure. -/
def fail (connection : Connection) (error : TransportError) : Connection :=
  { connection with failure := connection.failure.or (some error) }

/-- Tells both sides to stop. -/
def cancel (connection : Connection) : Connection := { connection with cancelled := true }

/-! ## The reading side -/

/-- The reading side is over and tells the other one. -/
def finishReading (connection : Connection) : Connection :=
  { connection with reading := false }.cancel

/-- The reading side stops if it was told to. -/
def heed (connection : Connection) : Connection :=
  if connection.cancelled then connection.finishReading else connection

/-- Queues a text that came in. -/
def deliver (connection : Connection) (content : String) : Connection :=
  match connection.inbound.offer content with
  | (.accepted, inbound) => { connection with inbound := inbound }
  | (.full, _) => (connection.fail (.inboundOverflow connection.inbound.capacity)).finishReading
  | (.closed, _) => connection.finishReading

/-- Takes what a frame brings. Bytes that are no text are left out, and a ping is answered if
there is room for the answer. -/
def onFrame (connection : Connection) : Frame → Connection
  | .text content => connection.deliver content
  | .binary bytes =>
    match Text.Utf8.strict? bytes with
    | some content => connection.deliver content
    | none => connection
  | .ping data => { connection with outbound := (connection.outbound.offer (.pong data)).2 }
  | .pong _ => connection
  | .close => (connection.fail .closed).finishReading

/-- Takes what comes out of the socket. Every frame starts the read deadline anew. -/
def receive (connection : Connection) (event : SocketEvent) : Connection :=
  if connection.reading then
    match event with
    | .frame frame =>
      { connection with
        frames := connection.frames + 1
        readDue := connection.now + connection.config.heartbeat.readDeadline }.onFrame frame
    | .ended => (connection.fail .closed).finishReading
    | .failed => (connection.fail .webSocket).finishReading
  else connection

/-- What the owner gets: queued texts first, then the failure that ended the connection, then the
remark that it was stopped. -/
def recv (connection : Connection) : Received × Connection :=
  match connection.inbound.take with
  | (some content, inbound) => (.text content, { connection with inbound := inbound })
  | (none, _) =>
    if connection.reading then (.nothing, connection)
    else
      match connection.failure with
      | some error => (.failed error, { connection with failure := none })
      | none => (.failed (if connection.cancelled then .cancelled else .closed), connection)

/-! ## The writing side -/

/-- Queues a text to be written. -/
def send (connection : Connection) (content : String) : Option TransportError × Connection :=
  let (offer, outbound) := connection.outbound.offer (.text content)
  (TransportError.ofOffer offer, { connection with outbound := outbound })

/-- When a frame that is begun now has to be written. -/
def writeDue (connection : Connection) : Duration := connection.now + connection.config.writeTimeout

/-- When the ping after the due one is sent: a ping that is late by more than five milliseconds is
followed by one at the next multiple of the interval. -/
def followingPing (connection : Connection) : Duration :=
  let period := connection.config.heartbeat.period
  if connection.pingDue + .ofMillis 5 < connection.now then
    connection.now + period - (connection.now - connection.pingDue) % period
  else connection.pingDue + period

/-- The frame that an idle writing side begins to write. -/
def nextWrite (connection : Connection) : Option Frame × Connection :=
  if connection.writing ≠ .idle then (none, connection)
  else if connection.cancelled then
    (some .close, { connection with writing := .closing connection.writeDue })
  else if connection.pingDue ≤ connection.now then
    (some (.ping []),
      { connection with
        writing := .writing connection.writeDue
        pingDue := connection.followingPing
        pings := connection.pings + 1 })
  else
    match connection.outbound.take with
    | (some frame, outbound) =>
      (some frame,
        { connection with writing := .writing connection.writeDue, outbound := outbound })
    | (none, _) => (none, connection)

/-- The writing side is over. -/
def finishWriting (connection : Connection) : Connection :=
  { connection with writing := .done, outbound := connection.outbound.close }.cancel

/-- The frame that was begun is written. -/
def wrote (connection : Connection) : Connection :=
  match connection.writing with
  | .writing _ => { connection with writing := .idle }
  | .closing _ => connection.finishWriting
  | _ => connection

/-- The frame that was begun cannot be written, and neither can a close frame. -/
def writeFailed (connection : Connection) : Connection :=
  match connection.writing with
  | .writing _ => (connection.fail .webSocket).finishWriting
  | .closing _ => connection.finishWriting
  | _ => connection

/-! ## Time -/

/-- When something happens by itself next. -/
def due? (connection : Connection) : Option Duration :=
  let write :=
    match connection.writing with
    | .idle => if connection.cancelled then none else some connection.pingDue
    | .writing due | .closing due => some due
    | .done => none
  let read := if connection.reading then some connection.readDue else none
  match write, read with
  | some w, some r => some (min w r)
  | some w, none => some w
  | none, r => r

/-- A write that is over its time is given up; the frame that the writing side begins then is a
close frame. -/
def checkWrite (connection : Connection) : Option Frame × Connection :=
  match connection.writing with
  | .writing due =>
    if due ≤ connection.now then
      (some .close,
        { connection.fail (.writeTimeout connection.config.writeTimeout) with
          writing := .closing connection.writeDue })
    else (none, connection)
  | .closing due =>
    (none, if due ≤ connection.now then connection.finishWriting else connection)
  | _ => (none, connection)

/-- Gives up when the read deadline is over. -/
def checkRead (connection : Connection) : Connection :=
  if connection.reading && connection.readDue ≤ connection.now then
    (connection.fail (.readDeadline connection.config.heartbeat.readDeadline)).finishReading
  else connection

/-- Whether both sides have ended. -/
def isOver (connection : Connection) : Bool := connection.writing = .done && !connection.reading

end Connection

end MarketGateway
