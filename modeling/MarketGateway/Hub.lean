import MarketGateway.Feed.Supervisor
import MarketGateway.Hub.Config
import MarketGateway.Hub.Rooms
import MarketGateway.Timers

/-!
# Subscription hubs

A hub passes the payloads of one feed per room on to the members of the room. The first member of a
room starts its feed, under a supervisor of its own; a room that loses its last member is torn down
after a grace period, unless someone joined in between. All feeds of a hub share one `FeedState`.

What takes a lock in turn is a step of its own here: `getOrMake`, `joinRoom`, `leaveRoom`,
`closeIfIdle` and `removeIfSame`. A subscription is made of several of these steps
(`Hub.Subscribing`), between which others may come.

Time stands still in every step but `Hub.next?`, which goes to the first timer and does what it asks
for.
-/

namespace MarketGateway

/-- Names a supervised feed. -/
abbrev TaskId := Nat

/-- A supervised feed of a room. -/
structure FeedTask where
  room : RoomId
  supervisor : Supervisor
  deriving Repr, DecidableEq

/-- What a hub does later. -/
inductive Hub.Alarm
  /-- A supervisor goes on after its wait. -/
  | wake (task : TaskId)
  /-- A room is closed if it has stayed empty in the given generation. -/
  | teardown (room : RoomId) (generation : Nat)
  deriving Repr, DecidableEq, Inhabited

/-- A hub for payloads of type `π`. -/
structure Hub (π : Type) where
  kind : FeedKind
  config : HubConfig
  rooms : Rooms π := {}
  boxes : Mailboxes π := []
  state : FeedState := { kind := kind }
  /-- Every feed that was started, by its number. -/
  tasks : List FeedTask := []
  timers : Timers Hub.Alarm := []
  now : Duration := 0
  /-- Whether the hub was shut down or cancelled. -/
  cancelled : Bool := false
  /-- Metric events, oldest first. -/
  metrics : List Metric := []
  deriving Repr, DecidableEq

namespace Hub

variable {π : Type}

def record (hub : Hub π) (metrics : List Metric) : Hub π :=
  { hub with metrics := hub.metrics ++ metrics }

/-- Notes the number of registered rooms. -/
def recordRooms (hub : Hub π) : Hub π := hub.record [.rooms hub.kind hub.rooms.count]

/-- Whether what belongs to a room has to stop. -/
def stops (hub : Hub π) (room : RoomId) : Bool := hub.cancelled || hub.rooms.isClosed room

def after (hub : Hub π) (delay : Duration) (alarm : Alarm) : Hub π :=
  { hub with timers := hub.timers.add (hub.now + delay) alarm }

/-! ## Supervised feeds -/

/-- Puts a supervisor back that took a step. A supervisor that waits sets a timer; one that stopped
lets its room know, and one that crashed does not. -/
def setTask (hub : Hub π) (id : TaskId) (room : RoomId) (supervisor : Supervisor)
    (state : FeedState) : Hub π :=
  let hub := { hub with tasks := hub.tasks.set id { room, supervisor }, state := state }
  match supervisor.phase with
  | .running _ | .crashed => hub
  | .waiting due => { hub with timers := hub.timers.add due (.wake id) }
  | .stopped =>
    match hub.rooms.get? room with
    | some r => { hub with rooms := hub.rooms.set room r.feedStopped }
    | none => hub

/-- Starts the feed of a room. -/
def startFeed (hub : Hub π) (room : RoomId) : Hub π :=
  let id := hub.tasks.length
  let (supervisor, state) := Supervisor.start hub.config.reconnect (hub.stops room) hub.state
  { hub with tasks := hub.tasks ++ [FeedTask.mk room supervisor] }.setTask id room supervisor state

/-- The session of a feed is connected. -/
def connected (hub : Hub π) (id : TaskId) : Hub π :=
  match hub.tasks[id]? with
  | some task =>
    let (supervisor, state) := task.supervisor.connected hub.state
    { hub with tasks := hub.tasks.set id { task with supervisor := supervisor }, state := state }
  | none => hub

/-- The session of a feed ended; `offset` is the random part of the delay that may follow. -/
def ended (hub : Hub π) (id : TaskId) (error : Option FeedError) (offset : Binary64) : Hub π :=
  match hub.tasks[id]? with
  | some task =>
    match task.supervisor.phase with
    | .running _ =>
      let (supervisor, state, metrics) :=
        task.supervisor.ended hub.now (hub.stops task.room) error offset hub.state
      (hub.record metrics).setTask id task.room supervisor state
    | _ => hub
  | none => hub

/-- A supervisor that waits goes on if its time has come or its room stops. -/
def wake (hub : Hub π) (id : TaskId) : Hub π :=
  match hub.tasks[id]? with
  | some task =>
    match task.supervisor.phase with
    | .waiting due =>
      if hub.stops task.room ∨ due ≤ hub.now then
        let (supervisor, state) :=
          task.supervisor.wake hub.now (hub.stops task.room) hub.state
        hub.setTask id task.room supervisor state
      else hub
    | _ => hub
  | none => hub

/-- Lets every supervisor go on that waits in a room that stops. -/
def release (hub : Hub π) : Hub π :=
  (List.range hub.tasks.length).foldl
    (fun hub id =>
      match hub.tasks[id]? with
      | some task => if hub.stops task.room then hub.wake id else hub
      | none => hub)
    hub

/-! ## Steps under one lock -/

/-- The registered room of a key, new if there was none. -/
def getOrMake (hub : Hub π) (key : RoomKey) : RoomId × Hub π :=
  let (id, rooms) := hub.rooms.getOrMake key
  (id, { hub with rooms := rooms }.recordRooms)

/-- Takes a room out of the registry if it is still the one under its key. -/
def removeIfSame (hub : Hub π) (room : RoomId) : Hub π :=
  { hub with rooms := hub.rooms.removeIfSame room }.recordRooms

/-- Adds a member to a room. There is no flag when the room is closed. -/
def joinRoom (hub : Hub π) (room : RoomId) (client : ClientId) (mailbox : MailboxId) :
    Option Bool × Hub π :=
  match hub.rooms.get? room with
  | some r =>
    let (start, r, boxes) := r.join client mailbox hub.boxes
    (start, { hub with rooms := hub.rooms.set room r, boxes := boxes })
  | none => (none, hub)

/-- Removes a member from a room. -/
def leaveRoom (hub : Hub π) (room : RoomId) (client : ClientId) : Room.Left × Hub π :=
  match hub.rooms.get? room with
  | some r =>
    let (left, r) := r.leave client
    (left, { hub with rooms := hub.rooms.set room r })
  | none => (.notMember, hub)

/-- Closes a room if it is empty and still in the given generation. -/
def closeIfIdle (hub : Hub π) (room : RoomId) (generation : Nat) : Bool × Hub π :=
  match hub.rooms.get? room with
  | some r =>
    let (closed, r) := r.closeIfIdle generation
    (closed, { hub with rooms := hub.rooms.set room r })
  | none => (false, hub)

/-- Passes a payload on to the members of a room. -/
def broadcastTo (hub : Hub π) (room : RoomId) (payload : π) : BroadcastStats × Hub π :=
  match hub.rooms.get? room with
  | some r =>
    let (stats, r, boxes) := r.broadcast payload hub.boxes
    let sent := if stats.delivered = 0 then [] else [.framesSent hub.kind stats.delivered]
    let dropped := if stats.dropped = 0 then [] else [.framesDropped hub.kind stats.dropped]
    (stats, { hub with rooms := hub.rooms.set room r, boxes := boxes }.record (sent ++ dropped))
  | none => ({}, hub)

/-! ## Subscriptions -/

/-- Where a subscription stands between two steps. -/
inductive Subscribing
  | looking
  /-- The room was found or made, and has not been joined yet. -/
  | joining (room : RoomId)
  /-- The room turned out to be closed. -/
  | discarding (room : RoomId)
  | done (outcome : Option JoinError)
  deriving Repr, DecidableEq, Inhabited

/-- One step of a subscription. -/
def Subscribing.step (key : RoomKey) (client : ClientId) (mailbox : MailboxId) :
    Subscribing → Hub π → Subscribing × Hub π
  | .looking, hub =>
    if hub.cancelled then (.done (some .shutDown), hub)
    else
      let (room, hub) := hub.getOrMake key
      (.joining room, hub)
  | .joining room, hub =>
    match hub.joinRoom room client mailbox with
    | (some start, hub) => (.done none, if start then hub.startFeed room else hub)
    | (none, hub) => (.discarding room, hub)
  | .discarding room, hub => (.looking, hub.removeIfSame room)
  | .done outcome, hub => (.done outcome, hub)

/-- Several steps of a subscription without others in between. -/
def Subscribing.steps (key : RoomKey) (client : ClientId) (mailbox : MailboxId) :
    Nat → Subscribing → Hub π → Subscribing × Hub π
  | 0, progress, hub => (progress, hub)
  | n + 1, progress, hub =>
    let (progress, hub) := progress.step key client mailbox hub
    Subscribing.steps key client mailbox n progress hub

/-- Adds a client to the room of a key. Without others in between a subscription finds at most one
closed room, so it is done after five steps. -/
def subscribe (hub : Hub π) (key : RoomKey) (client : ClientId) (mailbox : MailboxId) :
    Option JoinError × Hub π :=
  match Subscribing.steps key client mailbox 5 .looking hub with
  | (.done outcome, hub) => (outcome, hub)
  | (_, hub) => (none, hub)

/-- Removes a client from the room of a key. The flag says whether it was a member. A room that is
empty then is torn down after the grace period. -/
def unsubscribe (hub : Hub π) (key : RoomKey) (client : ClientId) : Bool × Hub π :=
  match hub.rooms.find? key with
  | none => (false, hub)
  | some room =>
    match hub.leaveRoom room client with
    | (.notMember, hub) => (false, hub)
    | (.others, hub) => (true, hub)
    | (.emptied generation, hub) =>
      (true, hub.after hub.config.gracePeriod (.teardown room generation))

/-! ## Payloads -/

/-- Passes a payload on to the room of a key, if there is one. -/
def broadcast (hub : Hub π) (key : RoomKey) (payload : π) : Option BroadcastStats × Hub π :=
  match hub.rooms.find? key with
  | none => (none, hub)
  | some room =>
    let (stats, hub) := hub.broadcastTo room payload
    (some stats, hub)

/-- The feed of a room publishes a payload. A room that loses its last member by that is torn down
after the grace period. -/
def publish (hub : Hub π) (room : RoomId) (payload : π) : Hub π :=
  let hub := { hub with state := hub.state.message }
  let (stats, hub) := hub.broadcastTo room payload
  if stats.emptied then
    match hub.rooms.get? room with
    | some r => hub.after hub.config.gracePeriod (.teardown room r.generation)
    | none => hub
  else hub

/-! ## Time and the end -/

/-- Does what a timer asks for. -/
def fire (hub : Hub π) : Alarm → Hub π
  | .wake task => hub.wake task
  | .teardown room generation =>
    if hub.stops room then hub
    else
      match hub.closeIfIdle room generation with
      | (true, hub) => (hub.removeIfSame room).release
      | (false, hub) => hub

/-- Lets time pass up to the first timer that is due by the given time, and does what it asks
for. -/
def next? (hub : Hub π) (limit : Duration) : Option (Hub π) :=
  (hub.timers.popDue limit).map fun (timer, timers) =>
    { hub with timers := timers, now := max hub.now timer.due }.fire timer.alarm

/-- Stops every room and refuses subscriptions from now on. -/
def shutDown (hub : Hub π) : Hub π :=
  { hub with cancelled := true, rooms := hub.rooms.closeAll }.record [.rooms hub.kind 0] |>.release

/-- Stops every feed and refuses subscriptions from now on; the rooms stay. -/
def cancel (hub : Hub π) : Hub π := { hub with cancelled := true }.release

/-- Members of the registered room of a key, and whether its feed runs. -/
def stats? (hub : Hub π) (key : RoomKey) : Option (Nat × Bool) :=
  (hub.rooms.find? key).bind fun id =>
    (hub.rooms.get? id).map fun room => (room.members.length, room.running)

/-- The hub as the registry of connections whose mailboxes bear the numbers of the clients. -/
def registry : Registry (Hub π) where
  join key client hub := hub.subscribe key client client
  leave key client hub := (hub.unsubscribe key client).2

end Hub

end MarketGateway
