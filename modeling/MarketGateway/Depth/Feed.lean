import MarketGateway.Depth.Config
import MarketGateway.Depth.Session
import MarketGateway.Feed.Input
import MarketGateway.Room.Key

/-!
# Depth feeds

A depth feed opens a depth session and starts it up: it fetches snapshots, one at a time, until
one is bridged by an event of the stream. A snapshot that turns out stale, or that no event has
bridged when the bridge timeout is over, makes it fetch another one, up to a number of attempts.
After that the session is live. Frames are taken all the time.

`Feed.step` takes one input at the time that the feed has reached; a bridge timeout that is over
by then comes first.
-/

namespace MarketGateway.Depth

/-- Where a depth feed stands. -/
inductive Phase
  /-- The snapshot of the given attempt is being fetched. -/
  | fetching (attempt : Nat)
  /-- The snapshot of the given attempt waits to be bridged until the given time. -/
  | bridging (attempt : Nat) (due : Duration)
  | live
  /-- The feed ended, with a failure or because it was cancelled. -/
  | ended (failure : Option FeedError)
  deriving Repr, DecidableEq, Inhabited

/-- What reaches a depth feed. -/
inductive Input
  | feed (input : FeedInput)
  /-- The snapshot that was asked for, or why there is none. -/
  | snapshot (result : Except FeedError Book.Snapshot)
  | time (now : Duration)

/-- A running depth feed. -/
structure Feed where
  config : DepthConfig
  session : Session
  phase : Phase
  now : Duration := 0
  connected : Bool := false
  /-- The first frame that is sent. -/
  subscription : Option Market.ControlRequest := none
  /-- Number of snapshots that were asked for. -/
  fetches : Nat := 0
  published : List Book.View := []
  metrics : List Metric := []
  deriving Repr

namespace Feed

/-- Ends the feed. -/
def finish (feed : Feed) (failure : Option FeedError) : Feed :=
  { feed with phase := .ended failure }

/-- Takes over a session that took a step, and what the step did. -/
def adopt (feed : Feed) (session : Session) (effects : Effects) : Feed :=
  { feed with
    session := session
    published := feed.published ++ effects.published
    metrics := feed.metrics ++ effects.metrics }

/-- After so many attempts: live if the replica is in step, else the next attempt if there is
one. -/
def proceed (feed : Feed) (attempts : Nat) : Feed :=
  if feed.session.sync.state = .synced then { feed with phase := .live }
  else if feed.config.maxSnapshotAttempts ≤ attempts then
    feed.finish (some (.snapshot ("no bridging snapshot after " ++
      Text.natural feed.config.maxSnapshotAttempts ++ " attempts")))
  else { feed with phase := .fetching (attempts + 1), fetches := feed.fetches + 1 }

/-- A feed for a room, after the attempt to connect. -/
def start (config : DepthConfig) (key : RoomKey) (connect : Except TransportError Unit) : Feed :=
  let levels := key.levels.getD defaultBookLevels
  let feed : Feed :=
    { config := config
      session := .start key.symbol levels config.bufferCapacity
      phase := .fetching 0 }
  match connect with
  | .error error => feed.finish (some (.ofTransport error))
  | .ok () =>
    let stream := Market.depthStream key.symbol config.updateSpeedMs
    { feed with
      connected := true
      subscription := some (.subscribe [stream] subscribeRequestId) }.proceed 0

/-- Takes one frame. A feed that waits for a bridge goes on when the wait is decided. -/
def onFrame (feed : Feed) (text : String) : Feed :=
  let (outcome, session, effects) := feed.session.onFrame text
  let feed := feed.adopt session effects
  match outcome, feed.phase with
  | .error error, _ => feed.finish (some error)
  | .ok (), .bridging attempt _ =>
    if session.sync.state = .awaitingBridge then feed else feed.proceed attempt
  | .ok (), _ => feed

/-- Takes the snapshot of an attempt. -/
def onSnapshot (feed : Feed) (attempt : Nat) (snapshot : Book.Snapshot) : Feed :=
  let (outcome, session, effects) := feed.session.onSnapshot snapshot
  let feed := feed.adopt session effects
  match outcome with
  | .error error =>
    if error.isStale then feed.proceed attempt else feed.finish (some (.desync error))
  | .ok .awaitingBridge =>
    { feed with phase := .bridging attempt (feed.now + feed.config.bridgeTimeout) }
  | .ok _ => feed.proceed attempt

/-- Gives a snapshot up that was not bridged in time. -/
def checkBridge (feed : Feed) : Feed :=
  match feed.phase with
  | .bridging attempt due =>
    if due ≤ feed.now then
      (feed.adopt feed.session.onBridgeTimeout
        { metrics := [.resync .bridgeTimeout] }).proceed attempt
    else feed
  | _ => feed

def isOver (feed : Feed) : Bool :=
  match feed.phase with
  | .ended _ => true
  | _ => false

/-- Takes one input. After its end a feed takes none, and a snapshot only when it asked for one. -/
def step (feed : Feed) : Input → Feed
  | .time now => { feed with now := max feed.now now }.checkBridge
  | .snapshot result =>
    match feed.phase, result with
    | .fetching attempt, .ok snapshot => feed.onSnapshot attempt snapshot
    | .fetching _, .error error => feed.finish (some error)
    | _, _ => feed
  | .feed .cancelled => if feed.isOver then feed else feed.finish none
  | .feed (.lost error) =>
    let feed := feed.checkBridge
    if feed.isOver then feed else feed.finish (some (.ofTransport error))
  | .feed (.frame text) =>
    let feed := feed.checkBridge
    if feed.isOver then feed else feed.onFrame text

end Feed

end MarketGateway.Depth
