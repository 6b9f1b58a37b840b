import MarketGateway.Book.View
import MarketGateway.Feed.Error
import MarketGateway.Market.Decode
import MarketGateway.Metrics

/-!
# Depth sessions

A depth session feeds the frames of one stream to a synchronizer and publishes the top of the book
each time the replica changes. Frames that are no diff event of its symbol do nothing, except that
an error frame ends the session. A stale snapshot does not end it, every other error of the
synchronizer does.
-/

namespace MarketGateway.Depth

open Book

/-- A session for one symbol that publishes so many levels of each side. -/
structure Session where
  symbol : String
  levels : Nat
  sync : Synchronizer
  deriving Repr, DecidableEq, Inhabited

/-- What a step of a session does besides changing it: views to publish and metric events. -/
structure Effects where
  published : List View := []
  metrics : List Metric := []
  deriving Repr, DecidableEq

namespace Session

/-- A session that has begun to buffer. -/
def start (symbol : String) (levels capacity : Nat) : Session :=
  ⟨symbol, levels, (Synchronizer.new symbol capacity).begin⟩

/-- The view to publish, once the replica is in step. -/
def view? (session : Session) : Option View :=
  match session.sync.state, session.sync.book with
  | .synced, some book =>
    some (View.ofReplica book session.levels (session.sync.lastEventTime.getD 0))
  | _, _ => none

/-- Why the book has to be synchronized again after an error. -/
def resyncReason : SyncError → ResyncReason
  | .bufferOverflow _ => .overflow
  | .book _ => .gap
  | .staleSnapshot _ _ => .staleSnapshot
  | .unexpectedInput _ _ => .unexpected

/-- Takes one diff event. -/
def onEvent (session : Session) (event : DiffEvent) :
    Except FeedError Unit × Session × Effects :=
  match session.sync.ingest event with
  | (.ok progress, sync) =>
    let session := { session with sync := sync }
    (.ok (), session,
      { published := if progress.changedBook then session.view?.toList else [] })
  | (.error error, sync) =>
    (if error.isStale then .ok () else .error (.desync error), { session with sync := sync },
      { metrics := [.resync (resyncReason error)] })

/-- Takes what a frame holds. -/
def onMessage (session : Session) (message : Except Market.DecodeError Market.Message) :
    Except FeedError Unit × Session × Effects :=
  match message with
  | .ok (.depth update) =>
    if Text.equalIgnoringCase update.symbol session.symbol then session.onEvent update.event
    else (.ok (), session, {})
  | .ok (.error error) => (.error (.exchange error.error), session, {})
  | _ => (.ok (), session, {})

/-- Takes one frame. -/
def onFrame (session : Session) (frame : String) : Except FeedError Unit × Session × Effects :=
  let (outcome, session, effects) := session.onMessage (Market.decode frame)
  (outcome, session, { effects with metrics := .feedMessage .depth :: effects.metrics })

/-- Takes a snapshot; the view is published when a buffered event bridged it. -/
def onSnapshot (session : Session) (snapshot : Snapshot) :
    Except SyncError SyncState × Session × Effects :=
  match session.sync.onSnapshot snapshot with
  | (.ok state, sync) =>
    let session := { session with sync := sync }
    (.ok state, session, { published := session.view?.toList })
  | (.error error, sync) =>
    (.error error, { session with sync := sync }, { metrics := [.resync (resyncReason error)] })

/-- Gives up on a snapshot that no event bridged. -/
def onBridgeTimeout (session : Session) : Session :=
  { session with sync := session.sync.onBridgeTimeout }

def begin (session : Session) : Session := { session with sync := session.sync.begin }

end Session

end MarketGateway.Depth
