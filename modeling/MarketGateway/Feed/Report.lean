import MarketGateway.Failure.Report
import MarketGateway.Feed.Sessions
import MarketGateway.Room.Key

/-!
# Reports of feeds
-/

namespace MarketGateway

open Json

/-- Everything that is known of a feed. -/
def FeedState.report (s : FeedState) : Json :=
  object [("name", string s.kind.name), ("state", string s.status.name),
    ("connected", bool (0 < s.sessions)), ("sessions", nat s.sessions),
    ("messages", nat s.messages), ("attempts", nat s.attempts),
    ("ever_connected", bool s.everConnected), ("last_error", optional (s.lastError.map string))]

namespace Supervision

/-- What was seen of the feed of a room. -/
def Event.report (key : RoomKey) : Event Json → Json
  | run => object [("run", string key.toText)]
  | connected => string "connected"
  | published payload => object [("publish", payload)]
  | gaveUp => string "gave up"
  | crashed => string "crashed"
  | cancelled => string "cancel"
  | stopped => string "stopped"

/-- What was seen of the feed of a room, with the times in milliseconds, and its states. -/
def Run.report (key : RoomKey) (run : Run Json) : Json :=
  object [("log", array (run.log.map fun (time, event) =>
      array [nat time.millis, event.report key])),
    ("before_cancel", optional (run.beforeCancel.map FeedState.report)),
    ("state", run.state.report)]

end Supervision

/-- What a session of a feed did in a step: what it published, the snapshots that it asked for so
far, and how it ended, once it did. -/
def feedStepReport (published : List String) (fetches : Nat) (ended : Option (Option FeedError)) :
    Json :=
  object [("published", array (published.map string)), ("fetches", nat fetches),
    ("ended", match ended with
      | none => null
      | some none => string "ok"
      | some (some error) => Failure.report error)]

end MarketGateway
