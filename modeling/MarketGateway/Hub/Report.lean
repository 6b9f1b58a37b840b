import MarketGateway.Feed.Report
import MarketGateway.Hub

/-!
# Reports of rooms and hubs
-/

namespace MarketGateway

open Json

/-- The two parts of a key and its text. -/
def RoomKey.report (key : RoomKey) : Json :=
  object [("symbol", string key.symbol), ("levels", optional (key.levels.map nat)),
    ("display", string key.toText)]

def BroadcastStats.report (stats : BroadcastStats) : Json :=
  object [("delivered", nat stats.delivered), ("dropped", nat stats.dropped),
    ("pruned", nat stats.pruned), ("emptied", bool stats.emptied)]

/-- What can be seen of a room besides its mailboxes. -/
def Room.report (room : Room UInt64) : List (String × Json) :=
  [("members", nat room.members.length), ("running", bool room.running),
    ("last", optional (room.last.map fun n => nat n.toNat)), ("generation", nat room.generation),
    ("closed", bool room.closed), ("cancelled", bool room.closed)]

namespace Hub

variable {π : Type}

/-- The key of a registered room, the number of its members and whether its feed runs. -/
def roomReport (hub : Hub π) (key : RoomKey) : Option Json :=
  (hub.stats? key).map fun (members, running) =>
    array [string key.toText, nat members, bool running]

/-- The registered rooms in the order of their keys, their number, and the state of the feeds. -/
def report (hub : Hub π) : List (String × Json) :=
  let keys := (hub.rooms.registered.map (·.1)).mergeSort RoomKey.before
  [("count", nat hub.rooms.count), ("rooms", array (keys.filterMap hub.roomReport)),
    ("feed", hub.state.report)]

end Hub

end MarketGateway
