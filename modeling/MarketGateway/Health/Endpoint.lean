import MarketGateway.Health
import MarketGateway.Json.Printer

/-!
# The health endpoint

What those who watch the gateway are answered: a report at `/health`, and one line at `/healthz` and
`/readyz`. Only an unhealthy gateway answers with a status that is no success, and never at
`/healthz`. Of the last connection of a feed the report tells whether there was one.
-/

namespace MarketGateway

open Json

/-- What the endpoint tells of a feed. -/
def FeedState.info (s : FeedState) : Json :=
  object [("state", string s.status.name), ("connected", bool (0 < s.sessions)),
    ("sessions", nat s.sessions), ("messages_received", nat s.messages),
    ("reconnect_attempts", nat s.attempts), ("last_connected_at", bool s.everConnected),
    ("last_error", optional (s.lastError.map string))]

/-- What the endpoint tells of the gateway. -/
structure HealthReport where
  version : String
  feeds : FeedStates
  clients : Nat
  priceRooms : Nat
  bookRooms : Nat
  deriving Repr, DecidableEq

namespace HealthReport

def toJson (report : HealthReport) : Json :=
  object [("status", string report.feeds.health.name), ("version", string report.version),
    ("feeds", object [("mark_price", report.feeds.markPrice.info),
      ("price_cache", report.feeds.priceCache.info), ("depth", report.feeds.depth.info),
      ("trading", report.feeds.trading.info)]),
    ("fanout", object [("clients", nat report.clients), ("price_rooms", nat report.priceRooms),
      ("book_rooms", nat report.bookRooms)])]

/-- Whether the gateway can do its work, if only in part. -/
def isReady (report : HealthReport) : Bool := report.feeds.health != .unhealthy

/-- Status and body of the response at a path. -/
def respond (report : HealthReport) (path : String) : Nat × String :=
  if path = "/health" then (if report.isReady then 200 else 503, report.toJson.render)
  else if path = "/healthz" then (200, "OK")
  else if path = "/readyz" then if report.isReady then (200, "READY") else (503, "NOT READY")
  else (404, "")

end HealthReport

end MarketGateway
