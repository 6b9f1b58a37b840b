import MarketGateway.Feed.State

/-!
# Health

The health of the gateway from the states of its feeds: the three market data feeds count as
impaired while they reconnect, and the trading connection while it is not connected.
-/

namespace MarketGateway

inductive HealthStatus
  | healthy
  | degraded
  | unhealthy
  deriving Repr, DecidableEq, Inhabited

def HealthStatus.name : HealthStatus → String
  | healthy => "healthy"
  | degraded => "degraded"
  | unhealthy => "unhealthy"

/-- The feeds that health depends on. -/
structure FeedStates where
  markPrice : FeedState
  priceCache : FeedState
  depth : FeedState
  trading : FeedState
  deriving Repr, DecidableEq

/-- Number of market data feeds that reconnect. -/
def FeedStates.reconnecting (feeds : FeedStates) : Nat :=
  ([feeds.markPrice, feeds.priceCache, feeds.depth].filter
    fun feed => feed.status = .reconnecting).length

/-- Whole when nothing is impaired, gone when everything is. -/
def FeedStates.health (feeds : FeedStates) : HealthStatus :=
  let tradingDown := feeds.trading.status != .connected
  if feeds.reconnecting = 0 && !tradingDown then .healthy
  else if feeds.reconnecting = 3 && tradingDown then .unhealthy
  else .degraded

end MarketGateway
