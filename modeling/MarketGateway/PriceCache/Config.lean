import MarketGateway.Reconnect

/-!
# Settings of the price cache
-/

namespace MarketGateway

/-- How long a price is fresh, and how a first one is waited for. -/
structure PriceCacheConfig where
  ttl : Duration
  pollInterval : Duration
  waitTimeout : Duration
  reconnect : ReconnectPolicy
  deriving Repr, DecidableEq

end MarketGateway
