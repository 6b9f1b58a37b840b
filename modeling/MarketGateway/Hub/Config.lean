import MarketGateway.Reconnect

/-!
# Settings of subscription hubs
-/

namespace MarketGateway

/-- How long an empty room lives on, and how its feed is started again. -/
structure HubConfig where
  gracePeriod : Duration
  reconnect : ReconnectPolicy
  deriving Repr, DecidableEq

end MarketGateway
