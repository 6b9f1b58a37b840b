import MarketGateway.Connection.Config
import MarketGateway.Reconnect

/-!
# Settings of the trading client
-/

namespace MarketGateway

/-- Connection, request deadline and backoff of the trading client. -/
structure RpcConfig where
  connection : ConnectionConfig
  requestTimeout : Duration
  reconnect : ReconnectPolicy
  deriving Repr, DecidableEq

end MarketGateway
