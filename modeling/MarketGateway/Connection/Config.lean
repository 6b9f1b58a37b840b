import MarketGateway.Heartbeat

/-!
# Settings of connections to the exchange
-/

namespace MarketGateway

/-- Address and limits of a connection to the exchange. -/
structure ConnectionConfig where
  url : String
  heartbeat : Heartbeat
  connectTimeout : Duration
  writeTimeout : Duration
  outboundCapacity : Nat
  inboundCapacity : Nat
  deriving Repr, DecidableEq

/-- The same limits for another address. -/
def ConnectionConfig.withUrl (config : ConnectionConfig) (url : String) : ConnectionConfig :=
  { config with url := url }

end MarketGateway
