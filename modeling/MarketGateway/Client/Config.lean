import MarketGateway.Duration

/-!
# Settings of downstream connections
-/

namespace MarketGateway

/-- Limits of a client's connection. -/
structure ClientConfig where
  mailboxCapacity : Nat
  readDeadline : Duration
  pingInterval : Duration
  writeTimeout : Duration
  deriving Repr, DecidableEq

end MarketGateway
