import MarketGateway.Duration

/-!
# Settings of depth feeds
-/

namespace MarketGateway

/-- Limits of a depth feed. -/
structure DepthConfig where
  bufferCapacity : Nat
  bridgeTimeout : Duration
  /-- How many snapshots a session may fetch. A count of 32 bits serves for every limit of 32 bits
  but the largest one, which it cannot exceed (`Depth.Feed.count_fits`). -/
  maxSnapshotAttempts : Nat
  updateSpeedMs : Nat
  deriving Repr, DecidableEq

end MarketGateway
