import MarketGateway.Duration

/-!
# Settings of the REST client
-/

namespace MarketGateway

/-- How often reads are sent and how long is waited in between. -/
structure RetryPolicy where
  /-- Sends including the first one. -/
  maxAttempts : Nat := 3
  initialBackoff : Duration := .ofMillis 200
  maxBackoff : Duration := .ofSecs 2
  deriving Repr, DecidableEq

/-- Address, deadline and retries of the REST client. -/
structure RestConfig where
  baseUrl : String
  timeout : Duration
  retry : RetryPolicy
  deriving Repr, DecidableEq

end MarketGateway
