/-!
# Failures

Errors are shown by a short name of their kind and a message. `Failure` gives both for a type of
errors.
-/

namespace MarketGateway

/-- Errors with a kind and a message. -/
class Failure (ε : Type) where
  kind : ε → String
  message : ε → String

end MarketGateway
