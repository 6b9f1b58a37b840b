import MarketGateway.Failure
import MarketGateway.Json

/-!
# Reports of failures
-/

namespace MarketGateway

/-- The kind and the message of an error. -/
def Failure.report {ε : Type} [Failure ε] (error : ε) : Json :=
  .object [("error", .string (Failure.kind error)), ("message", .string (Failure.message error))]

end MarketGateway
