import MarketGateway.Failure.Report
import MarketGateway.Rpc.NamedCallers

/-!
# Reports of the trading socket
-/

namespace MarketGateway

open Json

/-- A value or a failure. -/
def Reply.report : Reply → Json
  | .ok value => object [("value", value)]
  | .error error => Failure.report error

namespace Rpc

/-- What a caller found. -/
def Delivery.report : Delivery → Json
  | waiting => string "pending"
  | gone => string "gone"
  | answered reply => Reply.report reply

/-- The ids of the pending requests in their order, and whether the session was closed. -/
def Session.report (session : Session) : List (String × Json) :=
  let ids := (session.pending.map (·.1)).mergeSort fun a b => a ≤ b
  [("pending", array (ids.map string)), ("closed", bool session.closed),
    ("cancelled", bool session.closed)]

end Rpc

end MarketGateway
