import MarketGateway.Duration
import MarketGateway.Failure
import MarketGateway.Market.Message
import MarketGateway.Metrics
import MarketGateway.Trade.Signing

/-!
# Failures of trading requests

Why a request over the trading socket failed, whether it can have reached the exchange
(`RpcError.isUnsent`), and whether the connection is to blame (`RpcError.isConnectionFailure`).
-/

namespace MarketGateway

/-- Why a request failed. -/
inductive RpcError
  /-- The exchange refused the request. -/
  | exchange (error : ExchangeError)
  /-- No response came in time; the request may still be executed. -/
  | timeout (after : Duration)
  /-- The connection ended while the request was pending. -/
  | connectionClosed
  /-- There is no connection. -/
  | notConnected
  /-- The request could not be written. -/
  | transport (detail : String)
  /-- The request could not be signed. -/
  | signing (error : Trade.SigningError)
  deriving Repr, DecidableEq, Inhabited

namespace RpcError

def message : RpcError → String
  | exchange error => "exchange error " ++ Text.integer error.code.toInt ++ ": " ++ error.msg
  | timeout after => "no response within " ++ after.toText
  | connectionClosed => "connection closed"
  | notConnected => "not connected"
  | transport detail => "transport error: " ++ detail
  | signing error => "signing failed: " ++ error.message

def kind : RpcError → String
  | exchange _ => "Exchange"
  | timeout _ => "Timeout"
  | connectionClosed => "ConnectionClosed"
  | notConnected => "NotConnected"
  | transport _ => "Transport"
  | signing _ => "Signing"

instance : Failure RpcError := ⟨kind, message⟩

/-- Whether the request was certainly not executed because it never left. -/
def isUnsent : RpcError → Bool
  | notConnected | transport _ | signing _ => true
  | _ => false

/-- Whether the connection failed, and not this one request. -/
def isConnectionFailure : RpcError → Bool
  | connectionClosed | notConnected | transport _ => true
  | _ => false

/-- How the failure is counted. -/
def outcome : RpcError → RpcOutcome
  | exchange _ => .rejected
  | timeout _ => .timeout
  | connectionClosed => .closed
  | notConnected | transport _ | signing _ => .unsent

end RpcError

/-- What a caller gets for a request. -/
abbrev Reply := Except RpcError Json

/-- How a reply is counted. -/
def Reply.outcome : Reply → RpcOutcome
  | .ok _ => .ok
  | .error failure => failure.outcome

end MarketGateway
