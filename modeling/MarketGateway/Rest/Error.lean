import MarketGateway.Failure
import MarketGateway.Market.Message
import MarketGateway.Trade.Signing

/-!
# Failures of REST requests
-/

namespace MarketGateway

/-- Why a REST request failed. Accounts of the network and of what is wrong with a JSON text are not
told apart. -/
inductive RestError
  /-- No response came. -/
  | network
  /-- The exchange answered with an error. -/
  | exchange (status : Nat) (error : ExchangeError)
  /-- A status that is no success, without an error that could be read. -/
  | http (status : Nat) (body : String)
  | rateLimited (retryAfterSecs : Nat)
  | jsonParse
  | signing (error : Trade.SigningError)
  deriving Repr, DecidableEq, Inhabited

def RestError.message : RestError → String
  | network => "network error: <detail>"
  | exchange status error =>
    "exchange error " ++ Text.integer error.code.toInt ++ ": " ++ error.msg ++ " (HTTP " ++
      Text.natural status ++ ")"
  | http status body => "HTTP " ++ Text.natural status ++ ": " ++ body
  | rateLimited secs => "rate limited, retry after " ++ Text.natural secs ++ "s"
  | jsonParse => "JSON parsing error: <json>"
  | signing error => "signing failed: " ++ error.message

def RestError.kind : RestError → String
  | network => "Network"
  | exchange _ _ => "Exchange"
  | http _ _ => "Http"
  | rateLimited _ => "RateLimited"
  | jsonParse => "JsonParse"
  | signing _ => "Signing"

instance : Failure RestError := ⟨RestError.kind, RestError.message⟩

end MarketGateway
