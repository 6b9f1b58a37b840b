import MarketGateway.Json.Parser
import MarketGateway.Rest.Error

/-!
# Responses to REST requests

`Response.outcome` tells what a response means: a value, or one of the failures.
-/

namespace MarketGateway.Rest

/-- What came back for a request: the status, the header `Retry-After` if it can be read as text,
and the body. -/
structure Response where
  status : Nat
  retryAfter : Option String
  body : String
  deriving Repr, DecidableEq

namespace Response

def isSuccess (response : Response) : Bool := 200 ≤ response.status && response.status ≤ 299

/-- Suggested delay in seconds, a minute when the header does not say. -/
def retryAfterSecs (response : Response) : Nat :=
  (response.retryAfter.bind (Text.natural? (Text.wordLimit 64))).getD 60

/-- What a response means. A success without a body is `null`. -/
def outcome (response : Response) : Except RestError Json :=
  if response.isSuccess then
    if response.body = "" then .ok .null
    else
      match Json.parse response.body with
      | .ok value => .ok value
      | .error _ => .error .jsonParse
  else if response.status = 429 ∨ response.status = 418 then
    .error (.rateLimited response.retryAfterSecs)
  else
    match Json.readAll ExchangeError.form.read response.body with
    | .ok error => .error (.exchange response.status error)
    | .error _ => .error (.http response.status response.body)

end Response

end MarketGateway.Rest
