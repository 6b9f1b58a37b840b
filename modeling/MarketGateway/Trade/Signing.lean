import MarketGateway.Digest.Hmac
import MarketGateway.Trade.Params

/-!
# Signing requests

A signer knows the key of an account and a way to sign a text (`Signer.mac`); for the exchange that
is the HMAC-SHA256 under the account's secret (`Signer.hmac`). Over a socket the key, a timestamp
and the signature become parameters (`Signer.signParams`); over HTTP the timestamp does, and the
signature ends the query (`Signer.signedQuery`).
-/

namespace MarketGateway.Trade

/-- Signs requests of one account. -/
structure Signer where
  apiKey : String
  mac : String → String

/-- Why a request cannot be signed. -/
inductive SigningError
  | invalidKey (detail : String)
  | encoding (detail : String)
  deriving Repr, DecidableEq, Inhabited

def SigningError.message : SigningError → String
  | invalidKey detail => "invalid signing key: " ++ detail
  | encoding detail => "failed to encode parameters: " ++ detail

namespace Signer

/-- The signer with a secret. -/
def hmac (apiKey secret : String) : Signer := ⟨apiKey, Digest.hmacText secret⟩

/-- Signature over the present parameters other than the signature. -/
def sign (signer : Signer) (params : Params) : String := signer.mac params.canonicalQuery

/-- The parameters with key, timestamp and signature. -/
def signParams (signer : Signer) (params : Params) (timestamp : Int64) : Params :=
  let params := (params.set "apiKey" (.text signer.apiKey)).set "timestamp" (.int timestamp)
  params.set signatureName (.text (signer.sign params))

/-- The query of a signed HTTP request. -/
def signedQuery (signer : Signer) (params : Params) (timestamp : Int64) : String :=
  let params := params.set "timestamp" (.int timestamp)
  params.canonicalQuery ++ "&signature=" ++ signer.sign params

end Signer

end MarketGateway.Trade
