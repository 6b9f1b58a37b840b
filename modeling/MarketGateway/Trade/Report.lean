import MarketGateway.Json.Printer
import MarketGateway.Trade.Signing

/-!
# Reports of request parameters
-/

namespace MarketGateway.Trade

open Json

/-- Every entry with its text and whether it is present. -/
def Params.entriesReport (params : Params) : Json :=
  array (params.flatten.map fun entry =>
    array [string entry.key, string entry.value, bool entry.present])

/-- Parameters and what a signer makes of them. -/
def Params.report (params : Params) (signer : Signer) (timestamp : Int64) : List (String × Json) :=
  let signed := signer.signParams params timestamp
  [("params", params.entriesReport), ("signed_params", signed.entriesReport),
    ("signable", array (params.signable.map fun (key, value) => array [string key, string value])),
    ("canonical", string params.canonicalQuery), ("json", string params.toJson.render),
    ("signature", string (signer.sign params)), ("signed", string signed.toJson.render),
    ("rest_query", string (signer.signedQuery params timestamp))]

end MarketGateway.Trade
