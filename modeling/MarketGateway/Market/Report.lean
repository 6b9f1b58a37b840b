import MarketGateway.Market.Decode

/-!
# Reports of market data
-/

namespace MarketGateway.Market

open Json

/-- The kind of a message and the message as it is written. -/
def Message.report : Message → Json
  | depth update => wire "depth" (DepthUpdate.form.toJson update)
  | markPrice update =>
    wire "mark_price" (MarkPriceUpdate.form.toJson update)
      [("payload", string (MarkPrice.form.toJson update.markPrice).render)]
  | ack answer => wire "ack" (Acknowledgement.form.toJson answer)
  | error failure => wire "error" (StreamError.form.toJson failure)
  | other event => object [("type", string "other"), ("event", string event)]
where
  wire (kind : String) (value : Json) (more : List (String × Json) := []) : Json :=
    object ([("type", string kind), ("wire", string value.render)] ++ more)

end MarketGateway.Market
