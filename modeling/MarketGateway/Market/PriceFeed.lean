import MarketGateway.Feed.Input
import MarketGateway.Market.Decode
import MarketGateway.Metrics
import MarketGateway.Room.Key

/-!
# Mark price feeds

A session of a mark price feed publishes the prices of one symbol as they come. Frames that are no
price of its symbol do nothing, except that an error frame ends the session.
-/

namespace MarketGateway.Market

/-- A session of a mark price feed. -/
structure PriceFeed where
  symbol : String
  connected : Bool := false
  /-- The first frame that is sent. -/
  subscription : Option ControlRequest := none
  published : List MarkPrice := []
  /-- How the session ended, once it did: with a failure, or because it was cancelled. -/
  outcome : Option (Option FeedError) := none
  metrics : List Metric := []
  deriving Repr

namespace PriceFeed

/-- A session for a room, after the attempt to connect. Order book rooms are refused before it. -/
def start (key : RoomKey) (connect : Except TransportError Unit) : PriceFeed :=
  let feed : PriceFeed := { symbol := key.symbol }
  if key.levels.isSome then { feed with outcome := some (some (.unsupportedKey key.toText)) }
  else
    match connect with
    | .error error => { feed with outcome := some (some (.ofTransport error)) }
    | .ok () =>
      { feed with
        connected := true
        subscription := some (.subscribe [markPriceStream key.symbol] subscribeRequestId) }

/-- Takes what a frame holds. -/
def onMessage (feed : PriceFeed) : Except DecodeError Message → PriceFeed
  | .ok (.markPrice update) =>
    if Text.equalIgnoringCase update.symbol feed.symbol then
      { feed with published := feed.published ++ [update.markPrice] }
    else feed
  | .ok (.error error) => { feed with outcome := some (some (.exchange error.error)) }
  | _ => feed

/-- Takes one input; after its end a session takes none. -/
def step (feed : PriceFeed) (input : FeedInput) : PriceFeed :=
  if feed.outcome.isSome then feed
  else
    match input with
    | .frame text =>
      { feed with metrics := feed.metrics ++ [Metric.feedMessage .markPrice] }.onMessage
        (decode text)
    | .lost error => { feed with outcome := some (some (.ofTransport error)) }
    | .cancelled => { feed with outcome := some none }

end PriceFeed

end MarketGateway.Market
