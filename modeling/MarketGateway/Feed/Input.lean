import MarketGateway.Connection.Error
import MarketGateway.Feed.Error

/-!
# Inputs of feed sessions

What a session of a market data feed is told by its connection.
-/

namespace MarketGateway

/-- What reaches a session of a feed. -/
inductive FeedInput
  | frame (text : String)
  /-- The connection is gone. -/
  | lost (error : TransportError)
  | cancelled
  deriving Repr, DecidableEq, Inhabited

/-- A failure of the connection as one of the feed. -/
def FeedError.ofTransport (error : TransportError) : FeedError := transport error.message

/-- Number of the request that subscribes a connection to its streams. -/
def subscribeRequestId : UInt64 := 1

end MarketGateway
