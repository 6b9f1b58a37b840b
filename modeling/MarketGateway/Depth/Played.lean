import MarketGateway.Depth.Feed

/-!
# Depth feeds with planned snapshots

A depth feed together with the snapshots that will be given to it. A snapshot that comes while
none is asked for waits for the next time that the feed asks.
-/

namespace MarketGateway.Depth

/-- A depth feed and the snapshots that wait for it. -/
structure PlayedFeed where
  feed : Feed
  answers : List (Except FeedError Book.Snapshot) := []

namespace PlayedFeed

/-- Whether the feed has asked for a snapshot. -/
def isFetching (play : PlayedFeed) : Bool :=
  match play.feed.phase with
  | .fetching _ => true
  | _ => false

/-- Gives the feed the snapshots that wait, one each time that it asks. -/
def answer (feed : Feed) : List (Except FeedError Book.Snapshot) → PlayedFeed
  | [] => ⟨feed, []⟩
  | result :: rest =>
    if (PlayedFeed.mk feed []).isFetching then answer (feed.step (.snapshot result)) rest
    else ⟨feed, result :: rest⟩

/-- Takes one input, after which snapshots that wait may be asked for. -/
def step (play : PlayedFeed) : Input → PlayedFeed
  | .snapshot result => answer play.feed (play.answers ++ [result])
  | input => answer (play.feed.step input) play.answers

/-- Lets the wait for a bridge run out. -/
def awaitBridge (play : PlayedFeed) : PlayedFeed :=
  match play.feed.phase with
  | .bridging _ due => play.step (.time due)
  | _ => play

end PlayedFeed

end MarketGateway.Depth
