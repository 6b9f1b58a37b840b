import MarketGateway.Book.Ladder

/-!
# Replicas of an order book

A replica starts from a snapshot (`Replica.ofSnapshot`) and follows diff events. The first event has
to bridge the snapshot (`applyBridge`), and each later one has to go on from the last one
(`applyDiff`). An event that does not go on is refused, and the replica then refuses everything.
`Replica.best` lists the best levels of a side.
-/

namespace MarketGateway.Book

/-- A copy of the exchange's book for one symbol. -/
structure Replica where
  symbol : String
  lastUpdateId : UInt64
  bids : Ladder
  asks : Ladder
  /-- Whether an event was refused, so that the copy can no longer be followed. -/
  desynced : Bool
  deriving Repr, DecidableEq, Inhabited

namespace Replica

/-- The replica of a snapshot. -/
def ofSnapshot (symbol : String) (snapshot : Snapshot) : Replica where
  symbol := symbol
  lastUpdateId := snapshot.lastUpdateId
  bids := ({} : Ladder).updateAll snapshot.bids
  asks := ({} : Ladder).updateAll snapshot.asks
  desynced := false

/-- Applies the levels of an event and moves to its last id. -/
def advance (book : Replica) (event : DiffEvent) : Replica :=
  { book with
    bids := book.bids.updateAll event.bids
    asks := book.asks.updateAll event.asks
    lastUpdateId := event.lastUpdateId }

/-- Applies the first event after the snapshot. -/
def applyBridge (book : Replica) (event : DiffEvent) : Except BookError Unit × Replica :=
  if book.desynced then (.error .desynced, book)
  else if !event.bridges book.lastUpdateId then
    (.error (.notBridging book.lastUpdateId event.firstUpdateId event.lastUpdateId), book)
  else (.ok (), book.advance event)

/-- Applies an event that goes on from the last one. -/
def applyDiff (book : Replica) (event : DiffEvent) : Except BookError Unit × Replica :=
  if book.desynced then (.error .desynced, book)
  else if event.prevLastUpdateId ≠ book.lastUpdateId then
    (.error (.sequenceGap book.lastUpdateId event.prevLastUpdateId), { book with desynced := true })
  else if event.lastUpdateId < book.lastUpdateId then
    (.error (.regression book.lastUpdateId event.lastUpdateId), { book with desynced := true })
  else (.ok (), book.advance event)

def side (book : Replica) : Side → Ladder
  | .bid => book.bids
  | .ask => book.asks

/-- Levels of a side, best first: bids from the highest price down, asks from the lowest up. -/
def ranked (book : Replica) : Side → List Level
  | .bid => book.bids.levels.reverse
  | .ask => book.asks.levels

/-- The best `n` levels of a side. -/
def best (book : Replica) (n : Nat) (side : Side) : List Level := (book.ranked side).take n

/-- Quantity stored at a price. -/
def quantity? (book : Replica) (side : Side) (price : String) : Option String :=
  (Decimal.ofText? price).bind fun price => ((book.side side).get? price).map (·.quantity)

/-- Number of levels of a side. -/
def depth (book : Replica) (side : Side) : Nat := (book.side side).size

end Replica

end MarketGateway.Book
