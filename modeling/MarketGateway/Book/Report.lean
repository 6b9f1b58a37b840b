import MarketGateway.Book.Synchronizer

/-!
# Reports of order books

What can be seen of a replica and of a synchronizer, as JSON values. Of a replica the ten best
levels of each side are shown.
-/

namespace MarketGateway.Book

open Json

def Replica.report (book : Replica) : Json :=
  object [("id", nat book.lastUpdateId.toNat), ("desynced", bool book.desynced),
    ("bid_depth", nat (book.depth .bid)), ("ask_depth", nat (book.depth .ask)),
    ("bids", levelsForm.toJson (book.best 10 .bid)),
    ("asks", levelsForm.toJson (book.best 10 .ask))]

def Synchronizer.report (sync : Synchronizer) : Json :=
  object [("symbol", string sync.symbol), ("state", string sync.state.name),
    ("buffered", nat sync.buffer.length),
    ("last_event_time", optional (sync.lastEventTime.map fun t => int t.toInt)),
    ("book", optional (sync.book.map Replica.report))]

end MarketGateway.Book
