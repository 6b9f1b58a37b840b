import MarketGateway.Book.Replica

/-!
# Book views

A view is the top of a book as it is sent to clients: the best levels of each side and the time of
the last event.
-/

namespace MarketGateway.Book

open Json

/-- The top of a book. -/
structure View where
  symbol : String
  eventTime : Int64
  bids : List Level
  asks : List Level
  deriving Repr, DecidableEq, Inhabited

namespace View

/-- The best `levels` levels of each side of a replica. -/
def ofReplica (book : Replica) (levels : Nat) (eventTime : Int64) : View :=
  ⟨book.symbol, eventTime, book.best levels .bid, book.best levels .ask⟩

structure Draft where
  symbol : Option String := none
  eventTime : Option Int64 := none
  bids : Option (List Level) := none
  asks : Option (List Level) := none

/-- A view is tagged with its type when it is written; reading does not look at the tag. -/
def record : Record Draft View where
  empty := {}
  fields := [
    .of "s" Form.text (·.symbol) (fun d v => { d with symbol := some v }),
    .of "t" Form.int64 (·.eventTime) (fun d v => { d with eventTime := some v }),
    .of "b" levelsForm (·.bids) (fun d v => { d with bids := some v }),
    .of "a" levelsForm (·.asks) (fun d v => { d with asks := some v })]
  finish d := do return ⟨← d.symbol, ← d.eventTime, ← d.bids, ← d.asks⟩
  members v := [("type", .string "book"), ("s", Form.text.toJson v.symbol),
    ("t", Form.int64.toJson v.eventTime), ("b", levelsForm.toJson v.bids),
    ("a", levelsForm.toJson v.asks)]

def form : Form View := record.form

end View

end MarketGateway.Book
