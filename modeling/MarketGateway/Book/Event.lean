import MarketGateway.Failure
import MarketGateway.Json.Record
import MarketGateway.Text.Numeral

/-!
# Order book messages

Levels, snapshots and diff events as the exchange sends them. A level keeps its price and quantity
as texts. Update ids count 64 bits; a diff event covers the ids from its first to its last and names
the last id of the event before it.
-/

namespace MarketGateway.Book

open Json

/-- A price and the quantity at it, as sent. -/
structure Level where
  price : String
  quantity : String
  deriving Repr, DecidableEq, Inhabited

/-- A level is written as an array of price and quantity. -/
def Level.form : Form Level :=
  (Form.pair Form.text).mapped (fun (price, quantity) => ⟨price, quantity⟩)
    (fun level => (level.price, level.quantity))

def levelsForm : Form (List Level) := Form.list Level.form

/-- The two sides of a book. -/
inductive Side
  | bid
  | ask
  deriving Repr, DecidableEq, Inhabited

/-- State of the exchange's book after the update `lastUpdateId`. -/
structure Snapshot where
  lastUpdateId : UInt64
  bids : List Level
  asks : List Level
  deriving Repr, DecidableEq, Inhabited

namespace Snapshot

structure Draft where
  lastUpdateId : Option UInt64 := none
  bids : Option (List Level) := none
  asks : Option (List Level) := none

def record : Record Draft Snapshot where
  empty := {}
  fields := [
    .of "lastUpdateId" Form.uint64 (·.lastUpdateId) (fun d v => { d with lastUpdateId := some v }),
    .of "bids" levelsForm (·.bids) (fun d v => { d with bids := some v }),
    .of "asks" levelsForm (·.asks) (fun d v => { d with asks := some v })]
  finish d := do return ⟨← d.lastUpdateId, ← d.bids, ← d.asks⟩
  members s := [("lastUpdateId", Form.uint64.toJson s.lastUpdateId),
    ("bids", levelsForm.toJson s.bids), ("asks", levelsForm.toJson s.asks)]

def form : Form Snapshot := record.form

end Snapshot

/-- Changes of the exchange's book over a range of update ids. -/
structure DiffEvent where
  firstUpdateId : UInt64
  lastUpdateId : UInt64
  /-- Last id of the event before this one. -/
  prevLastUpdateId : UInt64
  eventTime : Int64
  bids : List Level
  asks : List Level
  deriving Repr, DecidableEq, Inhabited

/-- The id after `id`, staying at the largest one. -/
def nextId (id : UInt64) : UInt64 := if id.toNat + 1 < Nat.pow 2 64 then id + 1 else id

/-- Whether the event can come first after a snapshot: its range holds the id after it. -/
def DiffEvent.bridges (event : DiffEvent) (snapshotId : UInt64) : Bool :=
  event.firstUpdateId ≤ nextId snapshotId && nextId snapshotId ≤ event.lastUpdateId

/-- Why a replica refuses an event. -/
inductive BookError
  | sequenceGap (expected received : UInt64)
  | regression (current received : UInt64)
  | notBridging (snapshotId first last : UInt64)
  | desynced
  deriving Repr, DecidableEq, Inhabited

def BookError.message : BookError → String
  | sequenceGap expected received =>
    "sequence gap: expected prevLastUpdateId " ++ Text.natural expected.toNat ++ ", received " ++
      Text.natural received.toNat
  | regression current received =>
    "sequence regression: book at " ++ Text.natural current.toNat ++ ", event ends at " ++
      Text.natural received.toNat
  | notBridging snapshotId first last =>
    "event [" ++ Text.natural first.toNat ++ ", " ++ Text.natural last.toNat ++
      "] does not bridge snapshot " ++ Text.natural snapshotId.toNat
  | desynced => "order book is desynchronized and must be rebuilt"

def BookError.kind : BookError → String
  | sequenceGap _ _ => "SequenceGap"
  | regression _ _ => "Regression"
  | notBridging _ _ _ => "NotBridging"
  | desynced => "Desynced"

instance : Failure BookError := ⟨BookError.kind, BookError.message⟩

end MarketGateway.Book
