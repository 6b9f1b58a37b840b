import MarketGateway.Json.DecimalForm
import MarketGateway.Json.Record

/-!
# Mark prices

The latest mark price of a symbol, as it is sent to clients and kept in the price cache.
-/

namespace MarketGateway

open Json

/-- Mark price of a symbol at an event time in milliseconds. -/
structure MarkPrice where
  symbol : String
  price : Decimal
  eventTime : Int64
  deriving Repr, DecidableEq, Inhabited

namespace MarkPrice

structure Draft where
  symbol : Option String := none
  price : Option Decimal := none
  eventTime : Option Int64 := none

def record : Record Draft MarkPrice where
  empty := {}
  fields := [
    .of "s" Form.text (·.symbol) (fun d v => { d with symbol := some v }),
    .of "p" Form.decimalText (·.price) (fun d v => { d with price := some v }),
    .of "t" Form.int64 (·.eventTime) (fun d v => { d with eventTime := some v })]
  finish d := do return ⟨← d.symbol, ← d.price, ← d.eventTime⟩
  members m := [("s", Form.text.toJson m.symbol), ("p", Form.decimalText.toJson m.price),
    ("t", Form.int64.toJson m.eventTime)]

def form : Form MarkPrice := record.form

end MarkPrice

end MarketGateway
