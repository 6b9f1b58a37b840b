import MarketGateway.Json.DecimalForm
import MarketGateway.Json.Record

/-!
# Positions

An entry of the exchange's answer to a position query.
-/

namespace MarketGateway.Rest

open Json

/-- A position in one symbol. -/
structure Position where
  symbol : String
  amount : Decimal
  entryPrice : Decimal
  markPrice : Option Decimal
  unrealizedProfit : Option Decimal
  side : Option String
  deriving Repr, DecidableEq, Inhabited

namespace Position

structure Draft where
  symbol : Option String := none
  amount : Option Decimal := none
  entryPrice : Option Decimal := none
  markPrice : Option (Option Decimal) := none
  unrealizedProfit : Option (Option Decimal) := none
  side : Option (Option String) := none

def sideForm : Form (Option String) := Form.text.optional

def record : Record Draft Position where
  empty := {}
  fields := [
    .of "symbol" Form.text (·.symbol) (fun d v => { d with symbol := some v }),
    .of "positionAmt" Form.decimalText (·.amount) (fun d v => { d with amount := some v }),
    .of "entryPrice" Form.decimalText (·.entryPrice) (fun d v => { d with entryPrice := some v }),
    .of "markPrice" Form.optionalDecimalText (·.markPrice)
      (fun d v => { d with markPrice := some v }) true,
    .of "unRealizedProfit" Form.optionalDecimalText (·.unrealizedProfit)
      (fun d v => { d with unrealizedProfit := some v }) true,
    .of "positionSide" sideForm (·.side) (fun d v => { d with side := some v }) true]
  finish d := do
    return ⟨← d.symbol, ← d.amount, ← d.entryPrice,
      ← Form.optionalDecimalText.resolve d.markPrice,
      ← Form.optionalDecimalText.resolve d.unrealizedProfit, ← sideForm.resolve d.side⟩
  members p := [("symbol", .string p.symbol), ("positionAmt", Form.decimalText.toJson p.amount),
    ("entryPrice", Form.decimalText.toJson p.entryPrice),
    ("markPrice", Form.optionalDecimalText.toJson p.markPrice),
    ("unRealizedProfit", Form.optionalDecimalText.toJson p.unrealizedProfit),
    ("positionSide", sideForm.toJson p.side)]

def form : Form Position := record.form

end Position

end MarketGateway.Rest
