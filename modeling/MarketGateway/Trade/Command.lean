import MarketGateway.Json.DecimalForm
import MarketGateway.Json.Variant

/-!
# Trade commands

The commands that the gateway executes: placing, modifying, cancelling and querying orders, placing
and cancelling algorithmic orders, querying positions and setting the leverage. Each command has a
kind, a form in JSON, and is or is not safe to repeat (`TradeCommand.isIdempotent`).
-/

namespace MarketGateway.Trade

open Json

/-- Side of an order. -/
inductive OrderSide
  | buy
  | sell
  deriving Repr, DecidableEq, Inhabited

namespace OrderSide

def all : List OrderSide := [buy, sell]

def name : OrderSide → String
  | buy => "BUY"
  | sell => "SELL"

def form : Form OrderSide := Variant.names all name

end OrderSide

/-- Type of an order. -/
inductive OrderType
  | limit
  | market
  | stop
  | stopMarket
  | takeProfit
  | takeProfitMarket
  deriving Repr, DecidableEq, Inhabited

namespace OrderType

def all : List OrderType := [limit, market, stop, stopMarket, takeProfit, takeProfitMarket]

def name : OrderType → String
  | limit => "LIMIT"
  | market => "MARKET"
  | stop => "STOP"
  | stopMarket => "STOP_MARKET"
  | takeProfit => "TAKE_PROFIT"
  | takeProfitMarket => "TAKE_PROFIT_MARKET"

/-- Whether an order of this type has a limit price. -/
def requiresPrice : OrderType → Bool
  | limit | stop | takeProfit => true
  | _ => false

def form : Form OrderType := Variant.names all name

end OrderType

/-- How long an order stands. -/
inductive TimeInForce
  | gtc
  | ioc
  | fok
  | gtx
  deriving Repr, DecidableEq, Inhabited

namespace TimeInForce

def all : List TimeInForce := [gtc, ioc, fok, gtx]

def name : TimeInForce → String
  | gtc => "GTC"
  | ioc => "IOC"
  | fok => "FOK"
  | gtx => "GTX"

def form : Form TimeInForce := Variant.names all name

end TimeInForce

/-- An existing order, named by the exchange or by the caller. -/
inductive OrderRef
  | orderId (id : UInt64)
  | clientOrderId (id : String)
  deriving Repr, DecidableEq, Inhabited

namespace OrderRef

def toJson : OrderRef → Json
  | orderId id => .object [("OrderId", Form.uint64.toJson id)]
  | clientOrderId id => .object [("ClientOrderId", .string id)]

def form : Form OrderRef :=
  Variant.form [.holding "OrderId" Form.uint64 orderId,
    .holding "ClientOrderId" Form.text clientOrderId]
    toJson

end OrderRef

def optionalText : Form (Option String) := Form.text.optional

def optionalDecimal : Form (Option Decimal) := Form.decimal.optional

/-- A new order. -/
structure OrderRequest where
  symbol : String
  side : OrderSide
  orderType : OrderType
  quantity : Decimal
  price : Option Decimal
  stopPrice : Option Decimal
  timeInForce : Option TimeInForce
  reduceOnly : Bool
  positionSide : Option String
  clientOrderId : Option String
  deriving Repr, DecidableEq, Inhabited

namespace OrderRequest

structure Draft where
  symbol : Option String := none
  side : Option OrderSide := none
  orderType : Option OrderType := none
  quantity : Option Decimal := none
  price : Option (Option Decimal) := none
  stopPrice : Option (Option Decimal) := none
  timeInForce : Option (Option TimeInForce) := none
  reduceOnly : Option Bool := none
  positionSide : Option (Option String) := none
  clientOrderId : Option (Option String) := none

def timeForm : Form (Option TimeInForce) := TimeInForce.form.optional

def record : Record Draft OrderRequest where
  empty := {}
  fields := [
    .of "symbol" Form.text (·.symbol) (fun d v => { d with symbol := some v }),
    .of "side" OrderSide.form (·.side) (fun d v => { d with side := some v }),
    .of "order_type" OrderType.form (·.orderType) (fun d v => { d with orderType := some v }),
    .of "quantity" Form.decimal (·.quantity) (fun d v => { d with quantity := some v }),
    .of "price" optionalDecimal (·.price) (fun d v => { d with price := some v }),
    .of "stop_price" optionalDecimal (·.stopPrice) (fun d v => { d with stopPrice := some v }),
    .of "time_in_force" timeForm (·.timeInForce) (fun d v => { d with timeInForce := some v }),
    .of "reduce_only" Form.flag (·.reduceOnly) (fun d v => { d with reduceOnly := some v }),
    .of "position_side" optionalText (·.positionSide)
      (fun d v => { d with positionSide := some v }),
    .of "client_order_id" optionalText (·.clientOrderId)
      (fun d v => { d with clientOrderId := some v })]
  finish d := do
    return ⟨← d.symbol, ← d.side, ← d.orderType, ← d.quantity, ← optionalDecimal.resolve d.price,
      ← optionalDecimal.resolve d.stopPrice, ← timeForm.resolve d.timeInForce, ← d.reduceOnly,
      ← optionalText.resolve d.positionSide, ← optionalText.resolve d.clientOrderId⟩
  members o := [("symbol", .string o.symbol), ("side", OrderSide.form.toJson o.side),
    ("order_type", OrderType.form.toJson o.orderType),
    ("quantity", Form.decimal.toJson o.quantity), ("price", optionalDecimal.toJson o.price),
    ("stop_price", optionalDecimal.toJson o.stopPrice),
    ("time_in_force", timeForm.toJson o.timeInForce),
    ("reduce_only", Form.flag.toJson o.reduceOnly),
    ("position_side", optionalText.toJson o.positionSide),
    ("client_order_id", optionalText.toJson o.clientOrderId)]

def form : Form OrderRequest := record.form

end OrderRequest

/-- A change of price or quantity of a resting order. -/
structure ModifyRequest where
  symbol : String
  order : OrderRef
  side : OrderSide
  quantity : Decimal
  price : Decimal
  deriving Repr, DecidableEq, Inhabited

namespace ModifyRequest

structure Draft where
  symbol : Option String := none
  order : Option OrderRef := none
  side : Option OrderSide := none
  quantity : Option Decimal := none
  price : Option Decimal := none

def record : Record Draft ModifyRequest where
  empty := {}
  fields := [
    .of "symbol" Form.text (·.symbol) (fun d v => { d with symbol := some v }),
    .of "order" OrderRef.form (·.order) (fun d v => { d with order := some v }),
    .of "side" OrderSide.form (·.side) (fun d v => { d with side := some v }),
    .of "quantity" Form.decimal (·.quantity) (fun d v => { d with quantity := some v }),
    .of "price" Form.decimal (·.price) (fun d v => { d with price := some v })]
  finish d := do return ⟨← d.symbol, ← d.order, ← d.side, ← d.quantity, ← d.price⟩
  members m := [("symbol", .string m.symbol), ("order", m.order.toJson),
    ("side", OrderSide.form.toJson m.side), ("quantity", Form.decimal.toJson m.quantity),
    ("price", Form.decimal.toJson m.price)]

def form : Form ModifyRequest := record.form

end ModifyRequest

/-- An order that is executed in parts over a time window. -/
structure AlgoRequest where
  symbol : String
  side : OrderSide
  quantity : Decimal
  durationSecs : UInt64
  limitPrice : Option Decimal
  reduceOnly : Bool
  positionSide : Option String
  clientAlgoId : Option String
  deriving Repr, DecidableEq, Inhabited

namespace AlgoRequest

structure Draft where
  symbol : Option String := none
  side : Option OrderSide := none
  quantity : Option Decimal := none
  durationSecs : Option UInt64 := none
  limitPrice : Option (Option Decimal) := none
  reduceOnly : Option Bool := none
  positionSide : Option (Option String) := none
  clientAlgoId : Option (Option String) := none

def record : Record Draft AlgoRequest where
  empty := {}
  fields := [
    .of "symbol" Form.text (·.symbol) (fun d v => { d with symbol := some v }),
    .of "side" OrderSide.form (·.side) (fun d v => { d with side := some v }),
    .of "quantity" Form.decimal (·.quantity) (fun d v => { d with quantity := some v }),
    .of "duration_secs" Form.uint64 (·.durationSecs)
      (fun d v => { d with durationSecs := some v }),
    .of "limit_price" optionalDecimal (·.limitPrice) (fun d v => { d with limitPrice := some v }),
    .of "reduce_only" Form.flag (·.reduceOnly) (fun d v => { d with reduceOnly := some v }),
    .of "position_side" optionalText (·.positionSide)
      (fun d v => { d with positionSide := some v }),
    .of "client_algo_id" optionalText (·.clientAlgoId)
      (fun d v => { d with clientAlgoId := some v })]
  finish d := do
    return ⟨← d.symbol, ← d.side, ← d.quantity, ← d.durationSecs,
      ← optionalDecimal.resolve d.limitPrice, ← d.reduceOnly,
      ← optionalText.resolve d.positionSide, ← optionalText.resolve d.clientAlgoId⟩
  members a := [("symbol", .string a.symbol), ("side", OrderSide.form.toJson a.side),
    ("quantity", Form.decimal.toJson a.quantity),
    ("duration_secs", Form.uint64.toJson a.durationSecs),
    ("limit_price", optionalDecimal.toJson a.limitPrice),
    ("reduce_only", Form.flag.toJson a.reduceOnly),
    ("position_side", optionalText.toJson a.positionSide),
    ("client_algo_id", optionalText.toJson a.clientAlgoId)]

def form : Form AlgoRequest := record.form

end AlgoRequest

end MarketGateway.Trade

namespace MarketGateway

open Json Trade

/-- A command to execute. -/
inductive TradeCommand
  | placeOrder (order : OrderRequest)
  | modifyOrder (change : ModifyRequest)
  | cancelOrder (symbol : String) (order : OrderRef)
  | orderStatus (symbol : String) (order : OrderRef)
  | placeAlgoOrder (order : AlgoRequest)
  | cancelAlgoOrder (algoId : UInt64)
  | queryPosition (symbol : Option String)
  | setLeverage (symbol : String) (leverage : UInt32)
  deriving Repr, DecidableEq, Inhabited

namespace TradeCommand

/-- Short name of what a command does. -/
def kind : TradeCommand → String
  | placeOrder _ => "place_order"
  | modifyOrder _ => "modify_order"
  | cancelOrder _ _ => "cancel_order"
  | orderStatus _ _ => "order_status"
  | placeAlgoOrder _ => "place_algo_order"
  | cancelAlgoOrder _ => "cancel_algo_order"
  | queryPosition _ => "query_position"
  | setLeverage _ _ => "set_leverage"

/-- Whether repeating the command after an unknown outcome does no harm. -/
def isIdempotent : TradeCommand → Bool
  | orderStatus _ _ | queryPosition _ | setLeverage _ _ | cancelOrder _ _ | cancelAlgoOrder _ =>
    true
  | placeOrder _ | modifyOrder _ | placeAlgoOrder _ => false

structure OrderDraft where
  symbol : Option String := none
  order : Option OrderRef := none

/-- The fields of a command about one order. -/
def orderRecord (make : String → OrderRef → TradeCommand) : Record OrderDraft TradeCommand where
  empty := {}
  fields := [
    .of "symbol" Form.text (·.symbol) (fun d v => { d with symbol := some v }),
    .of "order" OrderRef.form (·.order) (fun d v => { d with order := some v })]
  finish d := do return make (← d.symbol) (← d.order)
  members _ := []

structure AlgoDraft where
  algoId : Option UInt64 := none

def algoRecord : Record AlgoDraft TradeCommand where
  empty := {}
  fields := [.of "algo_id" Form.uint64 (·.algoId) (fun d v => { d with algoId := some v })]
  finish d := d.algoId.map cancelAlgoOrder
  members _ := []

structure PositionDraft where
  symbol : Option (Option String) := none

def positionRecord : Record PositionDraft TradeCommand where
  empty := {}
  fields := [.of "symbol" optionalText (·.symbol) (fun d v => { d with symbol := some v })]
  finish d := (optionalText.resolve d.symbol).map queryPosition
  members _ := []

structure LeverageDraft where
  symbol : Option String := none
  leverage : Option UInt32 := none

def leverageRecord : Record LeverageDraft TradeCommand where
  empty := {}
  fields := [
    .of "symbol" Form.text (·.symbol) (fun d v => { d with symbol := some v }),
    .of "leverage" Form.uint32 (·.leverage) (fun d v => { d with leverage := some v })]
  finish d := do return setLeverage (← d.symbol) (← d.leverage)
  members _ := []

/-- The command as a JSON value: an object whose only member is named for the kind. -/
def toJson : TradeCommand → Json
  | placeOrder order => .object [("PlaceOrder", OrderRequest.form.toJson order)]
  | modifyOrder change => .object [("ModifyOrder", ModifyRequest.form.toJson change)]
  | cancelOrder symbol order =>
    .object [("CancelOrder", .object [("symbol", .string symbol), ("order", order.toJson)])]
  | orderStatus symbol order =>
    .object [("OrderStatus", .object [("symbol", .string symbol), ("order", order.toJson)])]
  | placeAlgoOrder order => .object [("PlaceAlgoOrder", AlgoRequest.form.toJson order)]
  | cancelAlgoOrder algoId =>
    .object [("CancelAlgoOrder", .object [("algo_id", Form.uint64.toJson algoId)])]
  | queryPosition symbol =>
    .object [("QueryPosition", .object [("symbol", optionalText.toJson symbol)])]
  | setLeverage symbol leverage =>
    .object [("SetLeverage",
      .object [("symbol", .string symbol), ("leverage", Form.uint32.toJson leverage)])]

def variants : List (Variant TradeCommand) := [
  .holding "PlaceOrder" OrderRequest.form placeOrder,
  .holding "ModifyOrder" ModifyRequest.form modifyOrder,
  .fields "CancelOrder" (orderRecord cancelOrder),
  .fields "OrderStatus" (orderRecord orderStatus),
  .holding "PlaceAlgoOrder" AlgoRequest.form placeAlgoOrder,
  .fields "CancelAlgoOrder" algoRecord,
  .fields "QueryPosition" positionRecord,
  .fields "SetLeverage" leverageRecord]

def form : Form TradeCommand := Variant.form variants toJson

end TradeCommand

end MarketGateway
