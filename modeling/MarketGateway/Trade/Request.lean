import MarketGateway.Trade.Command
import MarketGateway.Trade.Params

/-!
# Requests for commands

The parameters of a command (`TradeCommand.params`), the method that executes it over the trading
socket (`RpcMethod.ofCommand`) and the HTTP method and path that do so over REST
(`Route.ofCommand`).
-/

namespace MarketGateway

open Trade

namespace TradeCommand

/-- Parameters with a reference to an order. -/
def withOrder (params : Params) : OrderRef → Params
  | .orderId id => params.set "orderId" (.uint id)
  | .clientOrderId id => params.set "origClientOrderId" (.text id)

def orderParams (order : OrderRequest) : Params :=
  ({} : Params)
    |>.set "symbol" (.text order.symbol)
    |>.set "side" (.text order.side.name)
    |>.set "type" (.text order.orderType.name)
    |>.set "quantity" (.decimal order.quantity)
    |>.set "price" (.optional .decimal order.price)
    |>.set "stopPrice" (.optional .decimal order.stopPrice)
    |>.set "timeInForce" (.optional .text (order.timeInForce.map TimeInForce.name))
    |>.set "reduceOnly" (.flag order.reduceOnly)
    |>.set "positionSide" (.optional .text order.positionSide)
    |>.set "newClientOrderId" (.optional .text order.clientOrderId)

def modifyParams (change : ModifyRequest) : Params :=
  (withOrder (({} : Params).set "symbol" (.text change.symbol)) change.order)
    |>.set "side" (.text change.side.name)
    |>.set "quantity" (.decimal change.quantity)
    |>.set "price" (.decimal change.price)

def algoParams (order : AlgoRequest) : Params :=
  ({} : Params)
    |>.set "symbol" (.text order.symbol)
    |>.set "side" (.text order.side.name)
    |>.set "quantity" (.decimal order.quantity)
    |>.set "duration" (.uint order.durationSecs)
    |>.set "limitPrice" (.decimal (order.limitPrice.getD Decimal.zero))
    |>.set "reduceOnly" (.flag order.reduceOnly)
    |>.set "positionSide" (.optional .text order.positionSide)
    |>.set "clientAlgoId" (.optional .text order.clientAlgoId)

/-- The parameters of a command, not yet signed. -/
def params : TradeCommand → Params
  | placeOrder order => orderParams order
  | modifyOrder change => modifyParams change
  | cancelOrder symbol order => withOrder (({} : Params).set "symbol" (.text symbol)) order
  | orderStatus symbol order => withOrder (({} : Params).set "symbol" (.text symbol)) order
  | placeAlgoOrder order => algoParams order
  | cancelAlgoOrder algoId => ({} : Params).set "algoId" (.uint algoId)
  | queryPosition symbol => ({} : Params).set "symbol" (.optional .text symbol)
  | setLeverage symbol leverage =>
    (({} : Params).set "symbol" (.text symbol)).set "leverage" (.uint leverage.toUInt64)

end TradeCommand

/-- Methods of the trading socket. -/
inductive RpcMethod
  | logon
  | orderPlace
  | orderModify
  | orderCancel
  | orderStatus
  | algoOrderPlace
  | algoOrderCancel
  | accountPosition
  | accountLeverage
  deriving Repr, DecidableEq, Inhabited

namespace RpcMethod

def name : RpcMethod → String
  | logon => "session.logon"
  | orderPlace => "order.place"
  | orderModify => "order.modify"
  | orderCancel => "order.cancel"
  | orderStatus => "order.status"
  | algoOrderPlace => "algoOrder.place"
  | algoOrderCancel => "algoOrder.cancel"
  | accountPosition => "account.position"
  | accountLeverage => "account.leverage"

/-- The method that executes a command. -/
def ofCommand : TradeCommand → RpcMethod
  | .placeOrder _ => orderPlace
  | .modifyOrder _ => orderModify
  | .cancelOrder _ _ => orderCancel
  | .orderStatus _ _ => orderStatus
  | .placeAlgoOrder _ => algoOrderPlace
  | .cancelAlgoOrder _ => algoOrderCancel
  | .queryPosition _ => accountPosition
  | .setLeverage _ _ => accountLeverage

end RpcMethod

/-- HTTP methods. -/
inductive HttpMethod
  | get
  | post
  | put
  | delete
  deriving Repr, DecidableEq, Inhabited

def HttpMethod.name : HttpMethod → String
  | get => "GET"
  | post => "POST"
  | put => "PUT"
  | delete => "DELETE"

/-- Method and path of an HTTP request. -/
structure Route where
  method : HttpMethod
  path : String
  deriving Repr, DecidableEq, Inhabited

/-- The route that executes a command. -/
def Route.ofCommand : TradeCommand → Route
  | .placeOrder _ => ⟨.post, "/fapi/v1/order"⟩
  | .modifyOrder _ => ⟨.put, "/fapi/v1/order"⟩
  | .cancelOrder _ _ => ⟨.delete, "/fapi/v1/order"⟩
  | .orderStatus _ _ => ⟨.get, "/fapi/v1/order"⟩
  | .placeAlgoOrder _ => ⟨.post, "/sapi/v1/algo/futures/newOrderTwap"⟩
  | .cancelAlgoOrder _ => ⟨.delete, "/sapi/v1/algo/futures/order"⟩
  | .queryPosition _ => ⟨.get, "/fapi/v2/positionRisk"⟩
  | .setLeverage _ _ => ⟨.post, "/fapi/v1/leverage"⟩

end MarketGateway
