import MarketGateway.Trade.Executor

/-!
# Trading channels that are played by hand

Stand-ins for the two channels of an executor, which keep a log of what they are asked.
-/

namespace MarketGateway

/-- A channel that fails with the given text, if any, and else answers with its name. -/
def TradeChannel.played (name : String) (failure : Option String) :
    TradeChannel (List String) String where
  execute command log :=
    (match failure with
      | some text => .error text
      | none => .ok (.object [("by", .string name)]),
      log ++ [name ++ " " ++ command.kind])

/-- A primary channel and a fallback with the given failures. One failure of the primary channel
means that its connection is gone. -/
def TradeExecutor.played (primary fallback : Option String) :
    TradeExecutor (List String) String String where
  primary := { TradeChannel.played "primary" primary with
    isConnectionFailure := (· == "disconnected")
    reconnect := (· ++ ["primary reconnect"]) }
  fallback := .played "fallback" fallback

end MarketGateway
