import MarketGateway.Metrics
import MarketGateway.Trade.Command

/-!
# Execution of trading commands

A command is sent over the primary channel. When that fails, whatever the failure, it is sent once
over the fallback, whose answer counts; when the failure means that the connection of the primary
channel is gone, the channel is asked to connect again first. A failure of the primary channel is
never shown.
-/

namespace MarketGateway

/-- A way to execute commands that fails with errors of type `ε`, on a state of type `σ`. -/
structure TradeChannel (σ ε : Type) where
  execute : TradeCommand → σ → Except ε Json × σ

/-- A channel over a connection that can be opened again. -/
structure PrimaryChannel (σ ε : Type) extends TradeChannel σ ε where
  isConnectionFailure : ε → Bool
  reconnect : σ → σ

/-- The channel that a result came over. -/
inductive ExecutionRoute
  | primary
  | fallback
  deriving Repr, DecidableEq, Inhabited

def ExecutionRoute.name : ExecutionRoute → String
  | primary => "primary"
  | fallback => "fallback"

/-- A result and where it came from. -/
structure Execution where
  route : ExecutionRoute
  result : Json

/-- The two channels of an executor. -/
structure TradeExecutor (σ ε δ : Type) where
  primary : PrimaryChannel σ ε
  fallback : TradeChannel σ δ

/-- Executes a command over the primary channel, else over the fallback. -/
def TradeExecutor.execute {σ ε δ : Type} (executor : TradeExecutor σ ε δ) (command : TradeCommand)
    (state : σ) : Except δ Execution × σ × List Metric :=
  match executor.primary.execute command state with
  | (.ok result, state) => (.ok ⟨.primary, result⟩, state, [])
  | (.error failure, state) =>
    let state :=
      if executor.primary.isConnectionFailure failure then executor.primary.reconnect state
      else state
    let (outcome, state) := executor.fallback.execute command state
    (outcome.map (⟨.fallback, ·⟩), state, [.tradeFallback command.kind])

end MarketGateway
