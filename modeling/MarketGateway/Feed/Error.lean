import MarketGateway.Book.Synchronizer
import MarketGateway.Failure
import MarketGateway.Market.Message

/-!
# Failures of a feed session

Why a session of a feed ended. Every failure is passing: the feed is started again.
-/

namespace MarketGateway

/-- Why a session of a feed ended. -/
inductive FeedError
  | transport (detail : String)
  | desync (error : Book.SyncError)
  | snapshot (detail : String)
  | exchange (error : ExchangeError)
  | unsupportedKey (key : String)
  deriving Repr, DecidableEq, Inhabited

def FeedError.message : FeedError → String
  | transport detail => "transport error: " ++ detail
  | desync error => "order book desync: " ++ error.message
  | snapshot detail => "snapshot error: " ++ detail
  | exchange error =>
    "exchange error " ++ Text.integer error.code.toInt ++ ": " ++ error.msg
  | unsupportedKey key => "unsupported room key " ++ key

def FeedError.kind : FeedError → String
  | transport _ => "Transport"
  | desync error => "Desync." ++ error.kind
  | snapshot _ => "Snapshot"
  | exchange _ => "Exchange"
  | unsupportedKey _ => "UnsupportedKey"

instance : Failure FeedError := ⟨FeedError.kind, FeedError.message⟩

end MarketGateway
