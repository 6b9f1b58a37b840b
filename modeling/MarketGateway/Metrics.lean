import MarketGateway.Text.Numeral

/-!
# Metrics

What the gateway counts. Work reports metric events (`Metric`), oldest first, and `Metric.lines`
gives what a list of events adds up to, one sorted line for each series that was touched: the
name, the labels between braces, and the number. Counters add up, a gauge shows its last value,
and of a latency the number of measurements is shown.
-/

namespace MarketGateway

/-- The kinds of feeds from the exchange. -/
inductive FeedKind
  | markPrice
  | depth
  | trading
  deriving Repr, DecidableEq, Inhabited

namespace FeedKind

def name : FeedKind → String
  | markPrice => "mark_price"
  | depth => "depth"
  | trading => "trading"

/-- The kind of a feed with the given name; unknown feeds count as mark prices. -/
def ofName (name : String) : FeedKind :=
  if name = "depth" then depth else if name = "trading" then trading else markPrice

end FeedKind

/-- How a trading request ended. -/
inductive RpcOutcome
  | ok
  | rejected
  | timeout
  | closed
  | unsent
  deriving Repr, DecidableEq, Inhabited

def RpcOutcome.name : RpcOutcome → String
  | ok => "ok"
  | rejected => "rejected"
  | timeout => "timeout"
  | closed => "closed"
  | unsent => "unsent"

/-- Why an order book was synchronized again. -/
inductive ResyncReason
  | overflow
  | gap
  | staleSnapshot
  | unexpected
  | bridgeTimeout
  deriving Repr, DecidableEq, Inhabited

def ResyncReason.name : ResyncReason → String
  | overflow => "overflow"
  | gap => "gap"
  | staleSnapshot => "stale_snapshot"
  | unexpected => "unexpected"
  | bridgeTimeout => "bridge_timeout"

/-- How a price was found. -/
inductive LookupResult
  | hit
  | filled
  | timeout
  deriving Repr, DecidableEq, Inhabited

def LookupResult.name : LookupResult → String
  | hit => "hit"
  | filled => "filled"
  | timeout => "timeout"

/-- One thing that is counted. -/
inductive Metric
  | feedMessage (feed : FeedKind)
  | reconnect (feed : FeedKind)
  | resync (reason : ResyncReason)
  | rooms (feed : FeedKind) (count : Nat)
  | clientConnected
  | clientDisconnected
  | framesSent (feed : FeedKind) (count : Nat)
  | framesDropped (feed : FeedKind) (count : Nat)
  | rpcRequest (method : String) (outcome : RpcOutcome)
  | rpcPending (count : Nat)
  | tradeFallback (command : String)
  | priceLookup (result : LookupResult)
  deriving Repr, DecidableEq, Inhabited

namespace Metric

/-- How an event changes the number of its series. -/
inductive Change
  | add (n : Int)
  | set (n : Int)

/-- A series as it is written: its name and its labels. -/
def series (name : String) (labels : List (String × String)) : String :=
  let body := String.intercalate "," (labels.map fun (k, v) => k ++ "=\"" ++ v ++ "\"")
  if labels.isEmpty then name else name ++ "\x7b" ++ body ++ "\x7d"

/-- The series that an event touches, and how. -/
def changes : Metric → List (String × Change)
  | feedMessage feed =>
    [(series "gateway_upstream_messages_total" [("feed", feed.name)], .add 1)]
  | reconnect feed => [(series "gateway_reconnects_total" [("feed", feed.name)], .add 1)]
  | resync reason =>
    [(series "gateway_orderbook_resyncs_total" [("reason", reason.name)], .add 1)]
  | rooms feed count => [(series "gateway_rooms" [("feed", feed.name)], .set count)]
  | clientConnected => [(series "gateway_clients" [], .add 1)]
  | clientDisconnected => [(series "gateway_clients" [], .add (-1))]
  | framesSent feed count =>
    [(series "gateway_frames_sent_total" [("feed", feed.name)], .add count)]
  | framesDropped feed count =>
    [(series "gateway_frames_dropped_total" [("feed", feed.name)], .add count)]
  | rpcRequest method outcome =>
    [(series "gateway_rpc_requests_total" [("method", method), ("outcome", outcome.name)], .add 1),
      (series "gateway_rpc_latency_seconds_count" [("method", method)], .add 1)]
  | rpcPending count => [(series "gateway_rpc_pending" [], .set count)]
  | tradeFallback command =>
    [(series "gateway_trade_fallbacks_total" [("command", command)], .add 1)]
  | priceLookup result =>
    [(series "gateway_price_cache_lookups_total" [("result", result.name)], .add 1)]

def Change.apply (before : Int) : Change → Int
  | add n => before + n
  | set n => n

/-- Applies a change to the table of numbers. -/
def record (table : List (String × Int)) (change : String × Change) : List (String × Int) :=
  match table with
  | [] => [(change.1, change.2.apply 0)]
  | (name, n) :: rest =>
    if name = change.1 then (name, change.2.apply n) :: rest else (name, n) :: record rest change

/-- The number of each series that was touched. -/
def totals (events : List Metric) : List (String × Int) :=
  (events.flatMap changes).foldl record []

/-- What the events add up to, as sorted lines. -/
def lines (events : List Metric) : List String :=
  let lines := (totals events).map fun (name, n) => name ++ " " ++ Text.integer n
  lines.mergeSort fun a b => a ≤ b

end Metric

end MarketGateway
