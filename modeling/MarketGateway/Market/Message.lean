import MarketGateway.Book.Event
import MarketGateway.Market.MarkPrice
import MarketGateway.Text.Letters

/-!
# Messages of the market data stream

The frames that the exchange sends on a market data stream: diff events of an order book, mark
prices, acknowledgements of a subscription and errors; and the subscription request that the gateway
sends. Names of streams are formed by `depthStream` and `markPriceStream`.
-/

namespace MarketGateway

open Json

/-- The exchange's own account of an error. -/
structure ExchangeError where
  code : Int64
  msg : String
  deriving Repr, DecidableEq, Inhabited

namespace ExchangeError

structure Draft where
  code : Option Int64 := none
  msg : Option String := none

def record : Record Draft ExchangeError where
  empty := {}
  fields := [
    .of "code" Form.int64 (·.code) (fun d v => { d with code := some v }),
    .of "msg" Form.text (·.msg) (fun d v => { d with msg := some v })]
  finish d := do return ⟨← d.code, ← d.msg⟩
  members e := [("code", Form.int64.toJson e.code), ("msg", Form.text.toJson e.msg)]

def form : Form ExchangeError := record.form

end ExchangeError

namespace Market

/-- A diff event with the symbol that it is about. -/
structure DepthUpdate where
  eventType : String
  eventTime : Int64
  symbol : String
  firstUpdateId : UInt64
  lastUpdateId : UInt64
  prevLastUpdateId : UInt64
  bids : List Book.Level
  asks : List Book.Level
  deriving Repr, DecidableEq, Inhabited

namespace DepthUpdate

structure Draft where
  eventType : Option String := none
  eventTime : Option Int64 := none
  symbol : Option String := none
  firstUpdateId : Option UInt64 := none
  lastUpdateId : Option UInt64 := none
  prevLastUpdateId : Option UInt64 := none
  bids : Option (List Book.Level) := none
  asks : Option (List Book.Level) := none

/-- A side without changes may be left out. -/
def sideForm : Form (List Book.Level) := Book.levelsForm.orElse []

def record : Record Draft DepthUpdate where
  empty := {}
  fields := [
    .of "e" Form.text (·.eventType) (fun d v => { d with eventType := some v }),
    .of "E" Form.int64 (·.eventTime) (fun d v => { d with eventTime := some v }),
    .of "s" Form.text (·.symbol) (fun d v => { d with symbol := some v }),
    .of "U" Form.uint64 (·.firstUpdateId) (fun d v => { d with firstUpdateId := some v }),
    .of "u" Form.uint64 (·.lastUpdateId) (fun d v => { d with lastUpdateId := some v }),
    .of "pu" Form.uint64 (·.prevLastUpdateId) (fun d v => { d with prevLastUpdateId := some v }),
    .of "b" sideForm (·.bids) (fun d v => { d with bids := some v }) true,
    .of "a" sideForm (·.asks) (fun d v => { d with asks := some v }) true]
  finish d := do
    return ⟨← d.eventType, ← d.eventTime, ← d.symbol, ← d.firstUpdateId, ← d.lastUpdateId,
      ← d.prevLastUpdateId, ← sideForm.resolve d.bids, ← sideForm.resolve d.asks⟩
  members m := [("e", Form.text.toJson m.eventType), ("E", Form.int64.toJson m.eventTime),
    ("s", Form.text.toJson m.symbol), ("U", Form.uint64.toJson m.firstUpdateId),
    ("u", Form.uint64.toJson m.lastUpdateId), ("pu", Form.uint64.toJson m.prevLastUpdateId),
    ("b", sideForm.toJson m.bids), ("a", sideForm.toJson m.asks)]

def form : Form DepthUpdate := record.form

/-- The diff event without its symbol. -/
def event (m : DepthUpdate) : Book.DiffEvent :=
  ⟨m.firstUpdateId, m.lastUpdateId, m.prevLastUpdateId, m.eventTime, m.bids, m.asks⟩

end DepthUpdate

/-- A mark price event. -/
structure MarkPriceUpdate where
  eventType : String
  eventTime : Int64
  symbol : String
  price : Decimal
  indexPrice : Option Decimal
  fundingRate : Option Decimal
  nextFundingTime : Option Int64
  deriving Repr, DecidableEq, Inhabited

namespace MarkPriceUpdate

structure Draft where
  eventType : Option String := none
  eventTime : Option Int64 := none
  symbol : Option String := none
  price : Option Decimal := none
  indexPrice : Option (Option Decimal) := none
  fundingRate : Option (Option Decimal) := none
  nextFundingTime : Option (Option Int64) := none

def timeForm : Form (Option Int64) := Form.int64.optional

/-- A member for an optional value, left out when there is none. -/
def present {α : Type} (name : String) (form : Form (Option α)) (value : Option α) :
    List (String × Json) :=
  if value.isSome then [(name, form.toJson value)] else []

def record : Record Draft MarkPriceUpdate where
  empty := {}
  fields := [
    .of "e" Form.text (·.eventType) (fun d v => { d with eventType := some v }),
    .of "E" Form.int64 (·.eventTime) (fun d v => { d with eventTime := some v }),
    .of "s" Form.text (·.symbol) (fun d v => { d with symbol := some v }),
    .of "p" Form.decimalText (·.price) (fun d v => { d with price := some v }),
    .of "i" Form.optionalDecimalText (·.indexPrice)
      (fun d v => { d with indexPrice := some v }) true,
    .of "r" Form.optionalDecimalText (·.fundingRate)
      (fun d v => { d with fundingRate := some v }) true,
    .of "T" timeForm (·.nextFundingTime) (fun d v => { d with nextFundingTime := some v }) true]
  finish d := do
    return ⟨← d.eventType, ← d.eventTime, ← d.symbol, ← d.price,
      ← Form.optionalDecimalText.resolve d.indexPrice,
      ← Form.optionalDecimalText.resolve d.fundingRate, ← timeForm.resolve d.nextFundingTime⟩
  members m := [("e", Form.text.toJson m.eventType), ("E", Form.int64.toJson m.eventTime),
    ("s", Form.text.toJson m.symbol), ("p", Form.decimalText.toJson m.price)] ++
    present "i" Form.optionalDecimalText m.indexPrice ++
    present "r" Form.optionalDecimalText m.fundingRate ++
    present "T" timeForm m.nextFundingTime

def form : Form MarkPriceUpdate := record.form

/-- The price that goes to clients. -/
def markPrice (m : MarkPriceUpdate) : MarkPrice := ⟨m.symbol, m.price, m.eventTime⟩

end MarkPriceUpdate

/-- The exchange's answer to a subscription. -/
structure Acknowledgement where
  result : Option Json
  id : UInt64

namespace Acknowledgement

structure Draft where
  result : Option (Option Json) := none
  id : Option UInt64 := none

def resultForm : Form (Option Json) := Form.any.optional

def record : Record Draft Acknowledgement where
  empty := {}
  fields := [
    .of "result" resultForm (·.result) (fun d v => { d with result := some v }),
    .of "id" Form.uint64 (·.id) (fun d v => { d with id := some v })]
  finish d := do return ⟨← resultForm.resolve d.result, ← d.id⟩
  members a := [("result", resultForm.toJson a.result), ("id", Form.uint64.toJson a.id)]

def form : Form Acknowledgement := record.form

end Acknowledgement

/-- An error frame, with the request that it answers if it answers one. -/
structure StreamError where
  error : ExchangeError
  id : Option UInt64
  deriving Repr, DecidableEq, Inhabited

namespace StreamError

structure Draft where
  error : Option ExchangeError := none
  id : Option (Option UInt64) := none

def idForm : Form (Option UInt64) := Form.uint64.optional

def record : Record Draft StreamError where
  empty := {}
  fields := [
    .of "error" ExchangeError.form (·.error) (fun d v => { d with error := some v }),
    .of "id" idForm (·.id) (fun d v => { d with id := some v }) true]
  finish d := do return ⟨← d.error, ← idForm.resolve d.id⟩
  members e := [("error", ExchangeError.form.toJson e.error), ("id", idForm.toJson e.id)]

def form : Form StreamError := record.form

end StreamError

/-- An event wrapped with the name of its stream. -/
structure Envelope where
  stream : String
  data : Json

namespace Envelope

structure Draft where
  stream : Option String := none
  data : Option Json := none

def record : Record Draft Envelope where
  empty := {}
  fields := [
    .of "stream" Form.text (·.stream) (fun d v => { d with stream := some v }),
    .of "data" Form.any (·.data) (fun d v => { d with data := some v })]
  finish d := do return ⟨← d.stream, ← d.data⟩
  members e := [("stream", .string e.stream), ("data", e.data)]

def form : Form Envelope := record.form

end Envelope

/-- A request to subscribe to streams or to leave them. -/
structure ControlRequest where
  method : String
  params : List String
  id : UInt64
  deriving Repr, DecidableEq, Inhabited

namespace ControlRequest

structure Draft where
  method : Option String := none
  params : Option (List String) := none
  id : Option UInt64 := none

def streamsForm : Form (List String) := Form.list Form.text

def record : Record Draft ControlRequest where
  empty := {}
  fields := [
    .of "method" Form.text (·.method) (fun d v => { d with method := some v }),
    .of "params" streamsForm (·.params) (fun d v => { d with params := some v }),
    .of "id" Form.uint64 (·.id) (fun d v => { d with id := some v })]
  finish d := do return ⟨← d.method, ← d.params, ← d.id⟩
  members r := [("method", .string r.method), ("params", streamsForm.toJson r.params),
    ("id", Form.uint64.toJson r.id)]

def form : Form ControlRequest := record.form

/-- The request to subscribe to the given streams. -/
def subscribe (streams : List String) (id : UInt64) : ControlRequest := ⟨"SUBSCRIBE", streams, id⟩

end ControlRequest

/-- Stream of the diff events of a symbol; an interval of 250 ms is not named. -/
def depthStream (symbol : String) (updateSpeedMs : Nat) : String :=
  let symbol := Text.lower symbol
  if updateSpeedMs = 250 then symbol ++ "@depth"
  else symbol ++ "@depth@" ++ Text.natural updateSpeedMs ++ "ms"

/-- Stream of the mark price of a symbol, once a second. -/
def markPriceStream (symbol : String) : String := Text.lower symbol ++ "@markPrice@1s"

end Market

end MarketGateway
