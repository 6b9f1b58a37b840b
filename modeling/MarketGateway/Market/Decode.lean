import MarketGateway.Json.Printer
import MarketGateway.Market.Message
import MarketGateway.Text.Blank

/-!
# Reading frames of a market data stream

`Market.decode` tells what a text frame holds. A frame is a JSON object, bare or wrapped with the
name of its stream. The kind is told by the event type under `e`; without one, a frame with an
`error` is an error and one with an `id` is an acknowledgement. Frames of a known kind must have its
form; any other object is passed on as an event that is of no interest.
-/

namespace MarketGateway.Market

open Json

/-- What a frame holds. -/
inductive Message
  | depth (update : DepthUpdate)
  | markPrice (update : MarkPriceUpdate)
  | ack (ack : Acknowledgement)
  | error (error : StreamError)
  | other (event : String)

/-- Why a frame cannot be read. -/
inductive DecodeError
  | json (fault : Fault)
  | invalidFormat (detail : String)
  deriving Repr, DecidableEq

/-- The error as text; what exactly is wrong with a JSON text is not told. -/
def DecodeError.message : DecodeError → String
  | json _ => "JSON codec error: <json>"
  | invalidFormat detail => "invalid message format: " ++ detail

/-- The value of a form, or the fault of a wrong shape. -/
def shaped {α : Type} (form : Form α) (value : Json) : Except DecodeError α :=
  match form.ofJson value with
  | some a => .ok a
  | none => .error (.json .mismatched)

/-- Takes the event out of its wrapping, if it has one. -/
def unwrap (value : Json) : Except DecodeError Json :=
  if (value.get? "stream").isSome && (value.get? "data").isSome then
    (shaped Envelope.form value).map (·.data)
  else .ok value

/-- Tells what an event holds. -/
def classify (value : Json) : Except DecodeError Message :=
  match (value.get? "e").bind Json.text? with
  | some kind =>
    if kind = "depthUpdate" then (shaped DepthUpdate.form value).map .depth
    else if kind = "markPriceUpdate" then (shaped MarkPriceUpdate.form value).map .markPrice
    else .ok (.other kind)
  | none =>
    if (value.get? "error").isSome then (shaped StreamError.form value).map .error
    else if (value.get? "id").isSome then (shaped Acknowledgement.form value).map .ack
    else .ok (.other "")

/-- Reads one frame. -/
def decode (frame : String) : Except DecodeError Message :=
  match Json.parse (Text.trim frame) with
  | .error fault => .error (.json fault)
  | .ok value =>
    if !value.isObject then
      .error (.invalidFormat
        ("expected JSON object, got: " ++ String.ofList (frame.toList.take 50) ++ "..."))
    else do classify (← unwrap value)

end MarketGateway.Market
