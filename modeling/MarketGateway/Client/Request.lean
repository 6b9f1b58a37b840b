import MarketGateway.Json.Variant
import MarketGateway.Json.Printer
import MarketGateway.Room.Key

/-!
# Requests of downstream clients

A client sends `{"action": ..., "symbol": ...}` with the action `subscribe`, `unsubscribe` or
`ping`. `ClientRequest.parse` reads a frame and `ClientRequest.roomKey` names the room it is about.
-/

namespace MarketGateway

open Json

/-- What a client asks for. -/
inductive ClientAction
  | subscribe
  | unsubscribe
  | ping
  deriving Repr, DecidableEq, Inhabited

namespace ClientAction

def all : List ClientAction := [subscribe, unsubscribe, ping]

def name : ClientAction → String
  | subscribe => "subscribe"
  | unsubscribe => "unsubscribe"
  | ping => "ping"

def form : Form ClientAction := Variant.names all name

end ClientAction

/-- One request. -/
structure ClientRequest where
  action : ClientAction
  symbol : Option String
  deriving Repr, DecidableEq

namespace ClientRequest

structure Draft where
  action : Option ClientAction := none
  symbol : Option (Option String) := none

def symbolForm : Form (Option String) := Form.text.optional

def record : Record Draft ClientRequest where
  empty := {}
  fields := [
    .of "action" ClientAction.form (·.action) (fun d v => { d with action := some v }),
    .of "symbol" symbolForm (·.symbol) (fun d v => { d with symbol := some v }) true]
  finish d := do
    return ⟨← d.action, ← symbolForm.resolve d.symbol⟩
  members r := [("action", ClientAction.form.toJson r.action),
    ("symbol", symbolForm.toJson r.symbol)]

def form : Form ClientRequest := record.form

/-- Reads a frame. -/
def parse (frame : String) : Except RequestError ClientRequest :=
  match readAll form.read frame with
  | .ok request => .ok request
  | .error _ => .error .malformed

/-- The room that a request is about, on a connection with the given depth. -/
def roomKey (request : ClientRequest) (levels : Option Nat) : Except RequestError RoomKey :=
  match request.symbol with
  | none => .error (.invalidSymbol "")
  | some symbol =>
    match levels with
    | some levels => RoomKey.book symbol levels
    | none => RoomKey.price symbol

end ClientRequest

end MarketGateway
