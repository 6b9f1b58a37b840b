import MarketGateway.Client.Notice
import MarketGateway.Client.Request

/-!
# Sessions of downstream clients

A client holds a set of rooms. `ClientSession.handle` answers one frame: it may join a room or leave
one at a registry of rooms, and it gives the notice to send back. A room that is already held is
not joined again, and one that is not held is not left; both are acknowledged all the same. When the
connection ends, `ClientSession.leaveAll` leaves every room that is held.
-/

namespace MarketGateway

/-- Number of a client connection. -/
abbrev ClientId := Nat

/-- The rooms that one client holds, each once. -/
structure HeldRooms where
  keys : List RoomKey := []
  deriving Repr, DecidableEq

namespace HeldRooms

def contains (held : HeldRooms) (key : RoomKey) : Bool := held.keys.contains key

/-- Records a room; the flag says whether it is new. -/
def add (held : HeldRooms) (key : RoomKey) : Bool × HeldRooms :=
  if held.contains key then (false, held) else (true, ⟨held.keys ++ [key]⟩)

/-- Forgets a room; the flag says whether it was held. -/
def remove (held : HeldRooms) (key : RoomKey) : Bool × HeldRooms :=
  (held.contains key, ⟨held.keys.filter (· != key)⟩)

def size (held : HeldRooms) : Nat := held.keys.length

end HeldRooms

/-- Why a room cannot be joined. -/
inductive JoinError
  | shutDown
  deriving Repr, DecidableEq, Inhabited

def JoinError.message : JoinError → String
  | shutDown => "subscription hub is shut down"

instance : Failure JoinError := ⟨fun _ => "ShutDown", JoinError.message⟩

/-- The rooms as a connection sees them: a state with two ways to change it. -/
structure Registry (σ : Type) where
  join : RoomKey → ClientId → σ → Option JoinError × σ
  leave : RoomKey → ClientId → σ → σ

namespace ClientSession

variable {σ : Type}

/-- Joins a room unless it is held. -/
def subscribe (registry : Registry σ) (client : ClientId) (key : RoomKey) (held : HeldRooms)
    (rooms : σ) : Notice × HeldRooms × σ :=
  if held.contains key then (.subscribed key.symbol, held, rooms)
  else
    match registry.join key client rooms with
    | (some failure, rooms) => (.error failure.message, held, rooms)
    | (none, rooms) => (.subscribed key.symbol, (held.add key).2, rooms)

/-- Leaves a room if it is held. -/
def unsubscribe (registry : Registry σ) (client : ClientId) (key : RoomKey) (held : HeldRooms)
    (rooms : σ) : Notice × HeldRooms × σ :=
  let (wasHeld, held) := held.remove key
  let rooms := if wasHeld then registry.leave key client rooms else rooms
  (.unsubscribed key.symbol, held, rooms)

/-- Answers one frame on a connection with the given depth. -/
def handle (registry : Registry σ) (levels : Option Nat) (client : ClientId) (frame : String)
    (held : HeldRooms) (rooms : σ) : Notice × HeldRooms × σ :=
  match ClientRequest.parse frame with
  | .error failure => (.error failure.message, held, rooms)
  | .ok request =>
    if request.action = .ping then (.pong, held, rooms)
    else
      match request.roomKey levels with
      | .error failure => (.error failure.message, held, rooms)
      | .ok key =>
        match request.action with
        | .subscribe => subscribe registry client key held rooms
        | .unsubscribe => unsubscribe registry client key held rooms
        | .ping => (.pong, held, rooms)

/-- Leaves every room that is held. -/
def leaveAll (registry : Registry σ) (client : ClientId) (held : HeldRooms) (rooms : σ) : σ :=
  held.keys.foldl (fun rooms key => registry.leave key client rooms) rooms

end ClientSession

end MarketGateway
