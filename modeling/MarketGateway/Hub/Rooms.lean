import MarketGateway.Room

/-!
# Tables of rooms

`Rooms` holds every room that was ever made and says which of them is registered under its key. A
room keeps its number after it left the registry, since a feed or a teardown may still refer to
it. `Rooms.getOrMake` registers a new room for a key that has none, and `Rooms.removeIfSame` takes
a room out only if it is the registered one.
-/

namespace MarketGateway

/-- Names a room. -/
abbrev RoomId := Nat

/-- All rooms, and those that are registered. -/
structure Rooms (π : Type) where
  made : List (Room π) := []
  registered : List (RoomKey × RoomId) := []
  deriving Repr, DecidableEq

namespace Rooms

variable {π : Type}

def get? (rooms : Rooms π) (id : RoomId) : Option (Room π) := rooms.made[id]?

/-- Puts a changed room back. -/
def set (rooms : Rooms π) (id : RoomId) (room : Room π) : Rooms π :=
  { rooms with made := rooms.made.set id room }

/-- The room that is registered under a key. -/
def find? (rooms : Rooms π) (key : RoomKey) : Option RoomId := rooms.registered.lookup key

/-- Number of registered rooms. -/
def count (rooms : Rooms π) : Nat := rooms.registered.length

/-- The room under a key; a new one is made and registered when there is none. -/
def getOrMake (rooms : Rooms π) (key : RoomKey) : RoomId × Rooms π :=
  match rooms.find? key with
  | some id => (id, rooms)
  | none =>
    let id := rooms.made.length
    (id, ⟨rooms.made ++ [{ key := key }], rooms.registered ++ [(key, id)]⟩)

/-- Takes a room out of the registry if it is there. -/
def removeIfSame (rooms : Rooms π) (id : RoomId) : Rooms π :=
  { rooms with registered := rooms.registered.filter (·.2 != id) }

/-- Whether a room is closed; one that was never made counts as closed. -/
def isClosed (rooms : Rooms π) (id : RoomId) : Bool :=
  match rooms.get? id with
  | some room => room.closed
  | none => true

/-- Takes every room out of the registry and closes it. -/
def closeAll (rooms : Rooms π) : Rooms π :=
  let made := rooms.registered.foldl (fun made (_, id) => made.modify id Room.close) rooms.made
  ⟨made, []⟩

end Rooms

end MarketGateway
