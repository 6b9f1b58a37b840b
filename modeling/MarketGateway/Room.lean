import MarketGateway.Client.Session
import MarketGateway.Queue

/-!
# Rooms

A room passes the payloads of one feed on to its members. Every member has a mailbox, a bounded
queue that lives outside of the room, so one mailbox can be in many rooms. A new member first gets
the last payload. A payload that finds a mailbox full is dropped for that member alone; a member
whose mailbox is closed is removed. `Room.join` tells whether the feed has to be started. The
generation of a room counts its changes of membership, and `Room.closeIfIdle` closes the room only
if it is empty and no such change has come since the given generation.
-/

namespace MarketGateway

/-- Names a mailbox. -/
abbrev MailboxId := Nat

/-- The mailboxes of all clients. -/
abbrev Mailboxes (π : Type) := List (MailboxId × Queue π)

namespace Mailboxes

variable {π : Type}

/-- Puts a payload into a mailbox; one that does not exist counts as closed. -/
def post (boxes : Mailboxes π) (id : MailboxId) (payload : π) : Offer × Mailboxes π :=
  match boxes with
  | [] => (.closed, [])
  | (i, queue) :: rest =>
    if i = id then
      let (offer, queue) := queue.offer payload
      (offer, (i, queue) :: rest)
    else
      let (offer, rest) := post rest id payload
      (offer, (i, queue) :: rest)

/-- Changes one mailbox. -/
def modify (boxes : Mailboxes π) (id : MailboxId) (change : Queue π → Queue π) : Mailboxes π :=
  boxes.map fun (i, queue) => if i = id then (i, change queue) else (i, queue)

/-- Takes everything out of a mailbox. -/
def drain (boxes : Mailboxes π) (id : MailboxId) : List π × Mailboxes π :=
  (((boxes.lookup id).map (·.items)).getD [], boxes.modify id fun queue => queue.drain.2)

/-- Drops the receiver of a mailbox. -/
def close (boxes : Mailboxes π) (id : MailboxId) : Mailboxes π := boxes.modify id Queue.close

end Mailboxes

/-- What became of one broadcast. -/
structure BroadcastStats where
  delivered : Nat := 0
  dropped : Nat := 0
  /-- Members that were removed because their mailbox was closed. -/
  pruned : Nat := 0
  /-- Whether that left the room empty. -/
  emptied : Bool := false
  deriving Repr, DecidableEq, Inhabited

/-- A room that passes on payloads of type `π`. -/
structure Room (π : Type) where
  key : RoomKey
  members : List (ClientId × MailboxId) := []
  /-- Whether the feed was started and has not stopped. -/
  running : Bool := false
  last : Option π := none
  generation : Nat := 0
  closed : Bool := false
  deriving Repr, DecidableEq

namespace Room

variable {π : Type}

/-- Adds a member and sends it the last payload. The flag says whether the feed has to be started;
there is none when the room is closed. -/
def join (room : Room π) (client : ClientId) (mailbox : MailboxId) (boxes : Mailboxes π) :
    Option Bool × Room π × Mailboxes π :=
  if room.closed then (none, room, boxes)
  else
    let boxes :=
      match room.last with
      | some payload => (boxes.post mailbox payload).2
      | none => boxes
    (some (!room.running),
      { room with
        members := room.members.filter (·.1 != client) ++ [(client, mailbox)]
        generation := room.generation + 1
        running := true },
      boxes)

/-- Whether a client is a member. -/
def hasMember (room : Room π) (client : ClientId) : Bool := room.members.any (·.1 == client)

/-- What came of a member's leaving. -/
inductive Left
  | notMember
  | others
  /-- The room is empty since this generation. -/
  | emptied (generation : Nat)
  deriving Repr, DecidableEq, Inhabited

/-- Removes a member. -/
def leave (room : Room π) (client : ClientId) : Left × Room π :=
  if room.hasMember client then
    let members := room.members.filter (·.1 != client)
    let generation := room.generation + 1
    (if members.isEmpty then .emptied generation else .others,
      { room with members := members, generation := generation })
  else (.notMember, room)

/-- The feed ended while the room is open, so the next member starts it again. -/
def feedStopped (room : Room π) : Room π :=
  if room.closed then room else { room with running := false }

/-- Closes the room if it is open, empty and still in the given generation. -/
def closeIfIdle (room : Room π) (generation : Nat) : Bool × Room π :=
  if room.closed || !room.members.isEmpty || room.generation != generation then (false, room)
  else (true, { room with closed := true, running := false, last := none })

/-- Closes the room whoever is in it. -/
def close (room : Room π) : Room π :=
  { room with closed := true, members := [], running := false }

/-- Posts a payload to members one after another: what became of it, the members that stay and the
mailboxes. -/
def deliver (payload : π) : List (ClientId × MailboxId) → BroadcastStats → Mailboxes π →
    BroadcastStats × List (ClientId × MailboxId) × Mailboxes π
  | [], stats, boxes => (stats, [], boxes)
  | (client, mailbox) :: rest, stats, boxes =>
    let (offer, boxes) := boxes.post mailbox payload
    match offer with
    | .accepted =>
      let (stats, kept, boxes) :=
        deliver payload rest { stats with delivered := stats.delivered + 1 } boxes
      (stats, (client, mailbox) :: kept, boxes)
    | .full =>
      let (stats, kept, boxes) :=
        deliver payload rest { stats with dropped := stats.dropped + 1 } boxes
      (stats, (client, mailbox) :: kept, boxes)
    | .closed => deliver payload rest { stats with pruned := stats.pruned + 1 } boxes

/-- Passes a payload on to every member and keeps it as the last one. A room that loses its last
member to a closed mailbox enters a new generation. -/
def broadcast (room : Room π) (payload : π) (boxes : Mailboxes π) :
    BroadcastStats × Room π × Mailboxes π :=
  if room.closed then ({}, room, boxes)
  else
    let (stats, kept, boxes) := deliver payload room.members {} boxes
    let emptied := 0 < stats.pruned && kept.isEmpty
    ({ stats with emptied := emptied },
      { room with
        members := kept
        generation := if emptied then room.generation + 1 else room.generation
        last := some payload },
      boxes)

end Room

end MarketGateway
