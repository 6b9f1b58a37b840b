import MarketGateway.Feed.Played
import MarketGateway.Hub

/-!
# Hubs with played feeds

A hub together with the stand-in for its feeds and the mailboxes of its clients. Whatever is done to
the hub, `PlayedHub.advance` lets everything follow that follows by itself up to a given time: feeds
that were started are refused or connected, feeds whose room stops end, and timers fire. The random
parts of delays are drawn as zero.
-/

namespace MarketGateway

/-- A hub whose feeds are played. -/
structure PlayedHub (π : Type) where
  hub : Hub π
  feeds : PlayedFeeds
  /-- The mailbox that each client uses now. -/
  current : List (ClientId × MailboxId) := []
  deriving Repr

namespace PlayedHub

variable {π : Type}

/-- The text of the key of a feed's room. -/
def nameOf (play : PlayedHub π) (task : FeedTask) : String :=
  ((play.hub.rooms.get? task.room).map (·.key.toText)).getD ""

/-- What the feed of a supervisor does by itself. -/
def react (play : PlayedHub π) (id : TaskId) : PlayedHub π :=
  match play.hub.tasks[id]? with
  | none => play
  | some task =>
    let name := play.nameOf task
    match task.supervisor.phase with
    | .running false =>
      match play.feeds.start name id with
      | (true, feeds) => { play with hub := play.hub.connected id, feeds := feeds }
      | (false, feeds) =>
        { play with
          hub := play.hub.ended id (some (.transport "refused")) .zero
          feeds := feeds }
    | .running true =>
      if play.hub.stops task.room then
        { play with hub := play.hub.ended id none .zero, feeds := play.feeds.stop name id }
      else play
    | _ => play

/-- What all feeds do by themselves. -/
def reactAll (play : PlayedHub π) : PlayedHub π :=
  (List.range play.hub.tasks.length).foldl react play

/-- Lets at most so many timers fire. -/
def run (limit : Duration) : Nat → PlayedHub π → PlayedHub π
  | 0, play => play
  | n + 1, play =>
    match play.hub.next? limit with
    | none => { play with hub := { play.hub with now := limit } }
    | some hub => run limit n { play with hub := hub }.reactAll

/-- Goes to the given time. A timer that fires sets another one only when a session is refused, so
as many timers fire at most as there are timers and refusals. -/
def advance (play : PlayedHub π) (limit : Duration) : PlayedHub π :=
  let play := play.reactAll
  play.run limit (play.feeds.refusals + play.hub.timers.length + 1)

/-- Lets everything follow that needs no time. -/
def settle (play : PlayedHub π) : PlayedHub π := play.advance play.hub.now

/-- Ends the live session of that name; the flag says whether there was one. -/
def finish (play : PlayedHub π) (name : String) (error : Option FeedError) :
    Bool × PlayedHub π :=
  match play.feeds.live? name with
  | none => (false, play)
  | some id =>
    (true,
      { play with hub := play.hub.ended id error .zero, feeds := play.feeds.stop name id }.settle)

/-- A session of that name publishes a payload, whether it lives or not; the flag says whether there
was one. -/
def publish (play : PlayedHub π) (name : String) (back : Nat) (payload : π) :
    Bool × PlayedHub π :=
  match (play.feeds.newest? name back).bind (play.hub.tasks[·]?) with
  | none => (false, play)
  | some task => (true, { play with hub := play.hub.publish task.room payload }.settle)

/-- Gives a client a new mailbox and closes the one that it had. -/
def openMailbox (play : PlayedHub π) (client : ClientId) (capacity : Nat) : PlayedHub π :=
  let boxes :=
    match play.current.lookup client with
    | some old => play.hub.boxes.close old
    | none => play.hub.boxes
  let id := boxes.length
  { play with
    hub := { play.hub with boxes := boxes ++ [(id, { capacity := capacity })] }
    current := (client, id) :: play.current }

end PlayedHub

end MarketGateway
