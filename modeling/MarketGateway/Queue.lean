/-!
# Bounded queues

A queue between a sender that never waits and a receiver. `Queue.offer` puts an item in unless the
queue is full or its receiver is gone; `Queue.take` takes the oldest item out.
-/

namespace MarketGateway

/-- What became of an item that was offered. -/
inductive Offer
  | accepted
  | full
  | closed
  deriving Repr, DecidableEq, Inhabited

/-- A queue that holds at most so many items, oldest first. -/
structure Queue (α : Type) where
  capacity : Nat
  items : List α := []
  /-- Whether the receiver is gone. -/
  closed : Bool := false
  deriving Repr, DecidableEq, Inhabited

namespace Queue

variable {α : Type}

/-- Puts an item behind the others. -/
def offer (queue : Queue α) (item : α) : Offer × Queue α :=
  if queue.closed then (.closed, queue)
  else if queue.capacity ≤ queue.items.length then (.full, queue)
  else (.accepted, { queue with items := queue.items ++ [item] })

/-- Takes the oldest item out. -/
def take (queue : Queue α) : Option α × Queue α :=
  match queue.items with
  | [] => (none, queue)
  | item :: rest => (some item, { queue with items := rest })

/-- Takes all items out. -/
def drain (queue : Queue α) : List α × Queue α := (queue.items, { queue with items := [] })

/-- The queue after its receiver is gone, with everything in it. -/
def close (queue : Queue α) : Queue α := { queue with items := [], closed := true }

end Queue

end MarketGateway
