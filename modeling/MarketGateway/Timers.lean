import MarketGateway.Duration

/-!
# Timers

What has to be done later, kept in the order in which it was asked for. `Timers.pop` takes the timer
out that is due first; of several that are due at the same time the one that was set first.
-/

namespace MarketGateway

/-- Something to do at a time. -/
structure Timer (α : Type) where
  due : Duration
  alarm : α
  deriving Repr, DecidableEq, Inhabited

/-- Timers in the order in which they were set. -/
abbrev Timers (α : Type) := List (Timer α)

namespace Timers

variable {α : Type}

/-- The first timer to be due, and the others. -/
def pop : Timers α → Option (Timer α × Timers α)
  | [] => none
  | timer :: rest =>
    match pop rest with
    | none => some (timer, [])
    | some (first, others) =>
      if first.due < timer.due then some (first, timer :: others) else some (timer, rest)

/-- The first timer to be due, if it is due by the given time, and the others. -/
def popDue (timers : Timers α) (limit : Duration) : Option (Timer α × Timers α) :=
  timers.pop.filter (·.1.due ≤ limit)

/-- Sets a timer. -/
def add (timers : Timers α) (due : Duration) (alarm : α) : Timers α := timers ++ [⟨due, alarm⟩]

end Timers

end MarketGateway
