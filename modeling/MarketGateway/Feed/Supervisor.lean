import MarketGateway.Feed.Error
import MarketGateway.Feed.State
import MarketGateway.Reconnect

/-!
# Supervised feeds

A supervisor runs one session of a feed after another. Between two sessions it waits as its
backoff says; a session that was connected starts the backoff over, and when the backoff allows no
further attempt the supervisor stops. Once its feed is cancelled it starts no session and waits no
longer, but a session that runs has to end by itself.

When the random part of a delay cannot be drawn, the supervisor crashes: it has noted the end of the
session and comes to nothing that follows, so whoever relies on it to stop is not told.

The state of the feed is shared by many supervisors, so every transition takes it and gives it
back.
-/

namespace MarketGateway

/-- Where a supervised feed stands. -/
inductive Supervisor.Phase
  /-- A session runs, which has been connected or not. -/
  | running (connected : Bool)
  /-- The next session starts at the given time. -/
  | waiting (due : Duration)
  | stopped
  | crashed
  deriving Repr, DecidableEq, Inhabited

/-- Runs the sessions of one feed. -/
structure Supervisor where
  backoff : Backoff
  phase : Supervisor.Phase
  deriving Repr, DecidableEq

namespace Supervisor

/-- Starts a session unless the feed is cancelled. -/
def enter (supervisor : Supervisor) (cancelled : Bool) (state : FeedState) :
    Supervisor × FeedState :=
  if cancelled then ({ supervisor with phase := .stopped }, state)
  else ({ supervisor with phase := .running false }, state.connecting)

/-- A new supervisor. -/
def start (policy : ReconnectPolicy) (cancelled : Bool) (state : FeedState) :
    Supervisor × FeedState :=
  enter ⟨.new policy, .stopped⟩ cancelled state

/-- The session is connected; only the first report counts. -/
def connected (supervisor : Supervisor) (state : FeedState) : Supervisor × FeedState :=
  match supervisor.phase with
  | .running false => ({ supervisor with phase := .running true }, state.connected)
  | _ => (supervisor, state)

/-- The session ended. The random part of the delay that may follow is `offset` milliseconds
long. -/
def ended (supervisor : Supervisor) (now : Duration) (cancelled : Bool)
    (error : Option FeedError) (offset : Binary64) (state : FeedState) :
    Supervisor × FeedState × List Metric :=
  match supervisor.phase with
  | .running wasConnected =>
    let state := state.ended wasConnected (error.map FeedError.message)
    if cancelled then ({ supervisor with phase := .stopped }, state, [])
    else
      let backoff := if wasConnected then supervisor.backoff.reset else supervisor.backoff
      match backoff.ask offset with
      | .exhausted => (⟨backoff, .stopped⟩, state, [])
      | .crashed => (⟨backoff, .crashed⟩, state, [])
      | .delays delay backoff =>
        (⟨backoff, .waiting (now + delay)⟩, state.reconnecting backoff.attempts,
          [.reconnect state.kind])
  | _ => (supervisor, state, [])

/-- Goes on when the wait is over or the feed is cancelled. -/
def wake (supervisor : Supervisor) (now : Duration) (cancelled : Bool) (state : FeedState) :
    Supervisor × FeedState :=
  match supervisor.phase with
  | .waiting due =>
    if cancelled ∨ due ≤ now then supervisor.enter cancelled state else (supervisor, state)
  | _ => (supervisor, state)

def isStopped (supervisor : Supervisor) : Bool := supervisor.phase = .stopped

/-- Whether the supervisor goes on, now or after its wait. -/
def isActive (supervisor : Supervisor) : Bool :=
  match supervisor.phase with
  | .running _ | .waiting _ => true
  | .stopped | .crashed => false

/-- When the supervisor goes on by itself. -/
def due? (supervisor : Supervisor) : Option Duration :=
  match supervisor.phase with
  | .waiting due => some due
  | _ => none

end Supervisor

end MarketGateway
