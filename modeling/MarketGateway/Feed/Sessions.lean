import MarketGateway.Feed.Supervisor

/-!
# Runs of planned sessions

`Supervision.play` plays a list of planned sessions under a supervisor up to the time at which the
feed is cancelled, and gives what happened and when. When the list is used up, a session waits for
the cancellation.
-/

namespace MarketGateway

/-- What one session of a feed does. -/
structure SessionPlan (π : Type) where
  /-- How often it reports that it is connected. -/
  connects : Nat := 0
  payloads : List π := []
  /-- How long it goes on after that, unless the feed is cancelled before. -/
  hold : Duration := 0
  /-- How it ends. -/
  error : Option FeedError := none
  deriving Repr, DecidableEq, Inhabited

namespace Supervision

/-- What is seen of a supervised feed. -/
inductive Event (π : Type)
  | run
  | connected
  | published (payload : π)
  | gaveUp
  | crashed
  | cancelled
  | stopped
  deriving Repr, DecidableEq, Inhabited

/-- A supervised feed, what was seen of it, and the state it had when it was cancelled. -/
structure Run (π : Type) where
  now : Duration := 0
  supervisor : Supervisor
  state : FeedState
  log : List (Duration × Event π) := []
  metrics : List Metric := []
  beforeCancel : Option FeedState := none
  deriving Repr

namespace Run

variable {π : Type}

def see (run : Run π) (event : Event π) : Run π := { run with log := run.log ++ [(run.now, event)] }

/-- The session reports a connection. -/
def connect (run : Run π) : Run π :=
  let (supervisor, state) := run.supervisor.connected run.state
  { run with supervisor := supervisor, state := state }.see .connected

/-- The session publishes a payload. -/
def publish (run : Run π) (payload : π) : Run π :=
  { run with state := run.state.message }.see (.published payload)

/-- The session ends; `offset` is the random part of the delay that may follow. -/
def finish (run : Run π) (cancelled : Bool) (error : Option FeedError) (offset : Binary64) :
    Run π :=
  let (supervisor, state, metrics) :=
    run.supervisor.ended run.now cancelled error offset run.state
  { run with supervisor := supervisor, state := state, metrics := run.metrics ++ metrics }

/-- The feed is cancelled. -/
def cancel (run : Run π) (time : Duration) : Run π :=
  { run with now := time, beforeCancel := some run.state }.see .cancelled

/-- What a session does before its hold. -/
def perform (run : Run π) (plan : SessionPlan π) : Run π :=
  plan.payloads.foldl publish ((List.replicate plan.connects ()).foldl (fun r _ => r.connect) run)

/-- Goes on at the given time, or stops if the feed is cancelled. -/
def wake (run : Run π) (time : Duration) (cancelled : Bool) : Run π :=
  let (supervisor, state) := run.supervisor.wake time cancelled run.state
  { run with now := time, supervisor := supervisor, state := state }

/-- The supervisor does not go on. -/
def close (run : Run π) : Run π :=
  run.see (if run.supervisor.phase = .crashed then .crashed else .gaveUp)

end Run

variable {π : Type}

/-- Plays the sessions, the first of which has started. The random parts of delays are drawn as
zero. -/
def play (cancelAt : Duration) : List (SessionPlan π) → Run π → Run π
  | [], run => (((run.see .run).cancel cancelAt).finish true none .zero).see .stopped
  | plan :: plans, run =>
    let run := (run.see .run).perform plan
    let time := run.now + plan.hold
    if cancelAt < time then ((run.cancel cancelAt).finish true plan.error .zero).see .stopped
    else
      let run := { run with now := time }.finish false plan.error .zero
      match run.supervisor.due? with
      | none => run.close
      | some due =>
        if cancelAt < due then ((run.cancel cancelAt).wake cancelAt true).see .stopped
        else play cancelAt plans (run.wake due false)

/-- Plays the sessions of a feed of the given kind from the start. -/
def ofPlans (kind : FeedKind) (policy : ReconnectPolicy) (cancelAt : Duration)
    (plans : List (SessionPlan π)) : Run π :=
  let (supervisor, state) := Supervisor.start policy false { kind := kind }
  play cancelAt plans { supervisor := supervisor, state := state }

end Supervision

end MarketGateway
