import MarketGateway.Json

/-!
# Feeds that are played by hand

A stand-in for a feed. The first sessions that are opened are refused at once; every
later one is connected and lives until it is ended. `PlayedFeeds` keeps which sessions were
opened, under the name of what they deliver and the number of the supervised feed that opened
them.
-/

namespace MarketGateway

/-- A session that was connected. -/
structure PlayedRun where
  name : String
  task : Nat
  live : Bool := true
  deriving Repr, DecidableEq, Inhabited

/-- The sessions of the feeds that are played. -/
structure PlayedFeeds where
  /-- How many sessions are still to be refused. -/
  refusals : Nat := 0
  /-- Names of the sessions that were opened. -/
  starts : List String := []
  /-- Names of the sessions that were connected and ended. -/
  stops : List String := []
  /-- Sessions that were connected, oldest first. -/
  runs : List PlayedRun := []
  deriving Repr, DecidableEq, Inhabited

namespace PlayedFeeds

/-- Opens a session; the flag says whether it is connected. -/
def start (feeds : PlayedFeeds) (name : String) (task : Nat) : Bool × PlayedFeeds :=
  let feeds := { feeds with starts := feeds.starts ++ [name] }
  if feeds.refusals = 0 then (true, { feeds with runs := feeds.runs ++ [⟨name, task, true⟩] })
  else (false, { feeds with refusals := feeds.refusals - 1 })

/-- Ends the live session of a supervised feed. -/
def stop (feeds : PlayedFeeds) (name : String) (task : Nat) : PlayedFeeds :=
  { feeds with
    stops := feeds.stops ++ [name]
    runs := feeds.runs.map fun run => if run.task = task then { run with live := false } else run }

/-- The supervised feed whose session of that name lives. -/
def live? (feeds : PlayedFeeds) (name : String) : Option Nat :=
  (feeds.runs.find? fun run => run.live && run.name == name).map (·.task)

/-- The supervised feed of the newest session of that name, or of the `back`-th before it. -/
def newest? (feeds : PlayedFeeds) (name : String) (back : Nat) : Option Nat :=
  (feeds.runs.filter (·.name == name)).reverse[back]?.map (·.task)

/-- How often each name occurs. -/
def counts (names : List String) : List (String × Nat) :=
  names.eraseDups.map fun name => (name, names.count name)

/-- How many sessions of each name were opened, and how many ended. -/
def report (feeds : PlayedFeeds) : Json :=
  let shown (names : List String) : Json :=
    .object ((counts names).map fun (name, n) => (name, Json.nat n))
  .object [("starts", shown feeds.starts), ("stops", shown feeds.stops)]

end PlayedFeeds

end MarketGateway
