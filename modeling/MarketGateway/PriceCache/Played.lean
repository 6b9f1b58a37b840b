import MarketGateway.Feed.Played
import MarketGateway.PriceCache

/-!
# Price caches with played feeds

A price cache together with the stand-in for its feeds and with events that are planned for later.
`PlayedCache.advance` goes to a given time and lets everything happen on the way, and
`PlayedCache.get` lets a call for a price run to its end. The random parts of delays are drawn as
zero.
-/

namespace MarketGateway

/-- What is planned to happen. -/
inductive PlannedEvent
  | publish (symbol : String) (price : MarkPrice)
  | shutDown
  deriving Repr, DecidableEq

/-- A price cache whose feeds are played. -/
structure PlayedCache where
  cache : PriceCache
  feeds : PlayedFeeds
  planned : Timers PlannedEvent := []
  deriving Repr

namespace PlayedCache

/-- What the feed of a subscription does by itself. -/
def react (play : PlayedCache) (id : SubscriptionId) : PlayedCache :=
  match play.cache.subscriptions[id]? with
  | none => play
  | some subscription =>
    match subscription.supervisor.phase with
    | .running false =>
      match play.feeds.start subscription.symbol id with
      | (true, feeds) => { play with cache := play.cache.connected id, feeds := feeds }
      | (false, feeds) =>
        { play with
          cache := play.cache.ended id (some (.transport "refused")) .zero
          feeds := feeds }
    | .running true =>
      if play.cache.stops subscription then
        { play with
          cache := play.cache.ended id none .zero
          feeds := play.feeds.stop subscription.symbol id }
      else play
    | _ => play

/-- What all feeds do by themselves. -/
def reactAll (play : PlayedCache) : PlayedCache :=
  (List.range play.cache.subscriptions.length).foldl react play

/-- A session for a symbol publishes a price, whether it lives or not; the flag says whether there
was one. -/
def publish (play : PlayedCache) (symbol : String) (back : Nat) (price : MarkPrice) :
    Bool × PlayedCache :=
  match play.feeds.newest? symbol back with
  | none => (false, play)
  | some id => (true, { play with cache := play.cache.publish id price })

/-- Lets a planned event happen. -/
def perform (play : PlayedCache) : PlannedEvent → PlayedCache
  | .publish symbol price => (play.publish symbol 0 price).2
  | .shutDown => { play with cache := play.cache.shutDown }

/-- Goes to the first timer or planned event that is due by the given time. -/
def next? (play : PlayedCache) (limit : Duration) : Option PlayedCache :=
  let plan := play.planned.popDue limit
  let limit := (plan.map (·.1.due)).getD limit
  match play.cache.next? limit, plan with
  | some cache, _ => some { play with cache := cache }.reactAll
  | none, some (timer, planned) =>
    let cache := { play.cache with now := max play.cache.now timer.due }
    some ({ play with cache := cache, planned := planned }.perform timer.alarm).reactAll
  | none, none => none

/-- Goes on up to the given time, or only up to the end of the cache, in so many steps at most. -/
def run (limit : Duration) (untilEnd : Bool) : Nat → PlayedCache → PlayedCache
  | 0, play => play
  | n + 1, play =>
    if untilEnd && play.cache.cancelled then play
    else
      match play.next? limit with
      | none => { play with cache := { play.cache with now := limit } }
      | some play => play.run limit untilEnd n

/-- A bound for the number of steps: only a session that is refused sets another timer. -/
def bound (play : PlayedCache) : Nat :=
  play.feeds.refusals + play.cache.timers.length + play.planned.length + 1

/-- Goes to the given time. -/
def advance (play : PlayedCache) (limit : Duration) (untilEnd : Bool := false) : PlayedCache :=
  let play := play.reactAll
  play.run limit untilEnd play.bound

/-- Lets everything follow that needs no time. -/
def settle (play : PlayedCache) : PlayedCache := play.advance play.cache.now

/-- Ends the live session for a symbol; the flag says whether there was one. -/
def finish (play : PlayedCache) (symbol : String) (error : Option FeedError) :
    Bool × PlayedCache :=
  match play.feeds.live? symbol with
  | none => (false, play)
  | some id =>
    (true,
      { play with
        cache := play.cache.ended id error .zero
        feeds := play.feeds.stop symbol id }.settle)

/-- Polls until there is an answer. -/
def await (lookup : PriceCache.Lookup) : Nat → Nat → PlayedCache →
    Except PriceCacheError MarkPrice × PlayedCache
  | _, 0, play => (.error .shutDown, play)
  | n, polls + 1, play =>
    let play := play.advance (lookup.pollTime play.cache.config n) true
    match lookup.poll play.cache with
    | (some outcome, cache) => (outcome, { play with cache := cache }.settle)
    | (none, cache) => await lookup (n + 1) polls { play with cache := cache }

/-- Calls for a price. The poll that follows the end of the wait is the last one. -/
def get (play : PlayedCache) (symbol : String) : Except PriceCacheError MarkPrice × PlayedCache :=
  match play.cache.get symbol with
  | (.done outcome, cache) => (outcome, { play with cache := cache }.settle)
  | (.waiting lookup, cache) =>
    let config := cache.config
    await lookup 0 (config.waitTimeout / config.pollInterval + 2) { play with cache := cache }

end PlayedCache

end MarketGateway
