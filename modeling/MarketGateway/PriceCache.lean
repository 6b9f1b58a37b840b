import MarketGateway.Feed.Supervisor
import MarketGateway.Market.MarkPrice
import MarketGateway.PriceCache.Config
import MarketGateway.Room.Key
import MarketGateway.Timers

/-!
# Price caches

A price cache tracks the latest mark price of each symbol that it was asked for. Every time a symbol
comes to be tracked is a subscription with a supervised feed of its own; when the symbol is dropped,
its price goes with it, and what the feed of that subscription still publishes is ignored, also if
the symbol is tracked again.

A price is fresh for a limited time after it was received. `PriceCache.get` gives a fresh price or
starts to wait for one: `Lookup.poll` is then asked at regular instants until it has an answer.
-/

namespace MarketGateway

/-- Why there is no price. -/
inductive PriceCacheError
  | timeout (symbol : String) (waited : Duration)
  | invalidSymbol (error : RequestError)
  | shutDown
  deriving Repr, DecidableEq, Inhabited

namespace PriceCacheError

def message : PriceCacheError → String
  | timeout symbol waited => "no fresh price for " ++ symbol ++ " within " ++ waited.toText
  | invalidSymbol error => error.message
  | shutDown => "price cache is shut down"

def kind : PriceCacheError → String
  | timeout _ _ => "Timeout"
  | invalidSymbol _ => "InvalidSymbol"
  | shutDown => "ShutDown"

instance : Failure PriceCacheError := ⟨kind, message⟩

end PriceCacheError

/-- Names a subscription. -/
abbrev SubscriptionId := Nat

/-- A symbol that is tracked: since which subscription, and the last price with the time at which it
came. -/
structure TrackedPrice where
  subscription : SubscriptionId
  price : Option (MarkPrice × Duration) := none
  deriving Repr, DecidableEq

/-- A supervised feed of a symbol. -/
structure PriceSubscription where
  symbol : String
  supervisor : Supervisor
  /-- Whether the symbol was dropped since. -/
  dropped : Bool := false
  deriving Repr, DecidableEq

/-- The latest prices of the tracked symbols. -/
structure PriceCache where
  config : PriceCacheConfig
  entries : List (String × TrackedPrice) := []
  /-- Every subscription that was made, by its number. -/
  subscriptions : List PriceSubscription := []
  state : FeedState := { kind := .markPrice }
  /-- Which supervisors go on, and when. -/
  timers : Timers SubscriptionId := []
  now : Duration := 0
  /-- Whether the cache was shut down or cancelled. -/
  cancelled : Bool := false
  /-- Metric events, oldest first. -/
  metrics : List Metric := []
  deriving Repr, DecidableEq

namespace PriceCache

def record (cache : PriceCache) (metrics : List Metric) : PriceCache :=
  { cache with metrics := cache.metrics ++ metrics }

/-- Whether the feed of a subscription has to stop. -/
def stops (cache : PriceCache) (subscription : PriceSubscription) : Bool :=
  cache.cancelled || subscription.dropped

/-! ## Supervised feeds -/

/-- Puts a supervisor back that took a step; one that waits sets a timer. -/
def setSupervisor (cache : PriceCache) (id : SubscriptionId) (subscription : PriceSubscription)
    (supervisor : Supervisor) (state : FeedState) : PriceCache :=
  let subscription := { subscription with supervisor := supervisor }
  let cache :=
    { cache with subscriptions := cache.subscriptions.set id subscription, state := state }
  match supervisor.phase with
  | .waiting due => { cache with timers := cache.timers.add due id }
  | _ => cache

/-- The session of a feed is connected. -/
def connected (cache : PriceCache) (id : SubscriptionId) : PriceCache :=
  match cache.subscriptions[id]? with
  | some subscription =>
    let (supervisor, state) := subscription.supervisor.connected cache.state
    let subscription := { subscription with supervisor := supervisor }
    { cache with subscriptions := cache.subscriptions.set id subscription, state := state }
  | none => cache

/-- The session of a feed ended; `offset` is the random part of the delay that may follow. -/
def ended (cache : PriceCache) (id : SubscriptionId) (error : Option FeedError)
    (offset : Binary64) : PriceCache :=
  match cache.subscriptions[id]? with
  | some subscription =>
    match subscription.supervisor.phase with
    | .running _ =>
      let (supervisor, state, metrics) :=
        subscription.supervisor.ended cache.now (cache.stops subscription) error offset cache.state
      (cache.record metrics).setSupervisor id subscription supervisor state
    | _ => cache
  | none => cache

/-- A supervisor that waits goes on if its time has come or its feed has to stop. -/
def wake (cache : PriceCache) (id : SubscriptionId) : PriceCache :=
  match cache.subscriptions[id]? with
  | some subscription =>
    match subscription.supervisor.phase with
    | .waiting due =>
      if cache.stops subscription ∨ due ≤ cache.now then
        let (supervisor, state) :=
          subscription.supervisor.wake cache.now (cache.stops subscription) cache.state
        cache.setSupervisor id subscription supervisor state
      else cache
    | _ => cache
  | none => cache

/-- Lets every supervisor go on whose feed has to stop. -/
def release (cache : PriceCache) : PriceCache :=
  (List.range cache.subscriptions.length).foldl
    (fun cache id =>
      match cache.subscriptions[id]? with
      | some subscription => if cache.stops subscription then cache.wake id else cache
      | none => cache)
    cache

/-- Lets time pass up to the first timer that is due by the given time. -/
def next? (cache : PriceCache) (limit : Duration) : Option PriceCache :=
  (cache.timers.popDue limit).map fun (timer, timers) =>
    { cache with timers := timers, now := max cache.now timer.due }.wake timer.alarm

/-- A feed publishes a price. It is kept unless the symbol was dropped since the subscription. -/
def publish (cache : PriceCache) (id : SubscriptionId) (price : MarkPrice) : PriceCache :=
  match cache.subscriptions[id]? with
  | none => cache
  | some subscription =>
    let cache := { cache with state := cache.state.message }
    if cache.stops subscription then cache
    else
      { cache with
        entries := cache.entries.map fun (symbol, entry) =>
          if symbol = subscription.symbol then
            (symbol, { entry with price := some (price, cache.now) })
          else (symbol, entry) }

/-! ## Tracked symbols -/

/-- Tracks a symbol in capitals; the flag says whether it was not tracked before. -/
def track (cache : PriceCache) (symbol : String) : Except PriceCacheError Bool × PriceCache :=
  if cache.cancelled then (.error .shutDown, cache)
  else if (cache.entries.lookup symbol).isSome then (.ok false, cache)
  else
    let id := cache.subscriptions.length
    let (supervisor, state) := Supervisor.start cache.config.reconnect false cache.state
    (.ok true,
      { cache with
        entries := cache.entries ++ [(symbol, { subscription := id })]
        subscriptions := cache.subscriptions ++ [{ symbol, supervisor }]
        state := state })

/-- Tracks a symbol. -/
def subscribe (cache : PriceCache) (symbol : String) : Except PriceCacheError Bool × PriceCache :=
  match normalizeSymbol symbol with
  | .error error => (.error (.invalidSymbol error), cache)
  | .ok symbol => cache.track symbol

/-- Marks a subscription as dropped. -/
def drop (subscriptions : List PriceSubscription) (id : SubscriptionId) :
    List PriceSubscription :=
  subscriptions.modify id fun subscription => { subscription with dropped := true }

/-- Drops a symbol and its price; the flag says whether it was tracked. -/
def unsubscribe (cache : PriceCache) (symbol : String) : Bool × PriceCache :=
  match normalizeSymbol symbol with
  | .error _ => (false, cache)
  | .ok symbol =>
    match cache.entries.lookup symbol with
    | none => (false, cache)
    | some entry =>
      (true,
        { cache with
          entries := cache.entries.filter (·.1 != symbol)
          subscriptions := drop cache.subscriptions entry.subscription }.release)

/-- Drops every symbol and refuses new ones from now on. -/
def shutDown (cache : PriceCache) : PriceCache :=
  let tracked := cache.entries.map fun (_, entry) => entry.subscription
  { cache with
    cancelled := true
    entries := []
    subscriptions := tracked.foldl drop cache.subscriptions }.release

/-- Stops every feed and refuses new symbols from now on; the prices stay. -/
def cancel (cache : PriceCache) : PriceCache := { cache with cancelled := true }.release

/-- The tracked symbols in order. -/
def symbols (cache : PriceCache) : List String :=
  (cache.entries.map (·.1)).mergeSort fun a b => a ≤ b

/-! ## Prices -/

/-- The price of a symbol in capitals, with the time since it came. -/
def aged? (cache : PriceCache) (symbol : String) : Option (MarkPrice × Duration) :=
  ((cache.entries.lookup symbol).bind (·.price)).map fun (price, received) =>
    (price, cache.now - received)

/-- The price of a symbol, fresh or not, with the time since it came. -/
def peek (cache : PriceCache) (symbol : String) : Option (MarkPrice × Duration) :=
  match normalizeSymbol symbol with
  | .error _ => none
  | .ok symbol => cache.aged? symbol

/-- The price of a symbol in capitals if it is fresh. -/
def fresh? (cache : PriceCache) (symbol : String) : Option MarkPrice :=
  (cache.aged? symbol).bind fun (price, age) => if age < cache.config.ttl then some price else none

/-- A call that waits for a fresh price. -/
structure Lookup where
  symbol : String
  started : Duration
  deriving Repr, DecidableEq

/-- What a call for a price comes to at first. -/
inductive Got
  | done (outcome : Except PriceCacheError MarkPrice)
  | waiting (lookup : Lookup)

/-- Asks for a fresh price. Without one the symbol is tracked, and the call waits. -/
def get (cache : PriceCache) (symbol : String) : Got × PriceCache :=
  match normalizeSymbol symbol with
  | .error error => (.done (.error (.invalidSymbol error)), cache)
  | .ok symbol =>
    match cache.fresh? symbol with
    | some price => (.done (.ok price), cache.record [.priceLookup .hit])
    | none =>
      match cache.track symbol with
      | (.error error, cache) => (.done (.error error), cache)
      | (.ok _, cache) => (.waiting ⟨symbol, cache.now⟩, cache)

namespace Lookup

/-- When the call polls for the `n`-th time. -/
def pollTime (lookup : Lookup) (config : PriceCacheConfig) (n : Nat) : Duration :=
  lookup.started + n * config.pollInterval

/-- Polls once. A fresh price counts even after the wait is over. -/
def poll (lookup : Lookup) (cache : PriceCache) :
    Option (Except PriceCacheError MarkPrice) × PriceCache :=
  if cache.cancelled then (some (.error .shutDown), cache)
  else
    match cache.fresh? lookup.symbol with
    | some price => (some (.ok price), cache.record [.priceLookup .filled])
    | none =>
      if lookup.started + cache.config.waitTimeout ≤ cache.now then
        (some (.error (.timeout lookup.symbol (cache.now - lookup.started))),
          cache.record [.priceLookup .timeout])
      else (none, cache)

end Lookup

end PriceCache

end MarketGateway
