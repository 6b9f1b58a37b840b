import MarketGateway.Proofs.PriceCache.Events

/-!
# Where held prices come from

Feeds may publish under any subscription, whether it is the present one of its symbol or was dropped
long ago. A publication changes the price of a symbol only under its present subscription
(`Owns.lookup_publish`), and nothing else gives a symbol a price (`Owns.holds_cases`), so a held
price is traced back to its publication, and what was dropped does not come back
(`held_price_is_last_published`).
-/

namespace MarketGateway

namespace PriceCache

variable {config : PriceCacheConfig} {cache next : PriceCache} {id : SubscriptionId}
  {symbol : String} {price : MarkPrice} {received : Duration}

/-! ## What a publication changes -/

theorem entries_publish_of_refused
    (hRefused : ∀ subscription, cache.subscriptions[id]? = some subscription →
      cache.stops subscription = true) (price : MarkPrice) :
    (cache.publish id price).entries = cache.entries := by
  cases hAt : cache.subscriptions[id]? with
  | none => rw [publish, hAt]
  | some subscription => exact entries_publish_of_stops hAt (hRefused subscription hAt) price

/-- A publication changes the price of a symbol only under its present subscription, and only as
long as the cache was not cancelled. -/
theorem Owns.lookup_publish (hOwns : cache.Owns) (id : SubscriptionId) (price : MarkPrice)
    (symbol : String) :
    (cache.publish id price).entries.lookup symbol =
      (cache.entries.lookup symbol).map fun entry =>
        if entry.subscription = id ∧ cache.cancelled = false then
          { entry with price := some (price, cache.now) }
        else entry := by
  by_cases hTaken : ∃ subscription, cache.subscriptions[id]? = some subscription ∧
      cache.stops subscription = false
  · obtain ⟨subscription, hAt, hWanted⟩ := hTaken
    obtain ⟨hLive, hUndropped⟩ := Bool.or_eq_false_iff.mp hWanted
    rw [publish_of_wanted hAt hWanted]
    refine (lookup_change cache.entries subscription.symbol symbol
      fun entry => { entry with price := some (price, cache.now) }).trans ?_
    cases hEntry : cache.entries.lookup symbol with
    | none => split <;> rfl
    | some entry =>
      have hOwner := hOwns.owner_of_lookup hEntry
      split
      · next hSymbol =>
        have hId := hOwns.unique hOwner hAt hSymbol.symm hUndropped
        simp [hId, hLive]
      · next hOther =>
        obtain ⟨same, hSame, hSymbol, -⟩ := hOwns.owned hOwner
        have hId : entry.subscription ≠ id := by
          rintro rfl
          obtain rfl := Option.some.inj (hAt.symm.trans hSame)
          exact hOther hSymbol.symm
        simp [hId]
  · have hRefused (subscription : PriceSubscription)
        (hAt : cache.subscriptions[id]? = some subscription) : cache.stops subscription = true := by
      by_contra hWanted
      exact hTaken ⟨subscription, hAt, by simpa using hWanted⟩
    rw [entries_publish_of_refused hRefused]
    cases hEntry : cache.entries.lookup symbol with
    | none => rfl
    | some entry =>
      obtain ⟨subscription, hAt, -, hUndropped⟩ := hOwns.owned (hOwns.owner_of_lookup hEntry)
      have hNot : ¬ (entry.subscription = id ∧ cache.cancelled = false) := by
        rintro ⟨rfl, hLive⟩
        have hStops := hRefused subscription hAt
        rw [stops, hLive, hUndropped] at hStops
        cases hStops
      rw [Option.map_some, if_neg hNot]

/-- A symbol has a price, which came at this time under this subscription. -/
def Holds (cache : PriceCache) (symbol : String) (id : SubscriptionId) (price : MarkPrice)
    (received : Duration) : Prop :=
  cache.entries.lookup symbol = some ⟨id, some (price, received)⟩

/-- These are the prices that a cache gives out. -/
theorem aged?_eq_some_iff {age : Duration} : cache.aged? symbol = some (price, age) ↔
    ∃ id received, cache.Holds symbol id price received ∧ age = cache.now - received := by
  unfold aged? Holds
  constructor
  · intro hAged
    obtain ⟨⟨_, received⟩, hPrice, hEq⟩ := Option.map_eq_some_iff.mp hAged
    obtain ⟨rfl, rfl⟩ := Prod.mk.inj hEq
    obtain ⟨⟨id, _⟩, hEntry, rfl⟩ := Option.bind_eq_some_iff.mp hPrice
    exact ⟨id, received, hEntry, rfl⟩
  · rintro ⟨id, received, hEntry, rfl⟩
    rw [hEntry]
    rfl

theorem Reacted.holds (hReacted : Reacted cache next)
    (hHolds : next.Holds symbol id price received) : cache.Holds symbol id price received := by
  unfold Holds at hHolds ⊢
  cases hReacted with
  | keeps hKeeps => rwa [hKeeps.entries] at hHolds
  | cancels hKeeps => rwa [hKeeps.entries] at hHolds
  | starts hAbsent supervisor state =>
    rw [List.lookup_append] at hHolds
    cases hEntry : cache.entries.lookup symbol with
    | some entry => rwa [hEntry] at hHolds
    | none =>
      rw [hEntry, Option.none_or, List.lookup_cons] at hHolds
      split at hHolds <;> cases hHolds
  | @drops dropped entry next hEntry hKeeps =>
    rw [hKeeps.entries] at hHolds
    by_cases hSame : symbol = dropped
    · subst hSame
      cases (lookup_filter_self cache.entries symbol).symm.trans hHolds
    · rwa [lookup_filter_ne hSame] at hHolds
  | clears => cases hHolds

/-- A price was there before, unless it is published now. Of its own feed it outlasts only
publications that come when the cache was cancelled. -/
theorem Owns.holds_cases (hOwns : cache.Owns) {event : Event}
    (hHolds : (cache.react event).Holds symbol id price received) :
    (cache.Holds symbol id price received ∧
      ∀ later, event = .move (.publish id later) → cache.cancelled = true) ∨
    (event = .move (.publish id price) ∧ cache.now = received ∧ cache.cancelled = false ∧
      ∃ earlier, cache.entries.lookup symbol = some ⟨id, earlier⟩) := by
  by_cases hPublish : ∃ id price, event = .move (.publish id price)
  · obtain ⟨other, later, rfl⟩ := hPublish
    have hEntries := (hOwns.lookup_publish other later symbol).symm.trans hHolds
    obtain ⟨entry, hEntry, hEq⟩ := Option.map_eq_some_iff.mp hEntries
    split at hEq
    · next hTaken =>
      obtain ⟨rfl, hLive⟩ := hTaken
      obtain ⟨rfl, hPrice⟩ := TrackedPrice.mk.inj hEq
      obtain ⟨rfl, hNow⟩ := Prod.mk.inj (Option.some.inj hPrice)
      exact .inr ⟨rfl, hNow, hLive, entry.price, hEntry⟩
    · next hRefused =>
      obtain rfl := hEq
      refine .inl ⟨hEntry, ?_⟩
      rintro later ⟨⟩
      by_contra hLive
      exact hRefused ⟨rfl, by simpa using hLive⟩
  · refine .inl ⟨?_, fun later hEq => absurd ⟨id, later, hEq⟩ hPublish⟩
    exact (reacted_react fun other later hEq => hPublish ⟨other, later, hEq⟩).holds hHolds

/-! ## Cancelled caches -/

theorem cancelled_react (hCancelled : cache.cancelled = true) (event : Event) :
    (cache.react event).cancelled = true := by
  by_cases hPublish : ∃ id price, event = .move (.publish id price)
  · obtain ⟨id, price, rfl⟩ := hPublish
    exact (steers_publish cache id price).cancelled.trans hCancelled
  · have hReacted : Reacted cache (cache.react event) :=
      reacted_react fun id price hEq => hPublish ⟨id, price, hEq⟩
    generalize cache.react event = next at hReacted
    cases hReacted with
    | keeps hKeeps => exact hKeeps.cancelled.trans hCancelled
    | cancels hKeeps => exact hKeeps.cancelled
    | starts | clears => exact hCancelled
    | drops hEntry hKeeps => exact hKeeps.cancelled.trans hCancelled

theorem cancelled_append {early : List Event} (hCancelled : (outcome config early).cancelled = true)
    (later : List Event) : (outcome config (early ++ later)).cancelled = true := by
  induction later using List.reverseRecOn with
  | nil => rwa [List.append_nil]
  | append_singleton later event ih =>
    rw [← List.append_assoc, outcome_snoc]
    exact cancelled_react ih event

theorem cancelled_outcome {events : List Event} (hCancel : .cancel ∈ events) :
    (outcome config events).cancelled = true := by
  obtain ⟨early, later, rfl⟩ := List.append_of_mem hCancel
  rw [List.append_cons]
  refine cancelled_append ?_ later
  rw [outcome_snoc]
  exact (keeps_release _).cancelled

/-! ## Back to the publication -/

/-- A price was published between these events: under the present subscription of its symbol, at the
time that is held with it, and the feed published nothing afterwards before it was stopped. -/
structure Traced (config : PriceCacheConfig) (before later : List Event) (symbol : String)
    (id : SubscriptionId) (price : MarkPrice) (received : Duration) : Prop where
  current : ∃ earlier, (outcome config before).entries.lookup symbol = some ⟨id, earlier⟩
  live : (outcome config before).cancelled = false
  time : (outcome config before).now = received
  last {middle rest : List Event} {other : MarkPrice}
    (hCut : later = middle ++ .move (.publish id other) :: rest) :
    (outcome config (before ++ .move (.publish id price) :: middle)).cancelled = true

theorem Traced.snoc {events early later : List Event} {event : Event}
    (hTraced : Traced config early later symbol id price received)
    (hEvents : events = early ++ .move (.publish id price) :: later)
    (hLate : ∀ other, event = .move (.publish id other) →
      (outcome config events).cancelled = true) :
    Traced config early (later ++ [event]) symbol id price received where
  current := hTraced.current
  live := hTraced.live
  time := hTraced.time
  last hCut := by
    rcases snoc_eq_append_cons.mp hCut with ⟨rest, -, hEarlier⟩ | ⟨-, rfl, hNow⟩
    · exact hTraced.last hEarlier
    · exact hEvents ▸ hLate _ hNow

/-- As long as nobody cancels the cache, it is the last publication of its feed altogether. -/
theorem Traced.not_mem {early later : List Event}
    (hTraced : Traced config early later symbol id price received)
    (hLive : (outcome config (early ++ .move (.publish id price) :: later)).cancelled = false)
    (other : MarkPrice) : .move (.publish id other) ∉ later := by
  intro hMem
  obtain ⟨middle, rest, rfl⟩ := List.append_of_mem hMem
  have hCancelled := cancelled_append (hTraced.last rfl) (.move (.publish id other) :: rest)
  rw [List.append_assoc, List.cons_append, hLive] at hCancelled
  cases hCancelled

theorem traced_of_holds {events : List Event}
    (hHolds : (outcome config events).Holds symbol id price received) :
    ∃ early later, events = early ++ .move (.publish id price) :: later ∧
      Traced config early later symbol id price received := by
  induction events using List.reverseRecOn with
  | nil => cases hHolds
  | append_singleton events event ih =>
    rw [outcome_snoc] at hHolds
    rcases (owns_outcome config events).holds_cases hHolds with
      ⟨hBefore, hLate⟩ | ⟨rfl, hNow, hLive, hCurrent⟩
    · obtain ⟨early, later, hEvents, hTraced⟩ := ih hBefore
      refine ⟨early, later ++ [event], ?_, hTraced.snoc hEvents hLate⟩
      rw [hEvents, List.append_assoc, List.cons_append]
    · exact ⟨events, [], rfl, hCurrent, hLive, hNow, fun hCut => by simp at hCut⟩

/-! ## What is gone -/

/-- Nothing is published into a cache that is shut down. -/
theorem not_holds_of_shutDown {early later : List Event} (hCancel : .cancel ∈ early) :
    ¬ (outcome config (early ++ .clear :: later)).Holds symbol id price received := by
  induction later using List.reverseRecOn with
  | nil =>
    rw [outcome_snoc, react, if_pos (cancelled_outcome hCancel)]
    intro hHolds
    cases hHolds
  | append_singleton later event ih =>
    intro hHolds
    rw [← List.cons_append, ← List.append_assoc, outcome_snoc] at hHolds
    rcases (owns_outcome config _).holds_cases hHolds with ⟨hBefore, -⟩ | ⟨-, -, hLive, -⟩
    · exact ih hBefore
    · cases hLive.symm.trans (cancelled_outcome (List.mem_append_left _ hCancel))

theorem lookup_unsubscribe {name : String} (hName : normalizeSymbol name = .ok symbol)
    (cache : PriceCache) : (cache.unsubscribe name).2.entries.lookup symbol = none := by
  unfold unsubscribe
  rw [hName]
  dsimp only
  split
  · assumption
  · rw [entries_release]
    exact lookup_filter_self cache.entries symbol

/-- **A held price is the last one of the present subscription.** Calls, shutdowns, feeds and time
come in any order, and feeds publish under any subscription at any time. A symbol with a price has a
subscription that was not dropped, and the price was published under it, when it was the present one
already, at the time that is held with the price. Its feed has published nothing since, unless the
cache was cancelled before that. A publication under another subscription, of whatever symbol and
however old, leaves the symbol as it is. Nothing is left of a symbol that is dropped, and no symbol
ever has a price again after a shutdown. -/
theorem held_price_is_last_published (config : PriceCacheConfig) (events : List Event)
    (symbol : String) :
    (∀ id price received, (outcome config events).Holds symbol id price received →
      (∃ feed, (outcome config events).subscriptions[id]? = some feed ∧
        feed.symbol = symbol ∧ feed.dropped = false) ∧
      ∃ early later, events = early ++ .move (.publish id price) :: later ∧
        Traced config early later symbol id price received ∧
        ((outcome config events).cancelled = false →
          ∀ other, .move (.publish id other) ∉ later)) ∧
    (∀ entry other price, (outcome config events).entries.lookup symbol = some entry →
      other ≠ entry.subscription →
      ((outcome config events).publish other price).entries.lookup symbol = some entry) ∧
    (∀ name, normalizeSymbol name = .ok symbol →
      ((outcome config events).unsubscribe name).2.entries.lookup symbol = none) ∧
    ∀ early later, events = early ++ .clear :: later → .cancel ∈ early →
      ∀ id price received, ¬ (outcome config events).Holds symbol id price received := by
  have hOwns := owns_outcome config events
  refine ⟨?_, ?_, fun name hName => lookup_unsubscribe hName _, ?_⟩
  · intro id price received hHolds
    refine ⟨hOwns.owned (hOwns.owner_of_lookup hHolds), ?_⟩
    obtain ⟨early, later, rfl, hTraced⟩ := traced_of_holds hHolds
    exact ⟨early, later, rfl, hTraced, hTraced.not_mem⟩
  · intro entry other price hEntry hOther
    rw [hOwns.lookup_publish, hEntry, Option.map_some, if_neg fun hBoth => hOther hBoth.1.symm]
  · rintro early later rfl hCancel id price received
    exact not_holds_of_shutDown hCancel

/-! ## A feed that outlives its subscription -/

/-- A mark price of so much. -/
def marked (amount : Nat) : MarkPrice := ⟨"BTCUSDT", ⟨false, amount, 0⟩, 0⟩

/-- A symbol is dropped and tracked again. The feed of its first subscription goes on to publish,
also after the one of the second. -/
def resubscribedEvents : List Event :=
  [.move (.subscribe "BTCUSDT"), .move (.publish 0 (marked 1)), .move (.unsubscribe "BTCUSDT"),
    .move (.publish 0 (marked 2)), .move (.subscribe "BTCUSDT"), .move (.publish 0 (marked 3)),
    .move (.wait 5), .move (.publish 1 (marked 4)), .move (.wait 5), .move (.publish 0 (marked 5))]

/-- There is no price until the feed of the second subscription publishes one, which stays. -/
theorem resubscribed_price_traced :
    (outcome oneRetry (resubscribedEvents.take 6)).aged? "BTCUSDT" = none ∧
      (outcome oneRetry resubscribedEvents).aged? "BTCUSDT" = some (marked 4, 5) ∧
      ∃ early later, resubscribedEvents = early ++ .move (.publish 1 (marked 4)) :: later ∧
        Traced oneRetry early later "BTCUSDT" 1 (marked 4) 5 ∧
        ((outcome oneRetry resubscribedEvents).cancelled = false →
          ∀ other, .move (.publish 1 other) ∉ later) := by
  have hHolds : (outcome oneRetry resubscribedEvents).Holds "BTCUSDT" 1 (marked 4) 5 := by
    unfold Holds
    decide +kernel
  have hPrices := held_price_is_last_published oneRetry resubscribedEvents "BTCUSDT"
  exact ⟨by decide +kernel, by decide +kernel, (hPrices.1 _ _ _ hHolds).2⟩

end PriceCache

end MarketGateway
