import MarketGateway.PriceCache
import MarketGateway.Proofs.Feed.Supervisor
import MarketGateway.Proofs.Lists

/-!
# Subscriptions of a price cache

Entries, subscriptions and supervisors are kept apart: an entry names the subscription that fills
it, a subscription runs its feed and remembers whether its symbol was dropped.

`PriceCache.Steers` says what the steps of supervisors leave alone. `PriceCache.Owns` ties entries
and subscriptions together, and `PriceCache.Linked` also the supervisors of a cache that nobody
cancelled. `PriceCache.Idle` and `PriceCache.Timed` say which supervisors wait: none whose symbol was
dropped, and none without a timer that wakes it.
-/

namespace MarketGateway

namespace PriceCache

variable {config : PriceCacheConfig} {cache next : PriceCache} {id other : SubscriptionId}
  {subscription before after : PriceSubscription} {symbol : String}

/-- The tracked symbols with their subscriptions. -/
def owners (cache : PriceCache) : List (String × SubscriptionId) :=
  cache.entries.map fun (symbol, entry) => (symbol, entry.subscription)

theorem owners_keys (cache : PriceCache) :
    cache.owners.map Prod.fst = cache.entries.map Prod.fst := by
  rw [owners, List.map_map]
  rfl

/-! ## Steps of supervisors -/

/-- A subscription before and after at most one step of its supervisor. -/
structure Goes (stops : Bool) (before after : PriceSubscription) : Prop where
  symbol : after.symbol = before.symbol
  dropped : after.dropped = before.dropped
  turn : ∃ state next, before.supervisor.Turn stops state after.supervisor next

theorem Goes.refl (stops : Bool) (subscription : PriceSubscription) :
    Goes stops subscription subscription :=
  ⟨rfl, rfl, { kind := .markPrice }, _, .stays⟩

/-- Supervisors take steps; the tracked symbols stay, and timers are only added. -/
structure Steers (cache next : PriceCache) : Prop where
  config : next.config = cache.config
  cancelled : next.cancelled = cache.cancelled
  owners : next.owners = cache.owners
  length : next.subscriptions.length = cache.subscriptions.length
  goes {id : SubscriptionId} {before after : PriceSubscription}
    (hBefore : cache.subscriptions[id]? = some before)
    (hAfter : next.subscriptions[id]? = some after) : Goes (cache.stops before) before after

theorem steers_of_kept (hConfig : next.config = cache.config)
    (hCancelled : next.cancelled = cache.cancelled) (hOwners : next.owners = cache.owners)
    (hKept : next.subscriptions = cache.subscriptions) : cache.Steers next := by
  refine ⟨hConfig, hCancelled, hOwners, by rw [hKept], ?_⟩
  intro id before after hBefore hAfter
  rw [hKept] at hAfter
  obtain rfl := Option.some.inj (hBefore.symm.trans hAfter)
  exact .refl _ _

theorem Steers.earlier (hSteers : cache.Steers next)
    (hAfter : next.subscriptions[id]? = some after) :
    ∃ before, cache.subscriptions[id]? = some before ∧ Goes (cache.stops before) before after := by
  have hLt : id < cache.subscriptions.length :=
    hSteers.length ▸ (List.getElem?_eq_some_iff.mp hAfter).1
  have hBefore := List.getElem?_eq_getElem hLt
  exact ⟨_, hBefore, hSteers.goes hBefore hAfter⟩

theorem Steers.later (hSteers : cache.Steers next)
    (hBefore : cache.subscriptions[id]? = some before) :
    ∃ after, next.subscriptions[id]? = some after ∧ Goes (cache.stops before) before after := by
  have hLt : id < next.subscriptions.length :=
    hSteers.length ▸ (List.getElem?_eq_some_iff.mp hBefore).1
  have hAfter := List.getElem?_eq_getElem hLt
  exact ⟨_, hAfter, hSteers.goes hBefore hAfter⟩

@[simp] theorem setSupervisor_subscriptions (cache : PriceCache) (id : SubscriptionId)
    (subscription : PriceSubscription) (supervisor : Supervisor) (state : FeedState) :
    (cache.setSupervisor id subscription supervisor state).subscriptions =
      cache.subscriptions.set id { subscription with supervisor := supervisor } := by
  unfold setSupervisor
  split <;> rfl

/-- One supervisor takes a step. -/
theorem steers_of_turn {supervisor : Supervisor} {state : FeedState}
    (hAt : cache.subscriptions[id]? = some subscription)
    (hTurn : subscription.supervisor.Turn (cache.stops subscription) cache.state supervisor state)
    (hConfig : next.config = cache.config) (hCancelled : next.cancelled = cache.cancelled)
    (hEntries : next.entries = cache.entries)
    (hSet : next.subscriptions =
      cache.subscriptions.set id { subscription with supervisor := supervisor }) :
    cache.Steers next := by
  refine ⟨hConfig, hCancelled, by rw [owners, owners, hEntries], ?_, ?_⟩
  · rw [hSet, List.length_set]
  · intro other before after hBefore hAfter
    rw [hSet] at hAfter
    by_cases hOther : id = other
    · subst hOther
      rw [List.getElem?_set_self (List.getElem?_eq_some_iff.mp hAt).1] at hAfter
      obtain rfl := Option.some.inj (hAt.symm.trans hBefore)
      obtain rfl := Option.some.inj hAfter
      exact ⟨rfl, rfl, _, _, hTurn⟩
    · rw [List.getElem?_set_ne hOther] at hAfter
      obtain rfl := Option.some.inj (hBefore.symm.trans hAfter)
      exact .refl _ _

theorem steers_setSupervisor {supervisor : Supervisor} {state : FeedState}
    (hAt : cache.subscriptions[id]? = some subscription)
    (hTurn : subscription.supervisor.Turn (cache.stops subscription) cache.state supervisor
      state) : cache.Steers (cache.setSupervisor id subscription supervisor state) := by
  refine steers_of_turn hAt hTurn ?_ ?_ ?_ (setSupervisor_subscriptions _ _ _ _ _)
  all_goals
    unfold setSupervisor
    dsimp only
    split <;> rfl

theorem steers_connected (cache : PriceCache) (id : SubscriptionId) :
    cache.Steers (cache.connected id) := by
  unfold connected
  split
  · next subscription hAt =>
    exact steers_of_turn hAt (Supervisor.connected_turn _ _ _) rfl rfl rfl rfl
  · exact steers_of_kept rfl rfl rfl rfl

theorem steers_ended (cache : PriceCache) (id : SubscriptionId) (error : Option FeedError)
    (offset : Binary64) : cache.Steers (cache.ended id error offset) := by
  unfold ended
  split
  · next subscription hAt =>
    split
    · have hTurn := subscription.supervisor.ended_turn cache.now (cache.stops subscription) error
        offset cache.state
      generalize subscription.supervisor.ended cache.now (cache.stops subscription) error offset
        cache.state = outcome at hTurn
      obtain ⟨supervisor, state, metrics⟩ := outcome
      have hSteers : (cache.record metrics).Steers
          ((cache.record metrics).setSupervisor id subscription supervisor state) :=
        steers_setSupervisor hAt hTurn
      exact ⟨hSteers.config, hSteers.cancelled, hSteers.owners, hSteers.length, hSteers.goes⟩
    · exact steers_of_kept rfl rfl rfl rfl
  · exact steers_of_kept rfl rfl rfl rfl

theorem steers_wake (cache : PriceCache) (id : SubscriptionId) : cache.Steers (cache.wake id) := by
  unfold wake
  split
  · next subscription hAt =>
    split
    · split
      · exact steers_setSupervisor hAt (Supervisor.wake_turn _ _ _ _)
      · exact steers_of_kept rfl rfl rfl rfl
    · exact steers_of_kept rfl rfl rfl rfl
  · exact steers_of_kept rfl rfl rfl rfl

/-! ## Entries, subscriptions and supervisors -/

/-- Every tracked symbol stands once and has the subscription that was not dropped. -/
structure Owns (cache : PriceCache) : Prop where
  keys : (cache.owners.map Prod.fst).Nodup
  owned {symbol : String} {id : SubscriptionId} (hOwner : (symbol, id) ∈ cache.owners) :
    ∃ subscription, cache.subscriptions[id]? = some subscription ∧
      subscription.symbol = symbol ∧ subscription.dropped = false
  owner {id : SubscriptionId} {subscription : PriceSubscription}
    (hAt : cache.subscriptions[id]? = some subscription) (hWanted : subscription.dropped = false) :
    (subscription.symbol, id) ∈ cache.owners

theorem Owns.steers (hOwns : cache.Owns) (hSteers : cache.Steers next) : next.Owns where
  keys := hSteers.owners ▸ hOwns.keys
  owned {symbol id} hOwner := by
    rw [hSteers.owners] at hOwner
    obtain ⟨before, hBefore, hSymbol, hWanted⟩ := hOwns.owned hOwner
    obtain ⟨after, hAfter, hGoes⟩ := hSteers.later hBefore
    exact ⟨after, hAfter, hGoes.symbol.trans hSymbol, hGoes.dropped.trans hWanted⟩
  owner {id after} hAfter hWanted := by
    obtain ⟨before, hBefore, hGoes⟩ := hSteers.earlier hAfter
    rw [hSteers.owners, hGoes.symbol]
    exact hOwns.owner hBefore (hGoes.dropped.symm.trans hWanted)

/-- Two subscriptions to one symbol are the same, unless one of them was dropped. -/
theorem Owns.unique (hOwns : cache.Owns) (hOwner : (symbol, id) ∈ cache.owners)
    (hAt : cache.subscriptions[other]? = some subscription) (hSymbol : subscription.symbol = symbol)
    (hWanted : subscription.dropped = false) : other = id := by
  have hFirst := (lookup_eq_some_iff_mem hOwns.keys).mpr hOwner
  have hSecond := (lookup_eq_some_iff_mem hOwns.keys).mpr (hOwns.owner hAt hWanted)
  rw [hSymbol] at hSecond
  exact Option.some.inj (hSecond.symm.trans hFirst)

theorem Owns.owner_of_lookup {entry : TrackedPrice} (hOwns : cache.Owns)
    (hEntry : cache.entries.lookup symbol = some entry) :
    (symbol, entry.subscription) ∈ cache.owners := by
  have hKeys : (cache.entries.map Prod.fst).Nodup := owners_keys cache ▸ hOwns.keys
  exact List.mem_map.mpr ⟨_, (lookup_eq_some_iff_mem hKeys).mp hEntry, rfl⟩

/-- Entries and subscriptions belong together, a supervisor that nobody stops has stopped only
because no attempt was left, and one that crashed did so at a draw that fails. -/
structure Linked (cache : PriceCache) (config : PriceCacheConfig) : Prop extends Owns cache where
  settings : cache.config = config
  live : cache.cancelled = false
  policy {id : SubscriptionId} {subscription : PriceSubscription}
    (hAt : cache.subscriptions[id]? = some subscription) :
    subscription.supervisor.backoff.policy = config.reconnect
  stopped {id : SubscriptionId} {subscription : PriceSubscription}
    (hAt : cache.subscriptions[id]? = some subscription) (hWanted : subscription.dropped = false)
    (hStopped : subscription.supervisor.phase = .stopped) :
    subscription.supervisor.backoff.mayRetry = false
  crashed {id : SubscriptionId} {subscription : PriceSubscription}
    (hAt : cache.subscriptions[id]? = some subscription)
    (hCrashed : subscription.supervisor.phase = .crashed) :
    subscription.supervisor.backoff.Crashes

theorem Linked.stops (hLinked : cache.Linked config) (subscription : PriceSubscription) :
    cache.stops subscription = subscription.dropped := by
  rw [PriceCache.stops, hLinked.live, Bool.false_or]

theorem Linked.steers (hLinked : cache.Linked config) (hSteers : cache.Steers next) :
    next.Linked config where
  toOwns := hLinked.toOwns.steers hSteers
  settings := hSteers.config.trans hLinked.settings
  live := hSteers.cancelled.trans hLinked.live
  policy {id after} hAfter := by
    obtain ⟨before, hBefore, hGoes⟩ := hSteers.earlier hAfter
    obtain ⟨_, _, hTurn⟩ := hGoes.turn
    rw [hTurn.policy, hLinked.policy hBefore]
  stopped {id after} hAfter hWanted hStopped := by
    obtain ⟨before, hBefore, hGoes⟩ := hSteers.earlier hAfter
    obtain ⟨_, _, hTurn⟩ := hGoes.turn
    have hWantedBefore := hGoes.dropped.symm.trans hWanted
    rcases hTurn.stopped_cases hStopped with hSame | hStops | hNone
    · rw [hSame] at hStopped ⊢
      exact hLinked.stopped hBefore hWantedBefore hStopped
    · rw [hLinked.stops, hWantedBefore] at hStops
      cases hStops
    · exact hNone
  crashed {id after} hAfter hCrashed := by
    obtain ⟨before, hBefore, hGoes⟩ := hSteers.earlier hAfter
    obtain ⟨_, _, hTurn⟩ := hGoes.turn
    rcases hTurn.crashed_cases hCrashed with hSame | hCrashes
    · rw [hSame] at hCrashed ⊢
      exact hLinked.crashed hBefore hCrashed
    · exact hCrashes

/-- A feed whose symbol was dropped waits for nothing, except under the given numbers. -/
def Idle (cache : PriceCache) (except : List SubscriptionId) : Prop :=
  ∀ id subscription due, cache.subscriptions[id]? = some subscription →
    subscription.dropped = true → subscription.supervisor.phase = .waiting due → id ∈ except

/-- A supervisor that waits has its timer set. -/
def Timed (cache : PriceCache) : Prop :=
  ∀ id subscription due, cache.subscriptions[id]? = some subscription →
    subscription.supervisor.phase = .waiting due → ⟨due, id⟩ ∈ cache.timers

theorem Idle.steers {except : List SubscriptionId} (hIdle : cache.Idle except)
    (hSteers : cache.Steers next) : next.Idle except := by
  intro id after due hAfter hDropped hWaits
  obtain ⟨before, hBefore, hGoes⟩ := hSteers.earlier hAfter
  obtain ⟨_, _, hTurn⟩ := hGoes.turn
  have hDroppedBefore := hGoes.dropped.symm.trans hDropped
  rcases hTurn.waiting_cases hWaits with hSame | hGoesOn
  · exact hIdle id before due hBefore hDroppedBefore (hSame ▸ hWaits)
  · rw [PriceCache.stops, hDroppedBefore, Bool.or_true] at hGoesOn
    cases hGoesOn

/-! ### Timers -/

/-- Whether its supervisor stays put or took a step, a timer is set for the subscription. -/
theorem timed_setSupervisor {supervisor : Supervisor} {state : FeedState}
    (hOthers : ∀ other same due, other ≠ id → cache.subscriptions[other]? = some same →
      same.supervisor.phase = .waiting due → ⟨due, other⟩ ∈ cache.timers) :
    (cache.setSupervisor id subscription supervisor state).Timed := by
  intro other same due hAt hWaits
  rw [setSupervisor_subscriptions] at hAt
  have hKept (hNe : other ≠ id) : ⟨due, other⟩ ∈ cache.timers := by
    rw [List.getElem?_set_ne (Ne.symm hNe)] at hAt
    exact hOthers other same due hNe hAt hWaits
  by_cases hOther : other = id
  · subst hOther
    have hLt := (List.getElem?_eq_some_iff.mp hAt).1
    rw [List.length_set] at hLt
    rw [List.getElem?_set_self hLt] at hAt
    obtain rfl := Option.some.inj hAt
    have hPhase : supervisor.phase = .waiting due := hWaits
    simp only [setSupervisor, hPhase]
    exact List.mem_append_right _ (List.mem_singleton.mpr rfl)
  · unfold setSupervisor
    dsimp only
    split
    · exact List.mem_append_left _ (hKept hOther)
    · exact hKept hOther

/-- A supervisor goes on when its timer has fired. -/
theorem timed_wake (hTimed : ∀ other same due, cache.subscriptions[other]? = some same →
      same.supervisor.phase = .waiting due →
      ⟨due, other⟩ ∈ cache.timers ∨ (other = id ∧ due ≤ cache.now)) : (cache.wake id).Timed := by
  have hOthers (other : SubscriptionId) (same : PriceSubscription) (due : Duration)
      (hNe : other ≠ id) (hAt : cache.subscriptions[other]? = some same)
      (hWaits : same.supervisor.phase = .waiting due) : ⟨due, other⟩ ∈ cache.timers :=
    (hTimed other same due hAt hWaits).resolve_right fun hBoth => hNe hBoth.1
  -- If the supervisor does not go on, its own timer has not fired.
  have hSame (hStays : ∀ subscription due, cache.subscriptions[id]? = some subscription →
      subscription.supervisor.phase = .waiting due → ¬ due ≤ cache.now) : cache.Timed := by
    intro other same due hAt hWaits
    rcases hTimed other same due hAt hWaits with hTimer | ⟨rfl, hDue⟩
    · exact hTimer
    · exact absurd hDue (hStays same due hAt hWaits)
  unfold wake
  split
  · next subscription hAt =>
    split
    · next due hPhase =>
      split
      · exact timed_setSupervisor hOthers
      · next hNot =>
        refine hSame ?_
        intro same time hFound hWaits
        obtain rfl := Option.some.inj (hAt.symm.trans hFound)
        obtain rfl := Supervisor.Phase.waiting.inj (hPhase.symm.trans hWaits)
        exact fun hDue => hNot (.inr hDue)
    · next hPhase =>
      refine hSame ?_
      intro same time hFound hWaits
      obtain rfl := Option.some.inj (hAt.symm.trans hFound)
      exact absurd hWaits (hPhase time)
  · next hNone =>
    refine hSame ?_
    intro same time hFound
    cases hNone.symm.trans hFound

theorem Timed.wake (hTimed : cache.Timed) (id : SubscriptionId) : (cache.wake id).Timed :=
  timed_wake fun other same due hAt hWaits => .inl (hTimed other same due hAt hWaits)

theorem Timed.ended (hTimed : cache.Timed) (id : SubscriptionId) (error : Option FeedError)
    (offset : Binary64) : (cache.ended id error offset).Timed := by
  unfold PriceCache.ended
  split
  · split
    · refine timed_setSupervisor ?_
      intro other same due _ hAt hWaits
      exact hTimed other same due hAt hWaits
    · exact hTimed
  · exact hTimed

theorem Timed.connected (hTimed : cache.Timed) (id : SubscriptionId) :
    (cache.connected id).Timed := by
  unfold PriceCache.connected
  split
  · next subscription hAt =>
    intro other same due hFound hWaits
    dsimp only at hFound ⊢
    by_cases hOther : id = other
    · subst hOther
      rw [List.getElem?_set_self (List.getElem?_eq_some_iff.mp hAt).1] at hFound
      obtain rfl := Option.some.inj hFound
      refine hTimed id subscription due hAt ?_
      unfold Supervisor.connected at hWaits
      split at hWaits
      · cases hWaits
      · exact hWaits
    · rw [List.getElem?_set_ne hOther] at hFound
      exact hTimed other same due hFound hWaits
  · exact hTimed

/-- The first timer that is due leaves the others, and its supervisor goes on. -/
theorem Timed.fire (hTimed : cache.Timed) {limit : Duration}
    (hNext : cache.next? limit = some next) : next.Timed := by
  obtain ⟨⟨timer, timers⟩, hDue, rfl⟩ := Option.map_eq_some_iff.mp hNext
  obtain ⟨place, hPlace, rfl⟩ := Timers.getElem?_of_pop (Option.filter_eq_some_iff.mp hDue).1
  refine timed_wake ?_
  intro other same due hAt hWaits
  obtain ⟨index, hIndex⟩ := List.mem_iff_getElem?.mp (hTimed other same due hAt hWaits)
  by_cases hSame : index = place
  · obtain rfl := Option.some.inj (hPlace.symm.trans (hSame ▸ hIndex))
    exact .inr ⟨rfl, Nat.le_max_right _ _⟩
  · exact .inl (List.mem_eraseIdx_iff_getElem?.mpr ⟨index, hSame, hIndex⟩)

end PriceCache

end MarketGateway
