import Mathlib.Data.List.Induction
import MarketGateway.Proofs.PriceCache.Subscriptions

/-!
# Which feeds fill a price cache

`PriceCache.run` lets calls, feeds, timers and time come in any order, as long as nobody cancels the
cache, and `PriceCache.Tracks` ties the entries to the feeds that fill them after any such run.

Every tracked symbol has one subscription that was not dropped, and nothing but the reconnect policy
ends its feed: it allows no further attempt, or the random part of a delay cannot be drawn
(`tracked_symbol_supplied_or_feed_over`). The symbol stays tracked all the same, so asking for it
again starts no new feed (`symbols_without_feed_stay_tracked`).
-/

namespace MarketGateway

namespace PriceCache

variable {config : PriceCacheConfig} {cache next : PriceCache} {id other : SubscriptionId}
  {subscription before after : PriceSubscription} {symbol : String}

/-! ## Calls -/

theorem subscriptions_drop (subscriptions : List PriceSubscription) (id other : SubscriptionId) :
    (drop subscriptions id)[other]? = (subscriptions[other]?).map fun subscription =>
      if id = other then { subscription with dropped := true } else subscription := by
  rw [drop, List.getElem?_modify]
  split <;> simp

/-- What holds between any two calls. -/
structure Tracks (cache : PriceCache) (config : PriceCacheConfig) : Prop extends
    Linked cache config where
  idle : cache.Idle []
  timed : cache.Timed

theorem Tracks.steers (hTracks : cache.Tracks config) (hSteers : cache.Steers next)
    (hTimed : next.Timed) : next.Tracks config :=
  ⟨hTracks.toLinked.steers hSteers, hTracks.idle.steers hSteers, hTimed⟩

theorem Tracks.kept (hTracks : cache.Tracks config) (hConfig : next.config = cache.config)
    (hCancelled : next.cancelled = cache.cancelled) (hOwners : next.owners = cache.owners)
    (hKept : next.subscriptions = cache.subscriptions) (hTimers : next.timers = cache.timers) :
    next.Tracks config := by
  refine hTracks.steers (steers_of_kept hConfig hCancelled hOwners hKept) ?_
  intro id subscription due hAt hWaits
  rw [hKept] at hAt
  rw [hTimers]
  exact hTracks.timed id subscription due hAt hWaits

theorem owners_publish (cache : PriceCache) (id : SubscriptionId) (price : MarkPrice) :
    (cache.publish id price).owners = cache.owners := by
  unfold publish
  split
  · rfl
  · dsimp only
    split
    · rfl
    · simp only [owners, List.map_map]
      refine List.map_congr_left ?_
      rintro ⟨symbol, entry⟩ -
      simp only [Function.comp_apply]
      split <;> rfl

theorem Tracks.publish (hTracks : cache.Tracks config) (id : SubscriptionId) (price : MarkPrice) :
    (cache.publish id price).Tracks config := by
  refine hTracks.kept ?_ ?_ (owners_publish cache id price) ?_ ?_
  all_goals
    unfold PriceCache.publish
    split
    · rfl
    · dsimp only
      split <;> rfl

/-- The subscriptions and the new one. -/
theorem getElem?_snoc_cases {subscriptions : List PriceSubscription}
    (hAt : (subscriptions ++ [before])[id]? = some after) :
    subscriptions[id]? = some after ∨ (id = subscriptions.length ∧ after = before) := by
  rw [List.getElem?_append] at hAt
  split at hAt
  · exact .inl hAt
  · next hLe =>
    rw [List.getElem?_singleton] at hAt
    split at hAt
    · next hFirst =>
      have hId : id = subscriptions.length := Nat.le_antisymm (Nat.le_of_sub_eq_zero hFirst)
        (Nat.le_of_not_lt hLe)
      exact .inr ⟨hId, (Option.some.inj hAt).symm⟩
    · cases hAt

/-- A symbol that comes to be tracked gets a subscription of its own. -/
theorem Owns.started (hOwns : cache.Owns) (hAbsent : cache.entries.lookup symbol = none)
    (supervisor : Supervisor) (state : FeedState) :
    Owns { cache with
      entries := cache.entries ++ [(symbol, { subscription := cache.subscriptions.length })]
      subscriptions := cache.subscriptions ++ [{ symbol, supervisor }]
      state := state } where
  keys := by
    have hNew : symbol ∉ cache.owners.map Prod.fst := by
      rw [owners_keys]
      intro hMem
      obtain ⟨entry, hEntry, rfl⟩ := List.mem_map.mp hMem
      simpa using List.lookup_eq_none_iff.mp hAbsent entry hEntry
    rw [owners_keys, List.map_append]
    rw [owners_keys] at hNew
    refine List.nodup_append.mpr ⟨owners_keys cache ▸ hOwns.keys, List.nodup_singleton _, ?_⟩
    intro key hKey other hOther
    rw [List.mem_singleton.mp hOther]
    rintro rfl
    exact hNew hKey
  owned {other id} hOwner := by
    simp only [owners, List.map_append, List.map_cons, List.map_nil] at hOwner
    rcases List.mem_append.mp hOwner with hOld | hNew
    · obtain ⟨subscription, hAt, hSymbol, hWanted⟩ := hOwns.owned hOld
      have hLt := (List.getElem?_eq_some_iff.mp hAt).1
      exact ⟨subscription, (List.getElem?_append_left hLt).trans hAt, hSymbol, hWanted⟩
    · cases List.mem_singleton.mp hNew
      exact ⟨_, List.getElem?_concat_length, rfl, rfl⟩
  owner {id subscription} hAt hWanted := by
    simp only [owners, List.map_append, List.map_cons, List.map_nil]
    rcases getElem?_snoc_cases hAt with hOld | ⟨rfl, rfl⟩
    · exact List.mem_append_left _ (hOwns.owner hOld hWanted)
    · exact List.mem_append_right _ (List.mem_singleton.mpr rfl)

/-- The first session of a new subscription starts. -/
theorem Tracks.started (hTracks : cache.Tracks config)
    (hAbsent : cache.entries.lookup symbol = none)
    {supervisor : Supervisor} (hPolicy : supervisor.backoff.policy = config.reconnect)
    (hRuns : supervisor.phase = .running false) (state : FeedState) :
    Tracks { cache with
      entries := cache.entries ++ [(symbol, { subscription := cache.subscriptions.length })]
      subscriptions := cache.subscriptions ++ [{ symbol, supervisor }]
      state := state } config where
  toOwns := hTracks.toOwns.started hAbsent supervisor state
  settings := hTracks.settings
  live := hTracks.live
  policy {id subscription} hAt := by
    rcases getElem?_snoc_cases hAt with hOld | ⟨rfl, rfl⟩
    · exact hTracks.policy hOld
    · exact hPolicy
  stopped {id subscription} hAt hWanted hStopped := by
    rcases getElem?_snoc_cases hAt with hOld | ⟨rfl, rfl⟩
    · exact hTracks.stopped hOld hWanted hStopped
    · cases hRuns.symm.trans hStopped
  crashed {id subscription} hAt hCrashed := by
    rcases getElem?_snoc_cases hAt with hOld | ⟨rfl, rfl⟩
    · exact hTracks.crashed hOld hCrashed
    · cases hRuns.symm.trans hCrashed
  idle id subscription due hAt hDropped hWaits := by
    rcases getElem?_snoc_cases hAt with hOld | ⟨rfl, rfl⟩
    · exact hTracks.idle id subscription due hOld hDropped hWaits
    · cases hDropped
  timed id subscription due hAt hWaits := by
    rcases getElem?_snoc_cases hAt with hOld | ⟨rfl, rfl⟩
    · exact hTracks.timed id subscription due hOld hWaits
    · cases hRuns.symm.trans hWaits

theorem Tracks.track (hTracks : cache.Tracks config) (symbol : String) :
    (cache.track symbol).2.Tracks config := by
  unfold PriceCache.track
  split
  · exact hTracks
  · split
    · exact hTracks
    · next hAbsent =>
      obtain ⟨hCancelled, -⟩ | hStart :=
        Supervisor.start_cases cache.config.reconnect false cache.state
      · cases hCancelled
      simp only [hStart]
      refine hTracks.started (Option.not_isSome_iff_eq_none.mp hAbsent) ?_ rfl _
      exact congrArg PriceCacheConfig.reconnect hTracks.settings

theorem Tracks.subscribe (hTracks : cache.Tracks config) (symbol : String) :
    (cache.subscribe symbol).2.Tracks config := by
  unfold PriceCache.subscribe
  split
  · exact hTracks
  · exact hTracks.track _

theorem Tracks.get (hTracks : cache.Tracks config) (symbol : String) :
    (cache.get symbol).2.Tracks config := by
  unfold PriceCache.get
  split
  · exact hTracks
  · next symbol _ =>
    split
    · exact hTracks.kept rfl rfl rfl rfl rfl
    · have hTrack := hTracks.track symbol
      generalize cache.track symbol = result at hTrack
      obtain ⟨_ | _, next⟩ := result <;> exact hTrack

theorem Tracks.poll (hTracks : cache.Tracks config) (lookup : Lookup) :
    (lookup.poll cache).2.Tracks config := by
  unfold Lookup.poll
  split
  · exact hTracks
  · split
    · exact hTracks.kept rfl rfl rfl rfl rfl
    · split
      · exact hTracks.kept rfl rfl rfl rfl rfl
      · exact hTracks

/-! ### Dropping a symbol -/

theorem Idle.tail {rest : List SubscriptionId} (hIdle : cache.Idle (id :: rest))
    (hNot : ∀ subscription due, cache.subscriptions[id]? = some subscription →
      subscription.dropped = true → subscription.supervisor.phase ≠ .waiting due) :
    cache.Idle rest := by
  intro other same due hAt hDropped hWaits
  rcases List.mem_cons.mp (hIdle other same due hAt hDropped hWaits) with rfl | hRest
  · exact absurd hWaits (hNot same due hAt hDropped)
  · exact hRest

theorem not_waiting_of_wake (hAt : cache.subscriptions[id]? = some subscription)
    (hStops : cache.stops subscription = true)
    (hAfter : (cache.wake id).subscriptions[id]? = some after) (due : Duration) :
    after.supervisor.phase ≠ .waiting due := by
  have hLt := (List.getElem?_eq_some_iff.mp hAt).1
  cases hPhase : subscription.supervisor.phase with
  | waiting time =>
    simp only [PriceCache.wake, hAt, hPhase, Supervisor.wake, Supervisor.enter, hStops, true_or,
      if_true, setSupervisor_subscriptions, List.getElem?_set_self hLt, Option.some.injEq] at hAfter
    simp [← hAfter]
  | running | stopped | crashed =>
    simp only [PriceCache.wake, hAt, hPhase, Option.some.injEq] at hAfter
    simp [← hAfter, hPhase]

/-- By induction on the subscriptions that are let go, one after another. -/
theorem tracks_release (hLinked : cache.Linked config) (hTimed : cache.Timed) :
    cache.release.Tracks config := by
  have hIdle : cache.Idle (List.range cache.subscriptions.length) := by
    intro id subscription due hAt _ _
    exact List.mem_range.mpr (List.getElem?_eq_some_iff.mp hAt).1
  unfold release
  generalize List.range cache.subscriptions.length = ids at hIdle
  induction ids generalizing cache with
  | nil => exact ⟨hLinked, hIdle, hTimed⟩
  | cons id rest ih =>
    rw [List.foldl_cons]
    split
    · next subscription hAt =>
      split
      · next hStops =>
        have hSteers := steers_wake cache id
        refine ih (hLinked.steers hSteers) (hTimed.wake id) ((hIdle.steers hSteers).tail ?_)
        intro after due hAfter _
        exact not_waiting_of_wake hAt hStops hAfter due
      · next hWanted =>
        refine ih hLinked hTimed (hIdle.tail ?_)
        intro same due hSame hDropped
        obtain rfl := Option.some.inj (hAt.symm.trans hSame)
        exact absurd (hDropped ▸ hLinked.stops subscription) hWanted
    · next hNone =>
      refine ih hLinked hTimed (hIdle.tail ?_)
      intro same due hSame
      cases hNone.symm.trans hSame

theorem getElem?_drop {subscriptions : List PriceSubscription}
    (hAfter : (drop subscriptions id)[other]? = some after) :
    ∃ before, subscriptions[other]? = some before ∧
      ((other ≠ id ∧ after = before) ∨ (other = id ∧ after = { before with dropped := true })) := by
  rw [subscriptions_drop, Option.map_eq_some_iff] at hAfter
  obtain ⟨before, hBefore, hEq⟩ := hAfter
  refine ⟨before, hBefore, ?_⟩
  split at hEq
  · next hSame => exact .inr ⟨hSame.symm, hEq.symm⟩
  · next hOther => exact .inl ⟨Ne.symm hOther, hEq.symm⟩

theorem supervisor_drop {subscriptions : List PriceSubscription}
    (hAfter : (drop subscriptions id)[other]? = some after) :
    ∃ before, subscriptions[other]? = some before ∧ before.supervisor = after.supervisor := by
  obtain ⟨before, hBefore, ⟨-, rfl⟩ | ⟨-, rfl⟩⟩ := getElem?_drop hAfter
  all_goals exact ⟨_, hBefore, rfl⟩

/-- Dropping a symbol unlinks its entry from its subscription, and nothing else. -/
theorem Owns.dropped (hOwns : cache.Owns) {entry : TrackedPrice}
    (hEntry : cache.entries.lookup symbol = some entry) :
    Owns { cache with
      entries := cache.entries.filter (·.1 != symbol)
      subscriptions := drop cache.subscriptions entry.subscription } := by
  have hOwner := hOwns.owner_of_lookup hEntry
  have hOwners : owners { cache with
      entries := cache.entries.filter (·.1 != symbol)
      subscriptions := drop cache.subscriptions entry.subscription } =
      cache.owners.filter (·.1 != symbol) := by
    rw [owners, owners, List.filter_map]
    rfl
  refine ⟨?_, ?_, ?_⟩
  · rw [hOwners]
    exact hOwns.keys.sublist (List.filter_sublist.map _)
  · intro other id hOther
    rw [hOwners] at hOther
    obtain ⟨hMem, hNe⟩ := List.mem_filter.mp hOther
    obtain ⟨subscription, hAt, hSymbol, hWanted⟩ := hOwns.owned hMem
    have hId : entry.subscription ≠ id := by
      rintro rfl
      obtain ⟨same, hSame, hSymbolSame, -⟩ := hOwns.owned hOwner
      obtain rfl := Option.some.inj (hAt.symm.trans hSame)
      simp [← hSymbol, hSymbolSame] at hNe
    refine ⟨subscription, ?_, hSymbol, hWanted⟩
    rw [subscriptions_drop, hAt, Option.map_some, if_neg hId]
  · intro id after hAfter hWanted
    obtain ⟨before, hBefore, ⟨hId, rfl⟩ | ⟨-, rfl⟩⟩ := getElem?_drop hAfter
    · rw [hOwners]
      refine List.mem_filter.mpr ⟨hOwns.owner hBefore hWanted, ?_⟩
      have hNe : after.symbol ≠ symbol :=
        fun hSymbol => hId (hOwns.unique hOwner hBefore hSymbol hWanted)
      simpa using hNe
    · cases hWanted

theorem Linked.dropped (hLinked : cache.Linked config) {entry : TrackedPrice}
    (hEntry : cache.entries.lookup symbol = some entry) :
    Linked { cache with
      entries := cache.entries.filter (·.1 != symbol)
      subscriptions := drop cache.subscriptions entry.subscription } config where
  toOwns := hLinked.toOwns.dropped hEntry
  settings := hLinked.settings
  live := hLinked.live
  policy {id after} hAfter := by
    obtain ⟨before, hBefore, hSame⟩ := supervisor_drop hAfter
    exact hSame ▸ hLinked.policy hBefore
  stopped {id after} hAfter hWanted hStopped := by
    obtain ⟨before, hBefore, ⟨-, rfl⟩ | ⟨-, rfl⟩⟩ := getElem?_drop hAfter
    · exact hLinked.stopped hBefore hWanted hStopped
    · cases hWanted
  crashed {id after} hAfter hCrashed := by
    obtain ⟨before, hBefore, hSame⟩ := supervisor_drop hAfter
    rw [← hSame] at hCrashed ⊢
    exact hLinked.crashed hBefore hCrashed

theorem Tracks.unsubscribe (hTracks : cache.Tracks config) (symbol : String) :
    (cache.unsubscribe symbol).2.Tracks config := by
  unfold PriceCache.unsubscribe
  split
  · exact hTracks
  · split
    · exact hTracks
    · next entry hEntry =>
      refine tracks_release (hTracks.toLinked.dropped hEntry) ?_
      intro id after due hAfter hWaits
      obtain ⟨before, hBefore, hSame⟩ := supervisor_drop hAfter
      exact hTracks.timed id before due hBefore (hSame ▸ hWaits)

/-! ## Runs -/

/-- What happens next to a price cache that nobody cancels. -/
inductive Move
  | subscribe (symbol : String)
  | unsubscribe (symbol : String)
  | get (symbol : String)
  | poll (lookup : Lookup)
  | connected (id : SubscriptionId)
  | ended (id : SubscriptionId) (error : Option FeedError) (offset : Binary64)
  | wake (id : SubscriptionId)
  | publish (id : SubscriptionId) (price : MarkPrice)
  /-- Time passes up to the first timer that is due by the given time. -/
  | fire (limit : Duration)
  | wait (time : Duration)

def step (cache : PriceCache) : Move → PriceCache
  | .subscribe symbol => (cache.subscribe symbol).2
  | .unsubscribe symbol => (cache.unsubscribe symbol).2
  | .get symbol => (cache.get symbol).2
  | .poll lookup => (lookup.poll cache).2
  | .connected id => cache.connected id
  | .ended id error offset => cache.ended id error offset
  | .wake id => cache.wake id
  | .publish id price => cache.publish id price
  | .fire limit => (cache.next? limit).getD cache
  | .wait time => { cache with now := cache.now + time }

/-- A new cache after some moves. -/
def run (config : PriceCacheConfig) (moves : List Move) : PriceCache :=
  moves.foldl step { config := config }

theorem Tracks.fire (hTracks : cache.Tracks config) {limit : Duration}
    (hNext : cache.next? limit = some next) : next.Tracks config := by
  have hTimed := hTracks.timed.fire hNext
  obtain ⟨⟨timer, timers⟩, -, rfl⟩ := Option.map_eq_some_iff.mp hNext
  obtain ⟨hConfig, hCancelled, hOwners, hLength, hGoes⟩ := steers_wake
    { cache with timers := timers, now := max cache.now timer.due } timer.alarm
  exact hTracks.steers ⟨hConfig, hCancelled, hOwners, hLength, hGoes⟩ hTimed

theorem Tracks.step (hTracks : cache.Tracks config) (move : Move) :
    (cache.step move).Tracks config := by
  cases move with
  | subscribe symbol => exact hTracks.subscribe symbol
  | unsubscribe symbol => exact hTracks.unsubscribe symbol
  | get symbol => exact hTracks.get symbol
  | poll lookup => exact hTracks.poll lookup
  | connected id => exact hTracks.steers (steers_connected cache id) (hTracks.timed.connected id)
  | ended id error offset =>
    exact hTracks.steers (steers_ended cache id error offset) (hTracks.timed.ended id error offset)
  | wake id => exact hTracks.steers (steers_wake cache id) (hTracks.timed.wake id)
  | publish id price => exact hTracks.publish id price
  | fire limit =>
    rw [PriceCache.step]
    cases hNext : cache.next? limit with
    | none => exact hTracks
    | some next => exact hTracks.fire hNext
  | wait time => exact hTracks.kept rfl rfl rfl rfl rfl

/-- By induction on the moves. -/
theorem tracks_run (config : PriceCacheConfig) (moves : List Move) :
    (run config moves).Tracks config := by
  induction moves using List.reverseRecOn with
  | nil =>
    have hNone {id : SubscriptionId} {subscription : PriceSubscription} :
        (run config []).subscriptions[id]? ≠ some subscription := by simp [run]
    exact {
      settings := rfl
      live := rfl
      keys := List.nodup_nil
      owned := fun hOwner => absurd hOwner List.not_mem_nil
      owner := fun hAt => absurd hAt hNone
      policy := fun hAt => absurd hAt hNone
      stopped := fun hAt => absurd hAt hNone
      crashed := fun hAt => absurd hAt hNone
      idle := fun _ _ _ hAt => absurd hAt hNone
      timed := fun _ _ _ hAt => absurd hAt hNone }
  | append_singleton moves move ih =>
    rw [run, List.foldl_append]
    exact ih.step move

/-! ## What fills a tracked symbol -/

/-- Where the feed of a subscription stands that nobody stops. -/
inductive Supplies (cache : PriceCache) (id : SubscriptionId) (subscription : PriceSubscription) :
    Prop
  | running (connected : Bool) (hPhase : subscription.supervisor.phase = .running connected)
  | waiting (due : Duration) (hPhase : subscription.supervisor.phase = .waiting due)
      (hTimer : ⟨due, id⟩ ∈ cache.timers)
  | givenUp (hPhase : subscription.supervisor.phase = .stopped)
      (hBounded : cache.config.reconnect.maxAttempts ≠ 0)
      (hUsed : cache.config.reconnect.maxAttempts ≤ subscription.supervisor.backoff.attempts)
  | crashed (hPhase : subscription.supervisor.phase = .crashed)
      (hDraw : cache.config.reconnect.draws subscription.supervisor.backoff.current = false)

theorem Tracks.supplies (hTracks : cache.Tracks config)
    (hAt : cache.subscriptions[id]? = some subscription) (hWanted : subscription.dropped = false) :
    cache.Supplies id subscription := by
  cases hPhase : subscription.supervisor.phase with
  | running connected => exact .running connected hPhase
  | waiting due => exact .waiting due hPhase (hTracks.timed id subscription due hAt hPhase)
  | stopped =>
    have hNone := hTracks.stopped hAt hWanted hPhase
    obtain ⟨hBounded, hUsed⟩ := (Backoff.mayRetry_eq_false_iff _).mp hNone
    rw [hTracks.policy hAt, ← hTracks.settings] at hBounded hUsed
    exact .givenUp hPhase hBounded hUsed
  | crashed =>
    obtain ⟨-, hDraw⟩ := hTracks.crashed hAt hPhase
    rw [hTracks.policy hAt, ← hTracks.settings] at hDraw
    exact .crashed hPhase hDraw

theorem publish_of_wanted (hAt : cache.subscriptions[id]? = some subscription)
    (hWanted : cache.stops subscription = false) (price : MarkPrice) :
    cache.publish id price =
      { cache with
        state := cache.state.message
        entries := cache.entries.map fun (symbol, entry) =>
          if symbol = subscription.symbol then
            (symbol, { entry with price := some (price, cache.now) })
          else (symbol, entry) } := by
  unfold PriceCache.publish
  rw [hAt]
  refine if_neg ?_
  rw [Bool.not_eq_true]
  exact hWanted

theorem entries_publish_of_stops (hAt : cache.subscriptions[id]? = some subscription)
    (hStops : cache.stops subscription = true) (price : MarkPrice) :
    (cache.publish id price).entries = cache.entries := by
  have hIgnored : stops { cache with state := cache.state.message } subscription = true := hStops
  unfold PriceCache.publish
  rw [hAt]
  dsimp only
  rw [if_pos hIgnored]

/-- A price that is published under a subscription that was not dropped is the price of its
symbol. -/
theorem Tracks.aged?_publish (hTracks : cache.Tracks config)
    (hAt : cache.subscriptions[id]? = some subscription) (hWanted : subscription.dropped = false)
    (price : MarkPrice) :
    (cache.publish id price).aged? subscription.symbol = some (price, 0) := by
  obtain ⟨⟨symbol, entry⟩, hEntry, hOwner⟩ := List.mem_map.mp (hTracks.owner hAt hWanted)
  obtain ⟨rfl, -⟩ := Prod.mk.inj hOwner
  have hKeys : ((cache.publish id price).entries.map Prod.fst).Nodup := by
    rw [← owners_keys, owners_publish]
    exact hTracks.keys
  have hPublish := publish_of_wanted hAt ((hTracks.stops subscription).trans hWanted) price
  rw [hPublish] at hKeys ⊢
  have hLookup := (lookup_eq_some_iff_mem hKeys).mpr
    (List.mem_map.mpr ⟨_, hEntry, if_pos rfl⟩)
  rw [aged?, hLookup]
  simp

/-- **Only the reconnect policy leaves a tracked symbol without a feed.** In every run a tracked
symbol has one subscription that was not dropped. Its feed runs a session, or waits for the next one
with a timer set, or the policy has allowed all its attempts, or it has crashed at a random part of
the policy that cannot be drawn; what it publishes is the price of the symbol. All other feeds of
the symbol start no session any more, and what they publish is ignored. -/
theorem tracked_symbol_supplied_or_feed_over {config : PriceCacheConfig} {moves : List Move}
    {symbol : String} {entry : TrackedPrice}
    (hEntry : (run config moves).entries.lookup symbol = some entry) :
    (∃ subscription,
      (run config moves).subscriptions[entry.subscription]? = some subscription ∧
      subscription.symbol = symbol ∧ subscription.dropped = false ∧
      (run config moves).Supplies entry.subscription subscription) ∧
    (∀ price, ((run config moves).publish entry.subscription price).aged? symbol =
      some (price, 0)) ∧
    ∀ other subscription, other ≠ entry.subscription →
      (run config moves).subscriptions[other]? = some subscription →
      subscription.symbol = symbol →
      subscription.dropped = true ∧ (∀ due, subscription.supervisor.phase ≠ .waiting due) ∧
      ∀ price, ((run config moves).publish other price).entries = (run config moves).entries := by
  have hTracks := tracks_run config moves
  generalize run config moves = cache at hEntry hTracks ⊢
  have hKeys : (cache.entries.map Prod.fst).Nodup := owners_keys cache ▸ hTracks.keys
  have hOwner : (symbol, entry.subscription) ∈ cache.owners :=
    List.mem_map.mpr ⟨_, (lookup_eq_some_iff_mem hKeys).mp hEntry, rfl⟩
  obtain ⟨subscription, hAt, hSymbol, hWanted⟩ := hTracks.owned hOwner
  refine ⟨⟨subscription, hAt, hSymbol, hWanted, hTracks.supplies hAt hWanted⟩, ?_, ?_⟩
  · intro price
    rw [← hSymbol]
    exact hTracks.aged?_publish hAt hWanted price
  · intro other same hNe hSame hOther
    have hDropped : same.dropped = true := by
      by_contra hNot
      exact hNe (hTracks.unique hOwner hSame hOther (by simpa using hNot))
    refine ⟨hDropped, ?_, ?_⟩
    · intro due hWaits
      exact List.not_mem_nil (hTracks.idle other same due hSame hDropped hWaits)
    · intro price
      exact entries_publish_of_stops hSame ((hTracks.stops same).trans hDropped) price

/-! ## Feeds that are refused -/

/-- One more attempt is allowed after the first session. -/
def oneRetry : PriceCacheConfig where
  ttl := .ofSecs 10
  pollInterval := .ofMillis 100
  waitTimeout := .ofSecs 5
  reconnect := { ReconnectPolicy.immediate 10 with maxAttempts := 1 }

/-- A symbol is tracked, and both sessions of its feed are refused. -/
def refusedMoves : List Move :=
  [.subscribe "BTCUSDT", .ended 0 (some (.transport "refused")) .zero, .fire 10,
    .ended 0 (some (.transport "refused")) .zero]

/-- While its feed waits for the second session the symbol is supplied. -/
theorem tracked_symbol_supplied_of_refused :
    ∃ subscription, (run oneRetry (refusedMoves.take 2)).subscriptions[0]? = some subscription ∧
      subscription.symbol = "BTCUSDT" ∧ subscription.dropped = false ∧
      (run oneRetry (refusedMoves.take 2)).Supplies 0 subscription := by
  have hEntry : (run oneRetry (refusedMoves.take 2)).entries.lookup "BTCUSDT" = some ⟨0, none⟩ := by
    decide +kernel
  exact (tracked_symbol_supplied_or_feed_over hEntry).1

/-- Any number of attempts, and a random part whose width is no number. -/
def undrawable : PriceCacheConfig :=
  { oneRetry with reconnect := { ReconnectPolicy.immediate 10 with jitter := .nan } }

/-- A symbol stays tracked when its feed has given up after two sessions, or has crashed after one.
Then neither a subscription nor a call for its price starts a feed again, and no feed is left that
could fill it. -/
theorem symbols_without_feed_stay_tracked :
    let givenUp := run oneRetry refusedMoves
    let crashed := run undrawable (refusedMoves.take 2)
    givenUp.subscriptions.map (·.supervisor.phase) = [.stopped] ∧
    crashed.subscriptions.map (·.supervisor.phase) = [.crashed] ∧
    ∀ cache ∈ [givenUp, crashed], cache.symbols = ["BTCUSDT"] ∧ cache.timers = [] ∧
      cache.subscribe "BTCUSDT" = (.ok false, cache) ∧ (cache.get "BTCUSDT").2 = cache := by
  decide +kernel

end PriceCache

end MarketGateway
