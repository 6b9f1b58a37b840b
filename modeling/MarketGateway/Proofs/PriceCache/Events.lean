import MarketGateway.Proofs.PriceCache.Tracking
import Mathlib.Logic.Relation

/-!
# Calls and shutdowns in two steps

A call that tracks a symbol looks first whether the cache was cancelled, and a shutdown cancels the
cache before it drops the symbols, so anything may come between: a symbol may come to be tracked
when the cache is shut down already. `PriceCache.outcome` lets these steps come in any order with
everything else that `PriceCache.run` knows of. Steps that nothing comes between make the whole call
or shutdown (`track_of_live`, `outcome_shutDown`).

`PriceCache.Reacted` says once what anything but a publication can do. Entries and subscriptions
belong together after all of it, whether the cache was cancelled or not (`owns_outcome`).
-/

namespace MarketGateway

namespace PriceCache

variable {config : PriceCacheConfig} {cache next : PriceCache} {id : SubscriptionId}
  {symbol : String}

/-! ## Calls and shutdowns in two steps -/

/-- Tracks a symbol for a call that has found the cache alive. -/
def enter (cache : PriceCache) (symbol : String) : PriceCache :=
  if (cache.entries.lookup symbol).isSome then cache
  else
    let (supervisor, state) := Supervisor.start cache.config.reconnect cache.cancelled cache.state
    { cache with
      entries := cache.entries ++ [(symbol, { subscription := cache.subscriptions.length })]
      subscriptions := cache.subscriptions ++ [{ symbol, supervisor }]
      state := state }

theorem track_of_live (hLive : cache.cancelled = false) (symbol : String) :
    (cache.track symbol).2 = cache.enter symbol := by
  unfold track enter
  rw [hLive]
  split
  · next hCancelled => cases hCancelled
  · split <;> rfl

theorem track_of_cancelled (hCancelled : cache.cancelled = true) (symbol : String) :
    (cache.track symbol).2 = cache := by
  rw [track, if_pos hCancelled]

/-- Drops subscriptions, and every entry. -/
def forget (cache : PriceCache) (ids : List SubscriptionId) : PriceCache :=
  { cache with entries := [], subscriptions := ids.foldl drop cache.subscriptions }

/-- Drops every symbol. -/
def clear (cache : PriceCache) : PriceCache :=
  cache.forget (cache.entries.map fun (_, entry) => entry.subscription)

/-- By induction on the subscriptions that are dropped. -/
theorem getElem?_foldl_drop (ids : List SubscriptionId) (subscriptions : List PriceSubscription)
    (id : SubscriptionId) :
    (ids.foldl drop subscriptions)[id]? = subscriptions[id]?.map fun subscription =>
      { subscription with dropped := subscription.dropped || decide (id ∈ ids) } := by
  induction ids generalizing subscriptions with
  | nil => cases h : subscriptions[id]? <;> simp [h]
  | cons first rest ih =>
    rw [List.foldl_cons, ih, subscriptions_drop, Option.map_map]
    congr 1
    funext subscription
    by_cases hFirst : first = id
    · simp [hFirst]
    · simp [hFirst, Ne.symm hFirst]

theorem length_foldl_drop (ids : List SubscriptionId) (subscriptions : List PriceSubscription) :
    (ids.foldl drop subscriptions).length = subscriptions.length := by
  induction ids generalizing subscriptions with
  | nil => rfl
  | cons first rest ih => rw [List.foldl_cons, ih, drop, List.length_modify]

theorem foldl_drop_set (ids : List SubscriptionId) (subscriptions : List PriceSubscription)
    (id : SubscriptionId) (subscription : PriceSubscription) :
    ids.foldl drop (subscriptions.set id subscription) =
      (ids.foldl drop subscriptions).set id
        { subscription with dropped := subscription.dropped || decide (id ∈ ids) } := by
  refine List.ext_getElem? fun other => ?_
  simp only [getElem?_foldl_drop, List.getElem?_set, length_foldl_drop]
  split
  · next hSame =>
    subst hSame
    split <;> rfl
  · rfl

theorem setSupervisor_forget (cache : PriceCache) (ids : List SubscriptionId) (id : SubscriptionId)
    (subscription : PriceSubscription) (supervisor : Supervisor) (state : FeedState) :
    (cache.forget ids).setSupervisor id
        { subscription with dropped := subscription.dropped || decide (id ∈ ids) }
        supervisor state =
      (cache.setSupervisor id subscription supervisor state).forget ids := by
  have hSet := foldl_drop_set ids cache.subscriptions id
    { subscription with supervisor := supervisor }
  unfold setSupervisor
  dsimp only
  split <;> simp only [forget, hSet]

theorem stops_of_cancelled (hCancelled : cache.cancelled = true)
    (subscription : PriceSubscription) : cache.stops subscription = true := by
  rw [stops, hCancelled, Bool.true_or]

/-- A supervisor that has to stop anyway does not care whether its subscription is dropped first. -/
theorem wake_forget (hCancelled : cache.cancelled = true) (ids : List SubscriptionId)
    (id : SubscriptionId) : (cache.forget ids).wake id = (cache.wake id).forget ids := by
  have hStops (subscription : PriceSubscription) :
      (cache.forget ids).stops subscription = true := stops_of_cancelled hCancelled subscription
  have hAt : (cache.forget ids).subscriptions[id]? = _ :=
    getElem?_foldl_drop ids cache.subscriptions id
  unfold wake
  rw [hAt]
  cases cache.subscriptions[id]? with
  | none => rfl
  | some subscription =>
    dsimp only [Option.map_some]
    cases subscription.supervisor.phase with
    | running | stopped | crashed => rfl
    | waiting due =>
      simp only [stops_of_cancelled hCancelled, hStops, true_or, if_true]
      exact setSupervisor_forget cache ids id subscription _ _

theorem release_of_cancelled (hCancelled : cache.cancelled = true) :
    cache.release = (List.range cache.subscriptions.length).foldl wake cache := by
  unfold release
  generalize List.range cache.subscriptions.length = ids
  induction ids generalizing cache with
  | nil => rfl
  | cons id rest ih =>
    rw [List.foldl_cons, List.foldl_cons, ← ih ((steers_wake cache id).cancelled.trans hCancelled)]
    congr 1
    split
    · exact if_pos (stops_of_cancelled hCancelled _)
    · next hNone => rw [wake, hNone]

theorem release_forget (hCancelled : cache.cancelled = true) (ids : List SubscriptionId) :
    (cache.forget ids).release = cache.release.forget ids := by
  have hLength : (cache.forget ids).subscriptions.length = cache.subscriptions.length :=
    length_foldl_drop ids cache.subscriptions
  rw [release_of_cancelled hCancelled, release_of_cancelled (by exact hCancelled), hLength]
  generalize List.range cache.subscriptions.length = turns
  induction turns generalizing cache with
  | nil => rfl
  | cons id rest ih =>
    rw [List.foldl_cons, List.foldl_cons, wake_forget hCancelled]
    exact ih ((steers_wake cache id).cancelled.trans hCancelled) (length_foldl_drop ids _)

/-! ### What supervisors leave alone -/

@[simp] theorem entries_setSupervisor (cache : PriceCache) (id : SubscriptionId)
    (subscription : PriceSubscription) (supervisor : Supervisor) (state : FeedState) :
    (cache.setSupervisor id subscription supervisor state).entries = cache.entries := by
  unfold setSupervisor
  split <;> rfl

@[simp] theorem entries_connected (cache : PriceCache) (id : SubscriptionId) :
    (cache.connected id).entries = cache.entries := by
  unfold connected
  split <;> rfl

@[simp] theorem entries_ended (cache : PriceCache) (id : SubscriptionId)
    (error : Option FeedError) (offset : Binary64) :
    (cache.ended id error offset).entries = cache.entries := by
  unfold ended
  split
  · split
    · rw [entries_setSupervisor]
      rfl
    · rfl
  · rfl

@[simp] theorem entries_wake (cache : PriceCache) (id : SubscriptionId) :
    (cache.wake id).entries = cache.entries := by
  unfold wake
  split
  · split
    · split
      · exact entries_setSupervisor _ _ _ _ _
      · rfl
    · rfl
  · rfl

@[simp] theorem entries_release (cache : PriceCache) : cache.release.entries = cache.entries := by
  unfold release
  generalize List.range cache.subscriptions.length = ids
  induction ids generalizing cache with
  | nil => rfl
  | cons id rest ih =>
    rw [List.foldl_cons, ih]
    split
    · split
      · exact entries_wake cache id
      · rfl
    · rfl

/-- A shutdown cancels the cache and drops every symbol then. -/
theorem shutDown_eq (cache : PriceCache) : cache.shutDown = cache.cancel.clear := by
  have hCancelled : { cache with cancelled := true }.cancelled = true := rfl
  rw [clear, cancel, entries_release]
  exact release_forget hCancelled _

/-! ## What happens next -/

/-- What happens next to a price cache. -/
inductive Event
  | move (move : Move)
  /-- A call that has found the cache alive tracks its symbol. -/
  | enter (symbol : String)
  /-- The cache is cancelled, as a shutdown does first. -/
  | cancel
  /-- A shutdown that has cancelled the cache drops every symbol. -/
  | clear

def react (cache : PriceCache) : Event → PriceCache
  | .move move => cache.step move
  | .enter symbol => cache.enter symbol
  | .cancel => cache.cancel
  | .clear => if cache.cancelled then cache.clear else cache

/-- A new cache after some events. -/
def outcome (config : PriceCacheConfig) (events : List Event) : PriceCache :=
  events.foldl react { config := config }

theorem outcome_snoc (config : PriceCacheConfig) (events : List Event) (event : Event) :
    outcome config (events ++ [event]) = (outcome config events).react event := by
  simp [outcome]

/-- Runs in which nobody cancels the cache are among these. -/
theorem outcome_moves (config : PriceCacheConfig) (moves : List Move) :
    outcome config (moves.map .move) = run config moves := by
  rw [outcome, run, List.foldl_map]
  rfl

/-! ## What an event can do -/

/-- The entries stay, and supervisors take steps. -/
structure Keeps (cache next : PriceCache) : Prop where
  entries : next.entries = cache.entries
  turns : Relation.ReflTransGen Steers cache next

theorem Keeps.refl (cache : PriceCache) : cache.Keeps cache := ⟨rfl, .refl⟩

theorem Steers.keeps (hSteers : cache.Steers next) (hEntries : next.entries = cache.entries) :
    cache.Keeps next := ⟨hEntries, .single hSteers⟩

theorem keeps_of_kept (hConfig : next.config = cache.config)
    (hCancelled : next.cancelled = cache.cancelled) (hEntries : next.entries = cache.entries)
    (hKept : next.subscriptions = cache.subscriptions) : cache.Keeps next :=
  (steers_of_kept hConfig hCancelled (by rw [owners, owners, hEntries]) hKept).keeps hEntries

theorem Keeps.cancelled (hKeeps : cache.Keeps next) : next.cancelled = cache.cancelled := by
  obtain ⟨-, hTurns⟩ := hKeeps
  induction hTurns with
  | refl => rfl
  | tail _ hSteers ih => exact hSteers.cancelled.trans ih

theorem Owns.keeps (hOwns : cache.Owns) (hKeeps : cache.Keeps next) : next.Owns := by
  obtain ⟨-, hTurns⟩ := hKeeps
  induction hTurns with
  | refl => exact hOwns
  | tail _ hSteers ih => exact ih.steers hSteers

theorem keeps_release (cache : PriceCache) : cache.Keeps cache.release := by
  refine ⟨entries_release cache, ?_⟩
  unfold release
  generalize List.range cache.subscriptions.length = ids
  induction ids generalizing cache with
  | nil => exact .refl
  | cons id rest ih =>
    rw [List.foldl_cons]
    refine .trans ?_ (ih _)
    split
    · split
      · exact .single (steers_wake cache id)
      · exact .refl
    · exact .refl

/-- The two steps of a shutdown that nothing comes between. -/
theorem outcome_shutDown (config : PriceCacheConfig) (events : List Event) :
    outcome config (events ++ [.cancel, .clear]) = (outcome config events).shutDown := by
  have hCancelled : (outcome config events).cancel.cancelled = true := (keeps_release _).cancelled
  rw [shutDown_eq, outcome, List.foldl_append]
  exact if_pos hCancelled

/-- What anything but a publication can do to a cache. -/
inductive Reacted (cache : PriceCache) : PriceCache → Prop
  | keeps {next : PriceCache} (hKeeps : cache.Keeps next) : Reacted cache next
  | cancels {next : PriceCache} (hKeeps : Keeps { cache with cancelled := true } next) :
      Reacted cache next
  | starts {symbol : String} (hAbsent : cache.entries.lookup symbol = none)
      (supervisor : Supervisor) (state : FeedState) :
      Reacted cache { cache with
        entries := cache.entries ++ [(symbol, { subscription := cache.subscriptions.length })]
        subscriptions := cache.subscriptions ++ [{ symbol, supervisor }]
        state := state }
  | drops {symbol : String} {entry : TrackedPrice} {next : PriceCache}
      (hEntry : cache.entries.lookup symbol = some entry)
      (hKeeps : Keeps { cache with
        entries := cache.entries.filter (·.1 != symbol)
        subscriptions := drop cache.subscriptions entry.subscription } next) : Reacted cache next
  | clears : Reacted cache cache.clear

theorem reacted_enter (cache : PriceCache) (symbol : String) :
    Reacted cache (cache.enter symbol) := by
  unfold enter
  split
  · exact .keeps (.refl cache)
  · next hAbsent => exact .starts (Option.not_isSome_iff_eq_none.mp hAbsent) _ _

theorem reacted_track (cache : PriceCache) (symbol : String) :
    Reacted cache (cache.track symbol).2 := by
  cases hCancelled : cache.cancelled with
  | true =>
    rw [track_of_cancelled hCancelled]
    exact .keeps (.refl cache)
  | false =>
    rw [track_of_live hCancelled]
    exact reacted_enter cache symbol

theorem reacted_step {move : Move} (hOther : ∀ id price, move ≠ .publish id price) :
    Reacted cache (cache.step move) := by
  have hNothing : Reacted cache cache := .keeps (.refl cache)
  have hRecord (metrics : List Metric) : Reacted cache (cache.record metrics) :=
    .keeps (keeps_of_kept rfl rfl rfl rfl)
  cases move with
  | subscribe name =>
    simp only [step, subscribe]
    split
    · exact hNothing
    · exact reacted_track cache _
  | unsubscribe name =>
    simp only [step, unsubscribe]
    split
    · exact hNothing
    · split
      · exact hNothing
      · next hEntry => exact .drops hEntry (keeps_release _)
  | get name =>
    simp only [step, get]
    split
    · exact hNothing
    · next symbol _ =>
      split
      · exact hRecord _
      · have hTrack := reacted_track cache symbol
        generalize cache.track symbol = result at hTrack
        obtain ⟨_ | _, next⟩ := result <;> exact hTrack
  | poll lookup =>
    simp only [step, Lookup.poll]
    split
    · exact hNothing
    · split
      · exact hRecord _
      · split
        · exact hRecord _
        · exact hNothing
  | connected id => exact .keeps ((steers_connected cache id).keeps (entries_connected cache id))
  | ended id error offset =>
    exact .keeps ((steers_ended cache id error offset).keeps (entries_ended cache id error offset))
  | wake id => exact .keeps ((steers_wake cache id).keeps (entries_wake cache id))
  | publish id price => exact absurd rfl (hOther id price)
  | fire limit =>
    simp only [step, next?]
    cases cache.timers.popDue limit with
    | none => exact hNothing
    | some due =>
      let started : PriceCache := { cache with timers := due.2, now := max cache.now due.1.due }
      have hStart : cache.Steers started := steers_of_kept rfl rfl rfl rfl
      exact .keeps ⟨entries_wake started _, .tail (.single hStart) (steers_wake started _)⟩
  | wait time => exact .keeps (keeps_of_kept rfl rfl rfl rfl)

theorem reacted_react {event : Event} (hOther : ∀ id price, event ≠ .move (.publish id price)) :
    Reacted cache (cache.react event) := by
  cases event with
  | move move => exact reacted_step fun id price hEq => hOther id price (congrArg Event.move hEq)
  | enter symbol => exact reacted_enter cache symbol
  | cancel => exact .cancels (keeps_release _)
  | clear =>
    rw [react]
    split
    · exact .clears
    · exact .keeps (.refl cache)

/-! ## Entries and subscriptions -/

theorem Owns.cleared (hOwns : cache.Owns) : cache.clear.Owns where
  keys := List.nodup_nil
  owned hOwner := absurd hOwner List.not_mem_nil
  owner {id after} hAfter hWanted := by
    have hForgotten := getElem?_foldl_drop
      (cache.entries.map fun (_, entry) => entry.subscription) cache.subscriptions id
    obtain ⟨before, hBefore, rfl⟩ := Option.map_eq_some_iff.mp (hForgotten.symm.trans hAfter)
    obtain ⟨hBoth, hNot⟩ := Bool.or_eq_false_iff.mp hWanted
    refine absurd ?_ (of_decide_eq_false hNot)
    obtain ⟨pair, hPair, hEq⟩ := List.mem_map.mp (hOwns.owner hBefore hBoth)
    exact List.mem_map.mpr ⟨pair, hPair, congrArg Prod.snd hEq⟩

theorem Owns.reacted (hOwns : cache.Owns) (hReacted : Reacted cache next) : next.Owns := by
  cases hReacted with
  | keeps hKeeps => exact hOwns.keeps hKeeps
  | cancels hKeeps =>
    have hCancelled : Owns { cache with cancelled := true } :=
      ⟨hOwns.keys, hOwns.owned, hOwns.owner⟩
    exact hCancelled.keeps hKeeps
  | starts hAbsent supervisor state => exact hOwns.started hAbsent supervisor state
  | drops hEntry hKeeps => exact (hOwns.dropped hEntry).keeps hKeeps
  | clears => exact hOwns.cleared

theorem steers_publish (cache : PriceCache) (id : SubscriptionId) (price : MarkPrice) :
    cache.Steers (cache.publish id price) := by
  refine steers_of_kept ?_ ?_ (owners_publish cache id price) ?_
  all_goals
    unfold publish
    split
    · rfl
    · dsimp only
      split <;> rfl

theorem Owns.react (hOwns : cache.Owns) (event : Event) : (cache.react event).Owns := by
  by_cases hPublish : ∃ id price, event = .move (.publish id price)
  · obtain ⟨id, price, rfl⟩ := hPublish
    exact hOwns.steers (steers_publish cache id price)
  · exact hOwns.reacted (reacted_react fun id price hEq => hPublish ⟨id, price, hEq⟩)

theorem owns_outcome (config : PriceCacheConfig) (events : List Event) :
    (outcome config events).Owns := by
  induction events using List.reverseRecOn with
  | nil =>
    refine ⟨List.nodup_nil, fun hOwner => absurd hOwner List.not_mem_nil, ?_⟩
    intro id subscription hAt
    simp [outcome] at hAt
  | append_singleton events event ih => exact outcome_snoc config events event ▸ ih.react event

end PriceCache

end MarketGateway
