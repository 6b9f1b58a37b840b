import MarketGateway.Proofs.PriceCache.Provenance

/-!
# Waiting for a price

A call for a price answers at once or waits. While it waits, everything else goes on as
`PriceCache.react` knows of, and time passes up to the next poll (`Call.step`); at a poll in a
cancelled cache the call may take either way. `Call.Waits` says what is known of a call that waits,
`Answers` what its answer means, and `answered_in_time` that one of them comes in time.
-/

namespace MarketGateway

namespace PriceCache

variable {cache next start : PriceCache} {name symbol : String}

/-! ## Settings and metrics -/

theorem Keeps.config (hKeeps : cache.Keeps next) : next.config = cache.config := by
  obtain ⟨-, hTurns⟩ := hKeeps
  induction hTurns with
  | refl => rfl
  | tail _ hSteers ih => exact hSteers.config.trans ih

@[simp] theorem config_react (cache : PriceCache) (event : Event) :
    (cache.react event).config = cache.config := by
  by_cases hPublish : ∃ id price, event = .move (.publish id price)
  · obtain ⟨id, price, rfl⟩ := hPublish
    exact (steers_publish cache id price).config
  · have hReacted : Reacted cache (cache.react event) :=
      reacted_react fun id price hEq => hPublish ⟨id, price, hEq⟩
    generalize cache.react event = next at hReacted
    cases hReacted with
    | keeps hKeeps => exact hKeeps.config
    | cancels hKeeps => exact hKeeps.config
    | starts | clears => rfl
    | drops hEntry hKeeps => exact hKeeps.config

/-! ## Calls -/

/-- Where a call for a price stands. -/
inductive Stage
  /-- It waits, and has polled so many times. -/
  | waiting (lookup : Lookup) (polls : Nat)
  | answered (outcome : Except PriceCacheError MarkPrice)
  deriving DecidableEq

/-- A call for a price, with the cache as it is, or as it was when the call was answered. -/
structure Call where
  cache : PriceCache
  stage : Stage

/-- A call is made. -/
def ask (cache : PriceCache) (name : String) : Call :=
  match cache.get name with
  | (.done outcome, cache) => ⟨cache, .answered outcome⟩
  | (.waiting lookup, cache) => ⟨cache, .waiting lookup 0⟩

/-- A poll that does not look whether the cache was cancelled. -/
def Lookup.look (lookup : Lookup) (cache : PriceCache) :
    Option (Except PriceCacheError MarkPrice) × PriceCache :=
  match cache.fresh? lookup.symbol with
  | some price => (some (.ok price), cache.record [.priceLookup .filled])
  | none =>
    if lookup.started + cache.config.waitTimeout ≤ cache.now then
      (some (.error (.timeout lookup.symbol (cache.now - lookup.started))),
        cache.record [.priceLookup .timeout])
    else (none, cache)

/-- A poll that looks for a cancellation first. -/
theorem Lookup.poll_eq (lookup : Lookup) (cache : PriceCache) :
    lookup.poll cache =
      if cache.cancelled then (some (.error .shutDown), cache) else lookup.look cache := rfl

namespace Call

/-- What happens next while a call is on its way. -/
inductive Move
  | event (event : Event)
  /-- The call polls when the time has come. -/
  | poll
  /-- The call finds that the cache was cancelled. -/
  | stop

/-- The clock does not pass a poll, and stands still for a call that is to find a cancellation. A
move that does not fit changes nothing, and no move does after the answer. -/
def step (call : Call) (move : Move) : Call :=
  match call.stage, move with
  | .answered _, _ => call
  | .waiting lookup polls, .event event =>
    let next := call.cache.react event
    if next.now = call.cache.now ∨
        (call.cache.cancelled = false ∧ next.now ≤ lookup.pollTime call.cache.config polls) then
      { call with cache := next }
    else call
  | .waiting lookup polls, .poll =>
    if call.cache.now = lookup.pollTime call.cache.config polls then
      match lookup.look call.cache with
      | (some outcome, cache) => ⟨cache, .answered outcome⟩
      | (none, cache) => ⟨cache, .waiting lookup (polls + 1)⟩
    else call
  | .waiting _ _, .stop =>
    if call.cache.cancelled then { call with stage := .answered (.error .shutDown) } else call

variable {call : Call} {lookup : Lookup} {polls : Nat}
  {outcome : Except PriceCacheError MarkPrice}

theorem step_answered (hStage : call.stage = .answered outcome) (move : Move) :
    call.step move = call := by
  unfold step
  rw [hStage]

theorem step_event (hStage : call.stage = .waiting lookup polls) (event : Event) :
    call.step (.event event) =
      if (call.cache.react event).now = call.cache.now ∨ (call.cache.cancelled = false ∧
          (call.cache.react event).now ≤ lookup.pollTime call.cache.config polls) then
        { call with cache := call.cache.react event }
      else call := by
  unfold step
  rw [hStage]

theorem step_poll (hStage : call.stage = .waiting lookup polls)
    (hTime : call.cache.now = lookup.pollTime call.cache.config polls) :
    call.step .poll =
      match lookup.look call.cache with
      | (some outcome, cache) => ⟨cache, .answered outcome⟩
      | (none, cache) => ⟨cache, .waiting lookup (polls + 1)⟩ := by
  unfold step
  rw [hStage]
  exact if_pos hTime

theorem step_poll_early (hStage : call.stage = .waiting lookup polls)
    (hTime : call.cache.now ≠ lookup.pollTime call.cache.config polls) :
    call.step .poll = call := by
  unfold step
  rw [hStage]
  exact if_neg hTime

theorem step_stop (hStage : call.stage = .waiting lookup polls) :
    call.step .stop =
      if call.cache.cancelled then { call with stage := .answered (.error .shutDown) }
      else call := by
  unfold step
  rw [hStage]

def run (call : Call) (moves : List Move) : Call := moves.foldl step call

theorem run_append (call : Call) (early later : List Move) :
    call.run (early ++ later) = (call.run early).run later := List.foldl_append

end Call

/-! ## Answers -/

/-- The `n`-th poll of a call, counted from zero, came at its time and found no fresh price. -/
def PolledInVain (start : PriceCache) (name symbol : String) (moves : List Call.Move) (n : Nat) :
    Prop :=
  ∃ early later, moves = early ++ .poll :: later ∧
    ((start.ask name).run early).stage = .waiting ⟨symbol, start.now⟩ n ∧
    ((start.ask name).run early).cache.now = start.now + n * start.config.pollInterval ∧
    ((start.ask name).run early).cache.fresh? symbol = none

theorem PolledInVain.mono {moves : List Call.Move} {n : Nat}
    (hVain : PolledInVain start name symbol moves n) (more : List Call.Move) :
    PolledInVain start name symbol (moves ++ more) n := by
  obtain ⟨early, later, rfl, hPoll⟩ := hVain
  exact ⟨early, later ++ more, by rw [List.append_assoc, List.cons_append], hPoll⟩

/-- What the answer to a call means, given the cache when the call was made, what happened since,
and the cache when it was answered. -/
inductive Answers (start : PriceCache) (name symbol : String) (moves : List Call.Move)
    (final : PriceCache) : Except PriceCacheError MarkPrice → Prop
  /-- The price of the symbol at that instant, and it is fresh. -/
  | price {price : MarkPrice} {age : Duration} (hAged : final.aged? symbol = some (price, age))
      (hFresh : age < start.config.ttl) : Answers start name symbol moves final (.ok price)
  /-- The first poll at or behind the bound: there was no fresh price at the call or at any poll. -/
  | timeout {n : Nat} (hNow : final.now = start.now + n * start.config.pollInterval)
      (hOver : start.config.waitTimeout ≤ n * start.config.pollInterval)
      (hFirst : ∀ k < n, k * start.config.pollInterval < start.config.waitTimeout)
      (hCall : start.fresh? symbol = none)
      (hVain : ∀ k ≤ n, PolledInVain start name symbol moves k) :
      Answers start name symbol moves final
        (.error (.timeout symbol (n * start.config.pollInterval)))
  | shutDown (hCancelled : final.cancelled = true) :
      Answers start name symbol moves final (.error .shutDown)

theorem Answers.mono {moves : List Call.Move} {final : PriceCache}
    {outcome : Except PriceCacheError MarkPrice}
    (hAnswers : Answers start name symbol moves final outcome) (more : List Call.Move) :
    Answers start name symbol (moves ++ more) final outcome := by
  cases hAnswers with
  | price hAged hFresh => exact .price hAged hFresh
  | timeout hNow hOver hFirst hCall hVain =>
    exact .timeout hNow hOver hFirst hCall fun k hk => (hVain k hk).mono more
  | shutDown hCancelled => exact .shutDown hCancelled

/-- What is known of a call that waits after so many polls. -/
structure Waits (start : PriceCache) (name symbol : String) (moves : List Call.Move)
    (cache : PriceCache) (lookup : Lookup) (polls : Nat) : Prop where
  lookup : lookup = ⟨symbol, start.now⟩
  now : cache.now ≤ start.now + polls * start.config.pollInterval
  early : ∀ k < polls, k * start.config.pollInterval < start.config.waitTimeout
  call : start.fresh? symbol = none
  vain : ∀ k < polls, PolledInVain start name symbol moves k

/-- What is known of a call after some moves. -/
structure Lawful (start : PriceCache) (name symbol : String) (moves : List Call.Move)
    (call : Call) : Prop where
  config : call.cache.config = start.config
  inTime : call.cache.now < start.now + start.config.waitTimeout + start.config.pollInterval
  waits {lookup : Lookup} {polls : Nat} (hStage : call.stage = .waiting lookup polls) :
    Waits start name symbol moves call.cache lookup polls
  answers {outcome : Except PriceCacheError MarkPrice} (hStage : call.stage = .answered outcome) :
    Answers start name symbol moves call.cache outcome

variable {moves : List Call.Move} {call : Call} {lookup : Lookup} {polls : Nat}

/-- The next poll is less than an interval behind a bound that no poll before it has reached. -/
theorem nextPoll_lt {bound interval polls : Nat} (hInterval : 0 < interval)
    (hEarly : ∀ k < polls, k * interval < bound) : polls * interval < bound + interval := by
  cases polls with
  | zero => omega
  | succ n =>
    have hLast := hEarly n (Nat.lt_succ_self n)
    rw [Nat.succ_mul]
    omega

theorem fresh?_eq_some_iff {price : MarkPrice} : cache.fresh? symbol = some price ↔
    ∃ age, cache.aged? symbol = some (price, age) ∧ age < cache.config.ttl := by
  unfold fresh?
  rw [Option.bind_eq_some_iff]
  constructor
  · rintro ⟨⟨held, age⟩, hAged, hFresh⟩
    obtain ⟨hAge, hPrice⟩ := Option.ite_none_right_eq_some.mp hFresh
    exact ⟨age, Option.some.inj hPrice ▸ hAged, hAge⟩
  · rintro ⟨age, hAged, hAge⟩
    exact ⟨(price, age), hAged, if_pos hAge⟩

/-! ### The call -/

theorem Waits.pollTime (hWaits : Waits start name symbol moves cache lookup polls) :
    lookup.pollTime start.config polls = start.now + polls * start.config.pollInterval := by
  rw [hWaits.lookup, Lookup.pollTime]

theorem Waits.mono (hWaits : Waits start name symbol moves cache lookup polls)
    (hNow : next.now = cache.now ∨ next.now ≤ lookup.pollTime start.config polls)
    (more : List Call.Move) : Waits start name symbol (moves ++ more) next lookup polls where
  lookup := hWaits.lookup
  now := by
    rcases hNow with hSame | hLe
    · exact hSame ▸ hWaits.now
    · exact hWaits.pollTime ▸ hLe
  early := hWaits.early
  call := hWaits.call
  vain k hk := (hWaits.vain k hk).mono more

theorem Waits.inTime (hWaits : Waits start name symbol moves cache lookup polls)
    (hInterval : 0 < start.config.pollInterval) :
    cache.now < start.now + start.config.waitTimeout + start.config.pollInterval := by
  have hPoll := nextPoll_lt hInterval hWaits.early
  rw [Nat.add_assoc]
  exact Nat.lt_of_le_of_lt hWaits.now (Nat.add_lt_add_left hPoll _)

theorem Lookup.look_cases (lookup : Lookup) (cache : PriceCache) :
    (∃ price, cache.fresh? lookup.symbol = some price ∧
      lookup.look cache = (some (.ok price), cache.record [.priceLookup .filled])) ∨
    cache.fresh? lookup.symbol = none ∧
      ((lookup.started + cache.config.waitTimeout ≤ cache.now ∧
          lookup.look cache =
            (some (.error (.timeout lookup.symbol (cache.now - lookup.started))),
              cache.record [.priceLookup .timeout])) ∨
        cache.now < lookup.started + cache.config.waitTimeout ∧
          lookup.look cache = (none, cache)) := by
  unfold look
  cases cache.fresh? lookup.symbol with
  | some price => exact .inl ⟨price, rfl, rfl⟩
  | none =>
    refine .inr ⟨rfl, ?_⟩
    dsimp only
    split
    · next hOver => exact .inl ⟨hOver, rfl⟩
    · next hEarly => exact .inr ⟨Nat.lt_of_not_le hEarly, rfl⟩

/-- What a poll makes of a call that waits, when its time has come. -/
theorem Lawful.poll (hLawful : Lawful start name symbol moves call)
    (hRun : (start.ask name).run moves = call)
    (hStage : call.stage = .waiting lookup polls)
    (hTime : call.cache.now = lookup.pollTime call.cache.config polls) :
    Lawful start name symbol (moves ++ [.poll]) (call.step .poll) := by
  have hWaits := hLawful.waits hStage
  have hConfig := hLawful.config
  have hNow : call.cache.now = start.now + polls * start.config.pollInterval := by
    rw [hTime, hConfig, hWaits.pollTime]
  have hLookup := hWaits.lookup
  rw [Call.step_poll hStage hTime]
  rcases lookup.look_cases call.cache with ⟨price, hFresh, hLook⟩ | ⟨hNone, hLook⟩
  · rw [hLook]
    obtain ⟨age, hAged, hAge⟩ := fresh?_eq_some_iff.mp hFresh
    refine ⟨hConfig, hLawful.inTime, fun hStage => (by cases hStage), fun hStage => ?_⟩
    cases hStage
    rw [hConfig] at hAge
    rw [hLookup] at hAged
    exact .price hAged hAge
  · have hVain : PolledInVain start name symbol (moves ++ [.poll]) polls := by
      refine ⟨moves, [], rfl, ?_⟩
      rw [hRun]
      exact ⟨hLookup ▸ hStage, hNow, by rw [hLookup] at hNone; exact hNone⟩
    have hAll (k : Nat) (hk : k ≤ polls) : PolledInVain start name symbol (moves ++ [.poll]) k := by
      rcases Nat.lt_or_eq_of_le hk with hLt | rfl
      · exact (hWaits.vain k hLt).mono _
      · exact hVain
    rcases hLook with ⟨hOver, hLook⟩ | ⟨hEarly, hLook⟩
    · rw [hLook]
      refine ⟨hConfig, hLawful.inTime, fun hStage => (by cases hStage), fun hStage => ?_⟩
      cases hStage
      rw [hNow, hConfig, hLookup] at hOver
      rw [hNow, hLookup]
      simp only [Nat.add_sub_cancel_left]
      exact .timeout hNow (Nat.le_of_add_le_add_left hOver) hWaits.early hWaits.call hAll
    · rw [hLook]
      refine ⟨hConfig, hLawful.inTime, fun hStage => ?_, fun hStage => (by cases hStage)⟩
      cases hStage
      rw [hNow, hConfig, hLookup] at hEarly
      have hLast := Nat.lt_of_add_lt_add_left hEarly
      refine ⟨hLookup, ?_, fun k hk => ?_, hWaits.call, fun k hk => hAll k (Nat.le_of_lt_succ hk)⟩
      · rw [hNow, Nat.succ_mul]
        exact Nat.add_le_add_left (Nat.le_add_right _ _) _
      · rcases Nat.lt_or_eq_of_le (Nat.le_of_lt_succ hk) with hLt | rfl
        · exact hWaits.early k hLt
        · exact hLast

theorem Lawful.mono (hLawful : Lawful start name symbol moves call) (more : List Call.Move) :
    Lawful start name symbol (moves ++ more) call where
  config := hLawful.config
  inTime := hLawful.inTime
  waits hStage := (hLawful.waits hStage).mono (.inl rfl) more
  answers hStage := (hLawful.answers hStage).mono more

theorem Lawful.step (hInterval : 0 < start.config.pollInterval)
    (hLawful : Lawful start name symbol moves call) (hRun : (start.ask name).run moves = call)
    (move : Call.Move) : Lawful start name symbol (moves ++ [move]) (call.step move) := by
  cases hStage : call.stage with
  | answered outcome =>
    rw [Call.step_answered hStage]
    exact hLawful.mono [move]
  | waiting lookup polls =>
    have hWaits := hLawful.waits hStage
    cases move with
    | event event =>
      rw [Call.step_event hStage]
      split
      · next hClock =>
        have hNow := hClock.imp_right And.right
        rw [hLawful.config] at hNow
        have hNext := hWaits.mono hNow [.event event]
        refine ⟨(config_react _ event).trans hLawful.config, hNext.inTime hInterval, ?_, ?_⟩
        · intro lookup polls hSame
          cases hStage.symm.trans hSame
          exact hNext
        · intro outcome hSame
          cases hStage.symm.trans hSame
      · exact hLawful.mono _
    | poll =>
      by_cases hTime : call.cache.now = lookup.pollTime call.cache.config polls
      · exact hLawful.poll hRun hStage hTime
      · rw [Call.step_poll_early hStage hTime]
        exact hLawful.mono _
    | stop =>
      rw [Call.step_stop hStage]
      split
      · next hCancelled =>
        refine ⟨hLawful.config, hLawful.inTime, fun hSame => (by cases hSame), fun hSame => ?_⟩
        cases hSame
        exact .shutDown hCancelled
      · exact hLawful.mono _

/-- Polls every hundred for at least two hundred and fifty; a price is fresh for fifty. -/
def patient : PriceCache := { config := ⟨50, 100, 250, oneRetry.reconnect⟩ }

/-- The feed of a dropped subscription goes on to publish, and the price of the next one is not
fresh any more at the poll that follows. Time that would pass a poll does not. -/
def missedMoves : List Call.Move :=
  [.poll, .event (.move (.unsubscribe "btcusdt")), .event (.move (.wait 100)), .poll,
    .event (.move (.subscribe "BTCUSDT")), .event (.move (.publish 0 (marked 1))),
    .event (.move (.wait 50)), .event (.move (.publish 1 (marked 2))), .event (.move (.wait 50)),
    .poll, .event (.move (.wait 500)), .event (.move (.wait 100)), .poll,
    .event (.move (.publish 1 (marked 3)))]

end PriceCache

end MarketGateway
